import Activation.Registration

/-!
# Reading plans

How a constructor body takes its arguments: a list of reads, done in order, the first failure of
which ends the body.  What a plan reads is one argument per read: null where a nullable read found
nothing.

`readingOf` is the plan that suits a list of parameters: one read per parameter, by its shape.

A *recipe* is a body written as data: it reads by a plan, and then fails, panics or makes an
object, possibly depending on what it read.
-/

namespace Activation

/-- One read of an argument. -/
inductive Reading
  /-- A value of the type. -/
  | value (type : TypeTag) (index : Nat)
  /-- Null or a value of the type. -/
  | nullable (type : TypeTag) (index : Nat)
  /-- The argument as it is. -/
  | dynamic (index : Nat)
deriving DecidableEq, Repr

/-- Takes one argument. -/
def Reading.run (reading : Reading) (args : ArgumentList) :
    Except InvokeError Argument × ArgumentList :=
  match reading with
  | .value t index =>
    let (d, rest) := args.takeValue t index
    (d.map fun d => .value ⟨t, d⟩, rest)
  | .nullable t index =>
    let (d, rest) := args.takeNullable t index
    (d.map fun
      | some d => .value ⟨t, d⟩
      | none => .null, rest)
  | .dynamic index => args.takeArgument index

/-- Takes arguments in order; the first failure ends it. -/
def readAll : List Reading → ArgumentList → Except InvokeError (List Argument) × ArgumentList
  | [], args => (.ok [], args)
  | reading :: plan, args =>
    match reading.run args with
    | (.ok a, args) =>
      let (rest, args) := readAll plan args
      (rest.map (a :: ·), args)
    | (.error e, args) => (.error e, args)

/-- The read that suits a parameter at a position, if it can be given an argument. -/
def Parameter.reading? (p : Parameter) (index : Nat) : Option Reading :=
  match p.shape with
  | .value => some (.value p.type index)
  | .nullable => some (.nullable p.type index)
  | .dynamic => some (.dynamic index)
  | .pointer => none

/-- The reads that suit parameters from a position on. -/
def readingFrom (index : Nat) : List Parameter → List Reading
  | [] => []
  | p :: rest => (p.reading? index).toList ++ readingFrom (index + 1) rest

/-- The plan that suits a list of parameters. -/
def readingOf (parameters : List Parameter) : List Reading := readingFrom 0 parameters

/-- The body that reads by a plan and goes on with what was read. -/
def Body.reading {α : Type} (plan : List Reading)
    (call : List Argument → Outcome (Except InvokeError α)) : Body α := fun args =>
  match readAll plan args with
  | (.ok read, rest) => (call read, rest)
  | (.error e, rest) => (.finished (.error e), rest)

/-! ## Recipes -/

/-- How a recipe ends before it makes an object. -/
inductive Ending
  | fails (source : String)
  | panics (message : String)
deriving DecidableEq, Repr

/-- A body written as data. -/
structure Recipe where
  plan : List Reading
  /-- The early end, if there is one. -/
  ending : Option Ending
  /-- What the recipe must have read at a position for the early end; without it the recipe always
  ends early. -/
  condition : Option (Nat × Option Argument)
  /-- The object it makes; without one, a record of the recipe's name and all that it read. -/
  result : Option Tagged

namespace Recipe

/-- The recipe that reads by a plan and makes a record. -/
def plain (plan : List Reading) : Recipe := ⟨plan, none, none, none⟩

/-- Whether what was read calls for the early end. -/
def endsEarly (r : Recipe) (read : List Argument) : Bool :=
  match r.condition with
  | none => true
  | some (index, wanted) => wanted.any fun wanted => read[index]?.any (· == wanted)

/-- The record of a constructor's name and the arguments it read. -/
def record (name : String) (read : List Argument) : Datum :=
  .record [("via", .text name), ("values", .list (read.map (·.toDatum)))]

/-- What the recipe comes to once it has read its arguments. -/
def conclude (r : Recipe) (owner : TypeTag) (name : String) (read : List Argument) :
    Outcome (Except InvokeError Tagged) :=
  match r.ending, r.endsEarly read with
  | some (.fails source), true => .finished (.error (.failed source))
  | some (.panics message), true => .panicked message
  | _, _ => .finished (.ok (r.result.getD ⟨owner, record name read⟩))

/-- The body of a constructor of the given owner and name. -/
def body (r : Recipe) (owner : TypeTag) (name : String) : Body Tagged :=
  Body.reading r.plan (r.conclude owner name)

end Recipe

end Activation
