import Activation.Event
import Activation.Failure

/-!
# Overloads

One constructor, made ready to be selected by the arguments of a call.  What its parameters accept
stands in three lists, one for the declared types and two for the marks that a parameter accepts
null and that it accepts values of every type; the three have one entry per parameter, which is part
of the overload.  An overload accepts an argument list of exactly its arity each argument of which
is admitted at its position (`Overload.accepts`, `Overload.admits`).

Running an overload that finds an argument unreadable after all is reported and gives no instance;
a failure that the constructor reports becomes an error; a panic passes through.
-/

namespace Activation

/-- A constructor that calls can select. -/
structure Overload where
  owner : TypeTag
  name : String
  /-- The declared types of the parameters. -/
  types : List TypeTag
  /-- For each parameter, whether it accepts null. -/
  nullability : List Bool
  /-- For each parameter, whether it accepts values of every type. -/
  dynamic : List Bool
  /-- The code to run; it may finish without an instance. -/
  run : Body (Option Instance)
  length_nullability : nullability.length = types.length := by simp
  length_dynamic : dynamic.length = types.length := by simp

namespace Overload

/-- The overload that a constructor's parameters and body make. -/
def ofConstructor (c : Constructor) : Overload where
  owner := c.owner
  name := c.name
  types := c.parameters.map (·.type)
  nullability := c.parameters.map (·.shape.isNullable)
  dynamic := c.parameters.map (·.shape == .dynamic)
  run := c.body.map some

/-- The overload of a declared constructor, unless some parameter cannot be given an argument. -/
def ofConstructor? (c : Constructor) : Option Overload :=
  if c.isUnsupported then none else some (ofConstructor c)

/-- An overload without parameters that answers from what is known about the type.  The answer is
not produced before the overload is run. -/
def synthetic (owner : TypeTag) (name : String) (produce : Unit → Outcome (Option Instance)) :
    Overload where
  owner := owner
  name := name
  types := []
  nullability := []
  dynamic := []
  run := fun args => ((produce ()).map .ok, args)

/-- The number of parameters. -/
def arity (o : Overload) : Nat := o.types.length

/-- Whether the argument can be passed at the position. -/
def admits (o : Overload) (i : Nat) (typed : i < o.types.length) (a : Argument) : Bool :=
  have marked : i < o.nullability.length := o.length_nullability ▸ typed
  have marked' : i < o.dynamic.length := o.length_dynamic ▸ typed
  match a.tag? with
  | none => o.nullability[i]
  | some actual => o.dynamic[i] || actual.is o.types[i]

/-- Whether the arguments can be passed to the overload. -/
def accepts (o : Overload) (args : List Argument) : Bool :=
  if same : args.length = o.arity then
    (List.finRange args.length).all fun i =>
      o.admits i (Nat.lt_of_lt_of_eq i.isLt same) (args.get i)
  else false

/-- What running the overload comes to for the caller. -/
def conclude (o : Overload) : Outcome (Except InvokeError (Option Instance)) → Logged Reply
  | .finished (.ok i) => pure (.finished (.ok i))
  | .finished (.error (.argument index expected)) => do
    Logged.report (.rejectedArgument o.owner o.name index expected)
    pure .nothing
  | .finished (.error (.failed source)) =>
    pure (Reply.error (.constructorFailed o.owner o.name source))
  | .panicked message => pure (.panicked message)

/-- Runs the overload on the arguments, if it accepts them. -/
def activate (o : Overload) (args : List Argument) : Logged Reply :=
  if o.accepts args then o.conclude (o.run ⟨args⟩).1 else pure .nothing

theorem accepts_iff {o : Overload} {args : List Argument} :
    o.accepts args = true ↔ args.length = o.arity ∧
      ∀ i (typed : i < o.types.length) (given : i < args.length),
        o.admits i typed args[i] = true := by
  unfold accepts
  split
  · rename_i same
    simp only [List.all_eq_true, List.mem_finRange, forall_const]
    exact ⟨fun each => ⟨same, fun i _ given => each ⟨i, given⟩⟩,
      fun ⟨_, each⟩ i => each i _ i.isLt⟩
  · rename_i other
    simp [other]

/-- An overload never accepts lists of another length than its arity. -/
theorem arity_of_accepts {o : Overload} {args : List Argument} (h : o.accepts args = true) :
    o.arity = args.length := by
  exact (accepts_iff.1 h).1.symm

end Overload

end Activation
