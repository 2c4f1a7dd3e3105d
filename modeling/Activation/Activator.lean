import Activation.OverloadSet
import Activation.Text.Blank

/-!
# Activators

An activator creates objects of registered types by type or by name.  It remembers the overload
sets it has put together: each is built and published when its type is first asked for, and is
never replaced or dropped.

Every entry point gives no instance when no overload accepts the arguments or the type has none.
An error is either the caller's (no type named, no argument list) or the failure that the selected
constructor reported.
-/

namespace Activation

/-! ## Published overload sets -/

/-- The overload sets that were published, by type. -/
structure Memo where
  sets : TypeMap OverloadSet

namespace Memo

/-- The memo in which nothing is published. -/
def empty : Memo := ⟨.empty⟩

/-- The published set of a type. -/
def get? (m : Memo) (t : TypeTag) : Option OverloadSet := m.sets.get? t

/-- Whether the set of the type is published. -/
def contains (m : Memo) (t : TypeTag) : Bool := m.sets.contains t

/-- How many sets were published before that of the type: which published set it is. -/
def position? (m : Memo) (t : TypeTag) : Option Nat := m.sets.position? t

def size (m : Memo) : Nat := m.sets.size

def isEmpty (m : Memo) : Bool := m.sets.isEmpty

/-- Publishes a set as the one of the type. -/
def publish (m : Memo) (t : TypeTag) (s : OverloadSet) : Memo := ⟨m.sets.insert t s⟩

end Memo

/-- Creates objects of the types of a registry. -/
structure Activator where
  registry : Registry
  options : Options
  memo : Memo

namespace Activator

/-- An activator that has not been used. -/
def ofRegistry (registry : Registry) (options : Options) : Activator :=
  ⟨registry, options, .empty⟩

/-- The overload set of a type, built and published if it is asked for the first time. -/
def getOrBuild (a : Activator) (t : TypeTag) : Logged (OverloadSet × Activator) :=
  match a.memo.get? t with
  | some s => pure (s, a)
  | none => do
    let s ← OverloadSet.build a.registry a.options t
    Logged.report (.publishedSet t (a.memo.size + 1))
    pure (s, { a with memo := a.memo.publish t s })

/-- Asks for the overload sets of several types in turn.  The answer to each is which published
set it got. -/
def getEach (a : Activator) : List TypeTag → Logged (List (Option Nat) × Activator)
  | [] => pure ([], a)
  | t :: rest => do
    let (_, a) ← a.getOrBuild t
    let (positions, a') ← a.getEach rest
    pure (a.memo.position? t :: positions, a')

/-! ## Activation by type -/

/-- Creates an object without arguments. -/
def createInstance (a : Activator) (t : Option TypeTag) : Logged (Reply × Activator) :=
  match t with
  | none => pure (Reply.error .missingType, a)
  | some t => do
    let (s, a) ← a.getOrBuild t
    pure (← s.createDefault, a)

/-- Creates an object from arguments. -/
def createInstanceWith (a : Activator) (t : Option TypeTag) (args : Option (List Argument)) :
    Logged (Reply × Activator) :=
  match t with
  | none => pure (Reply.error .missingType, a)
  | some t => do
    let (s, a) ← a.getOrBuild t
    pure (← s.create args, a)

/-- Creates an object of a known type without arguments. -/
def create (a : Activator) (t : TypeTag) :
    Logged (Outcome (Except ActivationError (Option Datum)) × Activator) := do
  let (reply, a) ← a.createInstance (some t)
  pure (reply.narrow t, a)

/-- Creates an object of a known type from arguments. -/
def createWith (a : Activator) (t : TypeTag) (args : List Argument) :
    Logged (Outcome (Except ActivationError (Option Datum)) × Activator) := do
  let (reply, a) ← a.createInstanceWith (some t) (some args)
  pure (reply.narrow t, a)

/-! ## Activation by name -/

/-- The type that a name given by a caller means.  Blanks around the name do not count; a blank
name is no name at all, and a name that nobody claimed is reported. -/
def resolveName (a : Activator) (name : String) :
    Logged (Except ActivationError (Option TypeTag)) :=
  let name := Text.trim name
  if name.isEmpty then pure (.error .missingType)
  else
    match a.registry.resolve name with
    | some t => pure (.ok (some t))
    | none => do
      Logged.report (.unknownName name)
      pure (.ok none)

/-- Creates an object of the named type without arguments. -/
def createNamed (a : Activator) (name : String) : Logged (Reply × Activator) := do
  match ← a.resolveName name with
  | .ok (some t) => a.createInstance (some t)
  | .ok none => pure (.nothing, a)
  | .error e => pure (Reply.error e, a)

/-- Creates an object of the named type from arguments. -/
def createNamedWith (a : Activator) (name : String) (args : Option (List Argument)) :
    Logged (Reply × Activator) := do
  match ← a.resolveName name with
  | .ok (some t) => a.createInstanceWith (some t) args
  | .ok none => pure (.nothing, a)
  | .error e => pure (Reply.error e, a)

end Activator

/-- Makes the default value of a type, past all constructors; a panic on the way is reported and
gives no value. -/
def allocate (t : TypeTag) (default : Outcome Datum) : Logged (Option Datum) :=
  match default with
  | .finished d => pure (some d)
  | .panicked _ => do
    Logged.report (.allocationPanicked t)
    pure none

end Activation
