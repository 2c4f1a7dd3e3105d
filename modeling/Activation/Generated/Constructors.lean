import Activation.Source.Implementation

/-!
# Registrations generated from an implementation

`Implementation.generate` finds the functions of an implementation that construct its type, and
gives a registration for each.  A function constructs the type if it has no receiver, is neither
`async` nor `unsafe`, has no generic parameters, and returns the type or a `Result` of it.

The attribute `#[activator(skip)]` keeps a function from being registered.  Attributes of that name
are taken off all functions; one that is malformed stops the generation.
-/

namespace Activation.Generated

open Source

/-! ## Which functions construct the type -/

/-- How a constructor returns the new object. -/
inductive Returned
  | directly
  /-- As a result that may be a failure. -/
  | fallibly
deriving DecidableEq, Repr

/-- How a function returns an object of the implemented type, if it does. -/
def returned? (implemented : Tree) (f : FunctionItem) : Option Returned :=
  if f.receiver?.isSome ∨ f.qualifiers.contains (.word "async") ∨
      f.qualifiers.contains (.word "unsafe") ∨ f.genericParameters ≠ [] then none
  else
    match f.result? with
    | none => none
    | some result =>
      if Tree.isSelf implemented result then some .directly
      else
        match result.finalSegment? with
        | some ⟨"Result", .angles (first :: _)⟩ =>
          if first.isType && Tree.isSelf implemented first then some .fallibly else none
        | _ => none

/-- Whether an attribute is about registration. -/
def isActivator (a : Attribute) : Bool := a.isNamed "activator"

/-- Takes the element `skip`, the only one there is. -/
def takeSkip : ElementHandler Bool := fun _ path rest =>
  if path.name? = some "skip" then .ok (true, rest) else .error (.unknownElement "activator")

/-- Whether a function is to be skipped.  Of several malformed attributes the last is reported. -/
def isSkipped (f : FunctionItem) : Except AttributeError Bool :=
  let readings := (f.attributes.filter isActivator).map (·.readElements takeSkip false)
  let faults := readings.filterMap fun
    | .error e => some e
    | .ok _ => none
  match faults.getLast? with
  | some e => .error e
  | none => .ok (readings.any fun
    | .ok skip => skip
    | .error _ => false)

/-- The function without the attributes about registration. -/
def withoutActivators (f : FunctionItem) : FunctionItem :=
  { f with attributes := f.attributes.filter (!isActivator ·) }

/-! ## Registrations -/

/-- A parameter of a registered constructor. -/
structure GeneratedParameter where
  name : String
  type : Tree
  shape : Shape

/-- A registered constructor. -/
structure GeneratedConstructor where
  owner : Tree
  name : String
  /-- Its place among the registered constructors of the implementation. -/
  ordinal : Nat
  isPublic : Bool
  parameters : List GeneratedParameter
  returned : Returned

/-- How the code of a constructor takes one of its arguments. -/
inductive Binding
  /-- A value of the type. -/
  | value (type : Tree) (index : Nat)
  /-- Null or a value of the type. -/
  | nullable (type : Tree) (index : Nat)
  /-- The argument as it is. -/
  | dynamic (index : Nat)

/-- How a parameter at a position is taken. -/
def GeneratedParameter.binding (p : GeneratedParameter) (index : Nat) : Binding :=
  match p.shape with
  | .nullable => .nullable p.type index
  | .dynamic => .dynamic index
  | .value | .pointer => .value p.type index

namespace GeneratedConstructor

/-- Whether some parameter cannot be given an argument, so that there is no code. -/
def isUnsupported (c : GeneratedConstructor) : Bool := c.parameters.any (·.shape == .pointer)

/-- How the arguments are taken, in order. -/
def bindings (c : GeneratedConstructor) : List Binding :=
  c.parameters.mapIdx fun index p => p.binding index

end GeneratedConstructor

/-- The registered form of a parameter.  A parameter without a name of its own is called `_`. -/
def parameterOf (implemented : Tree) (p : InputParameter) : GeneratedParameter :=
  let (shape, type) := (Tree.replaceSelf implemented p.type).classify
  ⟨p.name?.getD "_", type, shape⟩

/-- The registration of a function. -/
def constructorOf (implemented : Tree) (ordinal : Nat) (f : FunctionItem) (returned : Returned) :
    GeneratedConstructor :=
  { owner := implemented
    name := f.name
    ordinal
    isPublic := f.visibility == .everywhere
    parameters := f.parameters.map (parameterOf implemented)
    returned }

/-- Why nothing is generated from an implementation. -/
inductive GenerationError
  /-- The attribute that asks for registrations was given arguments. -/
  | argumentsGiven
  /-- The implementation is one of a trait. -/
  | ofTrait
  | isGeneric
  | malformed (e : AttributeError)
deriving DecidableEq, Repr

/-- The text of an error. -/
def GenerationError.message : GenerationError → String
  | .argumentsGiven => "#[constructors] takes no arguments"
  | .ofTrait => "#[constructors] applies to inherent impl blocks only"
  | .isGeneric => "#[constructors] cannot register generic impl blocks"
  | .malformed e => e.message

/-- What is generated from an implementation. -/
structure Generation where
  /-- The implementation without the attributes about registration. -/
  implementation : Implementation
  constructors : List GeneratedConstructor

/-- What is generated from members, the first registration having the given place. -/
def generateFrom (implemented : Tree) (ordinal : Nat) :
    List Member → Except AttributeError (List Member × List GeneratedConstructor)
  | [] => .ok ([], [])
  | .other source :: rest => do
    let (members, constructors) ← generateFrom implemented ordinal rest
    .ok (.other source :: members, constructors)
  | .function f :: rest => do
    let skipped ← isSkipped f
    let made := if skipped then none else returned? implemented f
    match made with
    | none => do
      let (members, constructors) ← generateFrom implemented ordinal rest
      .ok (.function (withoutActivators f) :: members, constructors)
    | some returned => do
      let (members, constructors) ← generateFrom implemented (ordinal + 1) rest
      .ok (.function (withoutActivators f) :: members,
        constructorOf implemented ordinal f returned :: constructors)

/-- What is generated from an implementation.  `arguments` are those of the attribute that asks for
it. -/
def generate (arguments : List Tree) (i : Implementation) : Except GenerationError Generation :=
  if arguments ≠ [] then .error .argumentsGiven
  else if i.trait?.isSome then .error .ofTrait
  else if i.genericParameters ≠ [] then .error .isGeneric
  else
    match generateFrom i.type 0 i.members with
    | .error e => .error (.malformed e)
    | .ok (members, constructors) => .ok ⟨{ i with members }, constructors⟩

end Activation.Generated
