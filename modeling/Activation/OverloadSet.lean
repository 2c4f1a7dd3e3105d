import Activation.Options
import Activation.Overload
import Activation.Registry
import Activation.Zero

/-!
# The overloads of a type

All overloads of one type, in the order in which calls try them: by arity, and among those of one
arity the declared constructors in the order of registration, then the zero value, then the zero
member of an enumeration.  The first overload that accepts the arguments is run, and no other.

An activation without arguments goes through the first overload directly, if its arity is zero
(`OverloadSet.createDefault`).  That overload is looked up once, when the set is put together.
-/

namespace Activation

/-- The overloads of one type. -/
structure OverloadSet where
  tag : TypeTag
  overloads : List Overload
  /-- The overload that activation without arguments goes through. -/
  default? : Option Overload
  default_eq : default? = overloads.head?.filter (·.arity == 0)

/-! ## Putting the set together -/

namespace Registry

/-- The declared constructors of the type that calls can select, in the order of registration. -/
def declaredOverloads (r : Registry) (options : Options) (t : TypeTag) : List Overload :=
  ((r.constructorsOf t).filter fun c => c.isPublic || options.includeNonPublic).filterMap
    Overload.ofConstructor?

/-- The number of declared constructors of the type that calls cannot select. -/
def discarded (r : Registry) (options : Options) (t : TypeTag) : Nat :=
  (r.constructorsOf t).length - (r.declaredOverloads options t).length

/-- The overload that answers with the zero value of a well-known type. -/
def zeroOverload? (options : Options) (t : TypeTag) : Option Overload :=
  if options.zeroFallback then
    (zeroOf? t).map fun zero => .synthetic t "default" fun _ => .finished zero.produce
  else none

/-- The overload that answers with the zero member of an enumeration. -/
def memberOverload? (r : Registry) (options : Options) (t : TypeTag) : Option Overload :=
  if options.enumerationFallback then
    match r.kind t with
    | .enumeration info =>
      ((zeroOf? info.underlying).bind (·.literal?)).map fun literal =>
        .synthetic t "zero" fun _ => info.parse literal
    | _ => none
  else none

/-- All overloads of the type, before they are ranked. -/
def candidates (r : Registry) (options : Options) (t : TypeTag) : List Overload :=
  r.declaredOverloads options t ++ (zeroOverload? options t).toList ++
    (r.memberOverload? options t).toList

end Registry

namespace OverloadSet

/-- Overloads by arity; those of one arity keep their order. -/
def ranked (overloads : List Overload) : List Overload :=
  overloads.mergeSort fun a b => a.arity ≤ b.arity

/-- The overloads of the type, ranked. -/
def ofRegistry (r : Registry) (options : Options) (t : TypeTag) : OverloadSet :=
  let overloads := ranked (r.candidates options t)
  ⟨t, overloads, overloads.head?.filter (·.arity == 0), rfl⟩

def size (s : OverloadSet) : Nat := s.overloads.length

def isEmpty (s : OverloadSet) : Bool := s.overloads.isEmpty

/-- Whether activation without arguments goes through some overload. -/
def hasDefault (s : OverloadSet) : Bool := s.default?.isSome

/-- Puts the overloads of a type together, and reports it. -/
def build (r : Registry) (options : Options) (t : TypeTag) : Logged OverloadSet := do
  let s := ofRegistry r options t
  Logged.report (.builtSet t s.size (r.discarded options t) s.hasDefault)
  pure s

/-! ## Activating -/

/-- The overload that the arguments select: the first that accepts them. -/
def select? (s : OverloadSet) (args : List Argument) : Option Overload :=
  s.overloads.find? (·.accepts args)

/-- Runs the overload that the arguments select. -/
def createWith (s : OverloadSet) (args : List Argument) : Logged Reply :=
  match s.select? args with
  | some o => o.activate args
  | none => pure .nothing

/-- Runs the overload that the arguments select; it is an error to give no argument list. -/
def create (s : OverloadSet) (args : Option (List Argument)) : Logged Reply :=
  match args with
  | some args => s.createWith args
  | none => pure (Reply.error (.missingArguments s.tag))

/-- Runs the default overload, if there is one. -/
def createDefault (s : OverloadSet) : Logged Reply :=
  match s.default? with
  | some o => o.conclude (o.run .empty).1
  | none => pure .nothing

end OverloadSet

end Activation
