import Activation.Argument

/-!
# Declared constructors and types

What a program tells about its types: the constructors of a type, each with the shapes of its
parameters and the body to run, and what kind of type it is.

A constructor's body is a function of the argument list, and hands back the list as it left it.
It may return, report a failure, find an argument unreadable, or panic; panics pass through
everything here untouched, which is what `Outcome` keeps track of.
-/

namespace Activation

/-- What came of running code that may panic. -/
inductive Outcome (α : Type) where
  | finished (a : α)
  | panicked (message : String)
deriving Repr

namespace Outcome

variable {α β : Type}

/-- Applies a function to a finished outcome. -/
def map (f : α → β) : Outcome α → Outcome β
  | finished a => finished (f a)
  | panicked message => panicked message

@[simp] theorem map_finished (f : α → β) (a : α) : (finished a).map f = finished (f a) := rfl

@[simp] theorem map_panicked (f : α → β) (m : String) :
    (panicked m : Outcome α).map f = panicked m := rfl

end Outcome

/-- The code of a constructor: what came of it, and the arguments it left. -/
abbrev Body (α : Type) := ArgumentList → Outcome (Except InvokeError α) × ArgumentList

/-- The body that goes on with a function of what the first returns. -/
def Body.map {α β : Type} (f : α → β) (body : Body α) : Body β := fun args =>
  let (outcome, rest) := body args
  (outcome.map (Except.map f), rest)

/-- How a parameter accepts arguments. -/
inductive Shape
  /-- A value of exactly the declared type. -/
  | value
  /-- Null, or a value of the declared type. -/
  | nullable
  /-- Any argument, null included. -/
  | dynamic
  /-- A raw pointer; a constructor with such a parameter cannot be activated. -/
  | pointer
deriving DecidableEq, Repr

/-- Whether null is accepted. -/
def Shape.isNullable : Shape → Bool
  | .nullable | .dynamic => true
  | .value | .pointer => false

/-- A declared parameter. -/
structure Parameter where
  name : String
  /-- The declared type; of a nullable parameter, the type of the value. -/
  type : TypeTag
  shape : Shape
deriving DecidableEq, Repr

/-- Where a registration came from. -/
inductive Origin
  /-- Registered by hand. -/
  | byHand
  /-- Linked in from the named package. -/
  | package (name : String)
deriving DecidableEq, Repr

/-- The origin as it stands in the log. -/
def Origin.label : Origin → String
  | .byHand => "builder"
  | .package name => "crate:" ++ name

/-- A declared constructor. -/
structure Constructor where
  /-- The type it belongs to. -/
  owner : TypeTag
  name : String
  isPublic : Bool
  parameters : List Parameter
  body : Body Instance
  origin : Origin

namespace Constructor

def arity (c : Constructor) : Nat := c.parameters.length

/-- Whether some parameter cannot be given an argument at all. -/
def isUnsupported (c : Constructor) : Bool := c.parameters.any (·.shape == .pointer)

end Constructor

/-- The body of constructors that cannot be given arguments; nothing selects them. -/
def unsupportedBody : Body Instance := fun args =>
  (.finished (.error (.argument 0 "supported parameter type")), args)

/-- What is known about an enumeration. -/
structure Enumeration where
  /-- The type its members are numbered in. -/
  underlying : TypeTag
  /-- The member that a number, given as text, belongs to. -/
  parse : String → Outcome (Option Instance)

/-- The kind of a type. -/
inductive TypeKind
  /-- A type about which nothing more is known. -/
  | plain
  | record
  | enumeration (info : Enumeration)

/-- A registered type. -/
structure TypeInfo where
  tag : TypeTag
  /-- The name it was registered under. -/
  name : String
  kind : TypeKind
  origin : Origin

end Activation
