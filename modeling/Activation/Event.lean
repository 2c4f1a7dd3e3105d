import Activation.Constructor

/-!
# Events

What the library reports while it works, in order.  An event says what happened; its level, its
message and its fields are read off from that.  `Logged` is a result together with the events on
the way to it.
-/

namespace Activation

/-- How much attention an event asks for. -/
inductive Level
  | warn
  | debug
  | trace
deriving DecidableEq, Repr

/-- The level's name. -/
def Level.label : Level → String
  | .warn => "WARN"
  | .debug => "DEBUG"
  | .trace => "TRACE"

/-- The value of a field of an event. -/
inductive FieldValue
  | text (s : String)
  | number (n : Nat)
  | flag (b : Bool)
deriving DecidableEq, Repr

/-- Something that happened. -/
inductive Event
  /-- A type was registered although it had a registration. -/
  | registeredTwice (tag : TypeTag) (kept ignored : Origin)
  /-- A name was claimed for a type although it belongs to another. -/
  | nameCollision (name : String) (kept : TypeTag) (keptOrigin : Origin)
      (ignored : TypeTag) (ignoredOrigin : Origin)
  /-- The linked records were registered. -/
  | linked (types constructors : Nat)
  /-- The overloads of a type were put together. -/
  | builtSet (tag : TypeTag) (overloads discarded : Nat) (hasDefault : Bool)
  /-- The overloads of a type became visible to all. -/
  | publishedSet (tag : TypeTag) (published : Nat)
  /-- A constructor could not read an argument that its parameters accept. -/
  | rejectedArgument (owner : TypeTag) (constructor : String) (index : Nat) (expected : String)
  /-- No type is registered under the name. -/
  | unknownName (name : String)
  /-- Making the default value of a type panicked. -/
  | allocationPanicked (tag : TypeTag)
deriving DecidableEq, Repr

namespace Event

def level : Event → Level
  | registeredTwice .. | nameCollision .. => .warn
  | linked .. | builtSet .. | allocationPanicked .. => .debug
  | publishedSet .. | rejectedArgument .. | unknownName .. => .trace

def message : Event → String
  | registeredTwice .. => "type registered twice; keeping the first registration"
  | nameCollision .. => "type name collision; keeping the first registration"
  | linked .. => "linked static activation registrations"
  | builtSet .. => "built constructor set"
  | publishedSet .. => "published constructor set"
  | rejectedArgument .. => "invoker rejected argument"
  | unknownName .. => "no registered type under name"
  | allocationPanicked .. => "direct allocation panicked"

def fields : Event → List (String × FieldValue)
  | registeredTwice tag kept ignored =>
    [("ty", .text tag.name), ("kept", .text kept.label), ("ignored", .text ignored.label)]
  | nameCollision name kept keptOrigin ignored ignoredOrigin =>
    [("name", .text name), ("kept", .text kept.name), ("kept_source", .text keptOrigin.label),
      ("ignored", .text ignored.name), ("ignored_source", .text ignoredOrigin.label)]
  | linked types constructors => [("types", .number types), ("ctors", .number constructors)]
  | builtSet tag overloads discarded hasDefault =>
    [("ty", .text tag.name), ("descriptors", .number overloads), ("discarded", .number discarded),
      ("has_default", .flag hasDefault)]
  | publishedSet tag published => [("ty", .text tag.name), ("cached", .number published)]
  | rejectedArgument owner constructor index expected =>
    [("ty", .text owner.name), ("ctor", .text constructor), ("index", .number index),
      ("expected", .text expected)]
  | unknownName name => [("name", .text name)]
  | allocationPanicked tag => [("ty", .text tag.name)]

end Event

/-! ## Results with their events -/

/-- A result, and the events on the way to it, in order. -/
structure Logged (α : Type) where
  result : α
  events : List Event
deriving Repr

namespace Logged

variable {α β : Type}

instance : Monad Logged where
  pure a := ⟨a, []⟩
  bind x f := ⟨(f x.result).result, x.events ++ (f x.result).events⟩

/-- Reports one event. -/
def report (e : Event) : Logged Unit := ⟨(), [e]⟩

@[simp] theorem result_pure (a : α) : (pure a : Logged α).result = a := rfl

@[simp] theorem events_pure (a : α) : (pure a : Logged α).events = [] := rfl

@[simp] theorem result_bind (x : Logged α) (f : α → Logged β) :
    (x >>= f).result = (f x.result).result := rfl

@[simp] theorem events_bind (x : Logged α) (f : α → Logged β) :
    (x >>= f).events = x.events ++ (f x.result).events := rfl

@[simp] theorem result_map (f : α → β) (x : Logged α) : (f <$> x).result = f x.result := rfl

@[simp] theorem events_map (f : α → β) (x : Logged α) : (f <$> x).events = x.events :=
  List.append_nil _

@[simp] theorem result_report (e : Event) : (report e).result = () := rfl

@[simp] theorem events_report (e : Event) : (report e).events = [e] := rfl

theorem map_id (x : Logged α) : id <$> x = x := by
  show (⟨x.result, x.events ++ []⟩ : Logged α) = x
  simp

instance : LawfulMonad Logged :=
  LawfulMonad.mk' Logged map_id (fun _ _ => rfl) fun x f g => by
    show (⟨_, _⟩ : Logged _) = ⟨_, _⟩
    simp [List.append_assoc]

end Logged

end Activation
