import Activation.Identity

/-!
# Values

A *datum* is the content of a value of any type: the built-in types have a constructor each, and
records, sequences, optional values and boxed arguments are built from other data.  A datum does
not say which type it is of; a *tagged* value, an argument or an instance pairs it with a tag.
-/

namespace Activation

/-- The content of a value. -/
inductive Datum
  | unit
  | bool (b : Bool)
  | char (c : Char)
  | int (n : Int)
  /-- A single-precision number, by its bits. -/
  | float32 (bits : UInt32)
  /-- A double-precision number, by its bits. -/
  | float64 (bits : UInt64)
  /-- A span of time. -/
  | duration (seconds nanoseconds : Nat)
  /-- A universally unique identifier, as a number of 128 bits. -/
  | uuid (bits : Nat)
  | text (s : String)
  | list (items : List Datum)
  /-- The empty optional value. -/
  | absent
  /-- An optional value that is there. -/
  | present (d : Datum)
  /-- A member of an enumeration, or the only value of a type, by name. -/
  | member (name : String)
  | record (fields : List (String × Datum))
  /-- The null argument, as a value. -/
  | null
  /-- An argument that carries a value, as a value. -/
  | boxed (tag : TypeTag) (d : Datum)
deriving Repr, Inhabited

/-- How many nanoseconds a second has. -/
def nanosecondsPerSecond : Nat := 1000000000

/-- The span of time of the given seconds and nanoseconds, of which there may be more than a second
has. -/
def Datum.span (seconds nanoseconds : Nat) : Datum :=
  .duration (seconds + nanoseconds / nanosecondsPerSecond) (nanoseconds % nanosecondsPerSecond)

mutual

/-- Equality of data; tags of boxed arguments are compared by identity. -/
def Datum.beq : Datum → Datum → Bool
  | .unit, .unit => true
  | .bool a, .bool b => a == b
  | .char a, .char b => a == b
  | .int a, .int b => a == b
  | .float32 a, .float32 b => a == b
  | .float64 a, .float64 b => a == b
  | .duration s n, .duration s' n' => s == s' && n == n'
  | .uuid a, .uuid b => a == b
  | .text a, .text b => a == b
  | .list a, .list b => Datum.beqList a b
  | .absent, .absent => true
  | .present a, .present b => Datum.beq a b
  | .member a, .member b => a == b
  | .record a, .record b => Datum.beqFields a b
  | .null, .null => true
  | .boxed t a, .boxed t' b => t.is t' && Datum.beq a b
  | _, _ => false

/-- Equality of sequences of data. -/
def Datum.beqList : List Datum → List Datum → Bool
  | [], [] => true
  | a :: as, b :: bs => Datum.beq a b && Datum.beqList as bs
  | _, _ => false

/-- Equality of record fields, in order. -/
def Datum.beqFields : List (String × Datum) → List (String × Datum) → Bool
  | [], [] => true
  | (n, a) :: as, (n', b) :: bs => n == n' && Datum.beq a b && Datum.beqFields as bs
  | _, _ => false

end

instance : BEq Datum := ⟨Datum.beq⟩

/-- A value together with the type it is of. -/
structure Tagged where
  tag : TypeTag
  datum : Datum
deriving Repr

/-- Equality of tagged values: the same type and the same content. -/
instance : BEq Tagged := ⟨fun a b => a.tag.is b.tag && a.datum == b.datum⟩

/-- A constructed object of some type. -/
abbrev Instance := Tagged

/-- The content of the value, if it is of the given type. -/
def Tagged.downcast? (v : Tagged) (t : TypeTag) : Option Datum :=
  if v.tag.is t then some v.datum else none

end Activation
