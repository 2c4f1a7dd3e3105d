/-!
# Runtime identity of types

A *tag* stands for a type while a program runs.  It has an identity, which decides whether two tags
mean the same type, and a full name, which is only shown: two types may share a name, and no
decision looks at it.  `TypeTag.is` is the comparison by identity.

The short name of a type is the last segment of its path with the type arguments cut off
(`TypeTag.shortName`): everything from the first `<` on goes first, then everything up to the last
path separator of what remains.
-/

namespace Activation

/-- Which type a tag stands for. -/
inductive TypeIdent
  /-- A type known by a label of its own. -/
  | nominal (label : String)
  /-- The type of read-only raw pointers to another type. -/
  | constPointer (pointee : TypeIdent)
deriving DecidableEq, Repr

/-- A type at run time: its identity, and the full name shown to people. -/
structure TypeTag where
  /-- What decides equality of types. -/
  ident : TypeIdent
  /-- The full path of the type with its type arguments. -/
  name : String
deriving DecidableEq, Repr

namespace TypeTag

/-- Whether the two tags mean the same type; the names are not looked at. -/
def is (a b : TypeTag) : Bool := a.ident == b.ident

@[simp] theorem is_eq_true_iff {a b : TypeTag} : a.is b = true ↔ a.ident = b.ident := by
  simp [is]

theorem is_refl (a : TypeTag) : a.is a = true := by simp

theorem is_comm (a b : TypeTag) : a.is b = b.is a := by
  simp [is, Bool.beq_comm]

/-- The tag of a type whose name is also its label. -/
def basic (name : String) : TypeTag := ⟨.nominal name, name⟩

/-- The tag of read-only raw pointers to a type. -/
def constPointer (pointee : TypeTag) : TypeTag :=
  ⟨.constPointer pointee.ident, "*const " ++ pointee.name⟩

end TypeTag

/-! ## Well-known types -/

namespace TypeTag

def boolean : TypeTag := basic "bool"
def character : TypeTag := basic "char"
def unit : TypeTag := basic "()"
def duration : TypeTag := ⟨.nominal "Duration", "core::time::Duration"⟩
def uuid : TypeTag := ⟨.nominal "Uuid", "uuid::Uuid"⟩
def string : TypeTag := ⟨.nominal "String", "alloc::string::String"⟩
def stringSlice : TypeTag := basic "&str"
def boxedString : TypeTag := ⟨.nominal "Box<str>", "alloc::boxed::Box<str>"⟩

/-- The type of arguments themselves. -/
def argument : TypeTag := ⟨.nominal "Arg", "activator::value::Arg"⟩

end TypeTag

/-! ## Short names -/

/-- What follows the last path separator `::`, if there is one. -/
def afterLastSeparator : List Char → Option (List Char)
  | [] => none
  | c :: rest =>
    match afterLastSeparator rest with
    | some tail => some tail
    | none => if c = ':' ∧ rest.head? = some ':' then some rest.tail else none

/-- The last segment of a path. -/
def lastSegment (path : List Char) : List Char := (afterLastSeparator path).getD path

/-- The last segment of a type name, its type arguments cut off. -/
def shortNameChars (name : List Char) : List Char := lastSegment (name.takeWhile (· != '<'))

/-- The last path segment of the type's name, without type arguments. -/
def TypeTag.shortName (t : TypeTag) : String := String.ofList (shortNameChars t.name.toList)

example : lastSegment "a:::b".toList = ['b'] ∧ shortNameChars "a::B<c::D>".toList = ['B'] := by
  decide

end Activation
