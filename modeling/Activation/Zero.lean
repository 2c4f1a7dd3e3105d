import Activation.Datum

/-!
# Zero values of the well-known types

The table of canonical zero values.  It lets a caller activate a number, a span of time or an
identifier without any declared constructor, and its literals name the zero member of an
enumeration over such a type.  The text types are listed with *no value*: activating them gives
nothing, which is different from not being listed.
-/

namespace Activation

/-- The zero of one well-known type. -/
inductive ZeroValue
  /-- The type's zero is "no value". -/
  | none
  /-- A value, with the text that names it. -/
  | some (literal : String) (value : Instance)
deriving Repr

/-- The text that names the zero value. -/
def ZeroValue.literal? : ZeroValue → Option String
  | .none => Option.none
  | .some literal _ => Option.some literal

/-- What activating the type by its zero gives. -/
def ZeroValue.produce : ZeroValue → Option Instance
  | .none => Option.none
  | .some _ value => Option.some value

/-- The integer types, by name. -/
def integerTypeNames : List String :=
  ["i8", "i16", "i32", "i64", "i128", "isize", "u8", "u16", "u32", "u64", "u128", "usize"]

/-- The table line of a type that has a zero value. -/
def zeroLine (t : TypeTag) (literal : String) (datum : Datum) : TypeTag × ZeroValue :=
  (t, .some literal ⟨t, datum⟩)

/-- The types that have an entry, with their zeros. -/
def zeroTable : List (TypeTag × ZeroValue) :=
  [zeroLine .boolean "false" (.bool false), zeroLine .character "\x00" (.char '\x00')] ++
  integerTypeNames.map (fun name => zeroLine (.basic name) "0" (.int 0)) ++
  [zeroLine (.basic "f32") "0" (.float32 0), zeroLine (.basic "f64") "0" (.float64 0),
    zeroLine .unit "()" .unit, zeroLine .duration "0s" (.duration 0 0),
    zeroLine .uuid "00000000-0000-0000-0000-000000000000" (.uuid 0),
    (.string, .none), (.stringSlice, .none), (.boxedString, .none)]

/-- The entry of a type, if it is well known. -/
def zeroOf? (t : TypeTag) : Option ZeroValue :=
  (zeroTable.find? fun entry => entry.1.is t).map (·.2)

end Activation
