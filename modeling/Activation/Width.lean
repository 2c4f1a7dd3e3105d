/-!
# Whole numbers of a fixed width

A number fits in a width if keeping only that many of its low bits gives it back, read with a sign
(`fitsSigned`) or without one (`fitsUnsigned`).  The integer types have such widths, each with a sign
or without one (`integerLayout?`).
-/

namespace Activation

/-- The number that the low bits of `n` spell when the highest of them is a sign. -/
def signedPart (width : Nat) (n : Int) : Int := (BitVec.ofInt width n).toInt

/-- Whether a number fits in a width of which one bit is the sign. -/
def fitsSigned (width : Nat) (n : Int) : Bool := signedPart width n = n

/-- Whether a number fits in a width without a sign. -/
def fitsUnsigned (width : Nat) (n : Int) : Bool := (BitVec.ofInt width n).toNat = n

example : fitsSigned 8 (-128) ∧ fitsSigned 8 127 ∧ ¬ fitsSigned 8 128 ∧ fitsUnsigned 8 255 ∧
    ¬ fitsUnsigned 8 256 ∧ ¬ fitsUnsigned 8 (-1) ∧ signedPart 8 200 = -56 := by decide

/-! ## Integer types -/

/-- How a type of integers is laid out: its bits, and whether one of them is the sign. -/
structure IntegerLayout where
  isSigned : Bool
  width : Nat
deriving DecidableEq, Repr

namespace IntegerLayout

/-- Whether the type holds the number. -/
def holds (layout : IntegerLayout) (n : Int) : Bool :=
  if layout.isSigned then fitsSigned layout.width n else fitsUnsigned layout.width n

/-- The number as one of the type, by its low bits. -/
def convert (layout : IntegerLayout) (n : Int) : Int :=
  if layout.isSigned then signedPart layout.width n else (BitVec.ofInt layout.width n).toNat

end IntegerLayout

/-- The layout of the integer types.  Two of them have as many bits as a pointer. -/
def integerLayout? (pointerWidth : Nat) : String → Option IntegerLayout
  | "i8" => some ⟨true, 8⟩
  | "i16" => some ⟨true, 16⟩
  | "i32" => some ⟨true, 32⟩
  | "i64" => some ⟨true, 64⟩
  | "i128" => some ⟨true, 128⟩
  | "isize" => some ⟨true, pointerWidth⟩
  | "u8" => some ⟨false, 8⟩
  | "u16" => some ⟨false, 16⟩
  | "u32" => some ⟨false, 32⟩
  | "u64" => some ⟨false, 64⟩
  | "u128" => some ⟨false, 128⟩
  | "usize" => some ⟨false, pointerWidth⟩
  | _ => none

end Activation
