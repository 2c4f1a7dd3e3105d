/-!
# Decimal integers

The canonical decimal form of an integer: no leading zeros, no plus sign, a minus sign in front of
a negative number only.  `readNat?` and `readInt?` are the readers that accept digits in any number
and an optional sign.
-/

namespace Activation.Text

/-- The character of a decimal digit. -/
def digitChar (d : Nat) : Char := Char.ofNat ('0'.toNat + d)

/-- The decimal digits of a natural number, most significant first. -/
def decimalDigits (n : Nat) : List Char :=
  if n < 10 then [digitChar n] else decimalDigits (n / 10) ++ [digitChar (n % 10)]
termination_by n

/-- The canonical decimal form of an integer. -/
def decimalChars : Int → List Char
  | .ofNat n => decimalDigits n
  | .negSucc n => '-' :: decimalDigits (n + 1)

/-- The canonical decimal form of an integer, as a text. -/
def decimal (n : Int) : String := String.ofList (decimalChars n)

/-- The value of a decimal digit. -/
def digitValue? (c : Char) : Option Nat :=
  if c.isDigit then some (c.toNat - '0'.toNat) else none

/-- The value of a digit in a radix up to sixteen, in either case. -/
def radixDigitValue? (radix : Nat) (c : Char) : Option Nat :=
  let v :=
    if c.isDigit then c.toNat - '0'.toNat
    else if 'a' ≤ c && c ≤ 'f' then 10 + (c.toNat - 'a'.toNat)
    else if 'A' ≤ c && c ≤ 'F' then 10 + (c.toNat - 'A'.toNat)
    else 16
  if v < radix then some v else none

/-- The number that the digits spell in the radix, most significant first; digits that are none
count as zero. -/
def ofDigits (radix : Nat) (s : List Char) : Nat :=
  s.foldl (fun n c => n * radix + (radixDigitValue? radix c).getD 0) 0

/-- Reads one or more decimal digits. -/
def readNat? (s : List Char) : Option Nat :=
  if s ≠ [] ∧ s.all Char.isDigit then some (ofDigits 10 s) else none

/-- Reads one or more decimal digits after an optional sign. -/
def readInt? : List Char → Option Int
  | '-' :: s => (readNat? s).map fun n => -(n : Int)
  | '+' :: s => (readNat? s).map fun n => (n : Int)
  | s => (readNat? s).map fun n => (n : Int)

example : decimalChars (-120) = ['-', '1', '2', '0'] ∧ decimalChars 0 = ['0'] := by
  decide +kernel

end Activation.Text
