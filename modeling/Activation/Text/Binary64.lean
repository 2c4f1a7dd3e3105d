import Activation.Text.Decimal

/-!
# Double-precision numbers as text

Reading a decimal number as the nearest double-precision value, and writing such a value with the
fewest digits that read back as it.  Everything is exact arithmetic on natural numbers: a finite
value is `significand · 2 ^ exponent`, and a decimal is `digits · 10 ^ power`.

A quotient is rounded to the nearest integer, a half to the even neighbour (`roundQuotient`).  The
shortest form tries one digit, two digits, … seventeen, each time the two points of that decimal
grid next to the value, and takes the first that lies in the interval of reals that round to it.
-/

namespace Activation.Text

/-- A finite double-precision value without its sign. -/
structure Binary64 where
  /-- The significand, less than `2 ^ 53`. -/
  significand : Nat
  /-- The power of two it is multiplied by, at least `-1074`. -/
  exponent : Int
deriving Repr, DecidableEq

/-- The quotient rounded to the nearest integer, a half to the even neighbour. -/
def roundQuotient (num den : Nat) : Nat :=
  let q := num / den
  let r := num % den
  if 2 * r < den then q
  else if den < 2 * r then q + 1
  else if q % 2 = 0 then q else q + 1

/-- `a · b ^ k` as a quotient of natural numbers. -/
def scaled (a b : Nat) (k : Int) : Nat × Nat :=
  if 0 ≤ k then (a * b.pow k.toNat, 1) else (a, b.pow (-k).toNat)

/-- The least significand that has all its bits. -/
def Binary64.leastFull : Nat := 1 <<< 52

/-- The finite value nearest to a positive quotient; `none` if that quotient is too large. -/
def Binary64.nearest? (num den : Nat) : Option Binary64 :=
  let estimate : Int := (num.log2 : Int) - den.log2 - 53
  let at? (q : Int) : Nat × Nat := (num * (scaled 1 2 (-q)).1, den * (scaled 1 2 (-q)).2)
  let first := max estimate (-1074)
  let q := if 2 * leastFull ≤ (at? first).1 / (at? first).2 then first + 1 else first
  let m := roundQuotient (at? q).1 (at? q).2
  let (m, q) := if m = 2 * leastFull then (leastFull, q + 1) else (m, q)
  if 971 < q then none else some ⟨m, q⟩

/-- The finite value nearest to `digits · 10 ^ power`; `none` if that number is too large.  Powers
far outside the range of finite values are settled by counting digits. -/
def Binary64.ofDecimal? (digits : Nat) (power : Int) : Option Binary64 :=
  if digits = 0 then some ⟨0, -1074⟩
  else
    let magnitude : Int := (decimalDigits digits).length + power
    if 310 < magnitude then none
    else if magnitude < -330 then some ⟨0, -1074⟩
    else
      let (num, den) := scaled digits 10 power
      nearest? num den

/-- The two distances from a value to the ends of the interval that rounds to it, below and above,
in units of `2 ^ exponent / 4`. -/
def Binary64.halfGaps (v : Binary64) : Nat × Nat :=
  if v.significand = leastFull ∧ -1074 < v.exponent then (1, 2) else (2, 2)

/-- Whether the decimal `digits · 10 ^ power` rounds to the value. -/
def Binary64.readsBack (v : Binary64) (digits : Nat) (power : Int) : Bool :=
  let (n2, d2) := scaled 1 2 (v.exponent - 2)
  let (n10, d10) := scaled digits 10 power
  let candidate := n10 * d2
  let below := (4 * v.significand - v.halfGaps.1) * n2 * d10
  let above := (4 * v.significand + v.halfGaps.2) * n2 * d10
  if v.significand % 2 = 0 then below ≤ candidate && candidate ≤ above
  else below < candidate && candidate < above

/-- The greatest multiple of `10 ^ power` that is not above the value, in that unit, with the
remainder and the unit on a common scale. -/
def Binary64.floorOnGrid (v : Binary64) (power : Int) : Nat × Nat × Nat :=
  let (n2, d2) := scaled v.significand 2 v.exponent
  let (n10, d10) := scaled 1 10 power
  let unit := n10 * d2
  let value := n2 * d10
  (value / unit, value % unit, unit)

/-- The point of the grid of multiples of `10 ^ power` that reads back as the value: of the two
next to it the nearer, the even one in case of a tie; `none` if neither does. -/
def Binary64.onGrid? (v : Binary64) (power : Int) : Option Nat :=
  let (low, rest, unit) := v.floorOnGrid power
  let lowFits := v.readsBack low power
  let highFits := v.readsBack (low + 1) power
  if lowFits && highFits then
    some (if 2 * rest < unit then low else if unit < 2 * rest then low + 1
      else if low % 2 = 0 then low else low + 1)
  else if lowFits then some low
  else if highFits then some (low + 1)
  else none

/-- The power of ten of the leading digit of a positive value. -/
def Binary64.leadingPower (v : Binary64) : Int :=
  let (n, d) := scaled v.significand 2 v.exponent
  if d ≤ n then (decimalDigits (n / d)).length - 1
  else
    let guess : Int := -((decimalDigits (d / n)).length : Int)
    if n * Nat.pow 10 (-guess - 1).toNat ≥ d then guess + 1 else guess

/-- The decimal of fewest digits, `digits · 10 ^ power`, that reads back as the value. -/
def Binary64.shortest (v : Binary64) : Nat × Int :=
  if v.significand = 0 then (0, 0)
  else
    let top := v.leadingPower
    let found := (List.range 17).findSome? fun (n : Nat) =>
      (v.onGrid? (top - (n : Int))).map fun d => (d, top - (n : Int))
    found.getD (v.significand, v.exponent)

/-- A decimal in positional notation, without trailing zeros after the point. -/
def positional (digits : Nat) (power : Int) : List Char :=
  let ds := decimalDigits digits
  if 0 ≤ power then
    if digits = 0 then ds else ds ++ List.replicate power.toNat '0'
  else
    let places := (-power).toNat
    let padded := List.replicate (places + 1 - ds.length) '0' ++ ds
    let whole := padded.take (padded.length - places)
    let fraction := (padded.drop (padded.length - places)).reverse.dropWhile (· == '0')
    if fraction.isEmpty then whole else whole ++ '.' :: fraction.reverse

/-- The value in positional notation with the fewest digits that read back as it. -/
def Binary64.positionalChars (v : Binary64) : List Char :=
  let (d, p) := v.shortest
  positional d p

example : (Binary64.ofDecimal? 1 (-1)).map Binary64.positionalChars = some ['0', '.', '1'] ∧
    (Binary64.ofDecimal? 15 (-1)).map Binary64.positionalChars = some ['1', '.', '5'] ∧
    (Binary64.ofDecimal? 1 2).map Binary64.positionalChars = some ['1', '0', '0'] ∧
    Binary64.ofDecimal? 18 308 = none := by decide +kernel

end Activation.Text
