import Activation.Text.Decimal
import Activation.Toml.Value

/-!
# Numbers, truth values and moments

What a word outside of quotes means: `true`, `false`, an integer in one of four radices, a decimal
number, or a date or time.  Underscores may stand between digits, or between a sign and a digit.

A word counts as an integer by its beginning: digits and an underscore, or the mark of a radix.  If
the rest does not make a number of it, it is a value all the same, which cannot be read.
-/

namespace Activation.Toml

open Text

/-! ## Underscores -/

/-- Whether each underscore stands before a digit, and after a digit or the very first character. -/
def hasFittingUnderscores (isDigit : Char → Bool) (s : List Char) : Bool :=
  let rec go (mayFollow : Bool) : List Char → Bool
    | [] => true
    | ['_'] => false
    | '_' :: c :: rest => mayFollow && isDigit c && go true rest
    | c :: rest => go (isDigit c) rest
  match s with
  | [] => true
  | '_' :: _ => false
  | _ :: rest => go true rest

/-- The characters without underscores. -/
def bare (s : List Char) : List Char := s.filter (· != '_')

/-- Whether a character is a digit of the radix. -/
def isDigitOf (radix : Nat) (c : Char) : Bool := (radixDigitValue? radix c).isSome

/-! ## Integers -/

/-- The integer that digits of a radix spell, or the value that cannot be read. -/
def integerOf (radix : Nat) (negative : Bool) (digits : List Char) : Value :=
  let n : Int := ofDigits radix digits
  if digits.isEmpty || !digits.all (isDigitOf radix) then .unreadable
  else .integer (if negative then -n else n)

/-- An integer with the mark of its radix in front, of which the digits are given. -/
def radixInteger? (radix : Nat) (s : List Char) : Option Value :=
  let digits := bare s
  if hasFittingUnderscores (isDigitOf 16) s && digits.all (isDigitOf radix) then
    some (integerOf radix false digits)
  else none

/-- A sign in front: whether it is a minus, and the rest. -/
def signed : List Char → Bool × List Char
  | '-' :: s => (true, s)
  | '+' :: s => (false, s)
  | s => (false, s)

/-- A decimal integer: digits without a leading zero, and whatever follows an underscore after
them. -/
def decimalInteger? (s : List Char) : Option Value :=
  let (negative, unsigned) := signed s
  let rest := unsigned.dropWhile Char.isDigit
  let hasLeadingZero := unsigned.head? == some '0' && unsigned.length != 1
  if unsigned.isEmpty || hasLeadingZero || !hasFittingUnderscores (isDigitOf 16) s then none
  else if rest.isEmpty || rest.head? == some '_' then
    some (integerOf 10 negative (bare unsigned))
  else none

/-! ## Decimal numbers -/

/-- Digits and underscores in front, of which at least one is a digit, and the rest.  Without
`zeros` there is no leading zero. -/
def digitRun? (zeros : Bool) (s : List Char) : Option (List Char × List Char) :=
  let isPart (c : Char) : Bool := c.isDigit || c == '_'
  let front := s.takeWhile isPart
  let digits := bare front
  if digits.isEmpty || (!zeros && digits.length != 1 && front.head? == some '0') then none
  else some (digits, s.dropWhile isPart)

/-- A fraction in front, if there is one, and the rest. -/
def fraction? : List Char → Option (List Char × List Char)
  | '.' :: s => digitRun? true s
  | s => some ([], s)

/-- An exponent in front, zero if there is none, and the rest. -/
def exponent? (s : List Char) : Option (Int × List Char) :=
  match s with
  | [] => some (0, [])
  | c :: s =>
    if c == 'e' || c == 'E' then do
      let (down, s) := signed s
      let (digits, s) ← digitRun? true s
      let n : Int := ofDigits 10 digits
      some (if down then -n else n, s)
    else none

/-- A decimal number with a fraction, an exponent or both, or one of the named values. -/
def floating? (s : List Char) : Option Floating :=
  let (negative, unsigned) := signed s
  if unsigned == ['i', 'n', 'f'] then some (.infinite negative)
  else if unsigned == ['n', 'a', 'n'] then some .undefined
  else if !hasFittingUnderscores Char.isDigit s then none
  else do
    let (whole, s) ← digitRun? false unsigned
    let (places, s) ← fraction? s
    let (power, s) ← exponent? s
    if s.isEmpty then
      some (.decimal negative (ofDigits 10 (whole ++ places)) (power - places.length))
    else none

/-- A number.  It is an integer unless it has a point or the mark of an exponent. -/
def number? (s : List Char) : Option Value :=
  match s with
  | '0' :: 'x' :: digits => radixInteger? 16 digits
  | '0' :: 'o' :: digits => radixInteger? 8 digits
  | '0' :: 'b' :: digits => radixInteger? 2 digits
  | s =>
    if s.any ['.', 'e', 'E'].contains then (floating? s).map .floating
    else (decimalInteger? s).or ((floating? s).map .floating)

/-! ## Dates and times -/

/-- Whether a year has a day more. -/
def isLeapYear (year : Nat) : Bool := year % 4 == 0 && (year % 100 != 0 || year % 400 == 0)

/-- The number of days of a month. -/
def daysOf (year month : Nat) : Nat :=
  if month = 2 then if isLeapYear year then 29 else 28
  else if [4, 6, 9, 11].contains month then 30 else 31

/-- Exactly two digits, as a number. -/
def twoDigits? : List Char → Option (Nat × List Char)
  | a :: b :: rest => do some (10 * (← digitValue? a) + (← digitValue? b), rest)
  | _ => none

/-- A date in front: the rest after it. -/
def date? (s : List Char) : Option (List Char) := do
  let (century, s) ← twoDigits? s
  let (year, s) ← twoDigits? s
  let '-' :: s := s | none
  let (month, s) ← twoDigits? s
  let '-' :: s := s | none
  let (day, s) ← twoDigits? s
  if 1 ≤ month ∧ month ≤ 12 ∧ 1 ≤ day ∧ day ≤ daysOf (100 * century + year) month then some s
  else none

/-- A time of day in front, its seconds and their fraction being optional: the rest after it. -/
def time? (s : List Char) : Option (List Char) := do
  let (hour, s) ← twoDigits? s
  let ':' :: s := s | none
  let (minute, s) ← twoDigits? s
  if ¬(hour ≤ 23 ∧ minute ≤ 59) then none
  else match s with
    | ':' :: s =>
      let (second, s) ← twoDigits? s
      if 60 < second then none
      else match s with
        | '.' :: f =>
          if (f.takeWhile Char.isDigit).isEmpty then none else some (f.dropWhile Char.isDigit)
        | s => some s
    | s => some s

/-- Whether the characters are a distance from universal time. -/
def isOffset : List Char → Bool
  | [c] => c == 'Z' || c == 'z'
  | c :: s =>
    (c == '+' || c == '-') && (do
      let (hour, s) ← twoDigits? s
      let ':' :: s := s | none
      let (minute, s) ← twoDigits? s
      some (decide (hour ≤ 23 ∧ minute ≤ 59) && s.isEmpty)).getD false
  | [] => false

/-- Whether the characters are a date, a time, or a date and a time with or without offset. -/
def isMoment (s : List Char) : Bool :=
  match date? s with
  | some [] => true
  | some (c :: s) =>
    (c == 'T' || c == 't' || c == ' ') && ((time? s).map fun s => s.isEmpty || isOffset s).getD false
  | none => (time? s).any (·.isEmpty)

/-- The value of a word. -/
def scalar? (s : List Char) : Option Value :=
  if s == ['t', 'r', 'u', 'e'] then some (.boolean true)
  else if s == ['f', 'a', 'l', 's', 'e'] then some (.boolean false)
  else if isMoment s then some .moment
  else number? s

end Activation.Toml
