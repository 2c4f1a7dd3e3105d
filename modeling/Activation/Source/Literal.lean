import Activation.Text.Blank
import Activation.Text.Decimal
import Activation.Text.Identifier
import Activation.Text.Quoted
import Activation.Text.Reader

/-!
# Literals

How numbers, characters and texts are spelled in source.  A text between quotes may hold escapes;
a raw one holds none and is closed by a quote and as many number signs as it was opened with.
Texts and characters come in three alphabets: all characters, ASCII only, and all but the null
character.

`textValue?` is the text that a spelling stands for.
-/

namespace Activation.Source

open Text Text.Reader

/-- The alphabets of quoted literals. -/
inductive Alphabet
  | unicode
  | ascii
  | withoutNull
deriving DecidableEq, Repr

namespace Alphabet

/-- The letters that mark a literal of the alphabet. -/
def letters : Alphabet → List Char
  | .unicode => []
  | .ascii => ['b']
  | .withoutNull => ['c']

/-- Whether a character belongs to the alphabet. -/
def has : Alphabet → Char → Bool
  | .unicode, _ => true
  | .ascii, c => c.toNat < 128
  | .withoutNull, c => c != '\x00'

/-- Whether the number of a hexadecimal escape belongs to the alphabet. -/
def hasCode : Alphabet → Nat → Bool
  | .unicode, n => n < 128
  | .ascii, _ => true
  | .withoutNull, n => n != 0

end Alphabet

/-! ## Escapes -/

/-- A hexadecimal digit. -/
def hexDigit : Reader Nat := do
  let c ← satisfying fun c => (radixDigitValue? 16 c).isSome
  pure ((radixDigitValue? 16 c).getD 0)

/-- Up to six hexadecimal digits with underscores among them, and the closing brace. -/
def unicodeDigits : Nat → Nat → Reader Nat
  | 0, value => do
    let _ ← run (· == '_')
    let _ ← char '\x7d'
    pure value
  | left + 1, value => do
    let _ ← if left = 5 then pure [] else run (· == '_')
    (do
      let d ← hexDigit
      unicodeDigits left (16 * value + d)) <|>
    (if left = 5 then failure else do
      let _ ← char '\x7d'
      pure value)

/-- The character that an escape stands for. -/
def escape (alphabet : Alphabet) : Reader Char := do
  let _ ← char '\\'
  let letter ← satisfying fun _ => true
  match letter with
  | 'n' => pure '\n'
  | 'r' => pure '\r'
  | 't' => pure '\t'
  | '\\' => pure '\\'
  | '\'' => pure '\''
  | '"' => pure '"'
  | '0' => if alphabet = .withoutNull then failure else pure '\x00'
  | 'x' =>
    let n := 16 * (← hexDigit) + (← hexDigit)
    if alphabet.hasCode n then pure (Char.ofNat n) else failure
  | 'u' =>
    if alphabet = .ascii then failure
    else
      let _ ← char '\x7b'
      let n ← unicodeDigits 6 0
      if n.isValidChar && alphabet.has (Char.ofNat n) then pure (Char.ofNat n) else failure
  | _ => failure

/-- The end of a line. -/
def lineBreak : Reader Unit := chars ['\n'] <|> chars ['\r', '\n']

/-- A backslash at the end of a line, and the spaces, tabs and ends of lines after it. -/
def continuation : Reader Unit := do
  let _ ← char '\\'
  lineBreak
  let _ ← many (chars [' '] <|> chars ['\t'] <|> lineBreak)
  pure ()

/-- A piece of a text between quotes, as the characters that it stands for. -/
def textPiece (alphabet : Alphabet) : Reader (List Char) :=
  run1 (fun c => alphabet.has c && c != '"' && c != '\\' && c != '\r') <|>
  (do
    chars ['\r', '\n']
    pure ['\n']) <|>
  (do
    continuation
    pure []) <|>
  (do
    let c ← escape alphabet
    pure [c])

/-- A text between quotes. -/
def quotedText (alphabet : Alphabet) : Reader (List Char) := do
  let _ ← char '"'
  let pieces ← many (textPiece alphabet)
  let _ ← char '"'
  pure pieces.flatten

/-- The rest of a raw text, up to the quote with the given number of signs. -/
def rawRest (alphabet : Alphabet) (signs : List Char) : Reader (List Char)
  | [] => none
  | c :: s =>
    if c == '"' && signs.isPrefixOf s then some ([], s.drop signs.length)
    else if !alphabet.has c || (c == '\r' && s.head? != some '\n') then none
    else (rawRest alphabet signs s).map fun (cs, rest) => (c :: cs, rest)

/-- A raw text, without the letters in front. -/
def rawText (alphabet : Alphabet) : Reader (List Char) := do
  let _ ← char 'r'
  let signs ← run (· == '#')
  let _ ← char '"'
  if 255 < signs.length then failure else rawRest alphabet signs

/-- An identifier without a raw mark. -/
def plainIdentifier : Reader (List Char) := do
  let c ← satisfying isIdentifierStart
  let cs ← run isIdentifierContinue
  pure (c :: cs)

/-- The letters that may follow a literal directly. -/
def suffix : Reader Unit := do
  let _ ← optional plainIdentifier
  pure ()

/-- A text or a raw text of an alphabet. -/
def textLiteral (alphabet : Alphabet) : Reader Unit := do
  chars alphabet.letters
  let _ ← quotedText alphabet <|> rawText alphabet
  suffix

/-- A character between single quotes. -/
def characterLiteral (alphabet : Alphabet) : Reader Unit := do
  chars alphabet.letters
  let _ ← char '\''
  let _ ← escape alphabet <|> satisfying fun c => c != '\\' && alphabet.has c
  let _ ← char '\''
  suffix

/-! ## Numbers -/

/-- Succeeds where no word goes on. -/
def wordEnd : Reader Unit := fun s =>
  if s.head?.any isIdentifierContinue then none else some ((), s)

/-- Decimal digits and underscores. -/
def digitRun : Reader (List Char) := run fun c => c.isDigit || c == '_'

/-- The sign and the digits of an exponent; fails if there are no digits, or a second sign. -/
def exponentRest (signed valued : Bool) : Reader Unit
  | c :: s =>
    if c == '+' || c == '-' then
      if valued then some ((), c :: s)
      else if signed then none
      else exponentRest true false s
    else if c.isDigit then exponentRest signed true s
    else if c == '_' then exponentRest signed valued s
    else if valued then some ((), c :: s) else none
  | [] => if valued then some ((), []) else none

/-- An exponent. -/
def exponent : Reader Unit := do
  let _ ← satisfying fun c => c == 'e' || c == 'E'
  exponentRest false false

/-- The point of a number: neither another point nor a name follows it. -/
def decimalPoint : Reader Unit := fun s =>
  match s with
  | '.' :: rest =>
    if rest.head?.any fun c => c == '.' || isIdentifierStart c then none else some ((), rest)
  | _ => none

/-- A number with a point, an exponent or both. -/
def floatLiteral : Reader Unit := do
  let _ ← satisfying Char.isDigit
  let _ ← digitRun
  (do
    decimalPoint
    let _ ← digitRun
    let _ ← optional exponent
    pure ()) <|> exponent
  suffix
  wordEnd

/-- The digits of an integer in a radix; a decimal digit that is too great is an error, a letter
that is too great ends the digits. -/
def integerDigits (radix : Nat) (found : Bool) : Reader Unit
  | c :: s =>
    if c == '_' then
      if !found && radix == 10 then none else integerDigits radix found s
    else if c.isDigit && (radixDigitValue? radix c).isNone then none
    else if (radixDigitValue? radix c).isSome then integerDigits radix true s
    else if found then some ((), c :: s) else none
  | [] => if found then some ((), []) else none

/-- The mark of a radix. -/
def radixMark : Reader Nat :=
  (do
    chars ['0', 'x']
    pure 16) <|>
  (do
    chars ['0', 'o']
    pure 8) <|>
  (do
    chars ['0', 'b']
    pure 2) <|> pure 10

/-- An integer. -/
def integerLiteral : Reader Unit := do
  integerDigits (← radixMark) false
  suffix
  wordEnd

/-- Any literal. -/
def literal : Reader Unit :=
  textLiteral .unicode <|> textLiteral .ascii <|> textLiteral .withoutNull <|>
    characterLiteral .ascii <|> characterLiteral .unicode <|> floatLiteral <|> integerLiteral

/-! ## Values -/

/-- The text that a spelling stands for. -/
def textValue? (spelling : String) : Option String :=
  (((quotedText .unicode <|> rawText .unicode) <* suffix).whole spelling.toList).map String.ofList

/-- Whether a spelling is that of a number. -/
def isNumeric (spelling : String) : Bool := spelling.toList.head?.any Char.isDigit

/-- Whether a spelling is that of a text over all characters. -/
def isText (spelling : String) : Bool :=
  spelling.toList.head?.any fun c => c == '"' || c == 'r'

/-! ## Positions -/

/-- The number of the digits in a radix, among which underscores may stand. -/
def digitsValue? (radix : Nat) (s : List Char) : Option Nat :=
  let digits := s.filter (· != '_')
  if digits ≠ [] ∧ digits.all fun c => (radixDigitValue? radix c).isSome then
    some (ofDigits radix digits)
  else none

/-- The number that a position among the fields of a tuple spells: an integer without letters
after it, of at most 32 bits. -/
def position? (s : List Char) : Option Nat :=
  let number := match s with
    | '0' :: 'x' :: digits => digitsValue? 16 digits
    | '0' :: 'o' :: digits => digitsValue? 8 digits
    | '0' :: 'b' :: digits => digitsValue? 2 digits
    | digits => if digits.head?.any Char.isDigit then digitsValue? 10 digits else none
  number.filter (· < UInt32.size)

/-- The positions of a path into nested tuples, which may be read as a number with a point.  A point
at its end is left out. -/
def positions? (spelling : String) : Option (List Nat) :=
  let cs := spelling.toList
  let cs := if cs.getLast? = some '.' then cs.dropLast else cs
  (cs.splitOn '.').mapM position?

example : positions? "0x1f" = some [31] ∧ positions? "1.02" = some [1, 2] ∧
    positions? "7." = some [7] ∧ positions? "1e5" = none ∧ positions? "0u8" = none := by
  decide +kernel

/-- The spelling of a text.  A null character in front of an octal digit is spelled in full. -/
def spellText (s : List Char) : String :=
  let rec go : List Char → List Char
    | [] => []
    | c :: rest =>
      if c = '\x00' && rest.head?.any fun d => '0' ≤ d && d ≤ '7' then
        ['\\', 'x', '0', '0'] ++ go rest
      else escapeChar c ++ go rest
  String.ofList ('"' :: go s ++ ['"'])

end Activation.Source
