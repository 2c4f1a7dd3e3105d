import Activation.Text.Decimal
import Activation.Text.Reader

/-!
# Spaces, comments and quoted texts

A text stands between double quotes, with escapes, or between single quotes, as it is; between
three quotes it may run over several lines.  Control characters other than the tab stand nowhere,
and a carriage return only in front of a line feed.
-/

namespace Activation.Toml

open Text Text.Reader

/-- Whether a character may stand in a comment or a text. -/
def isPlain (c : Char) : Bool := c == '\t' || (0x20 ≤ c.toNat && c.toNat != 0x7f)

def isSpace (c : Char) : Bool := c == ' ' || c == '\t'

/-- Spaces and tabs. -/
def spaces : Reader Unit := do
  let _ ← run isSpace
  pure ()

/-- The end of a line, as it stands. -/
def lineBreak : Reader (List Char) :=
  (do
    let _ ← char '\n'
    pure ['\n']) <|>
  (do
    let _ ← chars ['\r', '\n']
    pure ['\r', '\n'])

/-- A comment, up to the end of its line. -/
def comment : Reader Unit := do
  let _ ← char '#'
  let _ ← run isPlain
  pure ()

/-- The rest of a line on which nothing more stands. -/
def lineEnd : Reader Unit := do
  spaces
  let _ ← optional comment
  (do
    let _ ← lineBreak
    pure ()) <|> atEnd

/-- Spaces, line breaks and comments, as they may stand inside brackets. -/
def filler : Reader Unit := do
  let _ ← many ((do
    let _ ← satisfying isSpace
    pure ()) <|> (do
    let _ ← lineBreak
    pure ()) <|> comment)
  pure ()

/-! ## Quoted texts -/

/-- The given number of hexadecimal digits, as a character. -/
def characterCode (digits : Nat) : Reader Char := fun s =>
  let ds := s.take digits
  if ds.length = digits ∧ ds.all fun c => (radixDigitValue? 16 c).isSome then
    let n := ofDigits 16 ds
    if n.isValidChar then some (Char.ofNat n, s.drop digits) else none
  else none

/-- The character that an escape stands for. -/
def escape : Reader Char := do
  let _ ← char '\\'
  let mark ← satisfying fun _ => true
  match mark with
  | 'b' => pure '\x08'
  | 't' => pure '\t'
  | 'n' => pure '\n'
  | 'f' => pure '\x0c'
  | 'r' => pure '\r'
  | 'e' => pure '\x1b'
  | '"' => pure '"'
  | '\\' => pure '\\'
  | 'x' => characterCode 2
  | 'u' => characterCode 4
  | 'U' => characterCode 8
  | _ => failure

/-- A text between double quotes. -/
def basicText : Reader (List Char) := do
  let _ ← char '"'
  let cs ← many (satisfying (fun c => isPlain c && c != '"' && c != '\\') <|> escape)
  let _ ← char '"'
  pure cs

/-- A text between single quotes. -/
def literalText : Reader (List Char) := do
  let _ ← char '\''
  let cs ← run fun c => isPlain c && c != '\''
  let _ ← char '\''
  pure cs

/-- Up to two quotes that belong to the text, and the three that end it. -/
def closing (quote : Char) : Reader (List Char) := do
  let quotes ← run (· == quote)
  if 3 ≤ quotes.length ∧ quotes.length ≤ 5 then pure (quotes.drop 3) else failure

/-- One or two quotes in the middle of a text. -/
def innerQuotes (quote : Char) : Reader (List Char) := do
  let quotes ← run1 (· == quote)
  if quotes.length < 3 then pure quotes else failure

/-- A backslash at the end of a line: it and all blanks and line breaks after it are skipped. -/
def continuation : Reader (List Char) := do
  let _ ← char '\\'
  spaces
  let _ ← lineBreak
  let _ ← many ((do
    let _ ← satisfying isSpace
    pure ()) <|> (do
    let _ ← lineBreak
    pure ()))
  pure []

/-- A text between three quotes; a line break right after the first three is skipped. -/
def longText (quote : Char) (piece : Reader (List Char)) : Reader (List Char) := do
  let _ ← chars [quote, quote, quote]
  let _ ← optional lineBreak
  let pieces ← many (piece <|> lineBreak <|> innerQuotes quote)
  let tail ← closing quote
  pure (pieces.flatten ++ tail)

/-- A text between three double quotes. -/
def longBasicText : Reader (List Char) :=
  longText '"' (run1 (fun c => isPlain c && c != '"' && c != '\\') <|> continuation <|>
    ((fun c => [c]) <$> escape))

/-- A text between three single quotes. -/
def longLiteralText : Reader (List Char) :=
  longText '\'' (run1 fun c => isPlain c && c != '\'')

end Activation.Toml
