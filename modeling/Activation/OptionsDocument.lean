import Activation.Options
import Activation.Text.Binary64
import Activation.Text.Quoted
import Activation.Toml.Document
import Activation.Width

/-!
# Options as a document

Options are written as a TOML document of truth values.  A key that is missing keeps its standard
value; a key that is no option is refused, and so is a value that is no truth value.  Keys are
looked at in alphabetical order, so that of two faults the one under the first key is reported.
-/

namespace Activation

open Text Toml

/-- Why a document is no options. -/
inductive OptionsError
  /-- The document is malformed. -/
  | malformed
  /-- A number cannot be read, or is too large to be held. -/
  | outOfRange
  | unknownKey (key : String)
  /-- A value is no truth value; the text says what it is. -/
  | notBoolean (found : String)
deriving DecidableEq, Repr

namespace Options

/-- The keys of the options, in the order in which they are listed. -/
def keys : List String := ["include_non_public", "default_value_fallback", "enum_fallback"]

/-- The options with one of them set by its key. -/
def set? (o : Options) (key : String) (b : Bool) : Option Options :=
  if key = "include_non_public" then some { o with includeNonPublic := b }
  else if key = "default_value_fallback" then some { o with zeroFallback := b }
  else if key = "enum_fallback" then some { o with enumerationFallback := b }
  else none

end Options

/-- A text between backquotes. -/
def backquoted (s : String) : String := "\x60" ++ s ++ "\x60"

namespace OptionsError

/-- The text of an error; the text of a malformed document belongs to its format. -/
def message? : OptionsError → Option String
  | .malformed | .outOfRange => none
  | .unknownKey key =>
    some ("unknown field " ++ backquoted key ++ ", expected one of " ++
      String.intercalate ", " (Options.keys.map backquoted))
  | .notBoolean found => some ("invalid type: " ++ found ++ ", expected a boolean")

end OptionsError

/-- What an integer is called: by itself within 64 bits, with its width within 128 bits. -/
def integerLabel? (n : Int) : Option String :=
  let label := "integer " ++ backquoted (decimal n)
  if fitsSigned 64 n || fitsUnsigned 64 n then some label
  else if fitsSigned 128 n then some (label ++ " as i128")
  else if fitsUnsigned 128 n then some (label ++ " as u128")
  else none

/-- What a floating-point number is called; a whole number keeps one decimal place. -/
def floatingLabel? (x : Floating) : Option String :=
  let named (s : String) := "floating point " ++ backquoted s
  let signed (negative : Bool) (s : String) := if negative then "-" ++ s else s
  match x with
  | .undefined => some (named "NaN")
  | .infinite negative => some (named (signed negative "inf"))
  | .decimal negative digits power => do
    let chars := (← Binary64.ofDecimal? digits power).positionalChars
    let chars := if chars.contains '.' then chars else chars ++ ['.', '0']
    some (named (signed negative (String.ofList chars)))

namespace Options

/-- The truth value that an option is given. -/
def booleanOf : Value → Except OptionsError Bool
  | .boolean b => .ok b
  | .text s => .error (.notBoolean ("string " ++ quoted s))
  | .integer n => .error (((integerLabel? n).map .notBoolean).getD .outOfRange)
  | .floating x => .error (((floatingLabel? x).map .notBoolean).getD .outOfRange)
  | .unreadable => .error .outOfRange
  | .list _ _ => .error (.notBoolean "sequence")
  | .moment | .table _ _ => .error (.notBoolean "map")

/-- Sets the option that an entry names. -/
def setEntry (o : Options) (entry : String × Value) : Except OptionsError Options :=
  if keys.contains entry.1 then do
    let b ← booleanOf entry.2
    .ok ((o.set? entry.1 b).getD o)
  else .error (.unknownKey entry.1)

/-- The options that a document gives. -/
def read (text : String) : Except OptionsError Options :=
  match Entries.read? text with
  | none => .error .malformed
  | some entries =>
    (entries.mergeSort fun a b => a.1 ≤ b.1).foldlM setEntry standard

end Options

end Activation
