import Activation.Toml.Literal
import Activation.Toml.Scalar

/-!
# TOML documents

A document is a sequence of lines: assignments of values to dotted keys, and headers that open a
table for the assignments after them.  `Entries.read?` gives the entries of a whole document, or
nothing if it is malformed or defines something twice.
-/

namespace Activation.Toml

open Text Text.Reader

/-- One part of a dotted key. -/
def key : Reader String :=
  String.ofList <$>
    (run1 (fun c => c.isAlphanum || c == '_' || c == '-') <|> basicText <|> literalText)

/-- The depth to which brackets and tables may be nested. -/
def nesting : Nat := 80

/-- A dotted key: its front and its last part. -/
def dottedKey : Reader (List String × String) := do
  let parts ← separated (do
    spaces
    let _ ← char '.'
    spaces) key
  match parts.getLast? with
  | some last => if parts.length ≤ nesting then pure (parts.dropLast, last) else failure
  | none => failure

/-- Whether a character may stand in a word outside of quotes. -/
def isWordChar (c : Char) : Bool :=
  c ∉ ['=', ',', '[', ']', '\x7b', '\x7d', ' ', '\t', '#', '\r', '\n']

/-- A word outside of quotes; a date may be followed by a space and a time. -/
def word : Reader (List Char) := do
  let cs ← run1 isWordChar
  if date? cs = some [] then
    (do
      let _ ← char ' '
      let more ← run1 isWordChar
      if more.head?.any Char.isDigit then pure (cs ++ ' ' :: more) else failure) <|> pure cs
  else pure cs

/-- A value without parts. -/
def scalar : Reader Value :=
  (.text ∘ String.ofList) <$> (longBasicText <|> longLiteralText <|> basicText <|> literalText) <|>
  (do
    match scalar? (← word) with
    | some v => pure v
    | none => failure)

/-- An assignment with the given gaps around its equals sign, whose value is read by the given
reader. -/
def assignment (gap : Reader Unit) (value : Reader Value) :
    Reader (List String × String × Value) := do
  let (path, last) ← dottedKey
  gap
  let _ ← char '='
  gap
  pure (path, last, ← value)

/-- Items between brackets, separated by commas, with a comma allowed after the last. -/
def bracketed {α : Type} (opening closing : Char) (item : Reader α) : Reader (List α) := do
  let _ ← char opening
  filler
  let items ← optional (do
    let items ← separated (filler *> char ',' *> filler) item
    filler
    let _ ← optional (char ',')
    filler
    pure items)
  let _ ← char closing
  pure (items.getD [])

/-- The table that assignments between braces make. -/
def tableOf? (assignments : List (List String × String × Value)) : Option Value := do
  let (_, entries) ← assignments.foldlM
    (fun (opening, entries) (path, last, v) => Entries.assign path last v opening entries)
    (Opening.header, ([] : Entries))
  some (.table .braces entries)

/-- A value whose brackets are nested no deeper than the given number. -/
def value : Nat → Reader Value
  | 0 => scalar
  | depth + 1 =>
    scalar <|> (Value.list false <$> bracketed '[' ']' (value depth)) <|> (do
      match tableOf? (← bracketed '\x7b' '\x7d' (assignment filler (value depth))) with
      | some v => pure v
      | none => failure)

/-- A line that says something. -/
inductive Statement
  | assignment (path : List String) (last : String) (value : Value)
  | table (path : List String) (last : String)
  | element (path : List String) (last : String)

/-- A header or an assignment, without the end of its line. -/
def statement : Reader Statement :=
  (do
    let _ ← chars ['[', '[']
    spaces
    let (path, last) ← dottedKey
    spaces
    let _ ← chars [']', ']']
    pure (.element path last)) <|>
  (do
    let _ ← char '['
    spaces
    let (path, last) ← dottedKey
    spaces
    let _ ← char ']'
    pure (.table path last)) <|>
  (do
    let (path, last, v) ← assignment spaces (value nesting)
    pure (.assignment path last v))

/-- The lines of a document up to the given number, blank ones left out. -/
def lines : Nat → Reader (List Statement)
  | 0 => failure
  | n + 1 =>
    (do
      spaces
      atEnd
      pure []) <|>
    (do
      lineEnd
      lines n) <|>
    (do
      spaces
      let s ← statement
      lineEnd
      pure (s :: (← lines n)))

/-- A document that is being put together: its entries, and the path of the current header. -/
structure Draft where
  root : Entries
  current : List String

/-- Adds what a line says. -/
def Draft.add (d : Draft) : Statement → Option Draft
  | .assignment path last v => do
    some ⟨← d.root.assignUnder d.current path last v, d.current⟩
  | .table path last => do some ⟨← d.root.openTable path last, path ++ [last]⟩
  | .element path last => do some ⟨← d.root.openElement path last, path ++ [last]⟩

/-- The entries of a document.  A byte order mark in front is skipped. -/
def Entries.read? (text : String) : Option Entries := do
  let chars := match text.toList with
    | '\ufeff' :: rest => rest
    | chars => chars
  let statements ← (lines (chars.length + 1)).whole chars
  let draft ← statements.foldlM Draft.add ⟨[], []⟩
  some draft.root

end Activation.Toml
