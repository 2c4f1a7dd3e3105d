import Activation.Source.Literal
import Activation.Source.Tree

/-!
# Reading tokens

`Tree.read?` reads source as trees of tokens and groups.  Blanks and comments separate tokens;
comments of documentation are read as the attributes that they stand for.  Source with unbalanced
brackets, or with a character that begins no token, is refused.
-/

namespace Activation.Source

open Text Text.Reader

/-! ## Blanks and comments -/

/-- Whether a character separates tokens; besides blanks these are the two direction marks. -/
def isSeparator (c : Char) : Bool := isBlank c || c == '\u200e' || c == '\u200f'

/-- A line up to its end, which stays. -/
def lineRest : Reader (List Char)
  | [] => some ([], [])
  | '\n' :: s => some ([], '\n' :: s)
  | '\r' :: '\n' :: s => some ([], '\n' :: s)
  | c :: s => (lineRest s).map fun (cs, rest) => (c :: cs, rest)

/-- The rest of a comment between marks, which may hold others, up to its closing mark. -/
def blockRest : Nat → Reader (List Char)
  | _, [] => none
  | depth, '/' :: '*' :: s =>
    (blockRest (depth + 1) s).map fun (cs, rest) => ('/' :: '*' :: cs, rest)
  | 0, '*' :: '/' :: s => some ([], s)
  | depth + 1, '*' :: '/' :: s =>
    (blockRest depth s).map fun (cs, rest) => ('*' :: '/' :: cs, rest)
  | depth, c :: s => (blockRest depth s).map fun (cs, rest) => (c :: cs, rest)

/-- Succeeds where one of the given texts does not stand. -/
def unlessNext (texts : List (List Char)) : Reader Unit := fun s =>
  if texts.any (·.isPrefixOf s) then none else some ((), s)

/-- Fails where none of the given texts stands. -/
def next (texts : List (List Char)) : Reader Unit := fun s =>
  if texts.any (·.isPrefixOf s) then some ((), s) else none

/-- A comment that says nothing about the program. -/
def plainComment : Reader Unit :=
  (do
    chars ['/', '/']
    unlessNext [['!']]
    next [['/', '/']] <|> unlessNext [['/']]
    let _ ← lineRest
    pure ()) <|>
  chars ['/', '*', '*', '/'] <|>
  (do
    chars ['/', '*']
    unlessNext [['!']]
    next [['*', '*']] <|> unlessNext [['*']]
    let _ ← blockRest 0
    pure ())

/-- Blanks and comments. -/
def gap : Reader Unit := do
  let _ ← many ((do
    let _ ← run1 isSeparator
    pure ()) <|> plainComment)
  pure ()

/-- Whether every carriage return stands in front of a line feed. -/
def hasNoBareReturn : List Char → Bool
  | [] => true
  | '\r' :: s => s.head? == some '\n' && hasNoBareReturn s
  | _ :: s => hasNoBareReturn s

/-- A comment of documentation, as the attribute that it stands for. -/
def documentation : Reader (List Tree) := do
  let (inner, text) ←
    (do
      chars ['/', '/', '!']
      pure (true, ← lineRest)) <|>
    (do
      chars ['/', '*', '!']
      pure (true, ← blockRest 0)) <|>
    (do
      chars ['/', '/', '/']
      unlessNext [['/']]
      pure (false, ← lineRest)) <|>
    (do
      chars ['/', '*', '*']
      unlessNext [['*'], ['/']]
      pure (false, ← blockRest 0))
  if !hasNoBareReturn text then failure
  else
    let content := [.word "doc", .mark "=", .leaf (.literal (spellText text))]
    pure (.mark "#" :: (if inner then [.mark "!"] else []) ++ [.group .square content])

/-! ## Tokens -/

/-- The characters of punctuation. -/
def markChars : List Char :=
  ['~', '!', '@', '#', '$', '%', '^', '&', '*', '-', '=', '+', '|', ';', ':', ',', '<', '.', '>',
    '/', '?', '\'']

/-- A character of punctuation that does not begin a comment. -/
def markChar : Reader Char := do
  unlessNext [['/', '/'], ['/', '*']]
  satisfying fun c => markChars.contains c

/-- The words that cannot be raw identifiers. -/
def neverRaw : List (List Char) :=
  [['_'], ['s', 'u', 'p', 'e', 'r'], ['s', 'e', 'l', 'f'], ['S', 'e', 'l', 'f'],
    ['c', 'r', 'a', 't', 'e']]

/-- An identifier, possibly raw. -/
def identifier : Reader (List Char) :=
  (do
    chars ['r', '#']
    let name ← plainIdentifier
    if neverRaw.contains name then failure else pure ('r' :: '#' :: name)) <|>
  (do
    unlessNext [['r', '#']]
    plainIdentifier)

/-- The beginnings of quoted literals, which begin no identifier. -/
def literalStarts : List (List Char) :=
  [['r', '"'], ['r', '#', '"'], ['r', '#', '#'], ['b', '"'], ['b', '\''], ['b', 'r', '"'],
    ['b', 'r', '#'], ['c', '"'], ['c', 'r', '"'], ['c', 'r', '#']]

/-- A literal, as it is spelled. -/
def literalToken : Reader Token := fun s =>
  match literal s with
  | some (_, rest) => some (.literal (String.ofList (s.take (s.length - rest.length))), rest)
  | none => none

/-- The beginnings of texts that begin like an identifier. -/
def textStarts : List (List Char) :=
  [['r', '"'], ['b', '"'], ['b', 'r', '"'], ['c', '"'], ['c', 'r', '"']]

/-- A lifetime: a quote and a name that no other quote follows.  Where the name begins a text, the
quote stands alone and the text follows it. -/
def lifetimeToken : Reader Token := do
  let _ ← char '\''
  (do
    next textStarts
    pure (.mark "'" true)) <|> do
  let name ← identifier
  if ['r', '#'].isPrefixOf name then unlessNext [['\'']] else unlessNext [['\''], ['#']]
  pure (.lifetime (String.ofList name))

/-- A character of punctuation. -/
def markToken : Reader Token := do
  let c ← markChar
  if c == '\'' then failure
  else fun s => some (.mark (String.ofList [c]) (markChar s).isSome, s)

/-- A word. -/
def wordToken : Reader Token := do
  unlessNext literalStarts
  let name ← identifier
  pure (.word (String.ofList name))

/-- A token. -/
def token : Reader Token := literalToken <|> lifetimeToken <|> markToken <|> wordToken

/-- A literal that stands for a value which could not be read. -/
def faultToken : Reader Token := do
  chars "(/*ERROR*/)".toList
  pure (.literal "(/*ERROR*/)")

/-! ## Groups -/

/-- An open group: its bracket, and the trees in front of it, last first. -/
structure OpenGroup where
  bracket : Bracket
  before : List Tree

/-- The bracket that a character opens. -/
def openedBy? (c : Char) : Option Bracket :=
  [Bracket.round, .square, .curly].find? (·.opening == c)

/-- The bracket that a character closes. -/
def closedBy? (c : Char) : Option Bracket :=
  [Bracket.round, .square, .curly].find? (·.closing == c)

/-- Reads on inside the given open groups, innermost first, after the given trees, last first.  The
number bounds the steps. -/
def readFrom : Nat → List OpenGroup → List Tree → List Char → Option (List Tree)
  | 0, _, _, _ => none
  | steps + 1, groups, done, s =>
    match gap s with
    | none => none
    | some (_, s) =>
      match documentation s with
      | some (trees, rest) => readFrom steps groups (trees.reverse ++ done) rest
      | none =>
        match s with
        | [] => if groups.isEmpty then some done.reverse else none
        | c :: rest =>
          match faultToken (c :: rest) with
          | some (t, rest) => readFrom steps groups (.leaf t :: done) rest
          | none =>
            match openedBy? c, closedBy? c with
            | some b, _ => readFrom steps (⟨b, done⟩ :: groups) [] rest
            | none, some b =>
              match groups with
              | g :: groups =>
                if g.bracket = b then
                  readFrom steps groups (.group b done.reverse :: g.before) rest
                else none
              | [] => none
            | none, none =>
              match token (c :: rest) with
              | some (t, rest) => readFrom steps groups (.leaf t :: done) rest
              | none => none

/-- The trees of a source text. -/
def Tree.read? (source : String) : Option (List Tree) :=
  let cs := source.toList
  readFrom (cs.length + 1) [] [] cs

end Activation.Source
