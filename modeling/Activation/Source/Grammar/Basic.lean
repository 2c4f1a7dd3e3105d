import Activation.Source.Literal
import Activation.Source.Pattern

/-!
# The rules of the grammar

The names of the rules, and the small phrases that all parts of the grammar use: names, plain paths,
literals, attributes, and visibilities.
-/

namespace Activation.Source

/-- How tightly an operator binds. -/
inductive Rank
  | lowest
  | assignment
  | range
  | disjunction
  | conjunction
  | comparison
  | union
  | exclusion
  | intersection
  | shift
  | sum
  | product
  | cast
deriving DecidableEq, Repr

/-- The ranks in order, the loosest first. -/
def Rank.level (r : Rank) : Nat := r.ctorIdx

/-- The names of the rules. -/
inductive Rule
  /-- A type; `plus` if bounds may be added to it with plus signs. -/
  | type (plus : Bool)
  /-- A name of a path with its arguments, in an expression or elsewhere. -/
  | segment (inExpression : Bool)
  /-- A generic argument. -/
  | argument
  /-- A bound, which may capture parameters or hold in constants only if the signs allow it. -/
  | bound (capturing constant : Bool)
  /-- A generic parameter; `unnamed` if it may be without a name. -/
  | genericParameter (unnamed : Bool)
  /-- A pattern without alternatives. -/
  | pattern
  /-- A pattern with alternatives. -/
  | alternatives
  /-- An expression; `braces` if it may hold records in braces at its own level. -/
  | expression (braces : Bool)
  /-- An expression without binary operators. -/
  | operand (braces : Bool)
  /-- An expression that a block at its front ends. -/
  | shortExpression
  /-- The right operand of an operator of the given rank. -/
  | rightOperand (rank : Rank) (braces : Bool)
  | statements
  | item
  /-- The fields of a record between braces. -/
  | namedFields
  /-- What a `use` item names; `outer` if a name may begin at the root. -/
  | usedNames (outer : Bool)
deriving DecidableEq, Repr

/-- A pattern of the grammar. -/
abbrev Phrase := Pattern Rule

namespace Grammar

open Pattern

/-! ## Names -/

/-- The words that are no identifiers. -/
def reserved : List String :=
  ["_", "abstract", "as", "async", "await", "become", "box", "break", "const", "continue", "crate",
    "do", "dyn", "else", "enum", "extern", "false", "final", "fn", "for", "if", "impl", "in", "let",
    "loop", "macro", "match", "mod", "move", "mut", "override", "priv", "pub", "ref", "return",
    "Self", "self", "static", "struct", "super", "trait", "true", "try", "type", "typeof", "unsafe",
    "unsized", "use", "virtual", "where", "while", "yield"]

/-- Whether a word is an identifier. -/
def isIdentifier (w : String) : Bool := !reserved.contains w

/-- An identifier. -/
def identifier : Phrase := .word isIdentifier

/-- An identifier, or the word for none. -/
def identifierOrNone : Phrase := .word fun w => isIdentifier w || w == "_"

/-- A word of a path without arguments. -/
def pathWord : Phrase :=
  .word fun w => isIdentifier w || ["super", "self", "Self", "crate"].contains w

/-- A path without arguments. -/
def plainPath : Phrase :=
  sequence [maybe (mark "::"), pathWord, many (after (mark "::") pathWord)]

/-! ## Groups -/

/-- Any trees up to the end, kept as they are. -/
def anything : Phrase := verbatim everything

/-- A group of any brackets, the inside of which is kept as it is. -/
def anyGroup : Phrase := firstOf [group .round anything, group .square anything, group .curly anything]

/-- A group of round brackets, of whatever content. -/
def anyRound : Phrase := group .round everything

/-- A group of curly brackets, of whatever content. -/
def anyCurly : Phrase := group .curly everything

/-! ## Literals -/

/-- A number, a character, a text or a truth value; a number may be negative. -/
def constant : Phrase :=
  firstOf [.literal fun _ => true, oneOf ["true", "false"], mark "-" ++ .literal isNumeric]

/-- The calling convention of a function. -/
def convention : Phrase := keyword "extern" ++ maybe (.literal isText)

/-- The position of a field of a tuple. -/
def position : Phrase :=
  node .position (.literal fun l => (position? l.toList).isSome)

/-! ## Attributes -/

/-- What an attribute says: its path, and arguments or a value. -/
def attributeContent : Phrase :=
  node .path (ifNext (keyword "unsafe") (keyword "unsafe") plainPath) ++
    choose
      [(anyGroup, anyGroup),
        (mark "=", sequence
          [mark "=", notNext (mark "#" ++ group .square everything), rule (.expression true)])]
      nothing

/-- An attribute of what follows. -/
def outerAttribute : Phrase := node .attributeItem (mark "#" ++ group .square attributeContent)

/-- An attribute of what it stands in. -/
def innerAttribute : Phrase :=
  node .attributeItem (sequence [mark "#", mark "!", group .square attributeContent])

def outerAttributes : Phrase := many (whenNext (mark "#") outerAttribute)

def innerAttributes : Phrase := many (whenNext (mark "#" ++ mark "!") innerAttribute)

/-- Attributes as far as they have to be looked over to see what follows them. -/
def attributesAhead : Phrase := many (after (mark "#") (group .square everything))

/-! ## Blocks -/

/-- Statements between braces. -/
def block : Phrase := group .curly (rule .statements)

/-- Statements between braces, possibly with attributes in front. -/
def attributedBlock : Phrase := group .curly (innerAttributes ++ rule .statements)

/-! ## Visibility -/

def visibility : Phrase :=
  let scope := keyword "pub" ++ group .round (oneOf ["crate", "self", "super"])
  let path (inside : Phrase) : Phrase := keyword "pub" ++ group .round (keyword "in" ++ inside)
  choose
    [(scope, node .scopedVisibility scope),
      (path everything, node .scopedVisibility (path plainPath)),
      (keyword "pub", node .openVisibility (keyword "pub"))]
    nothing

end Grammar

end Activation.Source
