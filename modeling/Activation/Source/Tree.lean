import Activation.Text.Identifier

/-!
# Source trees

Source text as tokens, nested by brackets.  The same type serves the reader of tokens, which makes
leaves and groups only, and the grammar, which adds nodes that say what a stretch of source is.  A
tree of the grammar holds all tokens of its source, in their order.

`Tree.tokens` forgets the nesting and the nodes.  `spell` writes tokens with no more space than
keeps words apart.
-/

namespace Activation.Source

/-- A pair of brackets. -/
inductive Bracket
  | round
  | square
  | curly
deriving DecidableEq, Repr

/-- The opening bracket. -/
def Bracket.opening : Bracket → Char
  | .round => '('
  | .square => '['
  | .curly => '\x7b'

/-- The closing bracket. -/
def Bracket.closing : Bracket → Char
  | .round => ')'
  | .square => ']'
  | .curly => '\x7d'

/-- A token. -/
inductive Token
  /-- An identifier or a keyword; a raw identifier keeps its mark. -/
  | word (name : String)
  /-- A lifetime, without its quote. -/
  | lifetime (name : String)
  /-- Punctuation.  A single character read from source knows whether another one follows it
  directly. -/
  | mark (text : String) (joint : Bool)
  /-- A number, a character or a text, as it is spelled. -/
  | literal (spelling : String)
deriving DecidableEq, Repr

/-- The spelling of a token. -/
def Token.text : Token → String
  | .word name => name
  | .lifetime name => "'" ++ name
  | .mark text _ => text
  | .literal spelling => spelling

/-- What a stretch of source is. -/
inductive Kind
  /-- Source that is kept as it is, down to the spaces between its marks. -/
  | verbatim
  -- Types and bounds.
  /-- A type that is a path. -/
  | pathType
  /-- A type that is a raw pointer. -/
  | pointerType
  /-- A type that a macro makes, possibly with lifetimes in front. -/
  | macroType
  /-- A type that is a sum of bounds, without a word in front. -/
  | boundSum
  /-- Any other type. -/
  | otherType
  /-- The part of a path in front of its names, `<T as Trait>`. -/
  | qualifier
  /-- A path that is not a type. -/
  | path
  /-- A name of a path with its arguments. -/
  | segment
  /-- Arguments between angle brackets. -/
  | angleArguments
  /-- Arguments between round brackets, with their result. -/
  | roundArguments
  | lifetimeArgument
  | constantArgument
  /-- An argument that is given or bounded by its name. -/
  | bindingArgument
  /-- The lifetimes that something holds for. -/
  | forLifetimes
  | bound
  /-- Bounds with the colon in front of them, which counts only if there are any. -/
  | bounds
  /-- The parameters that a type captures. -/
  | captures
  | capturedParameter
  -- Patterns.
  /-- A pattern that is a name, possibly with a binding mode. -/
  | namePattern
  /-- A range that is open at one end. -/
  | openRange
  /-- A range with two ends. -/
  | closedRange
  | otherPattern
  /-- The dots between the ends of a range in a pattern. -/
  | rangeLimits
  -- Expressions.
  /-- A binary operation, with its operator between the operands. -/
  | operation
  /-- A conversion into a type. -/
  | cast
  | range
  /-- An expression that ends with its block. -/
  | blockLike
  /-- A macro call with braces. -/
  | braceCall
  /-- Attributes and the expression that they are about. -/
  | attributed
  /-- A jump out of a loop, possibly with a value. -/
  | exit
  /-- A block that is written in round brackets, because it could be read as one that follows. -/
  | guarded
  | closureParameter
  /-- The position of a field of a tuple. -/
  | position
  | otherExpression
  | statement
  -- Items.
  | attributeItem
  /-- The visibility `pub`. -/
  | openVisibility
  /-- A visibility with a scope, such as `pub(crate)`. -/
  | scopedVisibility
  /-- Parameters between angle brackets. -/
  | generics
  | genericParameter
  | conditions
  /-- The result type of a function, with its arrow. -/
  | result
  /-- The parameters of a function. -/
  | parameters
  | receiver
  | parameter
  /-- The ellipsis at the end of parameters. -/
  | variadic
  /-- A function with a body. -/
  | function
  | body
  /-- The trait of an implementation, up to `for`. -/
  | implementedTrait
  | implementation
  | otherItem
  | record
  | enumeration
  | union
  | variant
  /-- The fields of a record or of a variant. -/
  | fields
  /-- The value of a variant, with its equals sign. -/
  | discriminant
deriving DecidableEq, Repr

/-- A source tree. -/
inductive Tree
  | leaf (token : Token)
  | group (bracket : Bracket) (inside : List Tree)
  | node (kind : Kind) (parts : List Tree)

namespace Tree

/-- The tree of a word. -/
def word (name : String) : Tree := .leaf (.word name)

/-- The tree of a punctuation mark. -/
def mark (text : String) : Tree := .leaf (.mark text false)

/-- The kind of a node. -/
def kind? : Tree → Option Kind
  | .node k _ => some k
  | _ => none

/-- Whether the tree is a node of the kind. -/
def isNode (k : Kind) (t : Tree) : Bool := t.kind? == some k

/-- The parts of a node or a group. -/
def parts : Tree → List Tree
  | .leaf _ => []
  | .group _ inside => inside
  | .node _ parts => parts

/-- Whether a tree is a node. -/
def isAnyNode (t : Tree) : Bool := t.kind?.isSome

/-- Whether the tree is the given word. -/
def isWord (name : String) : Tree → Bool
  | .leaf (.word w) => w == name
  | _ => false

/-- Whether the tree is the given mark. -/
def isMark (text : String) : Tree → Bool
  | .leaf (.mark m _) => m == text
  | _ => false

/-- The token of a bracket. -/
def bracketToken (c : Char) : Token := .mark (String.ofList [c]) false

mutual

/-- The tokens of a tree. -/
def tokens : Tree → List Token
  | .leaf t => [t]
  | .group b inside => bracketToken b.opening :: tokensOf inside ++ [bracketToken b.closing]
  | .node _ parts => tokensOf parts

/-- The tokens of several trees. -/
def tokensOf : List Tree → List Token
  | [] => []
  | t :: ts => t.tokens ++ tokensOf ts

end

mutual

/-- The number of leaves and brackets of a tree. -/
def size : Tree → Nat
  | .leaf _ => 1
  | .group _ inside => 2 + totalSize inside
  | .node _ parts => totalSize parts

/-- The number of leaves and brackets of several trees. -/
def totalSize : List Tree → Nat
  | [] => 0
  | t :: ts => t.size + totalSize ts

end

end Tree

/-! ## Spelling -/

/-- Whether a space has to stand between two tokens. -/
def needsSpace (before after : Token) : Bool :=
  (before.text.toList.getLast?.any Text.isWordChar) &&
    (after.text.toList.head?.any fun c => Text.isWordChar c || c == '\'' || c == '"')

/-- The tokens in a row, with a space only where one is needed. -/
def spell : List Token → String
  | [] => ""
  | [t] => t.text
  | t :: u :: rest => t.text ++ (if needsSpace t u then " " else "") ++ spell (u :: rest)

example : spell [.mark "&" false, .lifetime "a", .word "mut", .word "T"] = "&'a mut T" := by
  decide +kernel

end Activation.Source
