import Activation.Source.Literal
import Activation.Source.Tree
import Activation.Text.Decimal

/-!
# Written form

Source is written in a form of its own, in which two sources that differ only in what does not count
are the same.  Lifetimes come before other parameters, empty lists of parameters and conditions are
left out, positions are written in decimal, and round brackets are added where an expression could
be read in another way.  `Tree.written` is the tree in that form; source that is kept as it is stays
so.

`Tree.text` writes the form out.  `Tree.spelling` is what it is compared by: the single marks, each
with whether the next one belongs to it.
-/

namespace Activation.Source

namespace Tree

/-! ## Looking into trees -/

mutual

/-- The first token of a tree, but for attributes. -/
def leadingToken? : Tree → Option Token
  | .leaf t => some t
  | .group b _ => some (bracketToken b.opening)
  | .node .attributeItem _ => none
  | .node _ parts => leadingTokenOf? parts

/-- The first token of several trees, but for attributes. -/
def leadingTokenOf? : List Tree → Option Token
  | [] => none
  | t :: ts => (leadingToken? t).or (leadingTokenOf? ts)

end

/-- Whether a tree begins with a lifetime. -/
def leadsWithLifetime (t : Tree) : Bool :=
  match t.leadingToken? with
  | some (.lifetime _) => true
  | _ => false

mutual

/-- Whether a type ends in a name to which arguments could be added. -/
def endsInName : Tree → Bool
  | .leaf _ => false
  | .group _ _ => false
  | .node .segment parts => parts.length == 1
  | .node .bound [.group .round inside] => endInName inside
  | .node .verbatim _ => false
  | .node .macroType _ => false
  | .node _ parts => endInName parts

/-- Whether the last of several trees ends in a name to which arguments could be added. -/
def endInName : List Tree → Bool
  | [] => false
  | [t] => endsInName t
  | _ :: t :: ts => endInName (t :: ts)

end

mutual

/-- The kind of the leftmost operand of an expression. -/
def leftmostKind? : Tree → Option Kind
  | .node .operation parts => leftmostKindOf? parts
  | .node .cast parts => leftmostKindOf? parts
  | .node k _ => some k
  | _ => none

/-- The kind of the leftmost operand of the first of several expressions. -/
def leftmostKindOf? : List Tree → Option Kind
  | [] => none
  | t :: _ => leftmostKind? t

end

/-! ## Rules -/

/-- Whether an element between angle brackets is a lifetime. -/
def isLifetimeElement (t : Tree) : Bool :=
  match t with
  | .node .lifetimeArgument _ => true
  | .node .genericParameter _ | .node .capturedParameter _ => t.leadsWithLifetime
  | _ => false

/-- Elements, each with whether a comma follows it. -/
def elementsWithCommas : List Tree → List (Tree × Bool)
  | .node k parts :: .leaf (.mark "," _) :: rest =>
    (.node k parts, true) :: elementsWithCommas rest
  | .node k parts :: rest => (.node k parts, false) :: elementsWithCommas rest
  | _ :: rest => elementsWithCommas rest
  | [] => []

/-- Puts elements in a row, with a comma after each that had one and between any two. -/
def rowOf : List (Tree × Bool) → List Tree
  | [] => []
  | [(t, comma)] => t :: if comma then [.mark ","] else []
  | (t, _) :: rest => t :: .mark "," :: rowOf rest

/-- The parts of a list between angle brackets with the lifetimes moved to the front. -/
def lifetimesFirst (parts : List Tree) : List Tree :=
  let isLifetime (e : Tree × Bool) : Bool := e.1.isLifetimeElement
  let elements := elementsWithCommas parts
  parts.takeWhile (!·.isAnyNode) ++
    rowOf (elements.filter isLifetime ++ elements.filter (!isLifetime ·)) ++
    (if elements.isEmpty then [] else [.mark ">"])

/-- A path without the empty angle brackets that stand in front of round ones. -/
def withoutEmptyAngles : List Tree → List Tree
  | [.node .segment (name :: _), .node .roundArguments parts] =>
    [.node .segment [name], .node .roundArguments parts]
  | t :: ts => t :: withoutEmptyAngles ts
  | [] => []

mutual

/-- The left operand of an operator that could open a list of arguments: a conversion at its end is
put into brackets if it ends in a name. -/
def guardCast : Tree → Tree
  | .node .cast parts =>
    if endInName parts then .group .round [.node .cast parts] else .node .cast parts
  | .node .operation parts => .node .operation (guardLastCast parts)
  | t => t

/-- The parts of an operation with its right operand guarded. -/
def guardLastCast : List Tree → List Tree
  | [] => []
  | [t] => [guardCast t]
  | t :: u :: ts => t :: guardLastCast (u :: ts)

end

/-- Whether brackets hold attributes of what they stand in. -/
def holdsAttributes (inside : List Tree) : Bool := inside.any (·.isNode .attributeItem)

mutual

/-- An expression with a plain block at its front guarded. -/
def guardBlock : Tree → Tree
  | .node .blockLike [.group b inside] =>
    let block := Tree.node .blockLike [.group b inside]
    if holdsAttributes inside then block else .node .guarded [block]
  | .node .operation parts => .node .operation (guardFrontBlock parts)
  | .node .cast parts => .node .cast (guardFrontBlock parts)
  | .node .otherExpression parts => .node .otherExpression (guardFrontBlock parts)
  | t => t

/-- Expressions with a plain block at the front of the first one guarded. -/
def guardFrontBlock : List Tree → List Tree
  | [] => []
  | t :: ts => guardBlock t :: ts

end

/-- Positions with points between them. -/
def positionsRow : List Nat → List Tree
  | [] => []
  | [n] => [.leaf (.literal (Text.decimal n))]
  | n :: ns => .leaf (.literal (Text.decimal n)) :: .mark "." :: positionsRow ns

/-- The position of a field in decimal; a point at its end is kept. -/
def decimalPosition : List Tree → List Tree
  | [.leaf (.literal l)] =>
    match positions? l with
    | some ns => positionsRow ns ++ if l.toList.getLast? = some '.' then [.mark "."] else []
    | none => [.leaf (.literal l)]
  | parts => parts

/-- Attributes and their expression.  A range is put into brackets, and source that is kept as it is
has no attributes. -/
def attributedParts (parts : List Tree) : List Tree :=
  match parts.getLast? with
  | some e =>
    match e.leftmostKind? with
    | some .range => parts.dropLast ++ [.group .round [e]]
    | some .verbatim => [e]
    | _ => parts
  | none => []

/-- The parts of a node, arranged for writing. -/
def arrange (k : Kind) (parts : List Tree) : List Tree :=
  match k with
  | .angleArguments | .captures => lifetimesFirst parts
  | .generics => if parts.any (·.isAnyNode) then lifetimesFirst parts else []
  | .bounds | .conditions => if parts.length ≤ 1 then [] else parts
  | .roundArguments => parts.dropWhile (·.isMark "::")
  | .path => withoutEmptyAngles parts
  | .macroType => parts.filter (!·.isNode .forLifetimes)
  | .bound =>
    match parts with
    | [.group .round [.node .boundSum [.node .bound [.group .round inside]]]] =>
      [.group .round inside]
    | parts => parts
  | .rangeLimits => [.mark "..="]
  | .position => decimalPosition parts
  | .variant => parts.filter fun t => !t.isNode .openVisibility && !t.isNode .scopedVisibility
  | .operation =>
    match parts with
    | [left, operator, right] =>
      if operator.isMark "<" || operator.isMark "<<" then [left.guardCast, operator, right]
      else parts
    | parts => parts
  | .attributed => attributedParts parts
  | .exit =>
    match parts with
    | [word, .node k value] =>
      if (Tree.node k value).leadsWithLifetime then [word, .group .round [.node k value]]
      else parts
    | parts => parts
  | .closureParameter =>
    let attributes := parts.takeWhile (·.isNode .attributeItem)
    match parts.drop attributes.length with
    | [.node .verbatim pattern] => [.node .verbatim pattern]
    | [.node k pattern] =>
      if !attributes.isEmpty && (k == .openRange || k == .closedRange) then
        attributes ++ [.group .round [.node k pattern]]
      else parts
    | _ => parts
  | .guarded => [.group .round parts]
  | _ => parts

mutual

/-- The tree in the form in which it is written. -/
def written : Tree → Tree
  | .leaf (.mark text _) => .leaf (.mark text false)
  | .leaf t => .leaf t
  | .group b inside => .group b (writtenOf inside)
  | .node .verbatim parts => .node .verbatim parts
  | .node k parts => .node k (arrange k (writtenOf parts))

/-- Several trees in the form in which they are written. -/
def writtenOf : List Tree → List Tree
  | [] => []
  | t :: ts => written t :: writtenOf ts

end

/-! ## Text and spelling -/

/-- The text of a tree. -/
def text (t : Tree) : String := spell t.written.tokens

/-- The text of several trees. -/
def textOf (ts : List Tree) : String := spell (tokensOf (writtenOf ts))

/-- The single marks of a punctuation mark; the last one has the given sign. -/
def singleMarks (joint : Bool) : List Char → List Token
  | [] => []
  | [c] => [.mark (String.ofList [c]) joint]
  | c :: d :: cs => .mark (String.ofList [c]) true :: singleMarks joint (d :: cs)

/-- The tokens of a tree in its written form, with punctuation taken apart. -/
def spelling (t : Tree) : List Token :=
  t.written.tokens.flatMap fun
    | .mark text joint => singleMarks joint text.toList
    | t => [t]

/-- Whether two trees are spelled alike. -/
def isSpelledLike (t u : Tree) : Bool := t.spelling == u.spelling

end Tree

example :
    Tree.text (.node .generics
      [.mark "<", .node .genericParameter [.word "T"], .mark ",",
        .node .genericParameter [.leaf (.lifetime "a")], .mark ">"]) = "<'a,T,>" := by
  decide +kernel

end Activation.Source
