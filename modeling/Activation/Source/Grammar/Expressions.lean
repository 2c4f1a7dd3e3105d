import Activation.Source.Grammar.Patterns
import Activation.Source.Written

/-!
# The grammar of expressions

Operators bind by their ranks: the right operand of an operator takes every operator that binds more
tightly than it.  A comparison is no left operand of another comparison, and a range is no left
operand at all.  An expression that ends with its block, such as a condition or a loop, ends a
statement or the arm of a `match`, unless a point or a question mark follows it.
-/

namespace Activation.Source.Grammar

open Pattern

def expression : Phrase := rule (.expression true)

/-- An expression without a kind of its own. -/
def otherExpression (p : Phrase) : Phrase := node .otherExpression p

/-! ## Attributes -/

/-- An expression with attributes, if there are any. -/
def withAttributes (attributes expression : List Tree) : List Tree :=
  if attributes.isEmpty then expression else [.node .attributed (attributes ++ expression)]

/-- The expression that attributes are about. -/
def coreOf : List Tree → Option Tree
  | [.node .attributed parts] => parts.getLast?
  | [t] => some t
  | _ => none

/-! ## Operators -/

/-- The binary operators with their ranks; of two that match, the first counts. -/
def binaryOperators : List (String × Rank) :=
  ["+=", "-=", "*=", "/=", "%=", "^=", "&=", "|=", "<<=", ">>="].map (·, .assignment) ++
    [("&&", .conjunction), ("||", .disjunction), ("<<", .shift), (">>", .shift)] ++
    ["==", "<=", "!=", ">="].map (·, .comparison) ++
    [("+", .sum), ("-", .sum), ("*", .product), ("/", .product), ("%", .product),
      ("^", .exclusion), ("&", .intersection), ("|", .union), ("<", .comparison),
      (">", .comparison)]

/-- The operators of comparisons. -/
def comparisons : List String := ["==", "<=", "!=", ">=", "<", ">"]

/-- An equals sign that assigns. -/
def assigns : Phrase := notNext (mark "=>") ++ mark "="

/-- Goes on with the operator that comes next and its rank, or ends where there is none.  What the
operator is made of is given by its pattern. -/
def atOperator (goOn : String → Rank → Phrase) : Phrase :=
  choose
    (binaryOperators.map (fun (text, rank) => (mark text, goOn text rank)) ++
      [(assigns, goOn "=" .assignment), (mark "..", goOn ".." .range),
        (keyword "as", goOn "as" .cast)])
    nothing

/-- Whether an expression is a comparison. -/
def isComparison : Tree → Bool
  | .node .operation [_, operator, _] => comparisons.any operator.isMark
  | _ => false

/-- The end of a range, where it may be missing. -/
def maybeRangeEnd (braces : Bool) : Phrase :=
  let marks := ["=>", "=", "+", "/", "%", "^", ">", "<=", "!=", "-=", "*=", "&=", "|=", "<<="]
  let stop := firstOf
    ([atEnd, mark ",", mark ";", notNext (mark "..") ++ mark ".", mark "?", keyword "as",
        if braces then never else anyCurly] ++ marks.map mark)
  ifNext stop nothing (rule (.rightOperand .range braces))

/-- The dots of a range and its end.  Where no records in braces stand, a block at the front of the
end is guarded. -/
def rangeRest (braces : Bool) : Phrase :=
  let last := rule (.rightOperand .range braces)
  choose
    [(mark "..=", mark "..=" ++ if braces then last else map Tree.guardFrontBlock last),
      (mark "...", never)]
    (mark ".." ++ maybeRangeEnd braces)

/-- What cannot follow a conversion. -/
def afterCast : Phrase :=
  firstOf
    [notNext (mark "..") ++ mark ".", mark "?", group .square everything, anyRound]

/-- Adds one operator to an expression, if one that binds as tightly as the given rank follows. -/
def operatorStep (braces : Bool) (least : Rank) (left : List Tree) : Phrase :=
  if (coreOf left).any (·.isNode .range) then nothing
  else atOperator fun text rank =>
    if rank.level < least.level then nothing
    else
      let operation := node .operation
        (sequence [give left, mark text, rule (.rightOperand rank braces)])
      match rank with
      | .comparison => if left.any isComparison then never else operation
      | .range => node .range (give left ++ rangeRest braces)
      | .cast => node .cast
          (sequence [give left, keyword "as", rule (.type false), notNext afterCast])
      | _ => operation

/-- Adds operators to an expression. -/
def withOperators (braces : Bool) (least : Rank) (left : List Tree) : Phrase :=
  grow (give left) (operatorStep braces least)

/-- The right operand of an operator of a rank: it takes the operators that bind more tightly, and
assignments are taken from the right. -/
def rightOperand (rank : Rank) (braces : Bool) : Phrase :=
  grow (rule (.operand braces)) fun right =>
    atOperator fun _ next =>
      if rank.level < next.level || (rank == .assignment && next == .assignment) then
        withOperators braces next right
      else nothing

/-- An expression. -/
def expressionPhrase (braces : Bool) : Phrase :=
  andThen (rule (.operand braces)) (withOperators braces .lowest)

/-! ## Ends -/

/-- Whether an expression ends with its block. -/
def isBlockLike (expression : List Tree) : Bool :=
  (coreOf expression).any (·.isNode .blockLike)

/-- Whether an expression is a statement without a semicolon. -/
def standsAlone (expression : List Tree) : Bool :=
  isBlockLike expression || (coreOf expression).any (·.isNode .braceCall)

mutual

/-- Whether the last token of a tree closes curly brackets. -/
def endsInBrace : Tree → Bool
  | .leaf _ => false
  | .group b _ => b == .curly
  | .node _ parts => endInBrace parts

/-- Whether the last token of several trees closes curly brackets. -/
def endInBrace : List Tree → Bool
  | [] => false
  | [t] => endsInBrace t
  | _ :: t :: ts => endInBrace (t :: ts)

end

/-! ## Calls and fields -/

/-- A point that is not the first of two. -/
def point : Phrase := notNext (mark "..") ++ mark "."

/-- A field, a call of a method, or the word `await`, after a point. -/
def member : Phrase :=
  let called := group .round (commas expression)
  let positions (ended : Bool) : Phrase := .literal fun l =>
    (positions? l).isSome && (l.toList.getLast? == some '.') == ended
  let unnamed := choose
    [(keyword "await", keyword "await"),
      (identifier ++ mark "::", sequence [identifier, angles, called]),
      (identifier, identifier ++ whenNext anyRound called)]
  choose
    [(positions true, node .position (positions true) ++ unnamed position),
      (positions false, node .position (positions false))]
    (unnamed never)

/-- Adds one call, index, field or question mark to an expression. -/
def trailerStep (left : List Tree) : Phrase :=
  let add (p : Phrase) : Phrase := otherExpression (give left ++ p)
  let unlessRange (p : Phrase) : Phrase := if left.any (·.isNode .range) then never else p
  choose
    [(anyRound, add (group .round (commas expression))),
      (unlessRange point, add (mark "." ++ member)),
      (group .square everything, add (group .square expression)),
      (unlessRange (mark "?"), add (mark "?"))]
    nothing

/-- Adds calls, indices, fields and question marks to an expression. -/
def withTrailers (left : List Tree) : Phrase := grow (give left) trailerStep

/-! ## Paths, records and lists -/

/-- A field of a record. -/
def fieldValue : Phrase :=
  let value := mark ":" ++ expression
  outerAttributes ++ ifNext identifier (identifier ++ whenNext (mark ":") value) (position ++ value)

/-- The fields of a record, and possibly the record that the others are from. -/
def fieldValues : Phrase :=
  upTo atEnd
    (ifNext (mark "..") (sequence [mark "..", ifNext atEnd nothing expression, atEnd])
      (fieldValue ++ ifNext atEnd nothing (mark ",")))

/-- A path, a macro call or a record. -/
def pathExpression (braces : Bool) : Phrase :=
  andThen (qualifiedPath true) fun path =>
    let called := if isUnqualified path && isPlain path then notNext (mark "!=") ++ mark "!"
      else never
    choose
      [(called ++ anyCurly, node .braceCall (sequence [give path, mark "!", anyGroup])),
        (called, otherExpression (sequence [give path, mark "!", anyGroup])),
        (if braces then anyCurly else never,
          otherExpression (give path ++ group .curly fieldValues))]
      (otherExpression (give path))

/-- What stands between square brackets. -/
def listInside : Phrase :=
  ifNext atEnd nothing
    (expression ++
      ifNext (mark ";") (mark ";" ++ expression) (ifNext atEnd nothing (mark "," ++ commas expression)))

/-! ## Jumps -/

/-- Where an expression begins. -/
def expressionStart : Phrase :=
  let unlike (text : String) (others : List String) : Phrase :=
    sequence (others.map (notNext <| mark ·) ++ [mark text])
  firstOf
    [.word (· != "as"), anyRound, group .square everything, anyCurly, constant,
      unlike "!" ["!="], unlike "-" ["-=", "->"], unlike "*" ["*="], unlike "|" ["|="],
      unlike "&" ["&="], mark "..", unlike "<" ["<=", "<<="], mark "::", lifetime, mark "#"]

/-- A jump out of a loop. -/
def exit (braces : Bool) : Phrase :=
  let start := if braces then expressionStart else notNext anyCurly ++ expressionStart
  node .exit (sequence
    [keyword "break", whenNext lifetime (lifetime ++ notNext (mark ":")),
      whenNext start expression])

/-- A jump out of a function. -/
def leave : Phrase :=
  otherExpression (oneOf ["return", "yield"] ++ whenNext expressionStart expression)

/-! ## Functions without a name -/

/-- Where a function without a name begins. -/
def closureStart : Phrase :=
  firstOf
    [mark "|", keyword "move", keyword "for" ++ genericsAhead,
      keyword "const" ++ notNext anyCurly, keyword "static",
      keyword "async" ++ either (mark "|") (keyword "move")]

/-- A function without a name. -/
def closure (braces : Bool) : Phrase :=
  let bar := mark "|"
  let parameter := node .closureParameter
    (sequence [outerAttributes, rule .pattern, after (mark ":") type])
  otherExpression (sequence
    [whenNext (keyword "for") forLifetimes, maybe (keyword "const"), maybe (keyword "static"),
      maybe (keyword "async"), maybe (keyword "move"), bar, separated "," bar parameter, bar,
      ifNext (mark "->")
        (sequence [node .result (mark "->" ++ type), node .blockLike block])
        (rule (.expression braces))])

/-! ## Expressions that end with their block -/

/-- A condition, at the level of which no records in braces stand. -/
def condition : Phrase := rule (.expression false)

/-- The conditions of a choice, each with its block, and possibly a last block. -/
def choice : Phrase :=
  let branch := sequence [keyword "if", condition, block]
  sequence
    [branch, many (whenNext (keyword "else" ++ keyword "if") (keyword "else" ++ branch)),
      after (keyword "else") block]

/-- An expression that a block at its front ends. -/
def shortExpression : Phrase := rule .shortExpression

/-- An arm of a `match`; a comma follows it, unless it ends with its block or is the last one. -/
def arm : Phrase :=
  let comma := mark ","
  sequence
    [outerAttributes, alternatives, after (keyword "if") expression, mark "=>",
      andThen shortExpression fun body =>
        give body ++ ifNext atEnd nothing (if isBlockLike body then maybe comma else comma)]

/-- The loops and blocks that may have a label, each with where it begins.  Without a label, `for`
may also begin a function without a name. -/
def loops (labelled : Bool) : List (Phrase × Phrase) :=
  let loop := sequence [keyword "for", alternatives, keyword "in", condition, attributedBlock]
  [(keyword "while", sequence [keyword "while", condition, attributedBlock]),
    (keyword "for" ++ if labelled then nothing else notNext genericsAhead, loop),
    (keyword "loop", keyword "loop" ++ attributedBlock),
    (anyCurly, attributedBlock)]

/-- The expressions that end with their block, each with where it begins. -/
def blockLikes : List (Phrase × Phrase) :=
  [(keyword "if", choice),
    (keyword "match", sequence
      [keyword "match", condition, group .curly (innerAttributes ++ upTo atEnd arm)]),
    (keyword "try" ++ anyCurly, keyword "try" ++ block),
    (keyword "unsafe", keyword "unsafe" ++ attributedBlock),
    (keyword "const" ++ anyCurly, keyword "const" ++ attributedBlock),
    (lifetime, sequence [lifetime, mark ":", choose (loops true) never])] ++ loops false

/-! ## Operands -/

/-- An expression that begins with none of the operators. -/
def atom (braces : Bool) : Phrase :=
  let blocks := blockLikes.map fun (start, p) => (start, node .blockLike p)
  let later := keyword "async" ++ maybe (keyword "move")
  let builtin := keyword "builtin" ++ mark "#"
  let pathStart := firstOf
    [pathWord, mark "::", mark "<", keyword "try" ++ either (mark "!") (mark "::")]
  choose
    ([(constant, otherExpression constant),
        (later ++ anyCurly, otherExpression (later ++ block)),
        (closureStart, closure braces),
        (builtin, verbatim (sequence [builtin, identifier, anyRound])),
        (pathStart, pathExpression braces),
        (anyRound, otherExpression (group .round (commas expression))),
        (keyword "break", exit braces),
        (keyword "continue", otherExpression (keyword "continue" ++ maybe lifetime)),
        (oneOf ["return", "yield"], leave),
        (keyword "become", verbatim (keyword "become" ++ expression)),
        (group .square everything, otherExpression (group .square listInside)),
        (keyword "let", otherExpression (sequence
          [keyword "let", alternatives, mark "=",
            andThen (rule (.operand braces)) (withOperators braces .comparison)]))] ++
      blocks ++
      [(mark "..", node .range (rangeRest braces)), (keyword "_", otherExpression (keyword "_"))])
    never

/-- An operand with the operators in front of it. -/
def operandPhrase (braces : Bool) : Phrase :=
  let operand := rule (.operand braces)
  let raw := keyword "raw" ++ oneOf ["const", "mut"]
  andThen outerAttributes fun attributes =>
    let attributed (p : Phrase) : Phrase := map (withAttributes attributes) (otherExpression p)
    choose
      [(mark "&", attributed (sequence
          [mark "&", ifNext raw raw (maybe (keyword "mut")), operand])),
        (mark "*", attributed (mark "*" ++ operand)),
        (mark "!", attributed (mark "!" ++ operand)),
        (mark "-", attributed (mark "-" ++ operand))]
      (andThen (andThen (atom braces) withTrailers) fun
        | [.node .verbatim parts] => give [.node .verbatim (attributes ++ parts)]
        | [.node .range parts] =>
          if attributes.isEmpty then give [.node .range parts] else never
        | e => give (withAttributes attributes e))

/-- An expression that a block at its front ends, unless a point or a question mark follows. -/
def shortExpressionPhrase : Phrase :=
  andThen outerAttributes fun attributes =>
    let goOn (e : List Tree) : Phrase := withOperators true .lowest (withAttributes attributes e)
    choose
      (blockLikes.map fun (start, p) =>
        (start, andThen (node .blockLike p) fun e =>
          ifNext (either point (mark "?")) (andThen (withTrailers e) goOn)
            (give (withAttributes attributes e))))
      (andThen (rule (.operand true)) goOn)

/-! ## Statements -/

/-- Where an item begins. -/
def itemStart : Phrase :=
  let functionStart := oneOf ["unsafe", "extern", "fn"]
  let notConstant := firstOf
    [anyCurly, oneOf ["static", "move"], mark "|", keyword "async" ++ notNext functionStart]
  firstOf
    [oneOf ["pub", "extern", "use", "fn", "mod", "type", "struct", "enum", "trait", "impl", "macro"],
      keyword "crate" ++ notNext (mark "::"),
      keyword "static" ++ either (keyword "mut") identifier,
      keyword "const" ++ notNext notConstant,
      keyword "unsafe" ++ notNext anyCurly,
      keyword "async" ++ functionStart,
      keyword "union" ++ identifier,
      keyword "auto" ++ keyword "trait",
      keyword "default" ++ oneOf ["unsafe", "impl"],
      sequence [plainPath, mark "!", either identifier (keyword "try")]]

/-- A statement that binds the names of a pattern. -/
def binding : Phrase :=
  let value := andThen expression fun e =>
    give e ++ if endInBrace e then nothing else after (keyword "else") block
  sequence
    [keyword "let", rule .pattern, after (mark ":") type, after (mark "=") value, mark ";"]

/-- A statement. -/
def statement : Phrase :=
  let semicolon := mark ";"
  let call := sequence [plainPath, mark "!", anyCurly]
  node .statement (choose
    [(semicolon, semicolon),
      (sequence [attributesAhead, call, notNext (either point (mark "?"))],
        sequence [outerAttributes, plainPath, mark "!", anyGroup, maybe semicolon]),
      (attributesAhead ++ itemStart, rule .item),
      (attributesAhead ++ keyword "let", outerAttributes ++ binding)]
    (andThen outerAttributes fun attributes =>
      andThen shortExpression fun e =>
        give (withAttributes attributes e) ++
          ifNext semicolon semicolon (if standsAlone e then nothing else isNext atEnd)))

/-- Statements up to the end of their block. -/
def statements : Phrase := upTo atEnd statement

end Activation.Source.Grammar
