import Activation.Source.Grammar.Basic

/-!
# The grammar of types

Types, paths with generic arguments, bounds, and generic parameters with their conditions.
-/

namespace Activation.Source.Grammar

open Pattern

def type : Phrase := rule (.type true)

/-! ## Paths -/

/-- Where arguments between angle brackets begin. -/
def anglesStart (inExpression : Bool) : Phrase :=
  let turbo := mark "::" ++ mark "<"
  if inExpression then turbo
  else either (sequence [notNext (mark "<="), notNext (mark "<<="), mark "<"]) turbo

/-- Arguments between angle brackets. -/
def angles : Phrase :=
  node .angleArguments (sequence
    [maybe (mark "::"), mark "<", separated "," (mark ">") (rule .argument), mark ">"])

/-- The name of a path with its arguments. -/
def segment (inExpression : Bool) : Phrase :=
  let plain := oneOf ["super", "self", "crate", "try"]
  node .segment
    (ifNext plain plain
      ((.word fun w => isIdentifier w || w == "Self") ++
        whenNext (anglesStart inExpression) angles))

/-- A path. -/
def pathFrom (inExpression : Bool) : Phrase :=
  let segment := rule (.segment inExpression)
  sequence
    [maybe (mark "::"), segment,
      many (whenNext (mark "::" ++ notNext anyRound) (mark "::" ++ segment))]

/-- A path that may begin with a type of its own. -/
def qualifiedPath (inExpression : Bool) : Phrase :=
  let segment := rule (.segment inExpression)
  let qualifier := node .qualifier (sequence
    [mark "<", type, after (keyword "as") (node .path (pathFrom false)), mark ">"])
  ifNext (mark "<")
    (sequence [qualifier, mark "::", segment, many (after (mark "::") segment)])
    (pathFrom inExpression)

/-- Whether a path does not begin with a type of its own. -/
def isUnqualified (parts : List Tree) : Bool := !parts.any (·.isNode .qualifier)

/-- Whether a path consists of plain names. -/
def isPlain (parts : List Tree) : Bool :=
  parts.all fun
    | .node .segment [_] => true
    | .leaf _ => true
    | _ => false

/-- Whether the last name of a path has no arguments. -/
def endsBare (parts : List Tree) : Bool :=
  match parts.getLast? with
  | some (.node .segment [_, .node .angleArguments arguments]) => !arguments.any (·.isAnyNode)
  | some (.node .segment _) => true
  | _ => false

/-- The result of a function, if it has one. -/
def result (plus : Bool) : Phrase :=
  whenNext (mark "->") (node .result (mark "->" ++ rule (.type plus)))

/-- The path of a bound, with arguments between either kind of brackets. -/
def boundPath : Phrase :=
  andThen (pathFrom false) fun parts =>
    let rounds := node .roundArguments (sequence
      [maybe (mark "::"), group .round (commas type), result false])
    node .path (give parts ++
      if endsBare parts then whenNext (maybe (mark "::") ++ anyRound) rounds else nothing)

/-! ## Generic arguments -/

/-- The value of a constant parameter. -/
def constantValue : Phrase := ifNext constant constant attributedBlock

/-- Whether a type is a name, possibly with arguments between angle brackets. -/
def isNamed : Tree → Bool
  | .node .pathType [.node .segment _] => true
  | _ => false

/-- A generic argument. -/
def argument : Phrase :=
  let constantArgument := node .constantArgument constantValue
  let stop := either (mark ",") (mark ">")
  let value := ifNext (either constant anyCurly) constantArgument type
  choose
    [(lifetime ++ notNext (mark "+"), node .lifetimeArgument lifetime),
      (either constant anyCurly, constantArgument)]
    (andThen type fun
      | [t] =>
        if isNamed t then
          let binding (rest : Phrase) : Phrase := node .bindingArgument (give t.parts ++ rest)
          choose
            [(mark "=", binding (mark "=" ++ value)),
              (mark ":", binding (mark ":" ++ joined "+" stop (rule (.bound false true))))]
            (give [t])
        else give [t]
      | _ => never)

/-! ## Bounds -/

/-- The lifetimes that a bound or a function holds for. -/
def forLifetimes : Phrase :=
  node .forLifetimes (sequence
    [keyword "for", mark "<", separated "," (mark ">") (rule (.genericParameter false)), mark ">"])

/-- A trait as a bound.  One that holds in constants needs the sign for it, and one that is
questioned holds for no lifetimes. -/
def traitBound (constant : Bool) : Phrase :=
  let always := keyword "const"
  let sometimes (inside : Phrase) : Phrase := group .square inside
  let constness := choose
    [(sometimes everything, if constant then sometimes always else never),
      (always, if constant then always else never)]
    nothing
  andThen (whenNext (keyword "for") forLifetimes) fun lifetimes =>
    let questioned := if lifetimes.isEmpty then mark "?" ++ notNext (keyword "for") else never
    sequence [give lifetimes, constness, whenNext (mark "?") questioned, boundPath]

/-- Whether a bound, possibly in brackets, is said to hold in constants. -/
def holdsInConstants (parts : List Tree) : Bool :=
  let inside := match parts with
    | [.group .round inside] => inside
    | parts => parts
  inside.any fun
    | .group .square _ => true
    | t => t.isWord "const"

/-- The parameters that a type captures. -/
def captures : Phrase :=
  let captured := either lifetime (.word fun w => isIdentifier w || w == "Self")
  node .captures (sequence
    [keyword "use", mark "<", separated "," (mark ">") (node .capturedParameter captured),
      mark ">"])

/-- A bound.  One that holds in constants is kept as it is. -/
def bound (capturing constant : Bool) : Phrase :=
  choose
    [(lifetime, node .bound lifetime),
      (keyword "use", if capturing then captures else never)]
    (andThen (ifNext anyRound (group .round (traitBound constant)) (traitBound constant))
      fun parts => give [.node (if holdsInConstants parts then .verbatim else .bound) parts])

/-- What may follow a plus sign within bounds. -/
def boundStart (constant : Bool) : Phrase :=
  firstOf
    [anyWord, mark "::", mark "?", lifetime, anyRound,
      if constant then group .square everything else never]

/-- Bounds that are added with plus signs. -/
def addedBounds (capturing constant : Bool) : Phrase :=
  many (whenNext (mark "+" ++ boundStart constant) (mark "+" ++ rule (.bound capturing constant))) ++
    maybe (mark "+")

/-- Whether a bound is a trait. -/
def isTrait : Tree → Bool
  | .node .bound [.leaf (.lifetime _)] => false
  | .node .captures _ => false
  | .node _ _ => true
  | _ => false

/-- Bounds of which at least one is a trait; without `plus` there is only one. -/
def traitBounds (plus capturing constant : Bool) : Phrase :=
  andThen
    (rule (.bound capturing constant) ++
      if plus then addedBounds capturing constant else nothing)
    fun parts => if parts.any isTrait then give parts else never

/-! ## Types -/

/-- A parameter of a function type.  The first one may be called `self`. -/
def functionTypeParameter (isFirst : Bool) : Phrase :=
  let self := if isFirst then keyword "self" else never
  let name := either identifierOrNone self
  let colon := notNext (mark "::") ++ mark ":"
  let mutableSelf := keyword "mut" ++ self
  let kept (p : Phrase) : Phrase := node .otherType (verbatim p)
  let namedSelf := sequence [identifierOrNone, colon, mutableSelf]
  outerAttributes ++
    choose
      [(mutableSelf ++ colon, kept (sequence [mutableSelf, colon, type])),
        (mutableSelf, kept mutableSelf),
        (namedSelf, kept namedSelf),
        (name ++ colon, sequence [name, colon, type])]
      type

/-- The parameters of a function type. -/
def functionTypeParameters : Phrase :=
  let ellipsis := maybe (identifierOrNone ++ mark ":") ++ mark "..."
  let variadic := sequence [outerAttributes, ellipsis, maybe (mark ","), atEnd]
  let step (isFirst : Bool) : Phrase :=
    choose [(atEnd, nothing), (attributesAhead ++ ellipsis, variadic)]
      (functionTypeParameter isFirst ++ ifNext atEnd nothing (mark ","))
  step true ++ many (step false)

/-- Where a function type begins. -/
def functionTypeStart : Phrase := oneOf ["fn", "unsafe", "extern"]

/-- A function type that holds for the given lifetimes. -/
def functionType (lifetimes : List Tree) : Phrase :=
  node .otherType (sequence
    [give lifetimes, maybe (keyword "unsafe"), maybe convention, keyword "fn",
      group .round functionTypeParameters, result false])

/-- A type that begins with a path and holds for the given lifetimes: the path, a macro call, or a
sum of bounds. -/
def typeOfPath (plus : Bool) (lifetimes : List Tree) : Phrase :=
  andThen (qualifiedPath false) fun parts =>
    if isUnqualified parts then
      choose
        [(if isPlain parts then notNext (mark "!=") ++ mark "!" else never,
            node .macroType (sequence [give (lifetimes ++ parts), mark "!", anyGroup])),
          (if lifetimes.isEmpty then if plus then mark "+" else never else nothing,
            node .boundSum (give [.node .bound (lifetimes ++ [.node .path parts])] ++
              if plus then addedBounds false false else nothing))]
        (give [.node .pathType parts])
    else give [.node .pathType parts]

/-- What stands for a type between round brackets as the first of a sum of bounds, if it can. -/
def loneBound? : Tree → Option Tree
  | .node .pathType parts => if isUnqualified parts then some (.node .path parts) else none
  | .node .boundSum [.node .bound parts] => some (.node .boundSum [.node .bound parts])
  | _ => none

/-- A type between round brackets, a tuple, or a sum of bounds that begins with one in brackets. -/
def typeInRounds (plus : Bool) : Phrase :=
  let added := many (after (mark "+") (rule (.bound false false)))
  choose
    [(group .round (lifetime ++ everything),
        node .otherType (group .round (node .boundSum (traitBounds true false false)))),
      (group .round (mark "?" ++ everything),
        node .boundSum (node .bound (group .round (traitBound false)) ++ added))]
    (andThen (group .round (ifNext atEnd nothing (type ++ after (mark ",") (commas type)))) fun
      | [.group .round [t]] =>
        match loneBound? t with
        | some first =>
          ifNext (if plus then mark "+" else never)
            (node .boundSum (give [.node .bound [.group .round [first]]] ++ added))
            (give [.node .otherType [.group .round [t]]])
        | none => give [.node .otherType [.group .round [t]]]
      | parts => give [.node .otherType parts])

/-- A type. -/
def typePhrase (plus : Bool) : Phrase :=
  let tight := rule (.type false)
  let starred := keyword "dyn" ++ mark "*"
  choose
    [(keyword "for", andThen forLifetimes fun lifetimes =>
        choose
          [(functionTypeStart, functionType lifetimes), (pathWord, typeOfPath plus lifetimes)]
          never),
      (anyRound, typeInRounds plus),
      (functionTypeStart, functionType []),
      (firstOf [pathWord, mark "::", mark "<"], typeOfPath plus []),
      (starred, node .otherType (verbatim (starred ++ traitBounds plus false false))),
      (keyword "dyn", node .otherType (keyword "dyn" ++ traitBounds plus false false)),
      (group .square everything, node .otherType
        (group .square (type ++ after (mark ";") (rule (.expression true))))),
      (mark "*", node .pointerType (sequence [mark "*", oneOf ["const", "mut"], tight])),
      (mark "&", node .otherType (sequence
        [mark "&", maybe lifetime, maybe (keyword "mut"), tight])),
      (mark "!", node .otherType (mark "!")),
      (keyword "impl", node .otherType (keyword "impl" ++ traitBounds plus true true)),
      (keyword "_", node .otherType (keyword "_")),
      (lifetime, node .boundSum (traitBounds true false false))]
    never

/-! ## Generic parameters -/

/-- A generic parameter; `unnamed` if it may be without a name. -/
def genericParameter (unnamed : Bool) : Phrase :=
  let close := either (mark ",") (mark ">")
  let bounds (stop p : Phrase) : Phrase :=
    whenNext (mark ":") (node .bounds (mark ":" ++ joined "+" stop p))
  let default := choose [(constant, constant), (identifier, identifier)] attributedBlock
  let none := if unnamed then keyword "_" else never
  node .genericParameter
    (outerAttributes ++
      choose
        [(lifetime, lifetime ++ bounds (either atEnd close) lifetime),
          (identifier, sequence
            [identifier, bounds (either close (mark "=")) (rule (.bound false true)),
              after (mark "=") type]),
          (keyword "const", sequence
            [keyword "const", identifier, mark ":", type, after (mark "=") default])]
        none)

/-- Generic parameters, if there are any. -/
def generics : Phrase :=
  whenNext (mark "<") (node .generics (sequence
    [mark "<", separated "," (mark ">") (rule (.genericParameter true)), mark ">"]))

/-- Where an angle bracket begins parameters, and not a type. -/
def genericsAhead : Phrase :=
  mark "<" ++ firstOf
    [mark ">", mark "#", keyword "const",
      either lifetime identifier ++
        firstOf [mark ">", mark ",", notNext (mark "::") ++ mark ":", mark "="]]

/-- The conditions on generic parameters, if there are any. -/
def conditions : Phrase :=
  let stop := firstOf
    [atEnd, anyCurly, mark ",", mark ";", notNext (mark "::") ++ mark ":", mark "="]
  let condition := ifNext (lifetime ++ mark ":")
    (sequence [lifetime, mark ":", joined "+" stop lifetime])
    (sequence
      [whenNext (keyword "for") forLifetimes, type, mark ":",
        joined "+" stop (rule (.bound false true))])
  whenNext (keyword "where") (node .conditions (sequence
    [keyword "where", notNext genericsAhead, joined "," stop condition]))

end Activation.Source.Grammar
