import Activation.Source.Grammar.Types

/-!
# The grammar of patterns

Patterns as they stand in parameters, in `let` and in the arms of a `match`.  A range that is open at
one end is told apart, because it may not stand alone in a pattern between square brackets.
-/

namespace Activation.Source.Grammar

open Pattern

/-- A pattern with alternatives, or without. -/
def alternatives : Phrase := rule .alternatives

/-- A pattern that is no name. -/
def otherPattern (p : Phrase) : Phrase := node .otherPattern p

/-! ## Ranges -/

/-- An end of a range. -/
def rangeEnd : Phrase :=
  let pathStart := firstOf [pathWord, mark "::", mark "<"]
  choose
    [(constant, constant), (pathStart, qualifiedPath true),
      (keyword "const", keyword "const" ++ attributedBlock)]
    never

/-- Where a range has no upper end. -/
def rangeStop : Phrase :=
  firstOf
    [atEnd, mark "|", mark "=", notNext (mark "::") ++ mark ":", mark ",", mark ";", keyword "if"]

/-- A range with the given lower end, which is left out if there are no trees. -/
def rangePattern (lower : List Tree) : Phrase :=
  let closed (dots : Phrase) : Phrase :=
    node (if lower.isEmpty then .openRange else .closedRange) (sequence
      [give lower, dots, notNext rangeStop, rangeEnd])
  choose
    [(mark "..=", closed (mark "..=")), (mark "...", closed (node .rangeLimits (mark "...")))]
    (andThen (mark ".." ++ ifNext rangeStop nothing rangeEnd) fun dots =>
      let kind := match lower.isEmpty, dots.length == 1 with
        | true, true => Kind.otherPattern
        | false, false => .closedRange
        | _, _ => .openRange
      give [.node kind (lower ++ dots)])

/-! ## Records -/

/-- A field of a record in a pattern. -/
def fieldPattern : Phrase :=
  let marked := sequence [maybe (keyword "ref"), maybe (keyword "mut"), identifier]
  choose
    [(keyword "box", verbatim (keyword "box" ++ marked)),
      (oneOf ["ref", "mut"], node .namePattern marked),
      (identifier ++ notNext (mark ":"), node .namePattern identifier)]
    (sequence [either identifier position, mark ":", alternatives])

/-- The fields of a record in a pattern. -/
def fieldPatterns : Phrase :=
  upTo atEnd
    (ifNext (attributesAhead ++ mark "..")
      (sequence [outerAttributes, mark "..", atEnd])
      (sequence [outerAttributes, fieldPattern, ifNext atEnd nothing (mark ",")]))

/-! ## Patterns -/

/-- Where a path stands in a pattern. -/
def pathPatternStart : Phrase :=
  firstOf
    [identifier ++ firstOf [mark "::", mark "!", anyCurly, anyRound, mark ".."],
      keyword "self" ++ mark "::", mark "::", mark "<", oneOf ["Self", "super", "crate"]]

/-- A pattern that begins with a path. -/
def pathPattern : Phrase :=
  andThen (qualifiedPath true) fun path =>
    let called := if isUnqualified path && isPlain path then notNext (mark "!=") ++ mark "!"
      else never
    choose
      [(called, otherPattern (sequence [give path, mark "!", anyGroup])),
        (anyCurly, otherPattern (give path ++ group .curly fieldPatterns)),
        (anyRound, otherPattern (give path ++ group .round (commas alternatives))),
        (mark "..", rangePattern path)]
      (otherPattern (give path))

/-- A pattern without alternatives. -/
def patternPhrase : Phrase :=
  let inner := rule .pattern
  let element := andThen alternatives fun
    | [.node .openRange _] => never
    | parts => give parts
  choose
    [(pathPatternStart, pathPattern),
      (keyword "_", otherPattern (keyword "_")),
      (keyword "box", verbatim (keyword "box" ++ inner)),
      (firstOf [mark "-", constant, keyword "const"],
        andThen rangeEnd fun lower =>
          ifNext (mark "..") (rangePattern lower) (otherPattern (give lower))),
      (either (oneOf ["ref", "mut", "self"]) identifier,
        node .namePattern (sequence
          [maybe (keyword "ref"), maybe (keyword "mut"), either identifier (keyword "self"),
            after (mark "@") inner])),
      (mark "&", otherPattern (sequence [mark "&", maybe (keyword "mut"), inner])),
      (anyRound, otherPattern (group .round (commas alternatives))),
      (group .square everything, otherPattern (group .square (commas element))),
      (notNext (mark "...") ++ mark "..", rangePattern [])]
    never

/-- A pattern with alternatives. -/
def alternativesPhrase : Phrase :=
  let inner := rule .pattern
  let bar := sequence [notNext (mark "||"), notNext (mark "|="), mark "|"]
  let more := many (whenNext bar (mark "|" ++ inner))
  ifNext (mark "|") (otherPattern (sequence [mark "|", inner, more]))
    (andThen inner fun first =>
      ifNext bar (otherPattern (give first ++ more)) (give first))

end Activation.Source.Grammar
