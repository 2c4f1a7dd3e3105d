import Activation.Source.Tree

/-!
# Patterns of source

A grammar is data: a table that gives each rule a pattern, in which other rules are named.  A
pattern takes trees from the front of a sequence and gives the trees that stand for them, with
nodes added.  What comes next decides which way a pattern goes (`ifNext`): once a way is taken, a
fault on it is final.  What was taken can decide, too: `andThen` goes on as the taken trees tell, and
`grow` repeats a step that depends on them for as long as it takes anything.

`Pattern.run` is the meaning of a pattern.  Its number bounds the depth of the recursion and is
supplied by `Pattern.parse?`, from the size of the source.
-/

namespace Activation.Source

/-- A pattern of trees, over the names of rules. -/
inductive Pattern (ρ : Type) where
  /-- Takes nothing and gives the trees. -/
  | give (trees : List Tree)
  | never
  /-- A word of the given kind. -/
  | word (p : String → Bool)
  | lifetime
  /-- A literal whose spelling is of the given kind. -/
  | literal (p : String → Bool)
  /-- A punctuation mark, whose characters follow each other directly. -/
  | mark (text : String)
  /-- A group, the inside of which matches to its end. -/
  | group (b : Bracket) (inside : Pattern ρ)
  /-- All trees that are left. -/
  | everything
  /-- The end of a group or of the source. -/
  | atEnd
  | both (first second : Pattern ρ)
  /-- The second pattern where the first does not match. -/
  | either (first second : Pattern ρ)
  /-- One pattern where the test would match, and another where it would not. -/
  | ifNext (test yes no : Pattern ρ)
  /-- Goes on with what the first pattern gave. -/
  | andThen (first : Pattern ρ) (next : List Tree → Pattern ρ)
  /-- Repeats a step from what was given before, until the step takes nothing. -/
  | grow (first : Pattern ρ) (step : List Tree → Pattern ρ)
  | rule (name : ρ)

namespace Pattern

variable {ρ : Type}

instance : Append (Pattern ρ) := ⟨both⟩

/-- No trees. -/
def nothing : Pattern ρ := give []

/-- Rearranges what the pattern gives. -/
def map (f : List Tree → List Tree) (p : Pattern ρ) : Pattern ρ := andThen p fun ts => give (f ts)

/-- What the pattern gives, as a node. -/
def node (k : Kind) (p : Pattern ρ) : Pattern ρ := map (fun parts => [.node k parts]) p

/-- What the pattern gives, kept as it is. -/
def verbatim (p : Pattern ρ) : Pattern ρ := node .verbatim p

/-- The patterns one after another. -/
def sequence (ps : List (Pattern ρ)) : Pattern ρ := ps.foldr both nothing

/-- The first of the patterns that matches. -/
def firstOf (ps : List (Pattern ρ)) : Pattern ρ := ps.foldr either never

/-- Takes nothing, and matches where the pattern would. -/
def isNext (p : Pattern ρ) : Pattern ρ := ifNext p nothing never

/-- Takes nothing, and matches where the pattern would not. -/
def notNext (p : Pattern ρ) : Pattern ρ := ifNext p never nothing

/-- The pattern of the first test that matches, or else the last pattern. -/
def choose (cases : List (Pattern ρ × Pattern ρ)) (last : Pattern ρ) : Pattern ρ :=
  cases.foldr (fun (test, p) rest => ifNext test p rest) last

/-- The pattern if it matches, or nothing. -/
def maybe (p : Pattern ρ) : Pattern ρ := either p nothing

/-- The pattern where its start stands, or nothing. -/
def whenNext (start p : Pattern ρ) : Pattern ρ := ifNext start p nothing

/-- The pattern after its start, where that stands, or nothing. -/
def after (start p : Pattern ρ) : Pattern ρ := whenNext start (start ++ p)

/-- Repetitions, until the pattern takes nothing. -/
def many (p : Pattern ρ) : Pattern ρ := grow nothing fun done => map (done ++ ·) p

/-- Repetitions up to the place where the stop matches. -/
def upTo (stop p : Pattern ρ) : Pattern ρ := many (ifNext stop nothing p)

/-- Repetitions with separators between them, and possibly one after the last, up to the place where
the stop matches. -/
def separated (separator : String) (stop p : Pattern ρ) : Pattern ρ :=
  upTo stop (p ++ ifNext stop nothing (mark separator))

/-- Repetitions with separators between them, and possibly one after the last, until no separator
follows or the stop matches. -/
def joined (separator : String) (stop p : Pattern ρ) : Pattern ρ :=
  ifNext stop nothing (sequence
    [p, many (whenNext (mark separator ++ notNext stop) (mark separator ++ p)),
      maybe (mark separator)])

/-- Repetitions with commas up to the end of a group. -/
def commas (p : Pattern ρ) : Pattern ρ := separated "," atEnd p

/-- The given word. -/
def keyword (w : String) : Pattern ρ := word (· == w)

/-- One of the given words. -/
def oneOf (ws : List String) : Pattern ρ := word ws.contains

/-- Any word. -/
def anyWord : Pattern ρ := word fun _ => true

/-- What follows the mark that is spelled by the given characters, and whether a further one follows
it directly. -/
def afterMark? : List Char → List Tree → Option (Bool × List Tree)
  | [c], .leaf (.mark text joint) :: rest =>
    if text = String.ofList [c] then some (joint, rest) else none
  | c :: cs, .leaf (.mark text true) :: rest =>
    if text = String.ofList [c] then afterMark? cs rest else none
  | _, _ => none

/-- What a pattern gives for the front of a sequence of trees, and the trees that are left. -/
def run (rules : ρ → Pattern ρ) :
    Nat → Pattern ρ → List Tree → Option (List Tree × List Tree)
  | 0, _, _ => none
  | depth + 1, p, s =>
    match p with
    | give trees => some (trees, s)
    | never => none
    | word p =>
      match s with
      | .leaf (.word w) :: rest => if p w then some ([.word w], rest) else none
      | _ => none
    | lifetime =>
      match s with
      | .leaf (.lifetime name) :: rest => some ([.leaf (.lifetime name)], rest)
      | _ => none
    | literal p =>
      match s with
      | .leaf (.literal l) :: rest => if p l then some ([.leaf (.literal l)], rest) else none
      | _ => none
    | mark text =>
      (afterMark? text.toList s).map fun (joint, rest) => ([.leaf (.mark text joint)], rest)
    | group b inside =>
      match s with
      | .group b' trees :: rest =>
        if b = b' then
          match run rules depth inside trees with
          | some (parts, []) => some ([.group b parts], rest)
          | _ => none
        else none
      | _ => none
    | everything => some (s, [])
    | atEnd => if s.isEmpty then some ([], s) else none
    | both first second =>
      match run rules depth first s with
      | some (a, s) =>
        match run rules depth second s with
        | some (b, s) => some (a ++ b, s)
        | none => none
      | none => none
    | either first second =>
      match run rules depth first s with
      | some r => some r
      | none => run rules depth second s
    | ifNext test yes no =>
      if (run rules depth test s).isSome then run rules depth yes s else run rules depth no s
    | andThen first next =>
      match run rules depth first s with
      | some (a, rest) => run rules depth (next a) rest
      | none => none
    | grow first step =>
      match run rules depth first s with
      | some (a, s) =>
        match run rules depth (step a) s with
        | some (b, rest) =>
          if rest.length < s.length then
            run rules depth (grow (give b) step) rest
          else some (a, s)
        | none => none
      | none => none
    | rule name => run rules depth (rules name) s

/-- What a pattern gives for a whole sequence of trees. -/
def parse? (rules : ρ → Pattern ρ) (p : Pattern ρ) (s : List Tree) : Option (List Tree) :=
  match run rules (1000 * (Tree.totalSize s + 1)) p s with
  | some (parts, []) => some parts
  | _ => none

end Pattern

end Activation.Source
