import Activation.Source.SelfType
import Mathlib

/-!
# Types by how they are written

A registration depends on how types are written: on the last name of a path, and on what stands
between the angle brackets after it.  This file describes both by the shape of the tree.
* A path that may begin with a type of its own, as in `<T as Trait>::Name`, has a last name
  (`HasLastName`); a path of names only ends in one (`EndsIn`).  These are the names that a result
  and a parameter are known by (`finalSegment?_eq_some_iff`, `lastSegment?_eq_some_iff`).
* `Accepts` is the rule for parameters as a reader would put it: a raw pointer takes no argument,
  `Arg` takes any, `Option` with one type takes null or a value of that type, and every other type
  takes values of exactly that type.  Classification follows it (`accepts_iff`).
-/

namespace Activation.Source.Tree

/-! ## The last name of a path -/

/-- A name of a path, with or without arguments. -/
def IsName (t : Tree) : Prop := ∃ name rest, t = .node .segment (.word name :: rest)

/-- The type is a path of names that ends in the given one, after which the given parts stand. -/
def EndsIn (t : Tree) (name : String) (rest : List Tree) : Prop :=
  ∃ front back, t = .node .pathType (front ++ .node .segment (.word name :: rest) :: back) ∧
    (∀ u ∈ front ++ back, u.isNode .qualifier = false) ∧ ∀ u ∈ back, ¬ u.IsName

/-- No arguments stand after a name. -/
def NoArguments (rest : List Tree) : Prop :=
  ∀ parts, rest = [.node .angleArguments parts] → parts.filter (·.isAnyNode) = []

/-- One argument stands after a name, which is the given type. -/
def OneType (rest : List Tree) (inner : Tree) : Prop :=
  ∃ parts, rest = [.node .angleArguments parts] ∧ parts.filter (·.isAnyNode) = [inner] ∧
    inner.isType = true

/-- The type is a path whose last name is the given one, after which the given parts stand; it may
begin with a type of its own. -/
def HasLastName (t : Tree) (name : String) (rest : List Tree) : Prop :=
  ∃ front back, t = .node .pathType (front ++ .node .segment (.word name :: rest) :: back) ∧
    ∀ u ∈ back, ¬ u.IsName

/-- The tree is a type. -/
def IsType (t : Tree) : Prop :=
  ∃ k ∈ [Kind.pathType, .pointerType, .macroType, .boundSum, .otherType], ∃ parts, t = .node k parts

/-- Arguments stand after a name, and the first of them is the given type. -/
def FirstType (rest : List Tree) (first : Tree) : Prop :=
  ∃ front back, rest = [.node .angleArguments (front ++ first :: back)] ∧
    (∀ u ∈ front, u.isAnyNode = false) ∧ first.IsType

lemma isEmpty_ofSegment {name : String} {rest : List Tree} :
    (PathArguments.ofSegment (.word name :: rest)).isEmpty = true ↔ NoArguments rest := by
  unfold PathArguments.ofSegment NoArguments
  split
  · rename_i parts same
    cases same
    simp [PathArguments.isEmpty]
  · rename_i other
    refine iff_of_true rfl fun parts same => ?_
    exact absurd (congrArg (Tree.word name :: ·) same) (other _ parts)

lemma ofSegment_eq_angles_iff {name : String} {rest : List Tree} {inner : Tree} :
    (PathArguments.ofSegment (.word name :: rest) = .angles [inner] ∧ inner.isType = true) ↔
      OneType rest inner := by
  unfold PathArguments.ofSegment OneType
  split
  · rename_i parts same
    cases same
    simp
  · rename_i other
    refine iff_of_false (by simp) ?_
    rintro ⟨parts, same, -⟩
    exact other _ parts (congrArg (Tree.word name :: ·) same)

lemma OneType.ofSegment_eq {rest : List Tree} {inner : Tree} (one : OneType rest inner)
    (name : String) :
    PathArguments.ofSegment (.word name :: rest) = .angles [inner] ∧ inner.isType = true :=
  ofSegment_eq_angles_iff.2 one

/-- The name of a path that a tree is, with its arguments. -/
def segment? : Tree → Option PathSegment
  | .node .segment (.leaf (.word name) :: rest) =>
    some ⟨name, PathArguments.ofSegment (.leaf (.word name) :: rest)⟩
  | _ => none

lemma segment?_eq_some_iff {t : Tree} {s : PathSegment} :
    segment? t = some s ↔ ∃ rest, t = .node .segment (.word s.name :: rest) ∧
      PathArguments.ofSegment (.word s.name :: rest) = s.arguments := by
  obtain ⟨name, arguments⟩ := s
  unfold segment?
  split
  · simp only [Tree.word, Option.some.injEq, PathSegment.mk.injEq, node.injEq, List.cons.injEq,
      leaf.injEq, Token.word.injEq, true_and, and_assoc, exists_eq_left', exists_and_left]
    exact and_congr_right fun same => by rw [same]
  · rename_i other
    refine iff_of_false (by simp) ?_
    rintro ⟨rest, rfl, -⟩
    exact other name rest rfl

lemma segment?_eq_none_iff {t : Tree} : segment? t = none ↔ ¬ t.IsName := by
  rw [Option.eq_none_iff_forall_ne_some]
  constructor
  · rintro none ⟨name, rest, rfl⟩
    exact none _ rfl
  · intro unnamed s found
    obtain ⟨rest, rfl, -⟩ := segment?_eq_some_iff.1 found
    exact unnamed ⟨s.name, rest, rfl⟩

/-- The last name among the parts of a path. -/
lemma getLast?_filterMap_segment? {parts : List Tree} {s : PathSegment} :
    (parts.filterMap segment?).getLast? = some s ↔
      ∃ front rest back, parts = front ++ .node .segment (.word s.name :: rest) :: back ∧
        (∀ u ∈ back, ¬ u.IsName) ∧
        PathArguments.ofSegment (.word s.name :: rest) = s.arguments := by
  rw [List.getLast?_filterMap, List.findSome?_eq_some_iff]
  constructor
  · rintro ⟨back, u, front, reversed, named, unnamed⟩
    obtain ⟨rest, rfl, arguments⟩ := segment?_eq_some_iff.1 named
    refine ⟨front.reverse, rest, back.reverse, ?_, fun u member => ?_, arguments⟩
    · simpa using congrArg List.reverse reversed
    · exact segment?_eq_none_iff.1 (unnamed u (by simpa using member))
  · rintro ⟨front, rest, back, rfl, unnamed, arguments⟩
    exact ⟨back.reverse, _, front.reverse, by simp, segment?_eq_some_iff.2 ⟨rest, rfl, arguments⟩,
      fun u member => segment?_eq_none_iff.2 (unnamed u (by simpa using member))⟩

/-- The last name that classification finds is the one that the path ends in. -/
lemma lastSegment?_eq_some_iff {t : Tree} {s : PathSegment} :
    t.lastSegment? = some s ↔
      ∃ rest, EndsIn t s.name rest ∧
        PathArguments.ofSegment (.word s.name :: rest) = s.arguments := by
  constructor
  · intro found
    unfold lastSegment? at found
    split at found
    · rename_i parts
      split at found
      · cases found
      · rename_i unqualified
        have last : (parts.filterMap segment?).getLast? = some s := found
        obtain ⟨front, rest, back, rfl, unnamed, arguments⟩ := getLast?_filterMap_segment?.1 last
        refine ⟨rest, ⟨front, back, rfl, fun u member => ?_, unnamed⟩, arguments⟩
        have among : u ∈ front ++ .node .segment (.word s.name :: rest) :: back := by
          simp only [List.mem_append, List.mem_cons] at member ⊢
          tauto
        simpa using fun qualifier => unqualified (List.any_eq_true.2 ⟨u, among, qualifier⟩)
    · cases found
  · rintro ⟨rest, ⟨front, back, rfl, unqualified, unnamed⟩, arguments⟩
    have none : (front ++ .node .segment (.word s.name :: rest) :: back).any
        (·.isNode .qualifier) = false := by
      rw [List.any_eq_false]
      intro u member
      simp only [List.mem_append, List.mem_cons] at member
      rcases member with here | rfl | here
      · simp [unqualified u (by simp [here])]
      · simp [isNode, kind?]
      · simp [unqualified u (by simp [here])]
    have last := getLast?_filterMap_segment?.2 ⟨front, rest, back, rfl, unnamed, arguments⟩
    unfold lastSegment?
    simp only [none, Bool.false_eq_true, if_false]
    exact last

/-- A type of its own at the front of a path is none of its names. -/
lemma segment?_of_qualifier {t : Tree} (qualifier : t.isNode .qualifier = true) :
    segment? t = none := by
  rw [segment?_eq_none_iff]
  rintro ⟨name, rest, rfl⟩
  simp [isNode, kind?] at qualifier

/-- The last name that is found in a path that may begin with a type of its own. -/
lemma finalSegment?_eq_some_iff {t : Tree} {s : PathSegment} :
    t.finalSegment? = some s ↔
      ∃ rest, HasLastName t s.name rest ∧
        PathArguments.ofSegment (.word s.name :: rest) = s.arguments := by
  -- Leaving out the type that a path begins with leaves all of its names.
  have found (parts : List Tree) : (Tree.node .pathType parts).finalSegment? =
      (parts.filterMap segment?).getLast? := by
    have plain : (parts.filter (!·.isNode .qualifier)).any (·.isNode .qualifier) = false := by
      simp
    have named : (parts.filter (!·.isNode .qualifier)).filterMap segment? =
        parts.filterMap segment? := by
      rw [List.filterMap_filter]
      refine List.filterMap_congr fun u _ => ?_
      cases qualifier : u.isNode .qualifier with
      | true => rw [segment?_of_qualifier qualifier]; rfl
      | false => rfl
    rw [finalSegment?, lastSegment?, if_neg (by rw [plain]; exact Bool.false_ne_true)]
    exact congrArg List.getLast? named
  constructor
  · intro last
    unfold finalSegment? at last
    split at last
    · rename_i parts
      have last := (found parts).symm.trans last
      obtain ⟨front, rest, back, rfl, unnamed, arguments⟩ := getLast?_filterMap_segment?.1 last
      exact ⟨rest, ⟨front, back, rfl, unnamed⟩, arguments⟩
    · cases last
  · rintro ⟨rest, ⟨front, back, rfl, unnamed⟩, arguments⟩
    rw [found]
    exact getLast?_filterMap_segment?.2 ⟨front, rest, back, rfl, unnamed, arguments⟩

lemma isType_iff {t : Tree} : t.isType = true ↔ t.IsType := by
  unfold isType IsType
  split <;> simp_all

lemma IsType.isAnyNode {t : Tree} (type : t.IsType) : t.isAnyNode = true := by
  obtain ⟨k, -, parts, rfl⟩ := type
  rfl

/-- The first of the arguments that are found after a name, if it is a type. -/
lemma firstType_iff (name : String) {rest : List Tree} {first : Tree} :
    (∃ more, PathArguments.ofSegment (.word name :: rest) = .angles (first :: more) ∧
      first.isType = true) ↔ FirstType rest first := by
  simp only [isType_iff]
  unfold PathArguments.ofSegment FirstType
  split
  · rename_i parts same
    cases same
    simp only [PathArguments.angles.injEq, List.filter_eq_cons_iff]
    constructor
    · rintro ⟨-, ⟨front, back, rfl, plain, -, -⟩, type⟩
      exact ⟨front, back, rfl, fun u member => by simpa using plain u member, type⟩
    · rintro ⟨front, back, same, plain, type⟩
      cases same
      exact ⟨_, ⟨front, back, rfl, fun u member => by simp [plain u member], type.isAnyNode, rfl⟩,
        type⟩
  · rename_i other
    refine iff_of_false (fun ⟨_, impossible, _⟩ => nomatch impossible) ?_
    rintro ⟨front, back, same, -⟩
    exact other _ _ (congrArg (Tree.word name :: ·) same)

lemma EndsIn.lastSegment?_eq {t : Tree} {name : String} {rest : List Tree}
    (ends : EndsIn t name rest) :
    t.lastSegment? = some ⟨name, PathArguments.ofSegment (.word name :: rest)⟩ :=
  lastSegment?_eq_some_iff.2 ⟨rest, ends, rfl⟩

lemma EndsIn.ne_pointer {t : Tree} {name : String} {rest : List Tree} (ends : EndsIn t name rest)
    (parts : List Tree) : t ≠ .node .pointerType parts := by
  obtain ⟨front, back, rfl, -⟩ := ends
  intro same
  cases same

/-! ## The rule -/

/-- How a parameter of a type accepts arguments, and the type of the values that it takes. -/
inductive Accepts : Tree → Shape → Tree → Prop
  | pointer (parts : List Tree) :
    Accepts (.node .pointerType parts) .pointer (.node .pointerType parts)
  | dynamic {t : Tree} {rest : List Tree} (ends : EndsIn t "Arg" rest) (plain : NoArguments rest) :
    Accepts t .dynamic t
  | nullable {t inner : Tree} {rest : List Tree} (ends : EndsIn t "Option" rest)
    (one : OneType rest inner) : Accepts t .nullable inner
  | value {t : Tree} (noPointer : ∀ parts, t ≠ .node .pointerType parts)
    (notDynamic : ∀ rest, EndsIn t "Arg" rest → ¬ NoArguments rest)
    (notNullable : ∀ rest inner, EndsIn t "Option" rest → ¬ OneType rest inner) :
    Accepts t .value t

lemma classify_of_not_pointer {t : Tree} (noPointer : ∀ parts, t ≠ .node .pointerType parts) :
    t.classify = match t.lastSegment? with
      | some s =>
        if s.name = "Arg" ∧ s.arguments.isEmpty then (.dynamic, t)
        else
          match s.name, s.arguments with
          | "Option", .angles [inner] => if inner.isType then (.nullable, inner) else (.value, t)
          | _, _ => (.value, t)
      | none => (.value, t) := by
  unfold classify
  split
  · rename_i parts
    exact absurd rfl (noPointer parts)
  · rfl

/-- Every type accepts arguments by the rule as it is classified. -/
lemma accepts_classify (t : Tree) : Accepts t t.classify.1 t.classify.2 := by
  by_cases pointer : ∃ parts, t = .node .pointerType parts
  · obtain ⟨parts, rfl⟩ := pointer
    exact .pointer parts
  have noPointer : ∀ parts, t ≠ .node .pointerType parts := fun parts same => pointer ⟨parts, same⟩
  rw [classify_of_not_pointer noPointer]
  cases last : t.lastSegment? with
  | none =>
    have nameless {name : String} {rest : List Tree} : ¬ EndsIn t name rest := fun ends => by
      have found := ends.lastSegment?_eq
      rw [last] at found
      cases found
    exact .value noPointer (fun _ ends => absurd ends nameless) fun _ _ ends => absurd ends nameless
  | some s =>
    obtain ⟨name, arguments⟩ := s
    obtain ⟨rest, ends, written⟩ := lastSegment?_eq_some_iff.1 last
    -- A path has only one last name.
    have only {name' : String} {rest' : List Tree} (ends' : EndsIn t name' rest') :
        name = name' ∧ arguments = PathArguments.ofSegment (.word name' :: rest') := by
      have found := ends'.lastSegment?_eq
      rw [last] at found
      simpa using found
    dsimp only at ends written ⊢
    split
    · rename_i dynamic
      obtain ⟨rfl, plain⟩ := dynamic
      rw [← written] at plain
      exact .dynamic ends (isEmpty_ofSegment.1 plain)
    · rename_i notArg
      have notDynamic : ∀ rest', EndsIn t "Arg" rest' → ¬ NoArguments rest' := by
        intro rest' ends' plain
        obtain ⟨rfl, rfl⟩ := only ends'
        exact notArg ⟨rfl, isEmpty_ofSegment.2 plain⟩
      split
      · rename_i inner
        split
        · rename_i type
          exact .nullable ends (ofSegment_eq_angles_iff.1 ⟨written, type⟩)
        · rename_i noType
          refine .value noPointer notDynamic fun rest' inner' ends' one => noType ?_
          obtain ⟨angles, type⟩ := one.ofSegment_eq "Option"
          obtain ⟨-, same⟩ := only ends'
          rw [angles] at same
          cases same
          exact type
      · rename_i other
        refine .value noPointer notDynamic fun rest' inner' ends' one => ?_
        obtain ⟨angles, -⟩ := one.ofSegment_eq "Option"
        obtain ⟨named, same⟩ := only ends'
        exact other inner' named (same.trans angles)

/-- Classification follows the rule. -/
lemma accepts_iff {t inner : Tree} {shape : Shape} :
    Accepts t shape inner ↔ t.classify = (shape, inner) := by
  constructor
  · intro accepts
    cases accepts with
    | pointer parts => rfl
    | dynamic ends plain =>
      have empty : (PathArguments.ofSegment (.word "Arg" :: _)).isEmpty = true :=
        isEmpty_ofSegment.2 plain
      rw [classify_of_not_pointer ends.ne_pointer, ends.lastSegment?_eq]
      exact if_pos ⟨rfl, empty⟩
    | nullable ends one =>
      obtain ⟨angles, type⟩ := one.ofSegment_eq "Option"
      rw [classify_of_not_pointer ends.ne_pointer, ends.lastSegment?_eq, angles]
      simp [type]
    | value noPointer notDynamic notNullable =>
      have accepts := accepts_classify t
      generalize t.classify = found at accepts
      obtain ⟨shape, inner⟩ := found
      cases accepts with
      | pointer parts => exact absurd rfl (noPointer parts)
      | dynamic ends plain => exact absurd plain (notDynamic _ ends)
      | nullable ends one => exact absurd one (notNullable _ _ ends)
      | value => rfl
  · intro classified
    have accepts := accepts_classify t
    rwa [classified] at accepts

lemma classify_fst_eq_pointer_iff {t : Tree} :
    t.classify.1 = .pointer ↔ ∃ parts, t = .node .pointerType parts := by
  constructor
  · intro pointer
    have accepts := accepts_classify t
    rw [pointer] at accepts
    cases accepts with
    | pointer parts => exact ⟨parts, rfl⟩
  · rintro ⟨parts, rfl⟩
    rfl

lemma Accepts.eq_of_value {t inner : Tree} (accepts : Accepts t .value inner) : inner = t := by
  cases accepts
  rfl

end Activation.Source.Tree
