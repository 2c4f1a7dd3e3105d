import Activation.Source.Written
import Mathlib

/-!
# Writing adds no words

The written form of a tree has the words of the tree, or fewer of them: what writing adds are
brackets, punctuation and numbers.  `Tree.WordsAmong` says so of two rows of trees, and each rule of
writing keeps it up (`wordsAmong_arrange`), so that the whole form does (`Tree.word_mem_of_written`).
-/

namespace Activation.Source.Tree

/-- Words that stand in a row of trees also stand in another one. -/
def WordsAmong (after before : List Tree) : Prop :=
  ∀ w, .word w ∈ tokensOf after → .word w ∈ tokensOf before

lemma mem_tokensOf {x : Token} {ts : List Tree} :
    x ∈ tokensOf ts ↔ ∃ t ∈ ts, x ∈ t.tokens := by
  induction ts with
  | nil => simp [tokensOf]
  | cons t ts ih => simp [tokensOf, ih]

namespace WordsAmong

variable {after before : List Tree}

lemma of_subset (among : after ⊆ before) : WordsAmong after before := by
  intro w stands
  obtain ⟨t, member, word⟩ := mem_tokensOf.1 stands
  exact mem_tokensOf.2 ⟨t, among member, word⟩

lemma refl (ts : List Tree) : WordsAmong ts ts := fun _ stands => stands

lemma trans {middle : List Tree} (first : WordsAmong after middle)
    (second : WordsAmong middle before) : WordsAmong after before :=
  fun w stands => second w (first w stands)

lemma of_nil (before : List Tree) : WordsAmong [] before := by simp [WordsAmong, tokensOf]

lemma cons {t : Tree} (first : WordsAmong [t] before) (others : WordsAmong after before) :
    WordsAmong (t :: after) before := by
  intro w stands
  simp only [tokensOf, List.mem_append] at stands
  rcases stands with here | later
  · exact first w (by simpa [tokensOf] using here)
  · exact others w later

lemma append {more : List Tree} (first : WordsAmong after before)
    (second : WordsAmong more before) : WordsAmong (after ++ more) before := by
  intro w stands
  obtain ⟨t, member, word⟩ := mem_tokensOf.1 stands
  rcases List.mem_append.1 member with here | later
  · exact first w (mem_tokensOf.2 ⟨t, here, word⟩)
  · exact second w (mem_tokensOf.2 ⟨t, later, word⟩)

lemma map_cons (t : Tree) (among : WordsAmong after before) :
    WordsAmong (t :: after) (t :: before) :=
  cons (of_subset (by simp)) (among.trans (of_subset (by simp)))

lemma of_mark (text : String) (before : List Tree) : WordsAmong [.mark text] before := by
  simp [WordsAmong, tokensOf, tokens, Tree.mark]

lemma of_group {inside : List Tree} (b : Bracket) (among : WordsAmong inside before) :
    WordsAmong [.group b inside] before := by
  intro w stands
  apply among w
  simpa [tokensOf, tokens, bracketToken] using stands

lemma of_node {parts : List Tree} (k : Kind) (among : WordsAmong parts before) :
    WordsAmong [.node k parts] before := by
  intro w stands
  apply among w
  simpa [tokensOf, tokens] using stands

/-- The words within a node are those of the node. -/
lemma parts_node (k : Kind) (parts : List Tree) : WordsAmong parts [.node k parts] := by
  simp [WordsAmong, tokensOf, tokens]

/-- The words within brackets are those of the brackets. -/
lemma inside_group (b : Bracket) (inside : List Tree) : WordsAmong inside [.group b inside] := by
  intro w stands
  simp [tokensOf, tokens, stands]

end WordsAmong

/-! ## The rules of writing -/

lemma fst_mem_of_elementsWithCommas {parts : List Tree} :
    ∀ e ∈ elementsWithCommas parts, e.1 ∈ parts := by
  fun_induction elementsWithCommas parts <;> simp_all

lemma wordsAmong_rowOf {before : List Tree} (elements : List (Tree × Bool))
    (among : ∀ e ∈ elements, e.1 ∈ before) : WordsAmong (rowOf elements) before := by
  fun_induction rowOf elements with
  | case1 => exact .of_nil before
  | case2 t comma =>
    have first : WordsAmong [t] before := .of_subset (by simpa using among)
    cases comma with
    | true => exact .cons first (.of_mark "," before)
    | false => exact first
  | case3 t comma rest more ih =>
    obtain ⟨member, others⟩ := List.forall_mem_cons.1 among
    have first : WordsAmong [t] before := .of_subset (by simpa using member)
    exact .cons first (.cons (.of_mark "," before) (ih others))

lemma wordsAmong_lifetimesFirst (parts : List Tree) : WordsAmong (lifetimesFirst parts) parts := by
  unfold lifetimesFirst
  have front : WordsAmong (parts.takeWhile (!·.isAnyNode)) parts :=
    .of_subset fun _ member => (List.takeWhile_sublist _).subset member
  have row : WordsAmong (rowOf
      ((elementsWithCommas parts).filter (fun e => e.1.isLifetimeElement) ++
        (elementsWithCommas parts).filter (fun e => !e.1.isLifetimeElement))) parts := by
    apply wordsAmong_rowOf
    intro e member
    apply fst_mem_of_elementsWithCommas
    rcases List.mem_append.1 member with here | here <;> exact List.mem_of_mem_filter here
  apply (front.append row).append
  split
  · exact .of_nil parts
  · exact .of_mark ">" parts

lemma wordsAmong_withoutEmptyAngles (parts : List Tree) :
    WordsAmong (withoutEmptyAngles parts) parts := by
  fun_induction withoutEmptyAngles parts with
  | case1 name more rounds =>
    have called : WordsAmong [.node .segment [name]] [.node .segment (name :: more)] :=
      .of_node .segment ((WordsAmong.of_subset (by simp)).trans (.parts_node .segment (name :: more)))
    exact .cons (called.trans (.of_subset (by simp))) (.of_subset (by simp))
  | case2 t ts other ih => exact ih.map_cons t
  | case3 => exact .of_nil []

mutual

lemma wordsAmong_guardCast : ∀ t : Tree, WordsAmong [guardCast t] [t]
  | .leaf t => .refl [.leaf t]
  | .group b inside => .refl [.group b inside]
  | .node k parts => by
    cases k
    case cast =>
      rw [guardCast]
      split
      · exact .of_group .round (.refl _)
      · exact .refl _
    case operation =>
      rw [guardCast]
      exact .of_node .operation ((wordsAmong_guardLastCast parts).trans (.parts_node _ parts))
    all_goals exact .refl _

lemma wordsAmong_guardLastCast : ∀ ts : List Tree, WordsAmong (guardLastCast ts) ts
  | [] => .of_nil []
  | [t] => wordsAmong_guardCast t
  | t :: u :: ts => (wordsAmong_guardLastCast (u :: ts)).map_cons t

end

lemma wordsAmong_positionsRow (before : List Tree) (ns : List ℕ) :
    WordsAmong (positionsRow ns) before := by
  have number (n : ℕ) : WordsAmong [.leaf (.literal (Text.decimal n))] before := by
    simp [WordsAmong, tokensOf, tokens]
  fun_induction positionsRow ns with
  | case1 => exact .of_nil before
  | case2 n => exact number n
  | case3 n ns other ih => exact .cons (number n) (.cons (.of_mark "." before) ih)

lemma wordsAmong_decimalPosition (parts : List Tree) :
    WordsAmong (decimalPosition parts) parts := by
  unfold decimalPosition
  split
  · split
    · apply (wordsAmong_positionsRow _ _).append
      split
      · exact .of_mark "." _
      · exact .of_nil _
    · exact .refl _
  · exact .refl _

lemma wordsAmong_attributedParts (parts : List Tree) :
    WordsAmong (attributedParts parts) parts := by
  unfold attributedParts
  split
  · rename_i e last
    have expression : WordsAmong [e] parts :=
      .of_subset (by simpa using List.mem_of_getLast? last)
    split
    · have attributes : WordsAmong parts.dropLast parts :=
        .of_subset fun _ member => List.mem_of_mem_dropLast member
      exact attributes.append (.of_group .round expression)
    · exact expression
    · exact .refl parts
  · exact .of_nil parts

lemma wordsAmong_arrange (k : Kind) (parts : List Tree) :
    WordsAmong (arrange k parts) parts := by
  -- Most rules leave trees out; the others move trees or put them in brackets.
  cases k
  case angleArguments => exact wordsAmong_lifetimesFirst parts
  case captures => exact wordsAmong_lifetimesFirst parts
  case generics =>
    rw [arrange]
    split
    · exact wordsAmong_lifetimesFirst parts
    · exact .of_nil parts
  case bounds =>
    rw [arrange]
    split
    · exact .of_nil parts
    · exact .refl parts
  case conditions =>
    rw [arrange]
    split
    · exact .of_nil parts
    · exact .refl parts
  case roundArguments =>
    exact .of_subset fun _ member => (List.dropWhile_sublist _).subset member
  case path => exact wordsAmong_withoutEmptyAngles parts
  case macroType => exact .of_subset (List.filter_subset_self parts)
  case variant => exact .of_subset (List.filter_subset_self parts)
  case bound =>
    unfold arrange
    dsimp only
    split
    · rename_i inside
      have within : WordsAmong inside [.node .boundSum [.node .bound [.group .round inside]]] := by
        simpa [WordsAmong, tokensOf, tokens] using WordsAmong.inside_group .round inside
      exact .of_group .round (within.trans (.inside_group .round _))
    · exact .refl parts
  case rangeLimits => exact .of_mark "..=" parts
  case position => exact wordsAmong_decimalPosition parts
  case operation =>
    unfold arrange
    dsimp only
    split
    · rename_i left operator right
      split
      · have guarded : WordsAmong [left.guardCast] [left, operator, right] :=
          (wordsAmong_guardCast left).trans (.of_subset (by simp))
        exact .cons guarded (.of_subset (by simp))
      · exact .refl _
    · exact .refl parts
  case attributed => exact wordsAmong_attributedParts parts
  case exit =>
    unfold arrange
    dsimp only
    split
    · split
      · exact .cons (.of_subset (by simp)) (.of_group .round (.of_subset (by simp)))
      · exact .refl _
    · exact .refl parts
  case closureParameter =>
    unfold arrange
    dsimp only
    have attributes : WordsAmong (parts.takeWhile (·.isNode .attributeItem)) parts :=
      .of_subset fun _ member => (List.takeWhile_sublist _).subset member
    have pattern {t : Tree}
        (left : parts.drop (parts.takeWhile (·.isNode .attributeItem)).length = [t]) :
        WordsAmong [t] parts := by
      rw [← left]
      exact .of_subset (List.drop_subset _ parts)
    split
    · rename_i left
      exact pattern left
    · rename_i left
      split
      · exact attributes.append (.of_group .round (pattern left))
      · exact .refl parts
    · exact .refl parts
  case guarded => exact .of_group .round (.refl parts)
  all_goals exact .refl parts

mutual

lemma wordsAmong_written : ∀ t : Tree, WordsAmong [written t] [t]
  | .leaf (.mark text joint) => by simp [written, WordsAmong, tokensOf, tokens]
  | .leaf (.word w) => .refl _
  | .leaf (.lifetime name) => .refl _
  | .leaf (.literal spelling) => .refl _
  | .group b inside =>
    .of_group b ((wordsAmong_writtenOf inside).trans (.inside_group b inside))
  | .node k parts => by
    by_cases kept : k = .verbatim
    · subst kept
      exact .refl _
    · rw [written]
      · exact .of_node k ((wordsAmong_arrange k _).trans
          ((wordsAmong_writtenOf parts).trans (.parts_node k parts)))
      · exact kept

lemma wordsAmong_writtenOf : ∀ ts : List Tree, WordsAmong (writtenOf ts) ts
  | [] => .of_nil []
  | t :: ts =>
    .cons ((wordsAmong_written t).trans (.of_subset (by simp)))
      ((wordsAmong_writtenOf ts).trans (.of_subset (by simp)))

end

/-- A word in the written form of a tree stands in the tree. -/
lemma word_mem_of_written {t : Tree} {w : String} (stands : .word w ∈ t.written.tokens) :
    .word w ∈ t.tokens := by
  simpa [tokensOf] using wordsAmong_written t w (by simpa [tokensOf] using stands)

end Activation.Source.Tree
