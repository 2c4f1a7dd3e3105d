import Activation.Source.Implementation
import Mathlib

/-!
# Implementations are written again as they were read

An implementation is read into a record: its attributes, its type, its functions with their
parameters, and whatever else stands in it.  `Implementation.tree` writes the record again.  This
file shows that reading loses nothing: what is written is the tree that was read
(`Implementation.tree_of_ofTree?`), and so the one that a source text spells
(`Implementation.tree_of_read?`).

Attributes are what makes this more than bookkeeping.  Those of a function stand in front of it or at
the start of its body, and are kept in one list, because to the generator they are all the same.  A
reader takes them from where they stand (`splitAttributes_spec`), and each knows on which side it
stood (`attributeTrees_append`).
-/

namespace Activation.Source

/-! ## Attributes -/

lemma Attribute.source_of_ofTree? {t : Tree} {a : Attribute} (read : Attribute.ofTree? t = some a) :
    a.source = t := by
  unfold Attribute.ofTree? at read
  split at read
  · split at read
    · cases read
      rfl
    · cases read
  · cases read

/-- The attributes that were split off stand in front of what follows them. -/
lemma splitAttributes_spec (isInner : Bool) (ts : List Tree) :
    (splitAttributes isInner ts).1.map (·.source) ++ (splitAttributes isInner ts).2 = ts ∧
      ∀ a ∈ (splitAttributes isInner ts).1, a.isInner = isInner := by
  induction ts with
  | nil => exact ⟨rfl, by simp [splitAttributes]⟩
  | cons t ts ih =>
    obtain ⟨same, inner⟩ := ih
    unfold splitAttributes
    split
    · rename_i a read
      obtain ⟨read, here⟩ := Option.filter_eq_some_iff.1 read
      refine ⟨?_, List.forall_mem_cons.2 ⟨by simpa using here, inner⟩⟩
      rw [List.map_cons, List.cons_append, same, Attribute.source_of_ofTree? read]
    · exact ⟨rfl, by simp⟩

/-- Attributes that stand outside and inside can be told apart again. -/
lemma attributeTrees_append {outer inner : List Attribute}
    (outside : ∀ a ∈ outer, a.isInner = false) (inside : ∀ a ∈ inner, a.isInner = true) :
    attributeTrees false (outer ++ inner) = outer.map (·.source) ∧
      attributeTrees true (outer ++ inner) = inner.map (·.source) := by
  have kept {b : Bool} {as : List Attribute} (all : ∀ a ∈ as, a.isInner = b) :
      as.filter (·.isInner == b) = as :=
    List.filter_eq_self.2 fun a member => beq_iff_eq.2 (all a member)
  have dropped {b : Bool} {as : List Attribute} (none : ∀ a ∈ as, a.isInner = !b) :
      as.filter (·.isInner == b) = [] :=
    List.filter_eq_nil_iff.2 fun a member => by simp [none a member]
  constructor
  · rw [attributeTrees, List.filter_append, kept outside, dropped inside, List.append_nil]
  · rw [attributeTrees, List.filter_append, kept inside, dropped outside, List.nil_append]

/-! ## Functions and implementations -/

/-- A function that was read from a tree is written as that tree. -/
lemma FunctionItem.tree_of_ofTree? {t : Tree} {f : FunctionItem}
    (read : FunctionItem.ofTree? t = some f) : f.tree = t := by
  unfold FunctionItem.ofTree? at read
  split at read
  · rename_i parts
    obtain ⟨front, outside⟩ := splitAttributes_spec false parts
    dsimp only at read
    split at read
    · rename_i inside last
      obtain ⟨within, inner⟩ := splitAttributes_spec true inside
      obtain ⟨name, -, rfl⟩ := Option.map_eq_some_iff.1 read
      obtain ⟨outer, inner⟩ := attributeTrees_append outside inner
      unfold FunctionItem.tree
      dsimp only
      rw [outer, inner, within, List.append_assoc, List.dropLast_append_getLast? _ last, front]
    · cases read
  · cases read

lemma Member.tree_ofTree (t : Tree) : (Member.ofTree t).tree = t := by
  unfold Member.ofTree
  split
  · rename_i f read
    exact FunctionItem.tree_of_ofTree? read
  · rfl

/-- An implementation that was read from a tree is written as that tree. -/
lemma Implementation.tree_of_ofTree? {t : Tree} {i : Implementation}
    (read : Implementation.ofTree? t = some i) : i.tree = t := by
  unfold Implementation.ofTree? at read
  split at read
  · rename_i parts
    obtain ⟨front, outside⟩ := splitAttributes_spec false parts
    dsimp only at read
    split at read
    · rename_i inside last
      obtain ⟨within, inner⟩ := splitAttributes_spec true inside
      obtain ⟨type, -, rfl⟩ := Option.map_eq_some_iff.1 read
      obtain ⟨outer, inner⟩ := attributeTrees_append outside inner
      have members : ∀ ts : List Tree, (ts.map Member.ofTree).map (·.tree) = ts := by
        intro ts
        rw [List.map_map]
        exact List.map_id'' Member.tree_ofTree ts
      unfold Implementation.tree
      dsimp only
      rw [outer, inner, members, within, List.append_assoc, List.dropLast_append_getLast? _ last,
        front]
    · cases read
  · cases read

/-- An implementation that was read from a source text is written as the tree that the text spells. -/
theorem Implementation.tree_of_read? {source : String} {i : Implementation}
    (read : Implementation.read? source = some i) :
    parseSource? (Grammar.implementation false) source = some i.tree := by
  unfold Implementation.read? at read
  split at read
  · rename_i t parsed
    rw [parsed, Implementation.tree_of_ofTree? read]
  · cases read

end Activation.Source
