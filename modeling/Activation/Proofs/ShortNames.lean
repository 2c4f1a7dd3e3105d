import Activation.Identity
import Mathlib

/-!
# Short names of nominal types

The full name of a nominal type is a path, segments with `::` between them, and then possibly type
arguments between angle brackets (`NominalName`).  Arguments may hold paths and brackets of their
own, so that the last separator of the whole name tells nothing.  But no segment holds a bracket, and
therefore the first bracket of the name opens the arguments (`NominalName.takeWhile_text`).  What
stands in front of it is the path; no segment holds a colon, and so the last segment is what follows
the last separator of the path (`lastSegment_append`).

`short_names_are_last_segments` says what this means for types: only the last segment counts, and
nothing is lost by taking the short name again.
-/

namespace Activation

/-! ## Last segments -/

lemma afterLastSeparator_of_no_colon {segment : List Char} (plain : ':' ∉ segment) :
    afterLastSeparator segment = none := by
  induction segment with
  | nil => rfl
  | cons c rest ih =>
    obtain ⟨here, later⟩ := not_or.1 (List.mem_cons.not.1 plain)
    rw [afterLastSeparator, ih later, if_neg fun separator => here separator.1.symm]

lemma lastSegment_of_no_colon {segment : List Char} (plain : ':' ∉ segment) :
    lastSegment segment = segment := by
  rw [lastSegment, afterLastSeparator_of_no_colon plain, Option.getD_none]

/-- A segment behind a separator is the last one, whatever stands in front of it. -/
lemma afterLastSeparator_append (front : List Char) {segment : List Char}
    (plain : ':' ∉ segment) :
    afterLastSeparator (front ++ ':' :: ':' :: segment) = some segment := by
  induction front with
  | nil =>
    -- The second colon begins no separator of its own.
    have single : ¬ (':' = ':' ∧ segment.head? = some ':') := fun separator =>
      plain (List.mem_of_head? separator.2)
    rw [List.nil_append, afterLastSeparator, afterLastSeparator,
      afterLastSeparator_of_no_colon plain, if_neg single]
    rfl
  | cons c rest ih => rw [List.cons_append, afterLastSeparator, ih]

lemma lastSegment_append (front : List Char) {segment : List Char} (plain : ':' ∉ segment) :
    lastSegment (front ++ ':' :: ':' :: segment) = segment := by
  rw [lastSegment, afterLastSeparator_append front plain, Option.getD_some]

/-! ## Nominal names -/

/-- A segment of a path: a text that is not empty, in which nothing separates segments or opens
arguments. -/
structure IsSegment (s : String) : Prop where
  ne_empty : s ≠ ""
  no_colon : ':' ∉ s.toList
  no_bracket : '<' ∉ s.toList

instance (s : String) : Decidable (IsSegment s) :=
  decidable_of_iff (s ≠ "" ∧ ':' ∉ s.toList ∧ '<' ∉ s.toList)
    ⟨fun ⟨full, colon, bracket⟩ => ⟨full, colon, bracket⟩,
      fun segment => ⟨segment.ne_empty, segment.no_colon, segment.no_bracket⟩⟩

/-- The name of a nominal type: the segments of its path, the last of them apart, and its type
arguments, if it has any, as they are written. -/
structure NominalName where
  front : List String
  last : String
  arguments : String
  isSegment : ∀ s ∈ front ++ [last], IsSegment s
  opens : arguments = "" ∨ arguments.toList.head? = some '<'

namespace NominalName

/-- The path of the name. -/
def path (n : NominalName) : String := String.intercalate "::" (n.front ++ [n.last])

/-- The name as it is written. -/
def text (n : NominalName) : String := n.path ++ n.arguments

lemma last_isSegment (n : NominalName) : IsSegment n.last := n.isSegment n.last (by simp)

/-- The name that is a segment only. -/
def ofSegment {s : String} (segment : IsSegment s) : NominalName where
  front := []
  last := s
  arguments := ""
  isSegment := by simpa using segment
  opens := .inl rfl

lemma text_ofSegment {s : String} (segment : IsSegment s) : (ofSegment segment).text = s := by
  simp [text, path, ofSegment]

lemma no_bracket_intercalate {segments : List String} (plain : ∀ s ∈ segments, IsSegment s) :
    '<' ∉ (String.intercalate "::" segments).toList := by
  induction segments with
  | nil => simp
  | cons s rest ih =>
    obtain ⟨first, later⟩ := List.forall_mem_cons.1 plain
    by_cases only : rest = []
    · simpa [only] using first.no_bracket
    · have separator : '<' ∉ "::".toList := by decide
      rw [String.intercalate_cons_of_ne_nil only, String.toList_append, String.toList_append]
      simp only [List.mem_append, not_or]
      exact ⟨⟨first.no_bracket, separator⟩, ih later⟩

/-- The first bracket of a name opens its arguments. -/
lemma takeWhile_text (n : NominalName) :
    n.text.toList.takeWhile (· != '<') = n.path.toList := by
  have inside : ∀ c ∈ n.path.toList, (c != '<') = true := by
    intro c member
    rw [bne_iff_ne]
    rintro rfl
    exact no_bracket_intercalate n.isSegment member
  have stop : n.arguments.toList.takeWhile (· != '<') = [] := by
    rcases n.opens with none | opened
    · rw [none]
      rfl
    · obtain ⟨rest, written⟩ := List.head?_eq_some_iff.1 opened
      rw [written, List.takeWhile_cons_of_neg (by simp)]
  rw [text, String.toList_append, List.takeWhile_append_of_pos inside, stop, List.append_nil]

lemma lastSegment_path (n : NominalName) : lastSegment n.path.toList = n.last.toList := by
  have plain := n.last_isSegment.no_colon
  by_cases only : n.front = []
  · have path : n.path = n.last := by simp [path, only]
    rw [path, lastSegment_of_no_colon plain]
  · have path : n.path.toList =
        (String.intercalate "::" n.front).toList ++ ':' :: ':' :: n.last.toList := by
      rw [path, String.intercalate_append_of_ne_nil only (List.cons_ne_nil _ _)]
      simp
    rw [path, lastSegment_append _ plain]

/-- The short name of a type with a nominal name is the last segment. -/
lemma shortName_eq {n : NominalName} {t : TypeTag} (named : t.name = n.text) :
    t.shortName = n.last := by
  rw [TypeTag.shortName, shortNameChars, named, n.takeWhile_text, n.lastSegment_path,
    String.ofList_toList]

end NominalName

/-- **Short names are last segments.**  Take two types with nominal names, whatever their paths and
type arguments are.  The short name of a type is the last segment of its path; the types have the
same short name exactly if their last segments are the same; and a type that is named by the short
name of another has it as its short name, too. -/
theorem short_names_are_last_segments {n m : NominalName} {t u v : TypeTag}
    (named : t.name = n.text) (named' : u.name = m.text) (short : v.name = t.shortName) :
    t.shortName = n.last ∧ (t.shortName = u.shortName ↔ n.last = m.last) ∧
      v.shortName = t.shortName := by
  have first := n.shortName_eq named
  have second := m.shortName_eq named'
  refine ⟨first, by rw [first, second], ?_⟩
  have single : v.name = (NominalName.ofSegment n.last_isSegment).text := by
    rw [short, first, NominalName.text_ofSegment]
  exact (NominalName.shortName_eq single).trans first.symm

/-- The name of a map from texts to numbers that may be missing. -/
def mapName : NominalName where
  front := ["std", "collections", "hash", "map"]
  last := "HashMap"
  arguments := "<alloc::string::String, core::option::Option<i32>>"
  isSegment := by decide
  opens := .inr (by decide)

/-- The name of a map from another place, without arguments. -/
def otherMapName : NominalName where
  front := ["hashbrown"]
  last := "HashMap"
  arguments := ""
  isSegment := by decide
  opens := .inl rfl

/-- Maps from two places have the same short name, which is not that of what they hold. -/
theorem maps_share_short_name :
    mapName.text =
      "std::collections::hash::map::HashMap<alloc::string::String, core::option::Option<i32>>" ∧
    otherMapName.text = "hashbrown::HashMap" ∧
    (TypeTag.basic mapName.text).shortName = "HashMap" ∧
    (TypeTag.basic mapName.text).shortName = (TypeTag.basic otherMapName.text).shortName ∧
    (TypeTag.basic (TypeTag.basic mapName.text).shortName).shortName = "HashMap" := by
  obtain ⟨first, same, again⟩ :=
    short_names_are_last_segments (t := .basic mapName.text) (u := .basic otherMapName.text)
      (v := .basic (TypeTag.basic mapName.text).shortName) rfl rfl rfl
  exact ⟨by decide, by decide, first, same.2 rfl, again.trans first⟩

end Activation
