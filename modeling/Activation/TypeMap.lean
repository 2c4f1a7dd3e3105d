import Activation.Identity

/-!
# Maps from types

A finite map whose keys are types, compared by identity.  No type has two entries, which is part of
the map (`TypeMap.distinct`).  A new type is added after the others; inserting a value for a type
that is there puts the value in the place of the old one and leaves the key as it is
(`TypeMap.insert`).

`TypeMap.get?_insert` says what a map holds after an insertion, and
`TypeMap.entries_insert_of_not_contains` that a new entry comes last.
-/

namespace Activation

/-- A finite map from types, with its entries in the order in which their types were added. -/
structure TypeMap (α : Type) where
  entries : List (TypeTag × α)
  distinct : (entries.map (·.1.ident)).Nodup

namespace TypeMap

variable {α : Type}

/-- The map without entries. -/
def empty : TypeMap α := ⟨[], by simp⟩

/-- The value of a type. -/
def get? (m : TypeMap α) (t : TypeTag) : Option α := (m.entries.find? (·.1.is t)).map (·.2)

/-- Whether the type has a value. -/
def contains (m : TypeMap α) (t : TypeTag) : Bool := m.entries.any (·.1.is t)

/-- How many types were added before the type. -/
def position? (m : TypeMap α) (t : TypeTag) : Option Nat := m.entries.findIdx? (·.1.is t)

def size (m : TypeMap α) : Nat := m.entries.length

def isEmpty (m : TypeMap α) : Bool := m.entries.isEmpty

/-- The entry with a new value, if it is that of the type. -/
def replace (t : TypeTag) (a : α) (e : TypeTag × α) : TypeTag × α :=
  if e.1.is t then (e.1, a) else e

@[simp] theorem replace_fst (t : TypeTag) (a : α) (e : TypeTag × α) : (replace t a e).1 = e.1 := by
  unfold replace
  split <;> rfl

theorem map_ident_replace (t : TypeTag) (a : α) (entries : List (TypeTag × α)) :
    (entries.map (replace t a)).map (·.1.ident) = entries.map (·.1.ident) := by
  simp

theorem nodup_append_of_not_any {entries : List (TypeTag × α)} {t : TypeTag} (a : α)
    (distinct : (entries.map (·.1.ident)).Nodup) (new : ¬ entries.any (·.1.is t)) :
    ((entries ++ [(t, a)]).map (·.1.ident)).Nodup := by
  simp only [List.map_append, List.map_cons, List.map_nil, List.nodup_append]
  refine ⟨distinct, by simp, ?_⟩
  rintro i hi j hj rfl
  obtain ⟨e, he, rfl⟩ := List.mem_map.1 hi
  have same : e.1.ident = t.ident := by simpa using hj
  exact new (List.any_eq_true.2 ⟨e, he, by simpa using same⟩)

/-- Gives a value to a type, in the place of the value it had or else as the last entry. -/
def insert (m : TypeMap α) (t : TypeTag) (a : α) : TypeMap α :=
  if h : m.entries.any (·.1.is t) then
    ⟨m.entries.map (replace t a), by rw [map_ident_replace]; exact m.distinct⟩
  else ⟨m.entries ++ [(t, a)], nodup_append_of_not_any a m.distinct h⟩

/-! ## What a map holds -/

@[simp] theorem get?_empty (t : TypeTag) : (empty : TypeMap α).get? t = none := rfl

@[simp] theorem entries_empty : (empty : TypeMap α).entries = [] := rfl

/-- Maps do not tell apart tags of one type. -/
theorem get?_congr (m : TypeMap α) {t u : TypeTag} (same : t.is u = true) :
    m.get? t = m.get? u := by
  have pointwise : (fun e : TypeTag × α => e.1.is t) = fun e => e.1.is u := by
    funext e
    simp only [TypeTag.is_eq_true_iff] at same
    simp [TypeTag.is, same]
  simp only [get?, pointwise]

theorem contains_iff {m : TypeMap α} {t : TypeTag} :
    m.contains t = true ↔ ∃ e ∈ m.entries, e.1.is t = true := by
  simp [contains]

theorem isSome_get? (m : TypeMap α) (t : TypeTag) : (m.get? t).isSome = m.contains t := by
  rw [Bool.eq_iff_iff, contains_iff, get?, Option.isSome_map, List.find?_isSome]

theorem get?_eq_none_iff {m : TypeMap α} {t : TypeTag} :
    m.get? t = none ↔ m.contains t = false := by
  rw [← isSome_get?]
  cases m.get? t <;> simp

/-! ## Inserting -/

theorem entries_insert_of_contains {m : TypeMap α} {t : TypeTag} (a : α)
    (h : m.contains t = true) : (m.insert t a).entries = m.entries.map (replace t a) := by
  unfold insert
  rw [dif_pos (by simpa [contains] using h)]

/-- A type that is not there is added last. -/
theorem entries_insert_of_not_contains {m : TypeMap α} {t : TypeTag} (a : α)
    (h : m.contains t = false) : (m.insert t a).entries = m.entries ++ [(t, a)] := by
  unfold insert
  rw [dif_neg (by simpa [contains] using h)]

theorem entries_insert_of_get?_eq_none {m : TypeMap α} {t : TypeTag} (a : α)
    (h : m.get? t = none) : (m.insert t a).entries = m.entries ++ [(t, a)] :=
  entries_insert_of_not_contains a (get?_eq_none_iff.1 h)

/-- After an insertion the type has the new value, and all others have what they had. -/
theorem get?_insert (m : TypeMap α) (t u : TypeTag) (a : α) :
    (m.insert t a).get? u = if t.is u then some a else m.get? u := by
  cases h : m.contains t with
  | true =>
    have keep : (fun e : TypeTag × α => e.1.is u) ∘ replace t a = fun e => e.1.is u := by
      funext e
      simp
    simp only [get?, entries_insert_of_contains a h, List.find?_map, keep, Option.map_map]
    by_cases same : t.is u = true
    · have found : (m.entries.find? (·.1.is u)).isSome = true := by
        obtain ⟨e, he, hu⟩ := contains_iff.1 h
        rw [List.find?_isSome]
        exact ⟨e, he, by simp_all⟩
      obtain ⟨e, he⟩ := Option.isSome_iff_exists.1 found
      have hu : e.1.is u = true := by simpa using List.find?_some he
      have ht : e.1.is t = true := by simp_all
      simp [he, same, replace, ht]
    · rw [if_neg same]
      cases he : m.entries.find? (·.1.is u) with
      | none => rfl
      | some e =>
        have hu : e.1.is u = true := by simpa using List.find?_some he
        have ht : ¬ e.1.is t = true := by
          intro ht
          simp_all
        simp [replace, ht]
  | false =>
    have absent : m.get? t = none := get?_eq_none_iff.2 h
    simp only [get?, entries_insert_of_not_contains a h, List.find?_append]
    by_cases same : t.is u = true
    · have none : m.entries.find? (·.1.is u) = none := by
        have := m.get?_congr same
        rw [absent] at this
        simpa [get?] using this.symm
      simp [none, same]
    · simp [same]

/-- A map that has grown at its end gives the types that it had what they had. -/
theorem get?_of_prefix {m m' : TypeMap α} {t : TypeTag} {a : α} (grown : m.entries <+: m'.entries)
    (found : m.get? t = some a) : m'.get? t = some a := by
  obtain ⟨new, entries⟩ := grown
  obtain ⟨e, first, rfl⟩ := Option.map_eq_some_iff.1 found
  rw [get?, ← entries, List.find?_append, first]
  rfl

end TypeMap

end Activation
