import Activation.Registry
import Mathlib

/-!
# The registry of a history

A registry is what a sequence of registrations, its *history*, makes of the empty one.  This file
reads off a history what its registry holds: the first type registration of a type is all that is
known about the type (`typeInfo?_ofRegistrations`), and its constructors are all that the history
declares for it, in their order (`constructorsOf_ofRegistrations`).

Both are statements about one registration first (`typeInfo?_register`, `constructorsOf_register`)
and follow for a history by induction on it.  Claims of names go past both maps
(`types_claimAll`, `constructors_claimAll`); what they do to the names is `holder?_claimAll`.
-/

namespace Activation

/-- Comparison does not tell apart tags of one type. -/
lemma TypeTag.is_congr {t u : TypeTag} (same : t.is u = true) (v : TypeTag) : v.is t = v.is u := by
  rw [TypeTag.is_eq_true_iff] at same
  rw [TypeTag.is, TypeTag.is, same]

/-- Whether tags mean one type does not depend on which tag of either type is taken. -/
lemma TypeTag.is_eq_is {a a' t t' : TypeTag} (same : a.is a' = true) (same' : t.is t' = true) :
    a'.is t' = a.is t := by
  rw [is_eq_true_iff] at same same'
  rw [is, is, same, same']

/-! ## Reading a history -/

/-- What the registration tells about its type, if it is one of a type. -/
def Registration.typeInfo? (registration : Registration) : Option TypeInfo :=
  match registration.toEntry with
  | .type info => some info
  | .constructor _ => none

/-- The constructor that the registration declares, if it is one of a constructor. -/
def Registration.constructor? (registration : Registration) : Option Constructor :=
  match registration.toEntry with
  | .type _ => none
  | .constructor c => some c

/-- The first type registration of the type in a history. -/
def firstTypeInfo? (history : List Registration) (t : TypeTag) : Option TypeInfo :=
  (history.filterMap (·.typeInfo?)).find? (·.tag.is t)

/-- The constructors that a history declares for the type, in the order of registration. -/
def declaredIn (history : List Registration) (t : TypeTag) : List Constructor :=
  (history.filterMap (·.constructor?)).filter (·.owner.is t)

/-- What is first registered about a type is about that type, and is in the history. -/
lemma of_firstTypeInfo?_eq_some {history : List Registration} {t : TypeTag} {info : TypeInfo}
    (first : firstTypeInfo? history t = some info) :
    info.tag.is t = true ∧ ∃ registration ∈ history, registration.typeInfo? = some info :=
  ⟨by simpa using List.find?_some first, List.mem_filterMap.1 (List.mem_of_find?_eq_some first)⟩

lemma of_mem_declaredIn {history : List Registration} {t : TypeTag} {c : Constructor}
    (declared : c ∈ declaredIn history t) :
    c.owner.is t = true ∧ ∃ registration ∈ history, registration.constructor? = some c := by
  obtain ⟨filed, owned⟩ := List.mem_filter.1 declared
  exact ⟨owned, List.mem_filterMap.1 filed⟩

lemma firstTypeInfo?_cons (registration : Registration) (history : List Registration)
    (t : TypeTag) :
    firstTypeInfo? (registration :: history) t =
      (registration.typeInfo?.filter (·.tag.is t)).or (firstTypeInfo? history t) := by
  unfold firstTypeInfo?
  cases h : registration.typeInfo? with
  | none => simp [h]
  | some info =>
    by_cases same : info.tag.is t = true
    · simp only [List.filterMap_cons, h, List.find?_cons, same, Option.filter_some, if_true,
        Option.some_or]
    · simp only [List.filterMap_cons, h, List.find?_cons, same, Option.filter_some,
        Bool.false_eq_true, if_false, Option.none_or]

lemma declaredIn_cons (registration : Registration) (history : List Registration) (t : TypeTag) :
    declaredIn (registration :: history) t =
      registration.constructor?.toList.filter (·.owner.is t) ++ declaredIn history t := by
  unfold declaredIn
  cases h : registration.constructor? with
  | none => simp [h]
  | some c => by_cases same : c.owner.is t = true <;> simp [h, same]

namespace Registry

/-! ## Claims of names -/

@[simp] lemma types_claim (r : Registry) (c : NameClaim) : (r.claim c).result.types = r.types := by
  unfold claim
  split
  · rfl
  · split <;> rfl

@[simp] lemma constructors_claim (r : Registry) (c : NameClaim) :
    (r.claim c).result.constructors = r.constructors := by
  unfold claim
  split
  · rfl
  · split <;> rfl

/-- A claim takes a name that nobody holds, and changes nothing else. -/
lemma holder?_claim (r : Registry) (c : NameClaim) (name : String) :
    (r.claim c).result.holder? name = (r.holder? name).or ([c].find? (·.name == name)) := by
  unfold claim
  cases h : r.holder? c.name with
  | none => simp [holder?, List.find?_append]
  | some held =>
    have unchanged : r.holder? name = (r.holder? name).or ([c].find? (·.name == name)) := by
      by_cases same : c.name = name
      · subst same
        simp [h]
      · simp [same]
    by_cases owned : held.tag.is c.tag = true
    · simpa [owned] using unchanged
    · simpa [owned] using unchanged

@[simp] lemma types_claimAll (r : Registry) (claims : List NameClaim) :
    (r.claimAll claims).result.types = r.types := by
  induction claims generalizing r with
  | nil => rfl
  | cons c rest ih =>
    show ((r.claim c).result.claimAll rest).result.types = r.types
    rw [ih, types_claim]

@[simp] lemma constructors_claimAll (r : Registry) (claims : List NameClaim) :
    (r.claimAll claims).result.constructors = r.constructors := by
  induction claims generalizing r with
  | nil => rfl
  | cons c rest ih =>
    show ((r.claim c).result.claimAll rest).result.constructors = r.constructors
    rw [ih, constructors_claim]

/-- Of several claims of a name that nobody holds, the first takes it. -/
lemma holder?_claimAll (r : Registry) (claims : List NameClaim) (name : String) :
    (r.claimAll claims).result.holder? name =
      (r.holder? name).or (claims.find? (·.name == name)) := by
  induction claims generalizing r with
  | nil => simp [claimAll]
  | cons c rest ih =>
    show ((r.claim c).result.claimAll rest).result.holder? name = _
    rw [ih, holder?_claim, Option.or_assoc, ← List.find?_append, List.singleton_append]

/-! ## One registration -/

/-- Registries do not tell apart tags of one type. -/
lemma typeInfo?_congr (r : Registry) {t u : TypeTag} (same : t.is u = true) :
    r.typeInfo? t = r.typeInfo? u := r.types.get?_congr same

/-- A type registration counts if it is the first one of its type. -/
lemma typeInfo?_register (r : Registry) (registration : Registration) (t : TypeTag) :
    (r.register registration).result.typeInfo? t =
      (r.typeInfo? t).or (registration.typeInfo?.filter (·.tag.is t)) := by
  unfold register insert Registration.typeInfo?
  cases registration.toEntry with
  | constructor c => simp [typeInfo?]
  | type info =>
    simp only [Option.filter_some]
    by_cases same : info.tag.is t = true
    · have agree : r.typeInfo? t = r.typeInfo? info.tag := (r.typeInfo?_congr same).symm
      rw [if_pos same, agree]
      cases known : r.typeInfo? info.tag with
      | some held => simpa [known] using agree
      | none => simp [typeInfo?, TypeMap.get?_insert, same]
    · rw [if_neg same, Option.or_none]
      cases r.typeInfo? info.tag with
      | some held => simp
      | none => simp [typeInfo?, TypeMap.get?_insert, same]

/-- A constructor is added after those that its owner has. -/
lemma constructorsOf_register (r : Registry) (registration : Registration) (t : TypeTag) :
    (r.register registration).result.constructorsOf t =
      r.constructorsOf t ++ registration.constructor?.toList.filter (·.owner.is t) := by
  unfold register insert Registration.constructor?
  cases registration.toEntry with
  | type info =>
    cases known : r.typeInfo? info.tag <;> simp [known, constructorsOf]
  | constructor c =>
    by_cases same : c.owner.is t = true
    · have owner : r.constructorsOf c.owner = r.constructorsOf t := by
        simp only [constructorsOf, r.constructors.get?_congr same]
      simp_all [constructorsOf, TypeMap.get?_insert]
    · simp_all [constructorsOf, TypeMap.get?_insert]

/-! ## Whole histories -/

lemma typeInfo?_registerAll (r : Registry) (history : List Registration) (t : TypeTag) :
    (r.registerAll history).result.typeInfo? t =
      (r.typeInfo? t).or (firstTypeInfo? history t) := by
  induction history generalizing r with
  | nil => simp [registerAll, firstTypeInfo?]
  | cons registration rest ih =>
    show ((r.register registration).result.registerAll rest).result.typeInfo? t = _
    rw [ih, typeInfo?_register, firstTypeInfo?_cons, Option.or_assoc]

lemma constructorsOf_registerAll (r : Registry) (history : List Registration) (t : TypeTag) :
    (r.registerAll history).result.constructorsOf t = r.constructorsOf t ++ declaredIn history t := by
  induction history generalizing r with
  | nil => simp [registerAll, declaredIn]
  | cons registration rest ih =>
    show ((r.register registration).result.registerAll rest).result.constructorsOf t = _
    rw [ih, constructorsOf_register, declaredIn_cons, List.append_assoc]

lemma registerAll_append (r : Registry) (history later : List Registration) :
    (r.registerAll (history ++ later)).result =
      ((r.registerAll history).result.registerAll later).result := by
  induction history generalizing r with
  | nil => rfl
  | cons registration rest ih => exact ih (r.register registration).result

/-- The last registration of a history meets the registry of the others. -/
lemma ofRegistrations_concat (history : List Registration) (registration : Registration) :
    (ofRegistrations (history ++ [registration])).result =
      ((ofRegistrations history).result.register registration).result :=
  registerAll_append empty history [registration]

/-- What the registry of a history knows about a type is its first type registration. -/
lemma typeInfo?_ofRegistrations (history : List Registration) (t : TypeTag) :
    (ofRegistrations history).result.typeInfo? t = firstTypeInfo? history t := by
  rw [ofRegistrations, typeInfo?_registerAll]
  rfl

/-- The constructors of a type are those that the history declares for it, in their order. -/
lemma constructorsOf_ofRegistrations (history : List Registration) (t : TypeTag) :
    (ofRegistrations history).result.constructorsOf t = declaredIn history t := by
  rw [ofRegistrations, constructorsOf_registerAll]
  rfl

end Registry

end Activation
