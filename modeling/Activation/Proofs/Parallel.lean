import Activation.Proofs.Representation

/-!
# Histories side by side

Two histories correspond if they do so registration by registration: types of one identity and one
kind, and constructors that some relation pairs.  The relation is a parameter, and so is the one
that pairs the functions which read the members of enumerations; all that is asked for is that
paired constructors belong to one type and may both be run or neither (`Constructor.Matches`).

What activation makes of the two then corresponds as well.  They give a type paired constructors and
paired candidates, one by one (`forall₂_declaredIn`, `forall₂_candidatesIn`).  Ranking looks at the
arities only, and so keeps a correspondence of overloads that respects them (`forall₂_ranked`).  The
overload sets of a type are put together from paired overloads in the same places
(`forall₂_ofRegistrations`), and report the same numbers (`discarded_parallel`).
-/

namespace Activation

/-! ## Lists with related elements -/

/-- In two lists with related elements, tests that agree on related elements are first passed at the
same position. -/
lemma findIdx?_of_forall₂ {α β : Type} {R : α → β → Prop} {p : α → Bool} {q : β → Bool}
    (agree : ∀ a b, R a b → q b = p a) {l : List α} {k : List β} (related : List.Forall₂ R l k) :
    k.findIdx? q = l.findIdx? p := by
  induction related with
  | nil => rfl
  | @cons a b l k head _ ih => rw [List.findIdx?_cons, List.findIdx?_cons, agree a b head, ih]

/-- Ranking keeps a relation between overloads of one arity. -/
lemma OverloadSet.forall₂_ranked {R : Overload → Overload → Prop}
    (respects : ∀ o o', R o o' → o.arity = o'.arity) {l l' : List Overload}
    (related : List.Forall₂ R l l') : List.Forall₂ R (ranked l) (ranked l') := by
  obtain ⟨length, each⟩ := List.forall₂_iff_zip.1 related
  -- Both rankings are that of the list of pairs, of which the first or the second parts are taken.
  let pairs := l.zip l'
  let byArity : Overload → Overload → Bool := fun o o' => o.arity ≤ o'.arity
  let ranking := pairs.mergeSort fun x y => byArity x.1 y.1
  have arities : ∀ x ∈ pairs, x.1.arity = x.2.arity := fun x member => respects _ _ (each member)
  have first : ranking.map Prod.fst = ranked l := by
    have sorted := List.map_mergeSort (l := pairs) (f := Prod.fst) (s := byArity)
      (r := fun x y => byArity x.1 y.1) fun x _ y _ => rfl
    rw [List.map_fst_zip length.le] at sorted
    exact sorted
  have second : ranking.map Prod.snd = ranked l' := by
    have agree : ∀ x ∈ pairs, ∀ y ∈ pairs, byArity x.1 y.1 = byArity x.2 y.2 := by
      intro x hx y hy
      simp only [byArity, arities x hx, arities y hy]
    have sorted := List.map_mergeSort (f := Prod.snd) (s := byArity) agree
    rw [List.map_snd_zip length.ge] at sorted
    exact sorted
  rw [← first, ← second, List.forall₂_map_left_iff, List.forall₂_map_right_iff, List.forall₂_same]
  exact fun x member => each (List.mem_mergeSort.1 member)

/-! ## Registrations -/

/-- Functions that give the member of an enumeration that a number belongs to. -/
abbrev MemberReader := String → Outcome (Option Instance)

/-- The constructors belong to one type, and calls may run both or neither. -/
structure Constructor.Matches (c c' : Constructor) : Prop where
  owner_is : c.owner.is c'.owner = true
  isPublic_eq : c.isPublic = c'.isPublic
  isUnsupported_eq : c.isUnsupported = c'.isUnsupported

/-- The kinds are the same, up to names and paired readers. -/
inductive TypeKind.Parallel (P : MemberReader → MemberReader → Prop) : TypeKind → TypeKind → Prop
  | plain : Parallel P .plain .plain
  | record : Parallel P .record .record
  | enumeration {info info' : Enumeration} (underlying : info.underlying.is info'.underlying = true)
      (parse : P info.parse info'.parse) : Parallel P (.enumeration info) (.enumeration info')

/-- What is told is about one type, and of the same kind. -/
structure TypeInfo.Parallel (P : MemberReader → MemberReader → Prop) (info info' : TypeInfo) :
    Prop where
  tag_is : info.tag.is info'.tag = true
  kind : info.kind.Parallel P info'.kind

/-- The entries are both of one type, or of paired constructors. -/
inductive Entry.Parallel (C : Constructor → Constructor → Prop)
    (P : MemberReader → MemberReader → Prop) : Entry → Entry → Prop
  | type {info info' : TypeInfo} (parallel : info.Parallel P info') :
      Parallel C P (.type info) (.type info')
  | constructor {c c' : Constructor} (paired : C c c') :
      Parallel C P (.constructor c) (.constructor c')

/-- The registrations make corresponding entries, in whatever way they are made. -/
def Registration.Parallel (C : Constructor → Constructor → Prop)
    (P : MemberReader → MemberReader → Prop) (registration registration' : Registration) : Prop :=
  registration.toEntry.Parallel C P registration'.toEntry

section Histories

variable {C : Constructor → Constructor → Prop} {P : MemberReader → MemberReader → Prop}

lemma Registration.Parallel.typeInfo? {registration registration' : Registration}
    (parallel : registration.Parallel C P registration') :
    Option.Rel (TypeInfo.Parallel P) registration.typeInfo? registration'.typeInfo? := by
  unfold Registration.Parallel at parallel
  unfold Registration.typeInfo?
  generalize registration.toEntry = entry, registration'.toEntry = entry' at parallel ⊢
  cases parallel with
  | type parallel => exact .some parallel
  | constructor paired => exact .none

lemma Registration.Parallel.constructor? {registration registration' : Registration}
    (parallel : registration.Parallel C P registration') :
    Option.Rel C registration.constructor? registration'.constructor? := by
  unfold Registration.Parallel at parallel
  unfold Registration.constructor?
  generalize registration.toEntry = entry, registration'.toEntry = entry' at parallel ⊢
  cases parallel with
  | type parallel => exact .none
  | constructor paired => exact .some paired

variable {history history' : List Registration} {t t' : TypeTag} {options : Options}

/-- A type has paired constructors by both histories. -/
lemma forall₂_declaredIn (matching : ∀ c c', C c c' → c.Matches c')
    (parallel : List.Forall₂ (Registration.Parallel C P) history history')
    (same : t.is t' = true) :
    List.Forall₂ C (declaredIn history t) (declaredIn history' t') := by
  refine List.rel_filter (fun c c' paired => ?_)
    (List.rel_filterMap (fun _ _ each => each.constructor?) parallel)
  simp only [TypeTag.is_eq_is (matching c c' paired).owner_is same]

/-- Both histories tell nothing about a type, or what corresponds. -/
lemma firstTypeInfo?_parallel
    (parallel : List.Forall₂ (Registration.Parallel C P) history history')
    (same : t.is t' = true) :
    (firstTypeInfo? history t = none ∧ firstTypeInfo? history' t' = none) ∨
      ∃ info info', firstTypeInfo? history t = some info ∧
        firstTypeInfo? history' t' = some info' ∧ info.Parallel P info' :=
  find?_of_forall₂ (fun _ _ told => TypeTag.is_eq_is told.tag_is same)
    (List.rel_filterMap (fun _ _ each => each.typeInfo?) parallel)

lemma forall₂_eligible (matching : ∀ c c', C c c' → c.Matches c') {l l' : List Constructor}
    (paired : List.Forall₂ C l l') :
    List.Forall₂ C (eligible options l) (eligible options l') := by
  refine List.rel_filter (fun c c' pair => ?_) paired
  have hidden := (matching c c' pair).isPublic_eq
  have unsupported := (matching c c' pair).isUnsupported_eq
  rw [Constructor.isUnsupported, Constructor.isUnsupported] at unsupported
  simp only [hidden, unsupported]

/-! ## Candidates -/

/-- The candidates are paired constructors, the same zero value, or zero members of paired
enumerations. -/
inductive Candidate.Parallel (C : Constructor → Constructor → Prop)
    (P : MemberReader → MemberReader → Prop) : Candidate → Candidate → Prop
  | declared {c c' : Constructor} (paired : C c c') : Parallel C P (.declared c) (.declared c')
  | zero (value : ZeroValue) : Parallel C P (.zero value) (.zero value)
  | member {info info' : Enumeration} (parse : P info.parse info'.parse) (literal : String) :
      Parallel C P (.member info literal) (.member info' literal)

lemma zeroOf?_congr (same : t.is t' = true) : zeroOf? t = zeroOf? t' := by
  unfold zeroOf?
  simp only [TypeTag.is_congr same]

lemma forall₂_memberCandidates
    (parallel : List.Forall₂ (Registration.Parallel C P) history history')
    (same : t.is t' = true) :
    List.Forall₂ (Candidate.Parallel C P) (memberCandidates history options t)
      (memberCandidates history' options t') := by
  unfold memberCandidates
  by_cases asked : options.enumerationFallback = true
  · rw [if_pos asked, if_pos asked]
    rcases firstTypeInfo?_parallel parallel same with ⟨none, none'⟩ | ⟨i, i', told, told', alike⟩
    · rw [none, none']
      exact .nil
    · have kinds := alike.kind
      rw [told, told', Option.map_some, Option.map_some]
      generalize i.kind = kind, i'.kind = kind' at kinds ⊢
      cases kinds with
      | plain => exact .nil
      | record => exact .nil
      | enumeration underlying parse =>
        dsimp only
        rw [zeroOf?_congr underlying, List.forall₂_map_left_iff, List.forall₂_map_right_iff,
          List.forall₂_same]
        exact fun literal _ => .member parse literal
  · rw [if_neg asked, if_neg asked]
    exact .nil

/-- A type has corresponding candidates by both histories. -/
lemma forall₂_candidatesIn (matching : ∀ c c', C c c' → c.Matches c')
    (parallel : List.Forall₂ (Registration.Parallel C P) history history')
    (same : t.is t' = true) :
    List.Forall₂ (Candidate.Parallel C P) (candidatesIn history options t)
      (candidatesIn history' options t') := by
  have declared : List.Forall₂ (Candidate.Parallel C P)
      ((eligible options (declaredIn history t)).map .declared)
      ((eligible options (declaredIn history' t')).map .declared) := by
    rw [List.forall₂_map_left_iff, List.forall₂_map_right_iff]
    exact (forall₂_eligible matching (forall₂_declaredIn matching parallel same)).imp
      fun _ _ => .declared
  have zeros : List.Forall₂ (Candidate.Parallel C P) (zeroCandidates options t)
      (zeroCandidates options t') := by
    unfold zeroCandidates
    rw [zeroOf?_congr same]
    split
    · rw [List.forall₂_map_left_iff, List.forall₂_map_right_iff, List.forall₂_same]
      exact fun value _ => .zero value
    · exact .nil
  exact List.rel_append (List.rel_append declared zeros) (forall₂_memberCandidates parallel same)

/-! ## Overload sets -/

/-- Overload sets by both histories hold corresponding overloads in the same places. -/
lemma OverloadSet.forall₂_ofRegistrations (matching : ∀ c c', C c c' → c.Matches c')
    {R : Overload → Overload → Prop} (respects : ∀ o o', R o o' → o.arity = o'.arity)
    (overloads : ∀ c c', Candidate.Parallel C P c c' → R (c.overload t) (c'.overload t'))
    (parallel : List.Forall₂ (Registration.Parallel C P) history history')
    (same : t.is t' = true) :
    List.Forall₂ R
      (ofRegistry (Registry.ofRegistrations history).result options t).overloads
      (ofRegistry (Registry.ofRegistrations history').result options t').overloads := by
  apply forall₂_ranked respects
  rw [candidates_ofRegistrations, candidates_ofRegistrations, List.forall₂_map_left_iff,
    List.forall₂_map_right_iff]
  exact (forall₂_candidatesIn matching parallel same).imp overloads

/-- Sets of overloads with the same arities have a default overload both or neither. -/
lemma OverloadSet.hasDefault_of_forall₂ {R : Overload → Overload → Prop}
    (respects : ∀ o o', R o o' → o.arity = o'.arity) {s s' : OverloadSet}
    (related : List.Forall₂ R s.overloads s'.overloads) : s'.hasDefault = s.hasDefault := by
  rw [hasDefault, hasDefault, s.default_eq, s'.default_eq]
  generalize s.overloads = overloads, s'.overloads = overloads' at related ⊢
  cases related with
  | nil => rfl
  | @cons o o' _ _ head _ =>
    rw [List.head?_cons, List.head?_cons, Option.filter_some, Option.filter_some,
      respects o o' head]
    split <;> rfl

/-- As many constructors are left out by both histories. -/
lemma discarded_parallel (matching : ∀ c c', C c c' → c.Matches c')
    (parallel : List.Forall₂ (Registration.Parallel C P) history history')
    (same : t.is t' = true) :
    (Registry.ofRegistrations history').result.discarded options t' =
      (Registry.ofRegistrations history).result.discarded options t := by
  have declared := forall₂_declaredIn matching parallel same
  rw [Registry.discarded, Registry.discarded, length_declaredOverloads, length_declaredOverloads,
    Registry.constructorsOf_ofRegistrations, Registry.constructorsOf_ofRegistrations,
    declared.length_eq, (forall₂_eligible matching declared).length_eq]

end Histories

end Activation
