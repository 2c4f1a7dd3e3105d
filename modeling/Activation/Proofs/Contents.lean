import Activation.Proofs.Memo
import Activation.Proofs.Warnings

/-!
# What a registry holds

A registry has three maps: what is known about types, the constructors of types, and the holders of
names.  Each registration changes some of them and leaves the others, and there are types that occur
in one of the first two maps only.  This file says that together they hold the registrations, no
more and no less.

Which types are known is the same question for both maps: those that some registration of the right
sort is about (`Registry.contains_types_iff`, `Registry.contains_constructors_iff`).  The number of
known types is taken as the size of one map and the number of those types that are in the other map
only.  So what is counted is a list without repetitions (`Registry.nodup_knownIdents`), and it has
the types that registrations are about (`Registry.ident_mem_knownIdents_iff`).

Names go by the claims of the history.  The first registration of a type is never one that is
dropped, and so it claims both names of the type (`exists_claims_of_mem_distinctTypes`); and no name
is claimed for a type that nothing was registered about (`tag_mem_of_mem_claimsFrom`).
-/

namespace Activation

/-! ## The types of a history -/

/-- The types that registrations are about, in order. -/
def tagsOf (history : List Registration) : List TypeTag := history.map (·.toEntry.tag)

lemma tagsOf_append (history later : List Registration) :
    tagsOf (history ++ later) = tagsOf history ++ tagsOf later := List.map_append

/-- Every type stands once among distinct types. -/
lemma nodup_distinctTypes (tags : List TypeTag) :
    ((distinctTypes tags).map (·.ident)).Nodup := by
  induction tags using List.reverseRecOn with
  | nil => exact List.nodup_nil
  | append_singleton tags t ih =>
    rw [distinctTypes_concat]
    by_cases seen : (distinctTypes tags).any (·.is t) = true
    · rw [if_pos seen]
      exact ih
    · rw [if_neg seen, List.map_append, List.nodup_append]
      refine ⟨ih, List.nodup_singleton _, ?_⟩
      intro i old j new same
      obtain ⟨u, member, rfl⟩ := List.mem_map.1 old
      have alike : u.ident = t.ident := by simpa [same] using new
      exact seen (List.any_eq_true.2 ⟨u, member, TypeTag.is_eq_true_iff.2 alike⟩)

namespace Registration

/-- A registration is about the type that it registers, or about the owner of the constructor that
it declares. -/
lemma tag_is_iff {registration : Registration} {t : TypeTag} :
    registration.toEntry.tag.is t = true ↔
      (∃ info, registration.typeInfo? = some info ∧ info.tag.is t = true) ∨
        ∃ c, registration.constructor? = some c ∧ c.owner.is t = true := by
  unfold typeInfo? constructor?
  cases registration.toEntry with
  | type info => simp [Entry.tag]
  | constructor c => simp [Entry.tag]

/-- A type registration repeats a type only if some earlier registration is about that type. -/
lemma repetition?_eq_none_of_new {earlier : List Registration} (registration : Registration)
    (new : ∀ before ∈ earlier, ¬ before.toEntry.tag.is registration.toEntry.tag = true) :
    registration.repetition? earlier = none := by
  rw [Option.eq_none_iff_forall_ne_some]
  intro e repeated
  obtain ⟨info, kept, told, first, -⟩ := repetition?_eq_some_iff.1 repeated
  obtain ⟨same, before, member, told'⟩ := of_firstTypeInfo?_eq_some first
  have about : registration.toEntry.tag.is info.tag = true :=
    tag_is_iff.2 (.inl ⟨info, told, info.tag.is_refl⟩)
  have about' : before.toEntry.tag.is info.tag = true := tag_is_iff.2 (.inl ⟨kept, told', same⟩)
  refine new before member ?_
  rw [TypeTag.is_eq_true_iff] at about about' ⊢
  exact about'.trans about.symm

end Registration

/-! ## Known types -/

lemma TypeMap.contains_insert {α : Type} {m : TypeMap α} {t u : TypeTag} {a : α} :
    (m.insert t a).contains u = true ↔ m.contains u = true ∨ t.is u = true := by
  rw [← isSome_get?, ← isSome_get?, get?_insert]
  cases t.is u with
  | true => simp
  | false => simp

namespace Registry

lemma contains_types_iff {history : List Registration} {t : TypeTag} :
    (ofRegistrations history).result.types.contains t = true ↔
      ∃ registration ∈ history, ∃ info, registration.typeInfo? = some info ∧
        info.tag.is t = true := by
  have known := typeInfo?_ofRegistrations history t
  rw [typeInfo?] at known
  rw [← TypeMap.isSome_get?, known, firstTypeInfo?, List.find?_isSome]
  constructor
  · rintro ⟨info, member, same⟩
    obtain ⟨registration, registered, told⟩ := List.mem_filterMap.1 member
    exact ⟨registration, registered, info, told, same⟩
  · rintro ⟨registration, registered, info, told, same⟩
    exact ⟨info, List.mem_filterMap.2 ⟨registration, registered, told⟩, same⟩

/-- A registration gives constructors to the owner of the constructor that it declares. -/
lemma contains_constructors_register (r : Registry) (registration : Registration) (t : TypeTag) :
    (r.register registration).result.constructors.contains t = true ↔
      r.constructors.contains t = true ∨
        ∃ c, registration.constructor? = some c ∧ c.owner.is t = true := by
  unfold register insert Registration.constructor?
  cases registration.toEntry with
  | type info =>
    cases known : r.typeInfo? info.tag with
    | some kept => simp [known]
    | none => simp [known]
  | constructor c =>
    show ((r.claimAll _).result.constructors.insert c.owner _).contains t = true ↔ _
    rw [TypeMap.contains_insert, constructors_claimAll]
    simp

lemma contains_constructors_iff {history : List Registration} {t : TypeTag} :
    (ofRegistrations history).result.constructors.contains t = true ↔
      ∃ registration ∈ history, ∃ c, registration.constructor? = some c ∧
        c.owner.is t = true := by
  induction history using List.reverseRecOn with
  | nil => exact ⟨fun none => absurd none Bool.false_ne_true, fun ⟨_, member, _⟩ => nomatch member⟩
  | append_singleton history registration ih =>
    rw [ofRegistrations_concat, contains_constructors_register, ih]
    simp only [List.mem_append, List.mem_singleton, or_and_right, exists_or, exists_eq_left]

/-- The types that the registry knows, by identity: those that are registered, then those that have
constructors only. -/
def knownIdents (r : Registry) : List TypeIdent :=
  r.types.entries.map (·.1.ident) ++ r.unregisteredOwners.map (·.ident)

lemma length_knownIdents (r : Registry) : r.knownIdents.length = r.size := by
  simp [knownIdents, size, TypeMap.size]

lemma ident_mem_iff {α : Type} {m : TypeMap α} {t : TypeTag} :
    t.ident ∈ m.entries.map (·.1.ident) ↔ m.contains t = true := by
  simp [TypeMap.contains_iff]

/-- A type with constructors is counted as such only if it is not registered. -/
lemma ident_mem_unregisteredOwners_iff {r : Registry} {t : TypeTag} :
    t.ident ∈ r.unregisteredOwners.map (·.ident) ↔
      r.constructors.contains t = true ∧ r.types.contains t = false := by
  have alike : ∀ u : TypeTag, u.ident = t.ident → r.types.contains u = r.types.contains t := by
    intro u same
    rw [← TypeMap.isSome_get?, ← TypeMap.isSome_get?,
      r.types.get?_congr (TypeTag.is_eq_true_iff.2 same)]
  rw [← ident_mem_iff]
  unfold unregisteredOwners
  constructor
  · intro counted
    obtain ⟨u, member, same⟩ := List.mem_map.1 counted
    obtain ⟨owner, unregistered⟩ := List.mem_filter.1 member
    obtain ⟨e, entry, rfl⟩ := List.mem_map.1 owner
    refine ⟨List.mem_map.2 ⟨e, entry, same⟩, ?_⟩
    rw [← alike _ same]
    simpa using unregistered
  · rintro ⟨owner, unregistered⟩
    obtain ⟨e, entry, same⟩ := List.mem_map.1 owner
    refine List.mem_map.2 ⟨e.1, List.mem_filter.2 ⟨List.mem_map_of_mem entry, ?_⟩, same⟩
    rw [alike _ same, unregistered]
    rfl

/-- No type is counted twice. -/
lemma nodup_knownIdents (r : Registry) : r.knownIdents.Nodup := by
  have owners : (r.unregisteredOwners.map (·.ident)).Nodup := by
    have kept : (r.unregisteredOwners.map (·.ident)).Sublist
        (r.constructors.entries.map (·.1.ident)) := by
      have mapped := (List.filter_sublist (l := r.constructors.entries.map (·.1))
        (p := fun t => !r.types.contains t)).map (·.ident)
      rwa [List.map_map] at mapped
    exact r.constructors.distinct.sublist kept
  refine List.nodup_append.2 ⟨r.types.distinct, owners, ?_⟩
  intro i registered j unregistered same
  obtain ⟨e, entry, rfl⟩ := List.mem_map.1 registered
  rw [← same] at unregistered
  have absent := (ident_mem_unregisteredOwners_iff.1 unregistered).2
  rw [ident_mem_iff.1 registered] at absent
  cases absent

/-- What is counted are the types that registrations are about. -/
lemma ident_mem_knownIdents_iff {history : List Registration} {t : TypeTag} :
    t.ident ∈ (ofRegistrations history).result.knownIdents ↔
      ∃ u ∈ tagsOf history, u.is t = true := by
  have either : t.ident ∈ (ofRegistrations history).result.knownIdents ↔
      (ofRegistrations history).result.types.contains t = true ∨
        (ofRegistrations history).result.constructors.contains t = true := by
    rw [knownIdents, List.mem_append, ident_mem_iff, ident_mem_unregisteredOwners_iff]
    cases (ofRegistrations history).result.types.contains t <;> simp
  rw [either, contains_types_iff, contains_constructors_iff]
  simp only [tagsOf, List.mem_map, exists_exists_and_eq_and, Registration.tag_is_iff, and_or_left,
    exists_or]

/-- The registry counts each of the types of its history once. -/
lemma size_ofRegistrations (history : List Registration) :
    (ofRegistrations history).result.size = (distinctTypes (tagsOf history)).length := by
  have perm : (ofRegistrations history).result.knownIdents.Perm
      ((distinctTypes (tagsOf history)).map (·.ident)) := by
    refine (List.perm_ext_iff_of_nodup (nodup_knownIdents _) (nodup_distinctTypes _)).2 fun i => ?_
    have known := @ident_mem_knownIdents_iff history ⟨i, ""⟩
    rw [← exists_mem_distinctTypes_iff] at known
    simpa using known
  have length := perm.length_eq
  rwa [length_knownIdents, List.length_map] at length

/-- A registry is empty exactly if it counts no type. -/
lemma isEmpty_iff (r : Registry) : r.isEmpty = true ↔ r.size = 0 := by
  unfold isEmpty size TypeMap.isEmpty TypeMap.size
  constructor
  · intro empty
    obtain ⟨types, constructors⟩ := Bool.and_eq_true_iff.1 empty
    rw [List.isEmpty_iff] at types constructors
    simp [unregisteredOwners, types, constructors]
  · intro zero
    obtain ⟨types, owners⟩ := Nat.add_eq_zero_iff.1 zero
    rw [List.length_eq_zero_iff] at types owners
    -- Without registered types, the owners of constructors are all counted.
    have all : ∀ t, r.types.contains t = false := by
      intro t
      simp [TypeMap.contains, types]
    have constructors : r.constructors.entries = [] := by
      simpa [unregisteredOwners, all] using owners
    simp [types, constructors]

end Registry

/-! ## Names -/

/-- An entry claims both names of its type, and all that it claims is for that type. -/
lemma Entry.claims_spec (entry : Entry) :
    (∃ c ∈ entry.claims, c.name = entry.tag.name) ∧
      (∃ c ∈ entry.claims, c.name = entry.tag.shortName) ∧
      ∀ c ∈ entry.claims, c.tag = entry.tag := by
  cases entry with
  | type info =>
    by_cases own : info.name ≠ "" ∧ info.name ≠ info.tag.name ∧ info.name ≠ info.tag.shortName
    · simp [claims, TypeTag.claims, tag, own]
    · simp [claims, TypeTag.claims, tag, if_neg own]
  | constructor c => simp [claims, TypeTag.claims, tag]

/-- Names are claimed for types that registrations are about. -/
lemma tag_mem_of_mem_claimsFrom {earlier history : List Registration} {c : NameClaim}
    (claimed : c ∈ claimsFrom earlier history) : c.tag ∈ tagsOf history := by
  induction history generalizing earlier with
  | nil => cases claimed
  | cons registration rest ih =>
    rcases List.mem_append.1 claimed with here | later
    · rw [registration.claimsAfter_eq] at here
      split at here
      · cases here
      · rw [registration.toEntry.claims_spec.2.2 c here]
        exact List.mem_cons_self
    · exact List.mem_cons_of_mem _ (ih later)

/-- The first registration of a type claims both names of it. -/
lemma exists_claims_of_mem_distinctTypes {history : List Registration} {t : TypeTag}
    (known : t ∈ distinctTypes (tagsOf history)) :
    (∃ c ∈ claimsOf history, c.name = t.name) ∧
      ∃ c ∈ claimsOf history, c.name = t.shortName := by
  induction history using List.reverseRecOn with
  | nil => cases known
  | append_singleton history registration ih =>
    have grown : ∀ name, (∃ c ∈ claimsOf history, c.name = name) →
        ∃ c ∈ claimsOf (history ++ [registration]), c.name = name := by
      rintro name ⟨c, claimed, named⟩
      rw [claimsOf_concat]
      exact ⟨c, List.mem_append_left _ claimed, named⟩
    have split : tagsOf (history ++ [registration]) =
        tagsOf history ++ [registration.toEntry.tag] := tagsOf_append history [registration]
    rw [split, distinctTypes_concat] at known
    by_cases seen : (distinctTypes (tagsOf history)).any (·.is registration.toEntry.tag) = true
    · rw [if_pos seen] at known
      exact (ih known).imp (grown _) (grown _)
    · rw [if_neg seen] at known
      rcases List.mem_append.1 known with earlier | here
      · exact (ih earlier).imp (grown _) (grown _)
      · obtain rfl : t = registration.toEntry.tag := List.mem_singleton.1 here
        -- Nothing was registered about the type, so the registration makes its claims.
        have fresh : registration.repetition? history = none := by
          refine registration.repetition?_eq_none_of_new fun before member same => seen ?_
          exact List.any_eq_true.2 (exists_mem_distinctTypes_iff.2
            ⟨before.toEntry.tag, List.mem_map.2 ⟨before, member, rfl⟩, same⟩)
        have claims : registration.claimsAfter history = registration.toEntry.claims := by
          rw [registration.claimsAfter_eq, fresh]
          rfl
        obtain ⟨⟨c, full, named⟩, ⟨d, short, named'⟩, -⟩ := registration.toEntry.claims_spec
        rw [← claims] at full short
        rw [claimsOf_concat]
        exact ⟨⟨c, List.mem_append_right _ full, named⟩,
          ⟨d, List.mem_append_right _ short, named'⟩⟩

/-- A name that somebody claims is found. -/
lemma isSome_resolve_of_claimed {history : List Registration} {name : String}
    (claimed : ∃ c ∈ claimsOf history, c.name = name) :
    ((Registry.ofRegistrations history).result.resolve name).isSome = true := by
  obtain ⟨c, member, rfl⟩ := claimed
  obtain ⟨held, holder⟩ := Registry.exists_holder?_of_claimed member
  rw [Registry.resolve, holder]
  rfl

/-- **A registry holds its registrations.**  However a registry is put together,
* the constructors of a type are those that registrations declare for it, each as often as it was
  registered and in that order;
* what is known about a type, and its kind, come from the first registration of the type itself, and
  without one it is a plain type;
* the number of known types is that of the types that registrations of either sort are about, each
  counted once, and the registry is empty exactly if there are none;
* each of the types that are counted has its full and its short name in the index, and the index
  finds no other types. -/
theorem registry_holds_registrations (steps : List AssemblyStep) :
    let history := historyOf steps
    let r := (Registry.ofSteps steps).result
    let known := distinctTypes (tagsOf history)
    (∀ t, r.constructorsOf t = (history.filterMap (·.constructor?)).filter (·.owner.is t)) ∧
    (∀ t, r.typeInfo? t = (history.filterMap (·.typeInfo?)).find? (·.tag.is t) ∧
      r.kind t =
        (((history.filterMap (·.typeInfo?)).find? (·.tag.is t)).map (·.kind)).getD .plain) ∧
    ((known.map (·.ident)).Nodup ∧ ∀ t, (∃ u ∈ known, u.is t = true) ↔
      ∃ registration ∈ history, registration.toEntry.tag.is t = true) ∧
    (r.size = known.length ∧ (r.isEmpty = true ↔ r.size = 0)) ∧
    (∀ t ∈ known, (r.resolve t.name).isSome = true ∧ (r.resolve t.shortName).isSome = true) ∧
    ∀ name t, r.resolve name = some t → ∃ u ∈ known, u.is t = true := by
  intro history r known
  have registry : r = (Registry.ofRegistrations history).result := Registry.result_ofSteps steps
  have told : ∀ t, r.typeInfo? t = firstTypeInfo? history t := by
    intro t
    rw [registry, Registry.typeInfo?_ofRegistrations]
  refine ⟨fun t => ?_, fun t => ⟨told t, ?_⟩, ⟨nodup_distinctTypes _, fun t => ?_⟩,
    ⟨?_, Registry.isEmpty_iff r⟩, fun t member => ?_, fun name t found => ?_⟩
  · rw [registry]
    exact Registry.constructorsOf_ofRegistrations history t
  · rw [Registry.kind, told]
    rfl
  · rw [exists_mem_distinctTypes_iff, tagsOf]
    simp only [List.mem_map, exists_exists_and_eq_and]
  · rw [registry]
    exact Registry.size_ofRegistrations history
  · obtain ⟨full, short⟩ := exists_claims_of_mem_distinctTypes member
    rw [registry]
    exact ⟨isSome_resolve_of_claimed full, isSome_resolve_of_claimed short⟩
  · rw [registry, Registry.resolve, Registry.holder?_ofRegistrations] at found
    obtain ⟨c, held, rfl⟩ := Option.map_eq_some_iff.1 found
    have about := tag_mem_of_mem_claimsFrom (List.mem_of_find?_eq_some held)
    exact exists_mem_distinctTypes_iff.2 ⟨c.tag, about, c.tag.is_refl⟩

end Activation
