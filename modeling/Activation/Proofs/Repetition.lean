import Activation.Proofs.Contents

/-!
# Registering again

Linked records can come more than once: a program may link them twice, or register by hand what it
also links.  Types and names do not mind, for a later registration of either is dropped.  But
constructors are never dropped, so that the overload sets do grow.

Still nothing can be seen of it in activations.  Every search through a history stops at the first
hit, and what is registered again has been passed on the way there: a later copy is never the first
of its kind, and where it is a hit, there was one before (`find?_append_of_subset`).  This holds for
the type registrations (`firstTypeInfo?_again`), for the constructors that answer to given arguments
(`find?_answers_again`), and for the claims of names, which are either claims that were made before
or none (`mem_claimsOf_of_again`).
-/

namespace Activation

/-- A search does not see elements that it has passed before. -/
lemma find?_append_of_subset {α : Type} {l l' : List α} (known : l' ⊆ l) (p : α → Bool) :
    (l ++ l').find? p = l.find? p := by
  rw [List.find?_append]
  cases found : l.find? p with
  | some a => rfl
  | none =>
    rw [Option.none_or, List.find?_eq_none]
    intro a member
    exact List.find?_eq_none.1 found a (known member)

section Again

variable {history again : List Registration}

/-! ## Types and constructors -/

lemma firstTypeInfo?_again (known : again ⊆ history) (t : TypeTag) :
    firstTypeInfo? (history ++ again) t = firstTypeInfo? history t := by
  have told : again.filterMap (·.typeInfo?) ⊆ history.filterMap (·.typeInfo?) :=
    List.filterMap_subset _ known
  rw [firstTypeInfo?, List.filterMap_append]
  exact find?_append_of_subset told _

lemma typeInfo?_again (known : again ⊆ history) (t : TypeTag) :
    (Registry.ofRegistrations (history ++ again)).result.typeInfo? t =
      (Registry.ofRegistrations history).result.typeInfo? t := by
  rw [Registry.typeInfo?_ofRegistrations, Registry.typeInfo?_ofRegistrations,
    firstTypeInfo?_again known]

/-- The constructors that are added are copies, and a copy never answers first. -/
lemma find?_answers_again (known : again ⊆ history) (options : Options) (t : TypeTag)
    (args : List Argument) :
    ((Registry.ofRegistrations (history ++ again)).result.constructorsOf t).find?
        (·.answers options args) =
      ((Registry.ofRegistrations history).result.constructorsOf t).find?
        (·.answers options args) := by
  have copies : declaredIn again t ⊆ declaredIn history t :=
    List.filter_subset _ (List.filterMap_subset _ known)
  rw [Registry.constructorsOf_ofRegistrations, Registry.constructorsOf_ofRegistrations,
    declaredIn_append]
  exact find?_append_of_subset copies _

lemma zeroOverloads_again (known : again ⊆ history) (options : Options) (t : TypeTag) :
    (Registry.ofRegistrations (history ++ again)).result.zeroOverloads options t =
      (Registry.ofRegistrations history).result.zeroOverloads options t := by
  simp only [Registry.zeroOverloads, Registry.memberOverload?, Registry.kind,
    typeInfo?_again known]

/-- So arguments select what they selected. -/
lemma select?_again (known : again ⊆ history) (options : Options) (t : TypeTag)
    (args : List Argument) :
    (OverloadSet.ofRegistry (Registry.ofRegistrations (history ++ again)).result options t).select?
        args =
      (OverloadSet.ofRegistry (Registry.ofRegistrations history).result options t).select? args := by
  rw [select?_eq_or, select?_eq_or, find?_answers_again known, zeroOverloads_again known]

/-! ## Names -/

/-- Whatever declares a constructor makes its claims after any other registrations. -/
lemma claimsAfter_of_typeInfo?_eq_none {registration : Registration}
    (declares : registration.typeInfo? = none) (earlier : List Registration) :
    registration.claimsAfter earlier = registration.toEntry.claims := by
  have fresh : registration.repetition? earlier = none := by
    rw [Registration.repetition?, declares]
    rfl
  rw [registration.claimsAfter_eq, fresh]
  rfl

/-- A type registration that comes again repeats its type. -/
lemma typeInfo?_eq_none_of_again {registration : Registration} (registered : registration ∈ history)
    (fresh : registration.repetition? history = none) : registration.typeInfo? = none := by
  cases told : registration.typeInfo? with
  | none => rfl
  | some info =>
    have before : (firstTypeInfo? history info.tag).isSome = true := by
      rw [firstTypeInfo?, List.find?_isSome]
      exact ⟨info, List.mem_filterMap.2 ⟨registration, registered, told⟩, info.tag.is_refl⟩
    obtain ⟨kept, first⟩ := Option.isSome_iff_exists.1 before
    have repeated := Registration.repetition?_eq_some_iff.2 ⟨info, kept, told, first, rfl⟩
    rw [fresh] at repeated
    cases repeated

lemma claims_subset_claimsFrom {registration : Registration}
    (declares : registration.typeInfo? = none) (registered : registration ∈ history)
    (earlier : List Registration) :
    registration.toEntry.claims ⊆ claimsFrom earlier history := by
  induction history generalizing earlier with
  | nil => cases registered
  | cons first rest ih =>
    rcases List.mem_cons.1 registered with rfl | later
    · rw [claimsFrom, claimsAfter_of_typeInfo?_eq_none declares]
      exact List.subset_append_left _ _
    · exact List.Subset.trans (ih later _) (List.subset_append_right _ _)

/-- What is registered again makes claims that were made before, or none. -/
lemma mem_claimsOf_of_again (known : again ⊆ history) (earlier : List Registration)
    {c : NameClaim} (claimed : c ∈ claimsFrom (history ++ earlier) again) :
    c ∈ claimsOf history := by
  induction again generalizing earlier with
  | nil => cases claimed
  | cons registration rest ih =>
    have registered : registration ∈ history := known List.mem_cons_self
    rcases List.mem_append.1 claimed with here | later
    · cases repeated : registration.repetition? (history ++ earlier) with
      | some e =>
        rw [Registration.claimsAfter_of_repetition repeated] at here
        cases here
      | none =>
        have declares : registration.typeInfo? = none :=
          typeInfo?_eq_none_of_again (List.mem_append_left _ registered) repeated
        rw [claimsAfter_of_typeInfo?_eq_none declares] at here
        exact claims_subset_claimsFrom declares registered [] here
    · rw [List.append_assoc] at later
      exact ih (fun _ member => known (List.mem_cons_of_mem _ member)) _ later

/-- Names stay with their holders, and no name gets one. -/
lemma holder?_again (known : again ⊆ history) (name : String) :
    (Registry.ofRegistrations (history ++ again)).result.holder? name =
      (Registry.ofRegistrations history).result.holder? name := by
  have claims : claimsOf (history ++ again) = claimsOf history ++ claimsFrom history again :=
    claimsFrom_append [] history again
  have old : claimsFrom history again ⊆ claimsOf history := by
    intro c claimed
    refine mem_claimsOf_of_again known [] ?_
    rwa [List.append_nil]
  rw [Registry.holder?_ofRegistrations, Registry.holder?_ofRegistrations, claims]
  exact find?_append_of_subset old _

/-! ## The number of types -/

/-- Types that were there before are not counted again. -/
lemma distinctTypes_append_of_subset {tags later : List TypeTag} (known : later ⊆ tags) :
    distinctTypes (tags ++ later) = distinctTypes tags := by
  induction later using List.reverseRecOn with
  | nil => rw [List.append_nil]
  | append_singleton later t ih =>
    have before : later ⊆ tags := fun u member => known (List.mem_append_left _ member)
    have seen : (distinctTypes tags).any (·.is t) = true := by
      have listed : t ∈ tags := known (List.mem_append_right _ (List.mem_singleton_self t))
      exact List.any_eq_true.2 (exists_mem_distinctTypes_iff.2 ⟨t, listed, t.is_refl⟩)
    rw [← List.append_assoc, distinctTypes_concat, ih before, if_pos seen]

lemma size_again (known : again ⊆ history) :
    (Registry.ofRegistrations (history ++ again)).result.size =
      (Registry.ofRegistrations history).result.size := by
  have tags : tagsOf again ⊆ tagsOf history := List.map_subset _ known
  rw [Registry.size_ofRegistrations, Registry.size_ofRegistrations, tagsOf_append,
    distinctTypes_append_of_subset tags]

end Again

/-- **Registering again changes nothing that activation shows.**  Put a registry together, and go on
with steps that register nothing new.
* Every name means what it meant, and belongs to the claim that it belonged to.
* What is known about each type is the same, and so is its kind; no type is counted again.
* The overload set of each type, which may have got more overloads, has a default overload if it had
  one, and gives to any arguments, to no argument list and without arguments what it gave. -/
theorem registering_again_is_not_seen {steps again : List AssemblyStep}
    (known : historyOf again ⊆ historyOf steps) :
    let r := (Registry.ofSteps steps).result
    let r' := (Registry.ofSteps (steps ++ again)).result
    (∀ name, r'.resolve name = r.resolve name ∧ r'.holder? name = r.holder? name) ∧
    (∀ t, r'.kind t = r.kind t ∧ r'.typeInfo? t = r.typeInfo? t) ∧
    r'.size = r.size ∧
    ∀ options t,
      let s := (OverloadSet.build r options t).result
      let s' := (OverloadSet.build r' options t).result
      s'.hasDefault = s.hasDefault ∧ (∀ args, s'.create args = s.create args) ∧
        s'.createDefault = s.createDefault := by
  intro r r'
  have registry : r = (Registry.ofRegistrations (historyOf steps)).result :=
    Registry.result_ofSteps steps
  have registry' :
      r' = (Registry.ofRegistrations (historyOf steps ++ historyOf again)).result := by
    rw [← historyOf_append]
    exact Registry.result_ofSteps (steps ++ again)
  have told : ∀ t, r'.typeInfo? t = r.typeInfo? t := by
    intro t
    rw [registry, registry', typeInfo?_again known]
  refine ⟨fun name => ?_, fun t => ⟨?_, told t⟩, ?_, fun options t => ?_⟩
  · have holder : r'.holder? name = r.holder? name := by
      rw [registry, registry', holder?_again known]
    exact ⟨by rw [Registry.resolve, Registry.resolve, holder], holder⟩
  · rw [Registry.kind, Registry.kind, told]
  · rw [registry, registry', size_again known]
  · intro s s'
    have selects : ∀ args, s'.select? args = s.select? args := by
      intro args
      show (OverloadSet.ofRegistry r' options t).select? args =
        (OverloadSet.ofRegistry r options t).select? args
      rw [registry, registry', select?_again known]
    have creates : ∀ args, s'.createWith args = s.createWith args :=
      fun args => OverloadSet.createWith_congr_select? (selects args)
    refine ⟨?_, fun args => ?_, ?_⟩
    · have default : s'.default? = s.default? :=
        (OverloadSet.default?_ofRegistry r' options t).trans
          ((selects []).trans (OverloadSet.default?_ofRegistry r options t).symm)
      rw [OverloadSet.hasDefault, OverloadSet.hasDefault, default]
    · cases args with
      | none => rfl
      | some args => exact creates args
    · exact (OverloadSet.createDefault_ofRegistry r' options t).trans
        ((creates []).trans (OverloadSet.createDefault_ofRegistry r options t).symm)

/-- A lamp from a brightness. -/
def lampFrom (name : String) (shape : Shape) : ConstructorRecord :=
  ⟨.basic "Lamp", name, true, [⟨"brightness", .basic "u8", shape⟩],
    fun args => (.finished (.ok ⟨.basic "Lamp", .text name⟩), args), "home"⟩

/-- Lamps are called lights too, and have two constructors that take numbers. -/
def lamps : LinkedRecords :=
  ⟨[⟨.basic "Lamp", "Light", .record, "home"⟩], [lampFrom "dimmed" .value, lampFrom "lit" .dynamic]⟩

/-- After one of their constructors was registered on its own and all was linked once more, lamps have
five constructors, but are found and made as before. -/
theorem lamps_linked_again :
    let alone : AssemblyStep := .register (.constructorRecord (lampFrom "lit" .dynamic))
    let r := (Registry.ofSteps [.link lamps]).result
    let r' := (Registry.ofSteps ([.link lamps] ++ [alone, .link lamps])).result
    historyOf [alone, .link lamps] ⊆ historyOf [.link lamps] ∧
    (r'.constructorsOf (.basic "Lamp")).length = 5 ∧
    r'.resolve "Light" = some (.basic "Lamp") ∧
    r'.size = 1 ∧
    (OverloadSet.build r' .standard (.basic "Lamp")).result.create
        (some [.value ⟨.basic "u8", .int 3⟩]) =
      (OverloadSet.build r .standard (.basic "Lamp")).result.create
        (some [.value ⟨.basic "u8", .int 3⟩]) := by
  intro alone r r'
  have known : historyOf [alone, .link lamps] ⊆ historyOf [.link lamps] := by
    have first : historyOf [alone, .link lamps] =
        .constructorRecord (lampFrom "lit" .dynamic) :: historyOf [.link lamps] := rfl
    have there : .constructorRecord (lampFrom "lit" .dynamic) ∈ historyOf [.link lamps] :=
      List.mem_of_getElem (i := 2) (h := by decide) rfl
    rw [first]
    exact List.cons_subset.2 ⟨there, List.Subset.refl _⟩
  obtain ⟨names, -, size, sets⟩ := registering_again_is_not_seen known
  refine ⟨known, by rfl, (names "Light").1.trans rfl, size.trans rfl, ?_⟩
  exact (sets .standard (.basic "Lamp")).2.1 (some [.value ⟨.basic "u8", .int 3⟩])

end Activation
