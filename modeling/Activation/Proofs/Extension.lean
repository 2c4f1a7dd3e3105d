import Activation.Proofs.NameIndex
import Activation.Proofs.Search

/-!
# Later registrations

What was registered stays when more is registered.  Names and types keep what the first claim and
the first registration gave them, because a history is read from its front (`holder?_append`,
`firstTypeInfo?_append`), and the constructors of a type are added to at the end only
(`declaredIn_append`).

Activation is where this is not obvious: ranking mixes new constructors with the old ones, and a
zero value or a zero member stands among them.  But arguments select a declared constructor before
any zero, and among the declared ones the first that answers to them (`select?_eq_or`).  So a
constructor that was selected still is, and `registrations_extend` concludes that new registrations
change the outcome only for arguments that no declared overload accepted.
-/

namespace Activation

/-! ## Histories with a common front -/

lemma firstTypeInfo?_append (history later : List Registration) (t : TypeTag) :
    firstTypeInfo? (history ++ later) t =
      (firstTypeInfo? history t).or (firstTypeInfo? later t) := by
  simp [firstTypeInfo?, List.filterMap_append, List.find?_append]

lemma declaredIn_append (history later : List Registration) (t : TypeTag) :
    declaredIn (history ++ later) t = declaredIn history t ++ declaredIn later t := by
  simp [declaredIn, List.filterMap_append]

namespace Registry

/-- A name that is held stays with its holder. -/
lemma holder?_append {history : List Registration} {name : String} {c : NameClaim}
    (held : (ofRegistrations history).result.holder? name = some c)
    (later : List Registration) :
    (ofRegistrations (history ++ later)).result.holder? name = some c := by
  rw [holder?_ofRegistrations] at held ⊢
  rw [claimsOf, claimsFrom_append, List.find?_append]
  rw [claimsOf] at held
  rw [held, Option.some_or]

end Registry

/-! ## The declared constructor that arguments select -/

/-- Whether calls can select the constructor by the arguments: it may be run and accepts them. -/
def Constructor.answers (options : Options) (args : List Argument) (c : Constructor) : Bool :=
  (c.isPublic || options.includeNonPublic) && !c.isUnsupported && acceptedBy c.parameters args

/-- Among the constructors that may be run, one that answers is one that accepts the arguments. -/
lemma find?_eligible (options : Options) (declared : List Constructor) (args : List Argument) :
    (eligible options declared).find? (fun c => acceptedBy c.parameters args) =
      declared.find? (·.answers options args) := by
  rw [eligible, List.find?_filter]
  simp only [Constructor.answers, Constructor.isUnsupported, Bool.decide_and, Bool.decide_eq_true]

/-- The first declared overload that accepts the arguments is that of the first constructor that
answers to them. -/
lemma find?_declaredOverloads (r : Registry) (options : Options) (t : TypeTag)
    (args : List Argument) :
    (r.declaredOverloads options t).find? (·.accepts args) =
      ((r.constructorsOf t).find? (·.answers options args)).map Overload.ofConstructor := by
  have accepts : (fun o : Overload => o.accepts args) ∘ Overload.ofConstructor =
      fun c => acceptedBy c.parameters args := by
    funext c
    exact Overload.accepts_ofConstructor c args
  rw [Registry.declaredOverloads, declaredOverloads_eq, List.find?_map, accepts, find?_eligible]

/-- The overloads that answer with a zero: that of the type, then that of its members. -/
def Registry.zeroOverloads (r : Registry) (options : Options) (t : TypeTag) : List Overload :=
  (zeroOverload? options t).toList ++ (r.memberOverload? options t).toList

/-- Arguments select a declared constructor if one answers to them, and otherwise a zero. -/
lemma select?_eq_or (r : Registry) (options : Options) (t : TypeTag) (args : List Argument) :
    (OverloadSet.ofRegistry r options t).select? args =
      (((r.constructorsOf t).find? (·.answers options args)).map Overload.ofConstructor).or
        ((r.zeroOverloads options t).find? (·.accepts args)) := by
  rw [OverloadSet.select?_ofRegistry, Registry.candidates, List.append_assoc, List.find?_append,
    find?_declaredOverloads, Registry.zeroOverloads]

/-- A declared overload that is selected is that of the first constructor that answers. -/
lemma exists_answers_of_select? {r : Registry} {options : Options} {t : TypeTag}
    {args : List Argument} {o : Overload}
    (selected : (OverloadSet.ofRegistry r options t).select? args = some o)
    (declared : o ∈ r.declaredOverloads options t) :
    ∃ c, (r.constructorsOf t).find? (·.answers options args) = some c ∧
      o = Overload.ofConstructor c := by
  have accepted : o.accepts args = true := by simpa using List.find?_some selected
  have found := find?_declaredOverloads r options t args
  cases first : (r.constructorsOf t).find? (·.answers options args) with
  | none =>
    rw [first, Option.map_none, List.find?_eq_none] at found
    exact absurd accepted (found o declared)
  | some c =>
    rw [select?_eq_or, first] at selected
    exact ⟨c, rfl, (Option.some.inj selected).symm⟩

/-- A constructor that answers first is selected, whatever zeros there are. -/
lemma select?_of_answers {r : Registry} {options : Options} {t : TypeTag} {args : List Argument}
    {c : Constructor} (first : (r.constructorsOf t).find? (·.answers options args) = some c) :
    (OverloadSet.ofRegistry r options t).select? args = some (Overload.ofConstructor c) := by
  rw [select?_eq_or, first]
  rfl

/-- A constructor that answers first among the old ones has kept its place, and answers first among
all. -/
lemma place_of_find?_append {declared more : List Constructor} {p : Constructor → Bool}
    {c : Constructor} (first : declared.find? p = some c) :
    ∃ i : ℕ, declared[i]? = some c ∧ (declared ++ more)[i]? = some c ∧ p c = true ∧
      ∀ d ∈ (declared ++ more).take i, p d = false := by
  obtain ⟨holds, before, after, rfl, none⟩ := List.find?_eq_some_iff_append.1 first
  refine ⟨before.length, by simp, by simp, holds, fun d member => ?_⟩
  have earlier : d ∈ before := by simpa using member
  simpa using none d earlier

/-- **Later registrations take nothing away.**  Compare the registry of a history with that of the
same history and more.
* Every name that was found is found for the same type, and what was known about a type is
  unchanged.
* The constructors of every type are those that it had, in their order, and possibly more.
* If arguments selected a declared overload, they select it again: it is that of a constructor which
  has kept its place, and before which none answers to the arguments.  The outcome is the same.
* So the outcome differs only for arguments that no declared overload accepted. -/
theorem registrations_extend (history later : List Registration) :
    let r := (Registry.ofRegistrations history).result
    let r' := (Registry.ofRegistrations (history ++ later)).result
    (∀ name t, r.resolve name = some t → r'.resolve name = some t) ∧
    (∀ t info, r.typeInfo? t = some info → r'.typeInfo? t = some info) ∧
    (∀ t, r.constructorsOf t <+: r'.constructorsOf t) ∧
    ∀ options t args,
      let s := (OverloadSet.build r options t).result
      let s' := (OverloadSet.build r' options t).result
      (∀ o, s.select? args = some o → o ∈ r.declaredOverloads options t →
        (∃ i c, o = Overload.ofConstructor c ∧ (r.constructorsOf t)[i]? = some c ∧
          (r'.constructorsOf t)[i]? = some c ∧ c.answers options args = true ∧
          ∀ d ∈ (r'.constructorsOf t).take i, d.answers options args = false) ∧
        s'.select? args = some o ∧ s'.create (some args) = s.create (some args)) ∧
      (s'.create (some args) ≠ s.create (some args) →
        ∀ o ∈ r.declaredOverloads options t, o.accepts args = false) := by
  intro r r'
  have grown : ∀ t, r'.constructorsOf t = r.constructorsOf t ++ declaredIn later t := by
    intro t
    rw [Registry.constructorsOf_ofRegistrations, Registry.constructorsOf_ofRegistrations,
      declaredIn_append]
  refine ⟨fun name t found => ?_, fun t info known => ?_, fun t => ⟨_, (grown t).symm⟩,
    fun options t args => ?_⟩
  · obtain ⟨c, held, rfl⟩ := Option.map_eq_some_iff.1 found
    exact Option.map_eq_some_iff.2 ⟨c, Registry.holder?_append held later, rfl⟩
  · rw [Registry.typeInfo?_ofRegistrations] at known ⊢
    rw [firstTypeInfo?_append, known, Option.some_or]
  · intro s s'
    -- Whatever answers first among the old constructors is selected by both sets.
    have again : ∀ c, (r.constructorsOf t).find? (·.answers options args) = some c →
        s.select? args = some (Overload.ofConstructor c) ∧
        s'.select? args = some (Overload.ofConstructor c) ∧
        s'.create (some args) = s.create (some args) := by
      intro c first
      have first' : (r'.constructorsOf t).find? (·.answers options args) = some c := by
        rw [grown, List.find?_append, first, Option.some_or]
      have selected : s.select? args = some (Overload.ofConstructor c) := select?_of_answers first
      have selected' : s'.select? args = some (Overload.ofConstructor c) :=
        select?_of_answers first'
      refine ⟨selected, selected', ?_⟩
      show s'.createWith args = s.createWith args
      rw [OverloadSet.createWith, OverloadSet.createWith, selected, selected']
    constructor
    · intro o selected declared
      obtain ⟨c, first, rfl⟩ := exists_answers_of_select? selected declared
      obtain ⟨-, selected', same⟩ := again c first
      obtain ⟨i, place, place', answers, none⟩ := place_of_find?_append first
      rw [← grown] at place' none
      exact ⟨⟨i, c, rfl, place, place', answers, none⟩, selected', same⟩
    · intro differ o declared
      have found := find?_declaredOverloads r options t args
      cases first : (r.constructorsOf t).find? (·.answers options args) with
      | none =>
        rw [first, Option.map_none, List.find?_eq_none] at found
        simpa using found o declared
      | some c => exact absurd (again c first).2.2 differ

end Activation
