import Activation.Proofs.Assembly
import Activation.Proofs.Extension

/-!
# Warnings while registering

A claim of a name is lost if the name belongs to another type already.  The warning about it is
given on the spot, when nobody can know what else will be registered.  This file says that it is
right all the same: the warnings are those that a reader of the finished registry would ask for.

What a reader asks for is said by `Registry.loss?`, the warning about a claim whose name is held for
another type, and `Registration.repetition?`, the warning about a type that was registered before.
`warningsFrom` goes through the registrations with both.

The argument is that names stay with their holders (`Registry.Keeps`).  Right after a claim its name
has a holder (`Registry.exists_holder?_claim`), so that the claim is won or lost for good, and a
warning is given exactly if it is lost (`Registry.events_claim`).  The same follows for one
registration and its claims (`Registry.events_claimAll`, `Registry.events_register`), and by
induction for a history (`Registry.events_registerAll`).
-/

namespace Activation

/-! ## The warnings that are due -/

/-- The warning about a type registration after the earlier ones, if the type was registered
before. -/
def Registration.repetition? (earlier : List Registration) (registration : Registration) :
    Option Event := do
  let info ← registration.typeInfo?
  let kept ← firstTypeInfo? earlier info.tag
  some (.registeredTwice info.tag kept.origin info.origin)

/-- The warning about a claim, if its name is held for another type. -/
def Registry.loss? (r : Registry) (c : NameClaim) : Option Event :=
  (r.holder? c.name).bind fun held =>
    if held.tag.is c.tag then none
    else some (.nameCollision c.name held.tag held.origin c.tag c.origin)

/-- The warnings about a registration after the earlier ones: that its type was registered before,
and the losses among its claims. -/
def Registration.warningsAfter (finished : Registry) (earlier : List Registration)
    (registration : Registration) : List Event :=
  (registration.repetition? earlier).toList ++
    (registration.claimsAfter earlier).filterMap finished.loss?

/-- The warnings about registrations after the earlier ones, in order. -/
def warningsFrom (finished : Registry) (earlier : List Registration) :
    List Registration → List Event
  | [] => []
  | registration :: rest =>
    registration.warningsAfter finished earlier ++
      warningsFrom finished (earlier ++ [registration]) rest

/-- Whether the event is about a lost name. -/
def Event.isCollision : Event → Bool
  | .nameCollision .. => true
  | _ => false

namespace Registration

lemma repetition?_eq_some_iff {earlier : List Registration} {registration : Registration}
    {e : Event} :
    registration.repetition? earlier = some e ↔
      ∃ info kept, registration.typeInfo? = some info ∧
        firstTypeInfo? earlier info.tag = some kept ∧
        e = .registeredTwice info.tag kept.origin info.origin := by
  unfold repetition?
  simp only [Option.bind_eq_bind, Option.bind_eq_some_iff, Option.some_inj]
  constructor
  · rintro ⟨info, told, kept, known, rfl⟩
    exact ⟨info, kept, told, known, rfl⟩
  · rintro ⟨info, kept, told, known, rfl⟩
    exact ⟨info, told, kept, known, rfl⟩

/-- A type that was registered before claims nothing; all other registrations make the claims of
their entries. -/
lemma claimsAfter_eq (earlier : List Registration) (registration : Registration) :
    registration.claimsAfter earlier =
      if (registration.repetition? earlier).isSome then [] else registration.toEntry.claims := by
  cases registration with
  | typeByHand tag kind =>
    cases known : firstTypeInfo? earlier tag with
    | some kept => simp [claimsAfter, repetition?, typeInfo?, toEntry, known]
    | none =>
      simp [claimsAfter, repetition?, typeInfo?, toEntry, known, Entry.claims, TypeTag.claims]
  | typeRecord record =>
    cases known : firstTypeInfo? earlier record.tag with
    | some kept => simp [claimsAfter, repetition?, typeInfo?, toEntry, known]
    | none =>
      by_cases own : record.name ≠ "" ∧ record.name ≠ record.tag.name ∧
          record.name ≠ record.tag.shortName
      · simp [claimsAfter, repetition?, typeInfo?, toEntry, known, Entry.claims, TypeTag.claims,
          own]
      · simp [claimsAfter, repetition?, typeInfo?, toEntry, known, Entry.claims, TypeTag.claims,
          own]
  | constructorByHand owner signature body => rfl
  | constructorRecord record => rfl

lemma claimsAfter_of_repetition {earlier : List Registration} {registration : Registration}
    {e : Event} (repeated : registration.repetition? earlier = some e) :
    registration.claimsAfter earlier = [] := by
  rw [claimsAfter_eq, repeated]
  rfl

end Registration

namespace Registry

/-- Whether a claim is lost is for the holder of its name to say. -/
lemma loss?_of_held {r : Registry} {c held : NameClaim} (holder : r.holder? c.name = some held) :
    r.loss? c =
      if held.tag.is c.tag then none
      else some (.nameCollision c.name held.tag held.origin c.tag c.origin) := by
  rw [loss?, holder, Option.bind_some]

lemma loss?_eq_some_iff {r : Registry} {c : NameClaim} {e : Event} :
    r.loss? c = some e ↔
      ∃ held, r.holder? c.name = some held ∧ held.tag.is c.tag = false ∧
        e = .nameCollision c.name held.tag held.origin c.tag c.origin := by
  constructor
  · intro lost
    obtain ⟨held, holder, -⟩ := Option.bind_eq_some_iff.1 lost
    rw [loss?_of_held holder] at lost
    split at lost
    · cases lost
    · rename_i other
      exact ⟨held, holder, Bool.eq_false_iff.2 other, (Option.some.inj lost).symm⟩
  · rintro ⟨held, holder, other, rfl⟩
    rw [loss?_of_held holder, if_neg (Bool.eq_false_iff.1 other)]

/-! ## Names stay with their holders -/

/-- Every name that is held is held by the same claim later. -/
def Keeps (r later : Registry) : Prop :=
  ∀ name held, r.holder? name = some held → later.holder? name = some held

lemma Keeps.trans {r r' r'' : Registry} (keeps : r.Keeps r') (keeps' : r'.Keeps r'') :
    r.Keeps r'' :=
  fun name held first => keeps' name held (keeps name held first)

lemma keeps_append (history later : List Registration) :
    (ofRegistrations history).result.Keeps (ofRegistrations (history ++ later)).result :=
  fun _ _ held => holder?_append held later

lemma keeps_claimAll (r : Registry) (claims : List NameClaim) :
    r.Keeps (r.claimAll claims).result := by
  intro name held first
  rw [holder?_claimAll, first, Option.some_or]

/-- After a claim its name has a holder. -/
lemma exists_holder?_claim (r : Registry) (c : NameClaim) :
    ∃ held, (r.claim c).result.holder? c.name = some held := by
  rw [holder?_claim]
  cases r.holder? c.name with
  | some held => exact ⟨held, rfl⟩
  | none => exact ⟨c, by simp⟩

/-! ## Claims -/

/-- A claim is warned about exactly if it is lost, by whatever the registry becomes. -/
lemma events_claim {r finished : Registry} {c : NameClaim}
    (keeps : (r.claim c).result.Keeps finished) :
    (r.claim c).events = (finished.loss? c).toList := by
  obtain ⟨owner, owned⟩ := exists_holder?_claim r c
  have final : finished.holder? c.name = some owner := keeps c.name owner owned
  rw [holder?_claim] at owned
  rw [loss?_of_held final, claim]
  cases first : r.holder? c.name with
  | none =>
    obtain rfl : c = owner := by simpa [first] using owned
    rw [if_pos c.tag.is_refl]
    rfl
  | some held =>
    obtain rfl : held = owner := by simpa [first] using owned
    by_cases same : held.tag.is c.tag = true
    · simp only [if_pos same]
      rfl
    · simp only [if_neg same]
      rfl

lemma events_claimAll {r finished : Registry} {claims : List NameClaim}
    (keeps : (r.claimAll claims).result.Keeps finished) :
    (r.claimAll claims).events = claims.filterMap finished.loss? := by
  induction claims generalizing r with
  | nil => rfl
  | cons c rest ih =>
    have rested : ((r.claim c).result.claimAll rest).events = rest.filterMap finished.loss? :=
      ih keeps
    have first : (r.claim c).events = (finished.loss? c).toList :=
      events_claim ((keeps_claimAll _ rest).trans keeps)
    show (r.claim c).events ++ ((r.claim c).result.claimAll rest).events = _
    rw [first, rested]
    cases lost : finished.loss? c with
    | none => simp [lost]
    | some e => simp [lost]

/-! ## Registrations -/

/-- A registration either repeats a type and reports that, or makes its claims. -/
lemma events_register (history : List Registration) (registration : Registration) :
    ((ofRegistrations history).result.register registration).events =
      (registration.repetition? history).toList ++
        ((ofRegistrations history).result.claimAll (registration.claimsAfter history)).events := by
  rw [registration.claimsAfter_eq]
  unfold register insert Registration.repetition? Registration.typeInfo?
  cases registration.toEntry with
  | constructor c => simp
  | type info =>
    simp only [typeInfo?_ofRegistrations]
    cases known : firstTypeInfo? history info.tag with
    | some kept => simp [known, claimAll]
    | none => simp [known]

/-- The claims of a registration decide who holds which name after it. -/
lemma keeps_register (history : List Registration) (registration : Registration) :
    ((ofRegistrations history).result.claimAll (registration.claimsAfter history)).result.Keeps
      (ofRegistrations (history ++ [registration])).result := by
  intro name held first
  rw [ofRegistrations_concat, holder?_register, ← holder?_claimAll]
  exact first

/-- A registration is warned about as the finished registry asks for. -/
lemma events_register_eq_warningsAfter {finished : Registry} {history : List Registration}
    {registration : Registration}
    (keeps : (ofRegistrations (history ++ [registration])).result.Keeps finished) :
    ((ofRegistrations history).result.register registration).events =
      registration.warningsAfter finished history := by
  have claimed := events_claimAll ((keeps_register history registration).trans keeps)
  rw [events_register, claimed]
  rfl

/-- So are registrations after the earlier ones. -/
lemma events_registerAll {finished : Registry} {earlier rest : List Registration}
    (keeps : (ofRegistrations (earlier ++ rest)).result.Keeps finished) :
    ((ofRegistrations earlier).result.registerAll rest).events =
      warningsFrom finished earlier rest := by
  induction rest generalizing earlier with
  | nil => rfl
  | cons registration rest ih =>
    have regroup : earlier ++ registration :: rest = earlier ++ [registration] ++ rest := by simp
    rw [regroup] at keeps
    have here : ((ofRegistrations earlier).result.register registration).events =
        registration.warningsAfter finished earlier :=
      events_register_eq_warningsAfter ((keeps_append _ rest).trans keeps)
    have later := ih keeps
    rw [ofRegistrations_concat] at later
    show ((ofRegistrations earlier).result.register registration).events ++
      (((ofRegistrations earlier).result.register registration).result.registerAll rest).events = _
    rw [here, later]
    rfl

/-- The events of a history are the warnings that its registry asks for. -/
lemma events_ofRegistrations (history : List Registration) :
    (ofRegistrations history).events =
      warningsFrom (ofRegistrations history).result [] history :=
  @events_registerAll _ [] history fun _ _ held => held

end Registry

/-! ## What the warnings are about -/

lemma Registry.isCollision_of_loss? {r : Registry} {c : NameClaim} {e : Event}
    (lost : r.loss? c = some e) : e.isCollision = true := by
  obtain ⟨held, -, -, rfl⟩ := loss?_eq_some_iff.1 lost
  rfl

/-- All that is due is a warning. -/
lemma isWarning_of_mem_warningsFrom {finished : Registry} {earlier history : List Registration}
    {e : Event} (due : e ∈ warningsFrom finished earlier history) : e.isWarning = true := by
  induction history generalizing earlier with
  | nil => cases due
  | cons registration rest ih =>
    rcases List.mem_append.1 due with here | later
    · rcases List.mem_append.1 here with repeated | lost
      · obtain ⟨info, kept, -, -, rfl⟩ :=
          Registration.repetition?_eq_some_iff.1 (Option.mem_toList.1 repeated)
        rfl
      · obtain ⟨c, -, lost⟩ := List.mem_filterMap.1 lost
        obtain ⟨held, -, -, rfl⟩ := Registry.loss?_eq_some_iff.1 lost
        rfl
    · exact ih later

/-- The warnings about lost names are those about the claims, each claim that is lost giving one. -/
lemma filter_isCollision_warningsFrom (finished : Registry) (earlier history : List Registration) :
    (warningsFrom finished earlier history).filter (·.isCollision) =
      (claimsFrom earlier history).filterMap finished.loss? := by
  induction history generalizing earlier with
  | nil => rfl
  | cons registration rest ih =>
    have repeated : (registration.repetition? earlier).toList.filter (·.isCollision) = [] := by
      rw [List.filter_eq_nil_iff]
      intro e member
      obtain ⟨info, kept, -, -, rfl⟩ :=
        Registration.repetition?_eq_some_iff.1 (Option.mem_toList.1 member)
      simp [Event.isCollision]
    have lost : ((registration.claimsAfter earlier).filterMap finished.loss?).filter
        (·.isCollision) = (registration.claimsAfter earlier).filterMap finished.loss? := by
      rw [List.filter_eq_self]
      intro e member
      obtain ⟨c, -, lost⟩ := List.mem_filterMap.1 member
      exact Registry.isCollision_of_loss? lost
    rw [warningsFrom, claimsFrom, Registration.warningsAfter, List.filter_append,
      List.filter_append, List.filterMap_append, repeated, lost, ih, List.nil_append]

/-- Whatever is claimed has a holder in the registry of the history. -/
lemma Registry.exists_holder?_of_claimed {history : List Registration} {c : NameClaim}
    (claimed : c ∈ claimsOf history) :
    ∃ held, (ofRegistrations history).result.holder? c.name = some held := by
  rw [← Option.isSome_iff_exists, holder?_ofRegistrations, List.find?_isSome]
  exact ⟨c, claimed, by simp⟩

/-- **No name is lost in silence.**  However a registry is put together, its finished state explains
the warnings that were given on the way.
* They are, registration by registration, one for each type registration that comes after another
  of the same type, and one for each claim of a name that the finished registry holds for another
  type, in the order of the claims.
* A type registration that is warned about claims nothing, and what the finished registry knows
  about the type is what the warning says was kept.
* The warnings about lost names are those of the claims, of which each gives one at most.
* Every claim is either won, and then its name resolves to its type in the finished registry and it
  is not warned about, or it is lost, and then the warning names the holder of the finished registry
  and where that comes from. -/
theorem lost_names_are_reported (steps : List AssemblyStep) :
    let history := historyOf steps
    let finished := (Registry.ofSteps steps).result
    let warnings := warningsIn (Registry.ofSteps steps).events
    warnings = warningsFrom finished [] history ∧
    (∀ earlier registration later info kept, history = earlier ++ registration :: later →
      registration.typeInfo? = some info → firstTypeInfo? earlier info.tag = some kept →
      registration.warningsAfter finished earlier =
          [.registeredTwice info.tag kept.origin info.origin] ∧
        registration.claimsAfter earlier = [] ∧
        finished.typeInfo? info.tag = some kept) ∧
    warnings.filter (·.isCollision) = (claimsOf history).filterMap finished.loss? ∧
    ∀ c ∈ claimsOf history, ∃ held, finished.holder? c.name = some held ∧
      finished.resolve c.name = some held.tag ∧
      ((held.tag.is c.tag = true ∧ finished.loss? c = none) ∨
        (held.tag.is c.tag = false ∧
          finished.loss? c =
            some (.nameCollision c.name held.tag held.origin c.tag c.origin))) := by
  intro history finished warnings
  have registry : finished = (Registry.ofRegistrations history).result :=
    Registry.result_ofSteps steps
  have due : warnings = warningsFrom finished [] history := by
    have events := Registry.events_ofRegistrations history
    rw [← registry] at events
    have all : warningsIn (warningsFrom finished [] history) = warningsFrom finished [] history :=
      List.filter_eq_self.2 fun e member => isWarning_of_mem_warningsFrom member
    calc warnings = warningsIn (Registry.ofRegistrations history).events :=
          Registry.warnings_ofSteps steps
      _ = warningsFrom finished [] history := by rw [events, all]
  refine ⟨due, ?_, ?_, ?_⟩
  · intro earlier registration later info kept split told known
    have repeated : registration.repetition? earlier =
        some (.registeredTwice info.tag kept.origin info.origin) :=
      Registration.repetition?_eq_some_iff.2 ⟨info, kept, told, known, rfl⟩
    have silent := Registration.claimsAfter_of_repetition repeated
    refine ⟨?_, silent, ?_⟩
    · rw [Registration.warningsAfter, repeated, silent]
      rfl
    · rw [registry, Registry.typeInfo?_ofRegistrations, split, firstTypeInfo?_append, known,
        Option.some_or]
  · rw [due, filter_isCollision_warningsFrom]
    rfl
  · intro c claimed
    obtain ⟨held, holder⟩ := Registry.exists_holder?_of_claimed claimed
    rw [← registry] at holder
    refine ⟨held, holder, by rw [Registry.resolve, holder]; rfl, ?_⟩
    have lost := Registry.loss?_of_held holder
    cases same : held.tag.is c.tag with
    | true =>
      rw [same, if_pos rfl] at lost
      exact .inl ⟨rfl, lost⟩
    | false =>
      rw [same, if_neg Bool.false_ne_true] at lost
      exact .inr ⟨rfl, lost⟩

end Activation
