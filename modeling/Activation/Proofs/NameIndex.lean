import Activation.Proofs.History

/-!
# Who holds a name

Registrations claim names, and a name belongs to the type that claimed it first.  `claimsOf` lists
the claims of a history in their order.  Whether a type registration claims anything depends on the
registrations before it: only the first one of a type does (`Registration.claimsAfter`).

`holder?_eq_first_claim` says that the registry of a history gives a name to its first claim in that
list, together with the origin of the claim, and to nobody if there is none.  It goes by induction
on the history from its end: the registrations before the last one decide both what the last one
claims and which names it still finds free (`holder?_register`).
-/

namespace Activation

/-! ## The claims of a history -/

/-- The names that a registration claims after the earlier ones, in order.  A type that is
registered claims the name that the registration gives it, unless that is empty or one of the
type's own, and then its full and its short name; it claims nothing if it was registered before.  A
constructor claims the full and the short name of its owner. -/
def Registration.claimsAfter (earlier : List Registration) : Registration → List NameClaim
  | .typeByHand tag _ =>
    if (firstTypeInfo? earlier tag).isSome then []
    else [⟨tag.name, tag, .byHand⟩, ⟨tag.shortName, tag, .byHand⟩]
  | .typeRecord ⟨tag, name, _, package⟩ =>
    if (firstTypeInfo? earlier tag).isSome then []
    else
      (if name ≠ "" ∧ name ≠ tag.name ∧ name ≠ tag.shortName then
        [⟨name, tag, .package package⟩] else []) ++
      [⟨tag.name, tag, .package package⟩, ⟨tag.shortName, tag, .package package⟩]
  | .constructorByHand owner _ _ =>
    [⟨owner.name, owner, .byHand⟩, ⟨owner.shortName, owner, .byHand⟩]
  | .constructorRecord r =>
    [⟨r.owner.name, r.owner, .package r.package⟩,
      ⟨r.owner.shortName, r.owner, .package r.package⟩]

/-- The claims of registrations after the earlier ones, in order. -/
def claimsFrom (earlier : List Registration) : List Registration → List NameClaim
  | [] => []
  | registration :: rest =>
    registration.claimsAfter earlier ++ claimsFrom (earlier ++ [registration]) rest

/-- The claims of a history, in order. -/
def claimsOf (history : List Registration) : List NameClaim := claimsFrom [] history

lemma claimsFrom_append (earlier history later : List Registration) :
    claimsFrom earlier (history ++ later) =
      claimsFrom earlier history ++ claimsFrom (earlier ++ history) later := by
  induction history generalizing earlier with
  | nil => simp [claimsFrom]
  | cons registration rest ih => simp [claimsFrom, ih, List.append_assoc]

/-- The last registration of a history adds its claims after the others. -/
lemma claimsOf_concat (history : List Registration) (registration : Registration) :
    claimsOf (history ++ [registration]) =
      claimsOf history ++ registration.claimsAfter history := by
  simp [claimsOf, claimsFrom_append, claimsFrom]

/-! ## The index -/

namespace Registry

/-- What a registration does to the holder of a name: if there is none, its first claim of the name
takes it. -/
lemma holder?_register (history : List Registration) (registration : Registration)
    (name : String) :
    ((ofRegistrations history).result.register registration).result.holder? name =
      ((ofRegistrations history).result.holder? name).or
        ((registration.claimsAfter history).find? (·.name == name)) := by
  set r := (ofRegistrations history).result with hr
  have known : ∀ t, r.typeInfo? t = firstTypeInfo? history t := typeInfo?_ofRegistrations history
  -- Insertions into the two other maps leave the names alone.
  have inserted : ∀ (claims : List NameClaim) (s : Registry),
      s.names = (r.claimAll claims).result.names →
      s.holder? name = (r.holder? name).or (claims.find? (·.name == name)) := by
    intro claims s names
    rw [← holder?_claimAll, holder?, names, holder?]
  cases registration with
  | typeByHand tag kind =>
    simp only [register, insert, Registration.toEntry, Registration.claimsAfter, known]
    cases firstTypeInfo? history tag with
    | some held => simp
    | none =>
      refine (inserted _ _ rfl).trans ?_
      simp [Entry.claims, TypeTag.claims]
  | typeRecord record =>
    simp only [register, insert, Registration.toEntry, Registration.claimsAfter, known]
    cases firstTypeInfo? history record.tag with
    | some held => simp
    | none =>
      refine (inserted _ _ rfl).trans ?_
      by_cases own : record.name ≠ "" ∧ record.name ≠ record.tag.name ∧
          record.name ≠ record.tag.shortName
      · simp [Entry.claims, TypeTag.claims, own]
      · simp [Entry.claims, TypeTag.claims, own]
  | constructorByHand owner signature body => exact inserted _ _ rfl
  | constructorRecord record => exact inserted _ _ rfl

/-- The holder of a name is the first claim of it in the history. -/
lemma holder?_ofRegistrations (history : List Registration) (name : String) :
    (ofRegistrations history).result.holder? name =
      (claimsOf history).find? (·.name == name) := by
  induction history using List.reverseRecOn with
  | nil => rfl
  | append_singleton history registration ih =>
    rw [ofRegistrations_concat, holder?_register, ih, claimsOf_concat, List.find?_append]

/-- **The first claim wins.**  In the registry of a history a name is held by the first claim of it,
with the origin that the claim came from; so the name resolves to the type of that claim, and to
none exactly if nobody claimed it. -/
theorem holder?_eq_first_claim (history : List Registration) (name : String) :
    (ofRegistrations history).result.holder? name =
        (claimsOf history).find? (·.name == name) ∧
      (ofRegistrations history).result.resolve name =
        ((claimsOf history).find? (·.name == name)).map (·.tag) ∧
      ((ofRegistrations history).result.resolve name = none ↔
        ∀ c ∈ claimsOf history, c.name ≠ name) := by
  have holder := holder?_ofRegistrations history name
  refine ⟨holder, by rw [resolve, holder], ?_⟩
  rw [resolve, holder, Option.map_eq_none_iff, List.find?_eq_none]
  simp

end Registry

end Activation
