import Activation.Proofs.Search

/-!
# Activation without arguments

A type can be activated without arguments along two ways.  One goes through the default overload,
which is looked up once, when the overload set is put together; it accepts nothing and selects
nothing.  The other gives the empty argument list to the general search.

The two agree because overloads are ranked by arity: the first overload has no parameters if any
overload has none, and among those without parameters ranking keeps the order in which the set was
put together.  So the default overload is that of the first candidate without parameters
(`OverloadSet.default?_eq`), and `without_arguments_agrees` says what follows for callers.
-/

namespace Activation

/-! ## Overloads without parameters -/

lemma Overload.arity_eq_zero_ofConstructor (c : Constructor) :
    ((ofConstructor c).arity == 0) = c.parameters.isEmpty := by
  rw [arity_ofConstructor, Bool.eq_iff_iff, beq_iff_eq, List.length_eq_zero_iff,
    List.isEmpty_iff]

/-- The overload for the zero value has no parameters. -/
lemma Registry.find?_zeroOverload (options : Options) (t : TypeTag) :
    (zeroOverload? options t).toList.find? (·.arity == 0) = zeroOverload? options t := by
  unfold zeroOverload?
  split
  · cases zeroOf? t <;> rfl
  · rfl

/-- The overload for the zero member has no parameters. -/
lemma Registry.find?_memberOverload (r : Registry) (options : Options) (t : TypeTag) :
    (r.memberOverload? options t).toList.find? (·.arity == 0) = r.memberOverload? options t := by
  unfold memberOverload?
  split
  · split
    · rename_i info enumeration
      cases (zeroOf? info.underlying).bind (·.literal?) <;> rfl
    · rfl
  · rfl

namespace OverloadSet

/-- The default overload is that of the first eligible constructor without parameters, or else that
of the zero value, or else that of the zero member. -/
lemma default?_eq (history : List Registration) (options : Options) (t : TypeTag) :
    (ofRegistry (Registry.ofRegistrations history).result options t).default? =
      ((((eligible options (declaredIn history t)).find? (·.parameters.isEmpty)).map
          Overload.ofConstructor).or
        (Registry.zeroOverload? options t)).or
      ((Registry.ofRegistrations history).result.memberOverload? options t) := by
  have fixed : ∀ o : Overload, (o.arity == 0) = true → o.arity = 0 := fun o => by simp
  have declared : ((eligible options (declaredIn history t)).map Overload.ofConstructor).find?
      (·.arity == 0) =
        ((eligible options (declaredIn history t)).find? (·.parameters.isEmpty)).map
          Overload.ofConstructor := by
    rw [List.find?_map]
    congr 2
    exact funext Overload.arity_eq_zero_ofConstructor
  rw [default?_eq_find? (pairwise_ranked _), ofRegistry, find?_ranked fixed, Registry.candidates,
    Registry.declaredOverloads, Registry.constructorsOf_ofRegistrations, declaredOverloads_eq,
    List.find?_append, List.find?_append, declared, Registry.find?_zeroOverload,
    Registry.find?_memberOverload]

/-- There is a default overload if some overload has no parameters. -/
lemma hasDefault_iff {s : OverloadSet}
    (sorted : s.overloads.Pairwise fun a b => a.arity ≤ b.arity) :
    s.hasDefault = true ↔ ∃ o ∈ s.overloads, o.arity = 0 := by
  rw [hasDefault, default?_eq_find? sorted, List.find?_isSome]
  simp only [beq_iff_eq]

end OverloadSet

/-! ## The two ways -/

lemma Candidate.admits_nil (c : Candidate) : c.admits [] = c.parameters.isEmpty := by
  unfold admits
  cases c.parameters <;> rfl

/-- **Activation without arguments agrees with activation from the empty list.**  Whatever was
registered, for the overload set of a type
* both ways give the same, events included;
* there is a default overload exactly if some overload has no parameters;
* the default overload is that of the first eligible constructor without parameters, or else that of
  the zero value, or else that of the zero member;
* what either way gives is the reply of the first candidate without parameters, if there is one. -/
theorem without_arguments_agrees (history : List Registration) (options : Options) (t : TypeTag) :
    let r := (Registry.ofRegistrations history).result
    let s := (OverloadSet.build r options t).result
    s.createDefault = s.create (some []) ∧
    (s.hasDefault = true ↔ ∃ o ∈ s.overloads, o.arity = 0) ∧
    s.default? =
      ((((eligible options (declaredIn history t)).find? (·.parameters.isEmpty)).map
          Overload.ofConstructor).or
        (Registry.zeroOverload? options t)).or
      (r.memberOverload? options t) ∧
    s.createDefault =
      match (candidatesIn history options t).find? (·.parameters.isEmpty) with
      | some c => c.reply []
      | none => pure .nothing := by
  intro r s
  have agree : s.createDefault = s.createWith [] :=
    OverloadSet.createDefault_ofRegistry r options t
  refine ⟨agree, OverloadSet.hasDefault_iff (OverloadSet.pairwise_ranked _),
    OverloadSet.default?_eq history options t, ?_⟩
  have first : (candidatesIn history options t).find? (·.parameters.isEmpty) =
      (candidatesIn history options t).find? (·.admits []) := by
    congr 1
    exact funext fun c => c.admits_nil.symm
  have searched : s.createWith [] = search history options t [] :=
    createWith_eq_search history options t []
  rw [agree, first, searched]
  rfl

end Activation
