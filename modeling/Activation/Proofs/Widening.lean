import Activation.Proofs.Extension

/-!
# What the options change

The options only add overloads.  The two fallbacks add one each, at the end of the candidates and
without parameters; so they are seen by the empty argument list alone, and there only if no declared
constructor takes it (`select?_eq_declared`, `select?_congr_fallbacks`).  If both are there, the zero
value comes first, even where it is no value (`select?_nil_of_zero`).

Hidden constructors are different, for they are added in the middle, each where it was registered,
and then ranked.  Nothing that was there changes its place relative to the others: sorting keeps a
sublist (`sublist_mergeSort_of_sublist`).  So a set with hidden constructors has the overloads of the
set without them, in their order (`OverloadSet.sublist_ofRegistry`).  It may select another
constructor for the same arguments, but only one that was registered earlier
(`exists_findIdx?_answers_le`).
-/

namespace Activation

/-! ## Sorting part of a list -/

section Sorting

variable {α : Type} {le : α → α → Bool}

/-- Sorting puts a new first element between those that belong before it and all others. -/
lemma exists_mergeSort_cons (trans : ∀ a b c, le a b = true → le b c = true → le a c = true)
    (total : ∀ a b, (le a b || le b a) = true) (a : α) (l : List α) :
    ∃ before after, (a :: l).mergeSort le = before ++ a :: after ∧
      l.mergeSort le = before ++ after ∧
      before = (l.mergeSort le).filter (!le a ·) ∧ after = (l.mergeSort le).filter (le a ·) := by
  obtain ⟨before, after, sorted, rest, below⟩ := List.mergeSort_cons trans total a l
  have ordered := List.pairwise_mergeSort trans total (a :: l)
  rw [sorted] at ordered
  have above : ∀ b ∈ after, le a b = true := fun b member =>
    List.rel_of_pairwise_cons (List.pairwise_append.1 ordered).2.1 member
  refine ⟨before, after, sorted, rest, ?_, ?_⟩
  · have none : after.filter (!le a ·) = [] := by
      rw [List.filter_eq_nil_iff]
      intro b member
      simp [above b member]
    rw [rest, List.filter_append, none, List.append_nil, List.filter_eq_self.2 below]
  · have none : before.filter (le a ·) = [] := by
      rw [List.filter_eq_nil_iff]
      intro b member
      simpa using below b member
    rw [rest, List.filter_append, none, List.nil_append, List.filter_eq_self.2 above]

/-- Part of a list, sorted, is part of the sorted list. -/
lemma sublist_mergeSort_of_sublist
    (trans : ∀ a b c, le a b = true → le b c = true → le a c = true)
    (total : ∀ a b, (le a b || le b a) = true) {l l' : List α} (kept : l.Sublist l') :
    (l.mergeSort le).Sublist (l'.mergeSort le) := by
  induction kept with
  | slnil => exact List.Sublist.refl _
  | @cons l l' a kept ih =>
    obtain ⟨before, after, sorted, rest, -, -⟩ := exists_mergeSort_cons trans total a l'
    rw [sorted]
    rw [rest] at ih
    exact ih.trans ((List.sublist_cons_self a after).append_left before)
  | @cons_cons l l' a kept ih =>
    obtain ⟨before, after, sorted, -, below, above⟩ := exists_mergeSort_cons trans total a l
    obtain ⟨before', after', sorted', -, below', above'⟩ := exists_mergeSort_cons trans total a l'
    have front : before.Sublist before' := by
      rw [below, below']
      exact ih.filter _
    have back : after.Sublist after' := by
      rw [above, above']
      exact ih.filter _
    rw [sorted, sorted']
    exact front.append (back.cons_cons a)

end Sorting

/-! ## Fallbacks -/

/-- Zeros have no parameters. -/
lemma arity_of_mem_zeroOverloads {r : Registry} {options : Options} {t : TypeTag} {o : Overload}
    (member : o ∈ r.zeroOverloads options t) : o.arity = 0 := by
  rcases List.mem_append.1 member with value | zero
  · unfold Registry.zeroOverload? at value
    split at value
    · obtain ⟨z, -, rfl⟩ := Option.map_eq_some_iff.1 (Option.mem_toList.1 value)
      rfl
    · cases value
  · unfold Registry.memberOverload? at zero
    split at zero
    · split at zero
      · obtain ⟨literal, -, rfl⟩ := Option.map_eq_some_iff.1 (Option.mem_toList.1 zero)
        rfl
      · cases zero
    · cases zero

/-- Constructors answer alike if the options agree on hidden ones. -/
lemma Constructor.answers_congr {options options' : Options}
    (same : options'.includeNonPublic = options.includeNonPublic) (args : List Argument) :
    Constructor.answers options' args = Constructor.answers options args := by
  funext c
  rw [answers, answers, same]

/-- The empty list is answered by constructors without parameters that may be run. -/
lemma find?_answers_nil (options : Options) (declared : List Constructor) :
    declared.find? (·.answers options []) =
      (eligible options declared).find? (·.arity == 0) := by
  have accepts : ∀ c : Constructor, acceptedBy c.parameters [] = (c.arity == 0) := by
    intro c
    rw [acceptedBy, Constructor.arity]
    cases c.parameters with
    | nil => rfl
    | cons p rest => rfl
  rw [← find?_eligible]
  simp only [accepts]

/-- Fallbacks are not seen by arguments, nor by the empty list if a declared constructor takes it. -/
lemma select?_eq_declared {r : Registry} {options : Options} {t : TypeTag} {args : List Argument}
    (taken : args = [] → ∃ c ∈ eligible options (r.constructorsOf t), c.arity = 0) :
    (OverloadSet.ofRegistry r options t).select? args =
      ((r.constructorsOf t).find? (·.answers options args)).map Overload.ofConstructor := by
  by_cases empty : args = []
  · subst empty
    have found : ((r.constructorsOf t).find? (·.answers options [])).isSome = true := by
      rw [find?_answers_nil, List.find?_isSome]
      simpa using taken rfl
    obtain ⟨c, first⟩ := Option.isSome_iff_exists.1 found
    rw [select?_of_answers first, first, Option.map_some]
  · have none : (r.zeroOverloads options t).find? (·.accepts args) = none := by
      rw [List.find?_eq_none]
      intro o member accepted
      have arity := Overload.arity_of_accepts accepted
      rw [arity_of_mem_zeroOverloads member] at arity
      exact empty (List.length_eq_zero_iff.1 arity.symm)
    rw [select?_eq_or, none, Option.or_none]

/-- So what they select does not depend on the fallbacks. -/
lemma select?_congr_fallbacks {r : Registry} {options options' : Options} {t : TypeTag}
    {args : List Argument} (same : options'.includeNonPublic = options.includeNonPublic)
    (taken : args = [] → ∃ c ∈ eligible options (r.constructorsOf t), c.arity = 0) :
    (OverloadSet.ofRegistry r options' t).select? args =
      (OverloadSet.ofRegistry r options t).select? args := by
  have taken' : args = [] → ∃ c ∈ eligible options' (r.constructorsOf t), c.arity = 0 := by
    intro empty
    rw [eligible, same]
    exact taken empty
  rw [select?_eq_declared taken', select?_eq_declared taken, Constructor.answers_congr same]

/-- Where none takes the empty list, the zero value is selected before the zero member. -/
lemma select?_nil_of_zero {r : Registry} {options : Options} {t : TypeTag} {value : ZeroValue}
    (undeclared : ∀ c ∈ eligible options (r.constructorsOf t), c.arity ≠ 0)
    (asked : options.zeroFallback = true) (zero : zeroOf? t = some value) :
    (OverloadSet.ofRegistry r options t).select? [] =
      some (.synthetic t "default" fun _ => .finished value.produce) := by
  have none : (r.constructorsOf t).find? (·.answers options []) = none := by
    rw [find?_answers_nil, List.find?_eq_none]
    simpa using undeclared
  have zeros : r.zeroOverloads options t =
      (.synthetic t "default" fun _ => .finished value.produce) ::
        (r.memberOverload? options t).toList := by
    rw [Registry.zeroOverloads, Registry.zeroOverload?, if_pos asked, zero]
    rfl
  rw [select?_eq_or, none, zeros]
  rfl

/-! ## Hidden constructors -/

/-- The options with hidden constructors or without them, and otherwise as they are. -/
def Options.showing (options : Options) (hidden : Bool) : Options :=
  { options with includeNonPublic := hidden }

lemma Constructor.answers_showing {options : Options} {args : List Argument} {c : Constructor}
    (answers : c.answers (options.showing false) args = true) :
    c.answers (options.showing true) args = true := by
  simp only [Constructor.answers, Options.showing, Bool.or_false, Bool.or_true, Bool.true_and,
    Bool.and_eq_true] at answers ⊢
  exact ⟨answers.1.2, answers.2⟩

lemma sublist_declaredOverloads (r : Registry) (options : Options) (t : TypeTag) :
    (r.declaredOverloads (options.showing false) t).Sublist
      (r.declaredOverloads (options.showing true) t) := by
  have shown : ∀ c : Constructor, (c.isPublic || (options.showing false).includeNonPublic) = true →
      (c.isPublic || (options.showing true).includeNonPublic) = true := by
    intro c _
    simp [Options.showing]
  exact (List.monotone_filter_right (r.constructorsOf t) shown).filterMap _

/-- A set with hidden constructors has all overloads of the set without them, in their order. -/
lemma OverloadSet.sublist_ofRegistry (r : Registry) (options : Options) (t : TypeTag) :
    (ofRegistry r (options.showing false) t).overloads.Sublist
      (ofRegistry r (options.showing true) t).overloads := by
  have candidates : (r.candidates (options.showing false) t).Sublist
      (r.candidates (options.showing true) t) :=
    ((sublist_declaredOverloads r options t).append (List.Sublist.refl _)).append
      (List.Sublist.refl _)
  refine sublist_mergeSort_of_sublist ?_ ?_ candidates
  · intro a b c
    simpa using Nat.le_trans
  · intro a b
    simpa using Nat.le_total _ _

/-- If some constructor answers, one answers also with hidden constructors, and the first that does
was registered no later. -/
lemma exists_findIdx?_answers_le {declared : List Constructor} {options : Options}
    {args : List Argument} {c : Constructor}
    (first : declared.find? (·.answers (options.showing false) args) = some c) :
    ∃ i j d, j ≤ i ∧ declared[i]? = some c ∧ declared[j]? = some d ∧
      declared.findIdx? (·.answers (options.showing false) args) = some i ∧
      declared.findIdx? (·.answers (options.showing true) args) = some j ∧
      declared.find? (·.answers (options.showing true) args) = some d := by
  rw [List.find?_eq_bind_findIdx?_getElem?] at first
  obtain ⟨i, place, there⟩ := Option.bind_eq_some_iff.1 first
  obtain ⟨j, earlier, place'⟩ := List.findIdx?_eq_some_le_of_findIdx?_eq_some
    (fun d _ => Constructor.answers_showing) place
  obtain ⟨bound, -⟩ := List.findIdx?_eq_some_iff_getElem.1 place'
  have there' : declared[j]? = some declared[j] := List.getElem?_eq_getElem bound
  refine ⟨i, j, declared[j], earlier, there, there', place, place', ?_⟩
  rw [List.find?_eq_bind_findIdx?_getElem?, place', Option.bind_some, there']

/-- **Options only widen, and fallbacks never override.**  Take any registry and any type.
* What arguments give does not depend on the two fallbacks.  Neither does what the empty list gives,
  nor activation without arguments, if a declared constructor without parameters may be run.
* If there is none and the type has a zero value, then with that fallback the zero value is what both
  give, no value included, whether or not the type has a zero member as well.
* A set with hidden constructors has the overloads of the set without them, in their order.  So every
  argument list that is accepted without them is accepted with them.
* Arguments that select a declared constructor without them select one with them.  Both are the
  first, in the order of registration, of those that answer, and the second was registered no later
  than the first. -/
theorem options_widen (r : Registry) (options : Options) (t : TypeTag) :
    let setBy := fun chosen : Options => (OverloadSet.build r chosen t).result
    let without := setBy (options.showing false)
    let within := setBy (options.showing true)
    (∀ options' : Options, options'.includeNonPublic = options.includeNonPublic →
      (∀ args, args ≠ [] →
        (setBy options').create (some args) = (setBy options).create (some args)) ∧
      ((∃ c ∈ eligible options (r.constructorsOf t), c.arity = 0) →
        (setBy options').create (some []) = (setBy options).create (some []) ∧
          (setBy options').createDefault = (setBy options).createDefault)) ∧
    (∀ value, (∀ c ∈ eligible options (r.constructorsOf t), c.arity ≠ 0) →
      options.zeroFallback = true → zeroOf? t = some value →
      (setBy options).create (some []) = pure (.finished (.ok value.produce)) ∧
        (setBy options).createDefault = pure (.finished (.ok value.produce))) ∧
    without.overloads.Sublist within.overloads ∧
    (∀ args, (∃ o ∈ without.overloads, o.accepts args = true) →
      ∃ o ∈ within.overloads, o.accepts args = true) ∧
    ∀ args o, without.select? args = some o →
      o ∈ r.declaredOverloads (options.showing false) t →
      ∃ i j c d, j ≤ i ∧ (r.constructorsOf t)[i]? = some c ∧ (r.constructorsOf t)[j]? = some d ∧
        (r.constructorsOf t).findIdx? (·.answers (options.showing false) args) = some i ∧
        (r.constructorsOf t).findIdx? (·.answers (options.showing true) args) = some j ∧
        o = Overload.ofConstructor c ∧
        within.select? args = some (Overload.ofConstructor d) := by
  intro setBy without within
  have defaults : ∀ chosen, (setBy chosen).createDefault = (setBy chosen).create (some []) :=
    fun chosen => OverloadSet.createDefault_ofRegistry r chosen t
  have wider := OverloadSet.sublist_ofRegistry r options t
  refine ⟨fun options' same => ⟨fun args given => ?_, fun declared => ?_⟩,
    fun value undeclared asked zero => ?_, wider, ?_, fun args o selected declared => ?_⟩
  · apply OverloadSet.createWith_congr_select?
    exact select?_congr_fallbacks same fun empty => absurd empty given
  · have creates : (setBy options').create (some []) = (setBy options).create (some []) := by
      apply OverloadSet.createWith_congr_select?
      exact select?_congr_fallbacks same fun _ => declared
    exact ⟨creates, by rw [defaults, defaults, creates]⟩
  · have selected : (setBy options).select? [] =
        some (.synthetic t "default" fun _ => .finished value.produce) :=
      select?_nil_of_zero undeclared asked zero
    have creates : (setBy options).create (some []) = pure (.finished (.ok value.produce)) := by
      show (setBy options).createWith [] = _
      rw [OverloadSet.createWith, selected]
      rfl
    exact ⟨creates, by rw [defaults, creates]⟩
  · rintro args ⟨o, member, accepted⟩
    exact ⟨o, wider.subset member, accepted⟩
  · obtain ⟨c, first, rfl⟩ := exists_answers_of_select? selected declared
    obtain ⟨i, j, d, earlier, there, there', place, place', first'⟩ :=
      exists_findIdx?_answers_le first
    exact ⟨i, j, c, d, earlier, there, there', place, place', rfl, select?_of_answers first'⟩

end Activation
