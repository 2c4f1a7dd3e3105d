import Activation.Proofs.Search

/-!
# What an overload set holds

An overload set is put together from lists of different origin: the declared constructors go
through two filters, a zero value and a zero member may be added, and ranking mixes them.  This file
says what the result looks like.

Ranking leaves the overloads of one arity alone, so for each arity they are those of the candidates,
in their order (`OverloadSet.filter_arity_ofRegistry`).  Nothing is lost either: the number of
constructors that are left out is taken as a difference of two lengths, of which the first is never
the smaller one (`length_declaredOverloads_le`), and it counts the constructors that are hidden or
have a raw pointer among their parameters (`discarded_ofRegistrations`).

An overload keeps what its parameters accept in three lists.  `Overload.accepts?` goes through
arguments and looks up the entries by position, without an answer where a list ends too early;
`Overload.accepts?_eq` says that this never happens.  `overloadSet_represents` has all of it.
-/

namespace Activation

/-! ## Looking up by position -/

namespace Overload

/-- Whether the argument can be passed at the position, by the entries found there.  The declared
type is looked up only without the mark that values of every type are accepted.  There is no answer
if a list has no such position. -/
def admits? (o : Overload) (i : ℕ) (a : Argument) : Option Bool :=
  match a.tag? with
  | none => o.nullability[i]?
  | some actual => do
    if ← o.dynamic[i]? then some true else o.types[i]?.map actual.is

/-- Goes through arguments from a position on, up to the first that cannot be passed. -/
def acceptsFrom? (o : Overload) (i : ℕ) : List Argument → Option Bool
  | [] => some true
  | a :: rest => do
    if ← o.admits? i a then o.acceptsFrom? (i + 1) rest else some false

/-- Whether the arguments can be passed to the overload, by the entries found in its lists. -/
def accepts? (o : Overload) (args : List Argument) : Option Bool :=
  if args.length = o.arity then o.acceptsFrom? 0 args else some false

lemma admits?_eq {o : Overload} {i : ℕ} (typed : i < o.types.length) (a : Argument) :
    o.admits? i a = some (o.admits i typed a) := by
  have marked : i < o.nullability.length := o.length_nullability ▸ typed
  have marked' : i < o.dynamic.length := o.length_dynamic ▸ typed
  unfold admits? admits
  cases a.tag? with
  | none => exact List.getElem?_eq_getElem marked
  | some actual =>
    rw [List.getElem?_eq_getElem marked', List.getElem?_eq_getElem typed]
    cases h : o.dynamic[i] <;> simp [h]

/-- As long as there is a parameter for each argument, every position is found. -/
lemma exists_acceptsFrom? {o : Overload} {i : ℕ} {args : List Argument}
    (enough : i + args.length = o.types.length) :
    ∃ b, o.acceptsFrom? i args = some b ∧
      (b = true ↔ ∀ j (typed : i + j < o.types.length) (given : j < args.length),
        o.admits (i + j) typed args[j] = true) := by
  induction args generalizing i with
  | nil => exact ⟨true, rfl, by simp⟩
  | cons a rest ih =>
    rw [List.length_cons] at enough
    have typed : i < o.types.length := by omega
    have first : o.acceptsFrom? i (a :: rest) =
        if o.admits i typed a then o.acceptsFrom? (i + 1) rest else some false := by
      simp only [acceptsFrom?, admits?_eq typed]
      rfl
    rw [first]
    by_cases admitted : o.admits i typed a = true
    · obtain ⟨b, scanned, holds⟩ := @ih (i + 1) (by omega)
      refine ⟨b, by rw [if_pos admitted, scanned], holds.trans ⟨?_, ?_⟩⟩
      · intro each j typed' given
        cases j with
        | zero => exact admitted
        | succ j =>
          have later := each j (by omega) (by simpa using given)
          simpa [Nat.add_comm, Nat.add_left_comm] using later
      · intro each j typed' given
        have later := each (j + 1) (by omega) (by simpa using given)
        simpa [Nat.add_comm, Nat.add_left_comm] using later
    · refine ⟨false, if_neg admitted, ?_⟩
      simp only [Bool.false_eq_true, false_iff]
      intro each
      exact admitted (each 0 typed (Nat.zero_lt_succ _))

/-- Looking up by position always has an answer, and it is the right one. -/
lemma accepts?_eq (o : Overload) (args : List Argument) :
    o.accepts? args = some (o.accepts args) := by
  unfold accepts?
  by_cases length : args.length = o.arity
  · obtain ⟨b, scanned, holds⟩ := @exists_acceptsFrom? o 0 args (by rw [Nat.zero_add]; exact length)
    rw [if_pos length, scanned, Option.some_inj, Bool.eq_iff_iff, holds, accepts_iff]
    simp [length]
  · have refused : o.accepts args = false := by
      rw [← Bool.not_eq_true, accepts_iff]
      exact fun both => length both.1
    rw [if_neg length, refused]

end Overload

/-! ## The overloads of one arity -/

lemma Candidate.arity_overload (t : TypeTag) (c : Candidate) :
    (c.overload t).arity = c.parameters.length := by
  cases c with
  | declared c => exact Overload.arity_ofConstructor c
  | zero value => rfl
  | member info literal => rfl

/-- The candidates of a type that are zeros: its zero value, then its zero member. -/
def zerosIn (history : List Registration) (options : Options) (t : TypeTag) : List Candidate :=
  zeroCandidates options t ++ memberCandidates history options t

lemma parameters_of_mem_zerosIn {history : List Registration} {options : Options} {t : TypeTag}
    {c : Candidate} (zero : c ∈ zerosIn history options t) : c.parameters = [] := by
  rcases List.mem_append.1 zero with value | member
  · obtain ⟨z, -, rfl⟩ := of_mem_zeroCandidates value
    rfl
  · obtain ⟨told, info, literal, -, -, rfl⟩ := of_mem_memberCandidates member
    rfl

/-- Zeros are candidates without parameters only. -/
lemma filter_arity_zerosIn (history : List Registration) (options : Options) (t : TypeTag)
    (n : ℕ) :
    ((zerosIn history options t).filter fun c => c.parameters.length == n) =
      if n = 0 then zerosIn history options t else [] := by
  have none : ∀ c ∈ zerosIn history options t, c.parameters.length = 0 := by
    intro c zero
    rw [parameters_of_mem_zerosIn zero, List.length_nil]
  by_cases zero : n = 0
  · rw [if_pos zero, List.filter_eq_self]
    intro c member
    rw [none c member, zero]
    rfl
  · rw [if_neg zero, List.filter_eq_nil_iff]
    intro c member
    rw [none c member, beq_iff_eq]
    omega

/-- The overloads of one arity are those of the eligible constructors with as many parameters, in
the order of registration; to those without parameters the zeros are added. -/
lemma OverloadSet.filter_arity_ofRegistry (history : List Registration) (options : Options)
    (t : TypeTag) (n : ℕ) :
    ((ofRegistry (Registry.ofRegistrations history).result options t).overloads.filter
        (·.arity == n)) =
      ((eligible options (declaredIn history t)).filter (·.arity == n)).map
          Overload.ofConstructor ++
        if n = 0 then (zerosIn history options t).map (·.overload t) else [] := by
  have fixed : ∀ o : Overload, (o.arity == n) = true → o.arity = n := fun o => by simp
  have arity : (fun o : Overload => o.arity == n) ∘ (fun c : Candidate => c.overload t) =
      fun c => c.parameters.length == n := by
    funext c
    simp only [Function.comp_apply, Candidate.arity_overload]
  rw [ofRegistry, filter_ranked fixed, candidates_ofRegistrations, List.filter_map, arity,
    candidatesIn, List.append_assoc, ← zerosIn, List.filter_append, List.map_append,
    filter_arity_zerosIn, List.filter_map, List.map_map]
  congr 1
  split <;> rfl

/-! ## What is left out -/

/-- The declared constructors that calls cannot select: those that are neither public nor asked for,
and those with a raw pointer among their parameters. -/
def leftOut (options : Options) (declared : List Constructor) : List Constructor :=
  declared.filter fun c =>
    (!c.isPublic && !options.includeNonPublic) || c.parameters.any (·.shape == .pointer)

lemma length_eligible_add_leftOut (options : Options) (declared : List Constructor) :
    (eligible options declared).length + (leftOut options declared).length = declared.length := by
  have complement : leftOut options declared = declared.filter fun c =>
      !((c.isPublic || options.includeNonPublic) &&
        !c.parameters.any (·.shape == .pointer)) := by
    unfold leftOut
    congr 1
    funext c
    simp only [Bool.not_and, Bool.not_or, Bool.not_not]
  rw [complement, eligible, ← List.length_eq_length_filter_add]

lemma length_declaredOverloads (history : List Registration) (options : Options) (t : TypeTag) :
    ((Registry.ofRegistrations history).result.declaredOverloads options t).length =
      (eligible options (declaredIn history t)).length := by
  rw [Registry.declaredOverloads, declaredOverloads_eq, List.length_map,
    Registry.constructorsOf_ofRegistrations]

/-- Calls cannot select more declared constructors than there are. -/
lemma length_declaredOverloads_le (history : List Registration) (options : Options)
    (t : TypeTag) :
    ((Registry.ofRegistrations history).result.declaredOverloads options t).length ≤
      ((Registry.ofRegistrations history).result.constructorsOf t).length := by
  have all := length_eligible_add_leftOut options (declaredIn history t)
  rw [length_declaredOverloads, Registry.constructorsOf_ofRegistrations]
  omega

lemma discarded_ofRegistrations (history : List Registration) (options : Options) (t : TypeTag) :
    (Registry.ofRegistrations history).result.discarded options t =
      (leftOut options (declaredIn history t)).length := by
  have all := length_eligible_add_leftOut options (declaredIn history t)
  rw [Registry.discarded, length_declaredOverloads, Registry.constructorsOf_ofRegistrations]
  omega

lemma OverloadSet.size_ofRegistry (history : List Registration) (options : Options)
    (t : TypeTag) :
    (ofRegistry (Registry.ofRegistrations history).result options t).size =
      (eligible options (declaredIn history t)).length + (zerosIn history options t).length := by
  have ranking : (ofRegistry (Registry.ofRegistrations history).result options t).size =
      ((Registry.ofRegistrations history).result.candidates options t).length :=
    List.length_mergeSort _
  rw [ranking, candidates_ofRegistrations, List.length_map, candidatesIn, List.append_assoc,
    ← zerosIn, List.length_append, List.length_map]

/-! ## The set -/

lemma Candidate.owner_overload {history : List Registration} {options : Options} {t : TypeTag}
    {c : Candidate} (member : c ∈ candidatesIn history options t) :
    (c.overload t).owner.is t = true := by
  cases c with
  | declared c => exact owner_is_of_mem_candidatesIn member
  | zero value => exact t.is_refl
  | member info literal => exact t.is_refl

/-- **What an overload set holds.**  Whatever was registered, the overload set of a type is as
follows.
* Its overloads stand in the order of their arities.
* Those of one arity are, each as often as it was registered, those of the declared constructors
  that may be run and have as many parameters, in the order of registration.  After those without
  parameters come the overload of the zero value and that of the zero member, if the type has them.
* Every overload belongs to the type, has one declared type and two marks for each parameter, and
  goes through any arguments without asking for a position that is not there.
* The number of constructors that are left out is reported as the difference of two lengths, of
  which the first is at least as great as the second.  It counts the hidden constructors and those
  with a raw pointer; so overloads and constructors left out are as many as constructors and
  zeros. -/
theorem overloadSet_represents (history : List Registration) (options : Options) (t : TypeTag) :
    let r := (Registry.ofRegistrations history).result
    let s := (OverloadSet.build r options t).result
    let declared := declaredIn history t
    let zeros := zeroCandidates options t ++ memberCandidates history options t
    (s.tag = t ∧ s.overloads.Pairwise fun a b => a.arity ≤ b.arity) ∧
    (∀ n, (s.overloads.filter fun o => o.arity == n) =
      ((eligible options declared).filter fun c => c.arity == n).map Overload.ofConstructor ++
        if n = 0 then zeros.map (·.overload t) else []) ∧
    (∀ o ∈ s.overloads, o.owner.is t = true ∧ o.types.length = o.arity ∧
      o.nullability.length = o.arity ∧ o.dynamic.length = o.arity ∧
      ∀ args, o.accepts? args = some (o.accepts args)) ∧
    ∃ dropped,
      (OverloadSet.build r options t).events = [.builtSet t s.size dropped s.hasDefault] ∧
      dropped = (r.constructorsOf t).length - (r.declaredOverloads options t).length ∧
      (r.declaredOverloads options t).length ≤ (r.constructorsOf t).length ∧
      dropped = (leftOut options declared).length ∧
      s.size + dropped = declared.length + zeros.length := by
  intro r s declared zeros
  have all := length_eligible_add_leftOut options declared
  have size : s.size = (eligible options declared).length + zeros.length :=
    OverloadSet.size_ofRegistry history options t
  have dropped := discarded_ofRegistrations history options t
  refine ⟨⟨rfl, OverloadSet.pairwise_ranked _⟩,
    OverloadSet.filter_arity_ofRegistry history options t, fun o member => ?_,
    (leftOut options declared).length, ?_, dropped.symm,
    length_declaredOverloads_le history options t, rfl, by omega⟩
  · have unranked : o ∈ r.candidates options t := (List.mergeSort_perm _ _).mem_iff.1 member
    rw [candidates_ofRegistrations] at unranked
    obtain ⟨c, candidate, rfl⟩ := List.mem_map.1 unranked
    exact ⟨c.owner_overload candidate, rfl, Overload.length_nullability _,
      Overload.length_dynamic _, Overload.accepts?_eq _⟩
  · rw [← dropped]
    rfl

end Activation
