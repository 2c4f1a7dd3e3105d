import Activation.Proofs.Operation

/-!
# The memo over whole runs

An activator remembers the overload sets that it has put together.  This file shows that nobody can
tell from the answers of a run, and what the memo holds at each point of it.

What carries the proofs is one description of the memo (`Activator.Remembers`): its entries are the
types that were asked for so far, each once and in the order in which they were first asked for, and
each has the overload set that the registry gives it.  Asking for a set keeps that up
(`Activator.remembers_getOrBuild`), and so do operations and whole runs
(`Activator.remembers_perform`, `Activator.remembers_performAll`).

`Activator.memo_transparent` collects what follows: the answers are those of an activator without a
memo, the memo holds exactly the types that operations resolved, its sets stay as they are, and the
log reports one publication for each of them.
-/

namespace Activation

/-! ## What the memo holds -/

/-- The types of a list, each once and in the order in which they first occur. -/
def distinctTypes (asked : List TypeTag) : List TypeTag :=
  asked.foldl (fun seen t => if seen.any (·.is t) then seen else seen ++ [t]) []

lemma distinctTypes_concat (asked : List TypeTag) (t : TypeTag) :
    distinctTypes (asked ++ [t]) =
      if (distinctTypes asked).any (·.is t) then distinctTypes asked
      else distinctTypes asked ++ [t] := by
  simp [distinctTypes]

lemma mem_of_mem_distinctTypes {asked : List TypeTag} {t : TypeTag}
    (member : t ∈ distinctTypes asked) : t ∈ asked := by
  induction asked using List.reverseRecOn with
  | nil => exact member
  | append_singleton asked u ih =>
    rw [distinctTypes_concat] at member
    split at member
    · exact List.mem_append_left _ (ih member)
    · rcases List.mem_append.1 member with earlier | last
      · exact List.mem_append_left _ (ih earlier)
      · exact List.mem_append_right _ last

/-- No type is lost. -/
lemma exists_mem_distinctTypes_iff {asked : List TypeTag} {t : TypeTag} :
    (∃ u ∈ distinctTypes asked, u.is t = true) ↔ ∃ u ∈ asked, u.is t = true := by
  constructor
  · rintro ⟨u, member, same⟩
    exact ⟨u, mem_of_mem_distinctTypes member, same⟩
  · induction asked using List.reverseRecOn with
    | nil => exact id
    | append_singleton asked last ih =>
      rintro ⟨u, member, same⟩
      rw [distinctTypes_concat]
      split
      · rename_i seen
        rcases List.mem_append.1 member with earlier | here
        · exact ih ⟨u, earlier, same⟩
        · obtain rfl : u = last := List.mem_singleton.1 here
          obtain ⟨v, kept, alike⟩ := List.any_eq_true.1 seen
          refine ⟨v, kept, ?_⟩
          rw [TypeTag.is_eq_true_iff] at *
          exact alike.trans same
      · rcases List.mem_append.1 member with earlier | here
        · obtain ⟨v, kept, alike⟩ := ih ⟨u, earlier, same⟩
          exact ⟨v, List.mem_append_left _ kept, alike⟩
        · exact ⟨u, List.mem_append_right _ here, same⟩

/-- Types that are asked for later come after the others. -/
lemma distinctTypes_append (asked later : List TypeTag) :
    ∃ new, distinctTypes (asked ++ later) = distinctTypes asked ++ new := by
  induction later using List.reverseRecOn with
  | nil => exact ⟨[], by simp⟩
  | append_singleton later t ih =>
    obtain ⟨new, grown⟩ := ih
    rw [← List.append_assoc, distinctTypes_concat, grown]
    split
    · exact ⟨new, rfl⟩
    · exact ⟨new ++ [t], List.append_assoc _ _ _⟩

/-- The tag under which a type was first asked for; its own if it was not. -/
def firstAsked (asked : List TypeTag) (t : TypeTag) : TypeTag :=
  ((distinctTypes asked).find? (·.is t)).getD t

lemma firstAsked_spec (asked : List TypeTag) (t : TypeTag) :
    (firstAsked asked t).is t = true ∧ (firstAsked asked t = t ∨ firstAsked asked t ∈ asked) := by
  unfold firstAsked
  cases first : (distinctTypes asked).find? (·.is t) with
  | none => exact ⟨t.is_refl, .inl rfl⟩
  | some u =>
    exact ⟨by simpa using List.find?_some first,
      .inr (mem_of_mem_distinctTypes (List.mem_of_find?_eq_some first))⟩

namespace Activator

variable {registry : Registry} {options : Options}

/-- The memo has an entry for each of the types that were asked for, in the order in which they were
first asked for, and each entry is the overload set that the registry gives the type. -/
structure Remembers (registry : Registry) (options : Options) (asked : List TypeTag)
    (a : Activator) : Prop where
  registry_eq : a.registry = registry
  options_eq : a.options = options
  entries_eq : a.memo.sets.entries =
    (distinctTypes asked).map fun t => (t, OverloadSet.ofRegistry registry options t)

lemma remembers_ofRegistry (registry : Registry) (options : Options) :
    Remembers registry options [] (ofRegistry registry options) :=
  ⟨rfl, rfl, rfl⟩

lemma Remembers.get?_eq {asked : List TypeTag} {a : Activator}
    (remembers : Remembers registry options asked a) (t : TypeTag) :
    a.memo.get? t =
      ((distinctTypes asked).find? (·.is t)).map (OverloadSet.ofRegistry registry options) := by
  rw [Memo.get?, TypeMap.get?, remembers.entries_eq, List.find?_map, Option.map_map]
  rfl

lemma Remembers.contains_iff {asked : List TypeTag} {a : Activator}
    (remembers : Remembers registry options asked a) (t : TypeTag) :
    a.memo.contains t = true ↔ ∃ u ∈ asked, u.is t = true := by
  rw [Memo.contains, TypeMap.contains_iff, remembers.entries_eq, ← exists_mem_distinctTypes_iff]
  simp

/-- Asking for the set of a type either finds the set of the tag under which the type was first
asked for, or puts a set together, publishes it as the last one and reports both. -/
lemma getOrBuild_cases {asked : List TypeTag} {a : Activator}
    (remembers : Remembers registry options asked a) (t : TypeTag) :
    (distinctTypes (asked ++ [t]) = distinctTypes asked ∧
      a.getOrBuild t =
        pure (OverloadSet.ofRegistry registry options (firstAsked asked t), a)) ∨
    (distinctTypes (asked ++ [t]) = distinctTypes asked ++ [t] ∧ firstAsked asked t = t ∧
      ∃ b, b.registry = registry ∧ b.options = options ∧
        b.memo.sets.entries =
          a.memo.sets.entries ++ [(t, OverloadSet.ofRegistry registry options t)] ∧
        (a.getOrBuild t).result = (OverloadSet.ofRegistry registry options t, b) ∧
        (a.getOrBuild t).events = (OverloadSet.build registry options t).events ++
          [.publishedSet t ((distinctTypes asked).length + 1)]) := by
  have known := remembers.get?_eq t
  cases first : (distinctTypes asked).find? (·.is t) with
  | some u =>
    have hit : a.memo.get? t = some (OverloadSet.ofRegistry registry options u) := by
      simpa [first] using known
    have seen : (distinctTypes asked).any (·.is t) = true := by
      rw [List.any_eq_true]
      exact ⟨u, List.mem_of_find?_eq_some first, by simpa using List.find?_some first⟩
    refine .inl ⟨by rw [distinctTypes_concat, if_pos seen], ?_⟩
    rw [getOrBuild, hit, firstAsked, first]
    rfl
  | none =>
    have miss : a.memo.get? t = none := by
      simpa [first] using known
    have unseen : ¬ (distinctTypes asked).any (·.is t) = true := by
      simpa using first
    have size : a.memo.size = (distinctTypes asked).length := by
      rw [Memo.size, TypeMap.size, remembers.entries_eq, List.length_map]
    refine .inr ⟨by rw [distinctTypes_concat, if_neg unseen], by rw [firstAsked, first]; rfl,
      (a.getOrBuild t).result.2, ?_⟩
    rw [getOrBuild, miss]
    refine ⟨remembers.registry_eq, remembers.options_eq, ?_, ?_, ?_⟩
    · rw [← remembers.registry_eq, ← remembers.options_eq]
      exact TypeMap.entries_insert_of_get?_eq_none _ miss
    · rw [← remembers.registry_eq, ← remembers.options_eq]
      rfl
    · rw [← remembers.registry_eq, ← remembers.options_eq, ← size]
      rfl

/-- Asking for the set of a type gives the set of the tag under which the type was first asked for,
and the memo then has an entry for the type. -/
lemma remembers_getOrBuild {asked : List TypeTag} {a : Activator}
    (remembers : Remembers registry options asked a) (t : TypeTag) :
    (a.getOrBuild t).result.1 = OverloadSet.ofRegistry registry options (firstAsked asked t) ∧
      Remembers registry options (asked ++ [t]) (a.getOrBuild t).result.2 := by
  rcases getOrBuild_cases remembers t with
    ⟨same, hit⟩ | ⟨grown, first, b, registry_eq, options_eq, entries, result, -⟩
  · rw [hit]
    refine ⟨rfl, remembers.registry_eq, remembers.options_eq, ?_⟩
    rw [same]
    exact remembers.entries_eq
  · rw [result, first]
    refine ⟨rfl, registry_eq, options_eq, ?_⟩
    rw [entries, grown, List.map_append, remembers.entries_eq]
    rfl

lemma remembers_perform {asked : List TypeTag} {a : Activator}
    (remembers : Remembers registry options asked a) (op : Operation) :
    Remembers registry options (asked ++ (op.target? registry).toList)
      (a.perform op).result.2 := by
  rw [perform_leaves, remembers.registry_eq]
  cases op.target? registry with
  | none => simpa using remembers
  | some t => exact (remembers_getOrBuild remembers t).2

/-- Every operation answers what it answers without a memo. -/
lemma perform_eq_uncached {asked : List TypeTag} {a : Activator}
    (remembers : Remembers registry options asked a) {op : Operation} {answer : Logged Answer}
    (uncached : op.uncached? registry
      (fun t => OverloadSet.ofRegistry registry options (firstAsked asked t)) = some answer) :
    (a.perform op).result.1 = answer.result := by
  rw [← remembers.registry_eq] at uncached
  cases targeted : op.target? a.registry with
  | none =>
    rcases (perform_of_no_target targeted _).2 with ⟨other, -⟩ | ⟨answer', uncached', answers, -⟩
    · rw [other] at uncached
      cases uncached
    · obtain rfl : answer' = answer := Option.some.inj (uncached'.symm.trans uncached)
      exact answers
  | some t =>
    have gets := (remembers_getOrBuild remembers t).1
    rw [← remembers.registry_eq] at gets
    obtain ⟨-, answer', uncached', answers, -⟩ :=
      perform_of_target targeted
        (fun t => OverloadSet.ofRegistry a.registry options (firstAsked asked t)) gets
    obtain rfl : answer' = answer := Option.some.inj (uncached'.symm.trans uncached)
    exact answers

lemma toList_append_filterMap (op : Operation) (rest : List Operation) :
    (op.target? registry).toList ++ rest.filterMap (·.target? registry) =
      (op :: rest).filterMap (·.target? registry) := by
  rw [List.filterMap_cons]
  cases op.target? registry <;> rfl

lemma remembers_performAll {asked : List TypeTag} {a : Activator}
    (remembers : Remembers registry options asked a) (ops : List Operation) :
    Remembers registry options (asked ++ ops.filterMap (·.target? registry))
      (a.performAll ops).result.2 := by
  induction ops generalizing asked a with
  | nil => simpa [performAll] using remembers
  | cons op rest ih =>
    have later := ih (remembers_perform remembers op)
    rw [List.append_assoc, toList_append_filterMap] at later
    exact later

/-! ## What stays -/

/-- A published set stays where it is and as it is, and asking for it again gives it. -/
lemma kept_performAll {asked : List TypeTag} {a : Activator}
    (remembers : Remembers registry options asked a) (later : List Operation) {t : TypeTag}
    {s : OverloadSet} (published : a.memo.get? t = some s) :
    (a.performAll later).result.2.memo.get? t = some s ∧
      (a.performAll later).result.2.memo.position? t = a.memo.position? t ∧
      ((a.performAll later).result.2.getOrBuild t).result = (s, (a.performAll later).result.2) := by
  have remembers' := remembers_performAll remembers later
  set b := (a.performAll later).result.2
  obtain ⟨new, grown⟩ := distinctTypes_append asked (later.filterMap (·.target? registry))
  have entries : ∃ more, b.memo.sets.entries = a.memo.sets.entries ++ more := by
    rw [remembers'.entries_eq, remembers.entries_eq, grown, List.map_append]
    exact ⟨_, rfl⟩
  obtain ⟨more, entries⟩ := entries
  have still : b.memo.get? t = some s := TypeMap.get?_of_prefix ⟨more, entries.symm⟩ published
  refine ⟨still, ?_, ?_⟩
  · have present : (a.memo.sets.entries.findIdx? (·.1.is t)).isSome = true := by
      have contained : a.memo.sets.contains t = true := by
        rw [← TypeMap.isSome_get?]
        exact Option.isSome_iff_exists.2 ⟨s, published⟩
      rw [List.findIdx?_isSome]
      exact contained
    obtain ⟨i, position⟩ := Option.isSome_iff_exists.1 present
    rw [Memo.position?, Memo.position?, TypeMap.position?, TypeMap.position?, entries,
      List.findIdx?_append, position]
    rfl
  · unfold getOrBuild
    rw [still]
    rfl

/-- The memo has as many sets as there are types among those that were asked for. -/
lemma Remembers.size_eq {asked : List TypeTag} {a : Activator}
    (remembers : Remembers registry options asked a) :
    a.memo.size = (asked.map (·.ident)).toFinset.card := by
  have distinct : ((distinctTypes asked).map (·.ident)).Nodup := by
    have distinct := a.memo.sets.distinct
    rw [remembers.entries_eq, List.map_map] at distinct
    exact distinct
  have same : (asked.map (·.ident)).toFinset =
      ((distinctTypes asked).map (·.ident)).toFinset := by
    ext i
    simp only [List.mem_toFinset, List.mem_map]
    have types := @exists_mem_distinctTypes_iff asked ⟨i, ""⟩
    simp only [TypeTag.is_eq_true_iff] at types
    exact types.symm
  rw [same, List.toFinset_card_of_nodup distinct, Memo.size, TypeMap.size, remembers.entries_eq,
    List.length_map, List.length_map]

/-! ## The log -/

/-- What is reported when the sets of types are put together and published, in this order. -/
def publications (registry : Registry) (options : Options) (types : List TypeTag) : List Event :=
  types.zipIdx.flatMap fun (t, earlier) =>
    (OverloadSet.build registry options t).events ++ [.publishedSet t (earlier + 1)]

lemma publications_concat (registry : Registry) (options : Options) (types : List TypeTag)
    (t : TypeTag) :
    publications registry options (types ++ [t]) =
      publications registry options types ++
        ((OverloadSet.build registry options t).events ++
          [.publishedSet t (types.length + 1)]) := by
  rw [publications, publications, List.zipIdx_append, List.flatMap_append]
  simp

lemma publications_getOrBuild {asked : List TypeTag} {a : Activator}
    (remembers : Remembers registry options asked a) (t : TypeTag) :
    publications registry options (distinctTypes asked) ++
        (a.getOrBuild t).events.filter Event.isPublication =
      publications registry options (distinctTypes (asked ++ [t])) := by
  rcases getOrBuild_cases remembers t with
    ⟨same, hit⟩ | ⟨grown, -, b, -, -, -, -, events⟩
  · rw [hit, same]
    exact List.append_nil _
  · have all : (a.getOrBuild t).events.filter Event.isPublication = (a.getOrBuild t).events := by
      rw [events]
      rfl
    rw [all, events, grown, publications_concat]

lemma publications_perform {asked : List TypeTag} {a : Activator}
    (remembers : Remembers registry options asked a) (op : Operation) :
    publications registry options (distinctTypes asked) ++
        (a.perform op).events.filter Event.isPublication =
      publications registry options (distinctTypes (asked ++ (op.target? registry).toList)) := by
  cases targeted : op.target? registry with
  | none =>
    rw [← remembers.registry_eq] at targeted
    have quiet : (a.perform op).events.filter Event.isPublication = [] := by
      rcases (perform_of_no_target targeted (OverloadSet.ofRegistry a.registry a.options)).2 with
        ⟨-, none⟩ | ⟨answer, uncached, -, events⟩
      · rw [none]
        rfl
      · rw [events]
        exact filter_isPublication_uncached uncached
    rw [quiet, List.append_nil, Option.toList_none, List.append_nil]
  | some t =>
    rw [← remembers.registry_eq] at targeted
    obtain ⟨-, answer, uncached, -, events⟩ :=
      perform_of_target targeted (fun _ => (a.getOrBuild t).result.1) rfl
    rw [events, List.filter_append, filter_isPublication_uncached uncached, List.append_nil]
    exact publications_getOrBuild remembers t

lemma publications_performAll {asked : List TypeTag} {a : Activator}
    (remembers : Remembers registry options asked a) (ops : List Operation) :
    publications registry options (distinctTypes asked) ++
        (a.performAll ops).events.filter Event.isPublication =
      publications registry options
        (distinctTypes (asked ++ ops.filterMap (·.target? registry))) := by
  induction ops generalizing asked a with
  | nil => simp [performAll]
  | cons op rest ih =>
    have events : (a.performAll (op :: rest)).events =
        (a.perform op).events ++ ((a.perform op).result.2.performAll rest).events := by
      simp [performAll]
    rw [events, List.filter_append, ← List.append_assoc, publications_perform remembers op,
      ih (remembers_perform remembers op), List.append_assoc, toList_append_filterMap]

/-! ## Runs -/

lemma length_performAll (a : Activator) (ops : List Operation) :
    (a.performAll ops).result.1.length = ops.length := by
  induction ops generalizing a with
  | nil => rfl
  | cons op rest ih => simp [performAll, ih]

lemma answers_append (a : Activator) (ops later : List Operation) :
    (a.performAll (ops ++ later)).result.1 =
      (a.performAll ops).result.1 ++ ((a.performAll ops).result.2.performAll later).result.1 := by
  induction ops generalizing a with
  | nil => simp [performAll]
  | cons op rest ih => simp [performAll, ih]

/-- What an operation answers in the middle of a run is what it answers on the activator that the
run has come to. -/
lemma answer_of_run (a : Activator) (ops : List Operation) (op : Operation)
    (later : List Operation) :
    (a.performAll (ops ++ op :: later)).result.1[ops.length]? =
      some ((a.performAll ops).result.2.perform op).result.1 := by
  rw [answers_append, List.getElem?_append_right (length_performAll a ops).le,
    length_performAll, Nat.sub_self]
  rfl

/-- **The memo cannot be told from the answers.**  Take any run of an activator that starts without
published sets.
* Every activation in it answers what it would answer if the set of its type were put together for
  it alone, under a tag that is its own or one of the same type that was asked for earlier.
* The memo holds exactly the types that operations resolved.  An operation that resolves none leaves
  the activator as it is, and every other leaves it as asking for the set alone does.
* A published set stays as it is and in its place, and asking for it again gives it.
* There are as many sets as types that were asked for, and the log reports for each of them, in the
  order in which they were first asked for, that its set was put together and then published. -/
theorem memo_transparent (registry : Registry) (options : Options) (earlier : List Operation) :
    let start := ofRegistry registry options
    let a := (start.performAll earlier).result.2
    let asked := earlier.filterMap (·.target? registry)
    (∃ first : TypeTag → TypeTag,
      (∀ t, (first t).is t = true ∧ (first t = t ∨ first t ∈ asked)) ∧
      ∀ op later answer,
        op.uncached? registry
            (fun t => (OverloadSet.build registry options (first t)).result) = some answer →
          (start.performAll (earlier ++ op :: later)).result.1[earlier.length]? =
            some answer.result) ∧
    ((∀ t, a.memo.contains t = true ↔ ∃ u ∈ asked, u.is t = true) ∧
      ∀ op, (a.perform op).result.2 =
        match op.target? registry with
        | none => a
        | some t => (a.getOrBuild t).result.2) ∧
    (∀ later t s, a.memo.get? t = some s →
      (a.performAll later).result.2.memo.get? t = some s ∧
      (a.performAll later).result.2.memo.position? t = a.memo.position? t ∧
      ((a.performAll later).result.2.getOrBuild t).result =
        (s, (a.performAll later).result.2)) ∧
    a.memo.size = (asked.map (·.ident)).toFinset.card ∧
      (start.performAll earlier).events.filter Event.isPublication =
        publications registry options (distinctTypes asked) := by
  intro start a asked
  have fresh := remembers_ofRegistry registry options
  have remembers : Remembers registry options asked a := remembers_performAll fresh earlier
  refine ⟨⟨firstAsked asked, firstAsked_spec asked, ?_⟩, ⟨remembers.contains_iff, ?_⟩, ?_,
    remembers.size_eq, ?_⟩
  · intro op later answer uncached
    rw [answer_of_run]
    exact congrArg some (perform_eq_uncached remembers uncached)
  · intro op
    have leaves := perform_leaves a op
    rw [remembers.registry_eq] at leaves
    exact leaves
  · intro later t s published
    exact kept_performAll remembers later published
  · exact publications_performAll fresh earlier

end Activator

end Activation
