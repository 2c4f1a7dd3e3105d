import Activation.Proofs.Overlap.Steps

/-!
# The outcome of overlapping requests

What follows from the consistency of overlapping requests.  Published sets stay
(`Overlap.entries_run`), and no set is put together or published twice
(`Overlap.Consistent.once`).  A request that is through has returned what is published, and so
requests for one type agree.  The request that holds the lock can always get on, and without one any
request can, so that all requests come to an end (`Overlap.Consistent.exists_complete`).

`Overlap.run_alone` says that a request that no other overlaps does what
`Activator.getOrBuild` does.  `overlapping_requests_agree` collects what is independent of the order
of steps.
-/

namespace Activation

namespace Overlap

variable {registry : Registry} {options : Options} {types : List TypeTag} {o : Overlap}
  {events : List Event}

/-! ## What is published stays published -/

lemma entries_step (consistent : Consistent registry options types o events) (i : ℕ) :
    o.memo.snapshot.entries <+: (o.step registry options i).result.memo.snapshot.entries := by
  rcases step_cases registry options o i with
    idle | ⟨⟨type, before⟩, stage, memo, more, here, advances, step⟩
  · rw [idle]
    exact List.prefix_rfl
  · have known := consistent.knows i _ here
    rw [step]
    cases advances with
    | publishes current s =>
      obtain ⟨⟨rfl, absent⟩, -⟩ := known
      show o.memo.snapshot.entries <+: (o.memo.snapshot.insert type s).entries
      rw [TypeMap.entries_insert_of_get?_eq_none s absent]
      exact List.prefix_append _ _
    | _ => exact List.prefix_rfl

lemma entries_run (consistent : Consistent registry options types o events)
    (schedule : List ℕ) :
    o.memo.snapshot.entries <+:
      (o.run registry options schedule).result.memo.snapshot.entries := by
  induction schedule generalizing o events with
  | nil => exact List.prefix_rfl
  | cons i rest ih =>
    exact (entries_step consistent i).trans (ih (consistent_step consistent i))

end Overlap

/-! ## Nothing is done twice -/

/-- Whether the event is that the set of the type was put together. -/
def Event.isBuildingOf (t : TypeTag) : Event → Bool
  | .builtSet u _ _ _ => u.is t
  | _ => false

/-- Whether the event is that the set of the type was published. -/
def Event.isPublicationOf (t : TypeTag) : Event → Bool
  | .publishedSet u _ => u.is t
  | _ => false

section

variable (registry : Registry) (options : Options) (types : List TypeTag) (t : TypeTag)

lemma countP_isBuildingOf_publications :
    (Activator.publications registry options types).countP (·.isBuildingOf t) =
      types.countP (·.is t) := by
  induction types using List.reverseRecOn with
  | nil => rfl
  | append_singleton types u ih =>
    rw [Activator.publications_concat, List.countP_append, List.countP_append, List.countP_append,
      ih]
    rfl

lemma countP_isPublicationOf_publications :
    (Activator.publications registry options types).countP (·.isPublicationOf t) =
      types.countP (·.is t) := by
  induction types using List.reverseRecOn with
  | nil => rfl
  | append_singleton types u ih =>
    rw [Activator.publications_concat, List.countP_append, List.countP_append, List.countP_append,
      ih]
    have quiet : (OverloadSet.build registry options u).events.countP (·.isPublicationOf t) = 0 :=
      rfl
    rw [quiet, Nat.zero_add]
    rfl

lemma countP_isBuildingOf_build :
    (types.flatMap fun u => (OverloadSet.build registry options u).events).countP
      (·.isBuildingOf t) = types.countP (·.is t) := by
  induction types with
  | nil => rfl
  | cons u types ih =>
    rw [List.flatMap_cons, List.countP_append, ih, ← List.singleton_append, List.countP_append]
    rfl

lemma countP_isPublicationOf_build :
    (types.flatMap fun u => (OverloadSet.build registry options u).events).countP
      (·.isPublicationOf t) = 0 := by
  induction types with
  | nil => rfl
  | cons u types ih =>
    rw [List.flatMap_cons, List.countP_append, ih]
    rfl

end

lemma countP_is_le_one {types : List TypeTag} (distinct : (types.map (·.ident)).Nodup)
    (t : TypeTag) : types.countP (·.is t) ≤ 1 := by
  have counted : types.countP (·.is t) = (types.map (·.ident)).count t.ident := by
    rw [List.count, List.countP_map]
    rfl
  rw [counted]
  exact List.nodup_iff_count_le_one.1 distinct t.ident

namespace Overlap

variable {registry : Registry} {options : Options} {types : List TypeTag} {o : Overlap}
  {events : List Event}

/-- A type whose set is put together is not among those whose sets are published. -/
lemma Consistent.distinct (consistent : Consistent registry options types o events) :
    ((o.memo.snapshot.entries.map (·.1) ++ o.unpublished).map (·.ident)).Nodup := by
  have published : ((o.memo.snapshot.entries.map (·.1)).map (·.ident)).Nodup := by
    rw [List.map_map]
    exact o.memo.snapshot.distinct
  cases holder : o.memo.holder? with
  | none =>
    rw [unpublished_of_free holder, List.append_nil]
    exact published
  | some i =>
    obtain ⟨⟨type, stage⟩, here, -⟩ := (consistent.holder_iff i).1 holder
    have known := consistent.knows i _ here
    rw [unpublished_of_holder holder here]
    cases stage with
    | publishing current s =>
      obtain ⟨⟨-, absent⟩, -⟩ := known
      have new : ¬ o.memo.snapshot.entries.any (·.1.is type) := by
        have missing := TypeMap.get?_eq_none_iff.1 absent
        rw [TypeMap.contains] at missing
        simp [missing]
      have extended := TypeMap.nodup_append_of_not_any s o.memo.snapshot.distinct new
      simpa [Request.unpublished, Function.comp_def] using extended
    | _ => simpa [Request.unpublished] using published

/-- No set is put together twice, and none is published twice. -/
lemma Consistent.once (consistent : Consistent registry options types o events) (t : TypeTag) :
    events.countP (·.isBuildingOf t) ≤ 1 ∧ events.countP (·.isPublicationOf t) ≤ 1 := by
  have once := countP_is_le_one consistent.distinct t
  rw [List.countP_append] at once
  rw [consistent.events_eq, List.countP_append, List.countP_append,
    countP_isBuildingOf_publications, countP_isBuildingOf_build,
    countP_isPublicationOf_publications, countP_isPublicationOf_build]
  exact ⟨once, by omega⟩

/-! ## What requests return -/

lemma Consistent.get?_of_returned (consistent : Consistent registry options types o events)
    {r : Request} (member : r ∈ o.requests) {s : SharedSet} (returned : r.stage = .returned s) :
    o.memo.snapshot.get? r.type = some s := by
  obtain ⟨i, here⟩ := List.getElem?_of_mem member
  have known := consistent.knows i r here
  rw [Request.Knows, returned] at known
  exact known

/-- A published set is that of a type that was asked for. -/
lemma Consistent.set_of_get? (consistent : Consistent registry options types o events)
    {t : TypeTag} {s : SharedSet} (found : o.memo.snapshot.get? t = some s) :
    ∃ u ∈ types, u.is t = true ∧ s.set = (OverloadSet.build registry options u).result := by
  obtain ⟨e, first, rfl⟩ := Option.map_eq_some_iff.1 found
  obtain ⟨k, at_k⟩ := List.getElem?_of_mem (List.mem_of_find?_eq_some first)
  obtain ⟨asked, value⟩ := consistent.entry k e at_k
  refine ⟨e.1, asked, by simpa using List.find?_some first, ?_⟩
  rw [value]
  rfl

/-- When all requests are through, the types with a published set are those that were asked for. -/
lemma Consistent.contains_iff (consistent : Consistent registry options types o events)
    (complete : o.isComplete = true) (t : TypeTag) :
    o.memo.snapshot.contains t = true ↔ ∃ u ∈ types, u.is t = true := by
  rw [← TypeMap.isSome_get?]
  constructor
  · intro published
    obtain ⟨s, found⟩ := Option.isSome_iff_exists.1 published
    obtain ⟨u, asked, same, -⟩ := consistent.set_of_get? found
    exact ⟨u, asked, same⟩
  · rintro ⟨u, asked, same⟩
    rw [← consistent.types_eq] at asked
    obtain ⟨r, member, rfl⟩ := List.mem_map.1 asked
    have through : r.stage.isReturned = true := List.all_eq_true.1 complete r member
    cases stage : r.stage with
    | returned s =>
      have found := consistent.get?_of_returned member stage
      rw [← o.memo.snapshot.get?_congr same, found]
      rfl
    | _ =>
      rw [stage] at through
      cases through

end Overlap

/-! ## Requests come to an end -/

/-- How many steps a request still has to take, at most. -/
def Stage.left : Stage → ℕ
  | .asked => 6
  | .waiting => 5
  | .locked => 4
  | .building _ => 3
  | .publishing _ _ => 2
  | .releasing _ => 1
  | .returned _ => 0

lemma Advances.left_lt {registry : Registry} {options : Options} {memo memo' : SharedMemo}
    {index : ℕ} {t : TypeTag} {before stage : Stage} {events : List Event}
    (advances : Advances registry options memo index t before stage memo' events)
    (through : before.isReturned = false) (unblocked : before = .waiting → memo.holder? = none) :
    stage.left < before.left := by
  cases advances with
  | waits held =>
    rw [unblocked rfl] at held
    cases held
  | stays s => cases through
  | _ => simp [Stage.left]

lemma sum_map_set_lt {α : Type} {f : α → ℕ} {l : List α} {i : ℕ} {a b : α}
    (here : l[i]? = some a) (less : f b < f a) : ((l.set i b).map f).sum < (l.map f).sum := by
  induction l generalizing i with
  | nil => cases here
  | cons c l ih =>
    cases i with
    | zero =>
      cases here
      simpa using less
    | succ i =>
      have rest := ih here
      simpa using rest

namespace Overlap

variable {registry : Registry} {options : Options} {types : List TypeTag} {o : Overlap}
  {events : List Event}

/-- How many steps all requests still have to take, at most. -/
def left (o : Overlap) : ℕ := (o.requests.map (·.stage.left)).sum

/-- A request that is not through gets on with a step, unless it waits for a lock that is held. -/
lemma left_step_lt (registry : Registry) (options : Options) {i : ℕ} {r : Request}
    (here : o.requests[i]? = some r) (through : r.stage.isReturned = false)
    (unblocked : r.stage = .waiting → o.memo.holder? = none) :
    (o.step registry options i).result.left < o.left := by
  obtain ⟨stage, memo, more, advances, step⟩ := step_of_getElem? registry options here
  rw [step]
  exact sum_map_set_lt here (advances.left_lt through unblocked)

/-- Unless all requests are through, some request can get on. -/
lemma Consistent.exists_left_step_lt (consistent : Consistent registry options types o events)
    (incomplete : o.isComplete = false) :
    ∃ i, (o.step registry options i).result.left < o.left := by
  cases holder : o.memo.holder? with
  | some i =>
    -- The request that holds the lock never waits.
    obtain ⟨r, here, holds⟩ := (consistent.holder_iff i).1 holder
    refine ⟨i, left_step_lt registry options here (Stage.isReturned_of_holdsLock holds) ?_⟩
    intro waiting
    rw [waiting] at holds
    cases holds
  | none =>
    obtain ⟨r, member, through⟩ := List.all_eq_false.1 incomplete
    obtain ⟨i, here⟩ := List.getElem?_of_mem member
    exact ⟨i, left_step_lt registry options here (by simpa using through) fun _ => holder⟩

/-- Whatever has happened so far, there are steps after which all requests are through. -/
lemma Consistent.exists_complete (consistent : Consistent registry options types o events) :
    ∃ rest, (o.run registry options rest).result.isComplete = true := by
  induction n : o.left using Nat.strong_induction_on generalizing o events with
  | _ n ih =>
    cases complete : o.isComplete with
    | true => exact ⟨[], complete⟩
    | false =>
      obtain ⟨i, less⟩ := consistent.exists_left_step_lt complete
      rw [n] at less
      obtain ⟨rest, later⟩ := ih _ less (consistent_step consistent i) rfl
      exact ⟨i :: rest, later⟩

end Overlap

/-! ## A request that no other overlaps -/

/-- The step of a request that took the step before. -/
lemma Overlap.step_again (registry : Registry) (options : Options) {o : Overlap} {i : ℕ}
    {r : Request} (here : o.requests[i]? = some r) (memo : SharedMemo) (stage : Stage) :
    (⟨memo, o.requests.set i ⟨r.type, stage⟩⟩ : Overlap).step registry options i =
      memo.advance registry options i ⟨r.type, stage⟩ >>= fun next =>
        pure ⟨next.2, o.requests.set i ⟨r.type, next.1⟩⟩ := by
  have there : (o.requests.set i ⟨r.type, stage⟩)[i]? = some ⟨r.type, stage⟩ := by
    rw [getElem?_replaced here, if_pos rfl]
  rw [step, there]
  simp only [List.set_set]

/-- A request that takes its steps while no other does any, and finds the lock free, does what
asking an activator for the set does. -/
theorem Overlap.run_alone {registry : Registry} {options : Options} {o : Overlap} {i : ℕ}
    {t : TypeTag} (here : o.requests[i]? = some ⟨t, .asked⟩) (free : o.memo.holder? = none)
    {memo : Memo}
    (same : memo.sets.entries = o.memo.snapshot.entries.map fun e => (e.1, e.2.set)) :
    let alone := o.run registry options (List.replicate 6 i)
    let answer := (⟨registry, options, memo⟩ : Activator).getOrBuild t
    ∃ s, alone.result.requests = o.requests.set i ⟨t, .returned s⟩ ∧
      alone.result.memo.holder? = none ∧ s.set = answer.result.1 ∧
      answer.result.2.memo.sets.entries =
        alone.result.memo.snapshot.entries.map (fun e => (e.1, e.2.set)) ∧
      alone.events = answer.events := by
  intro alone answer
  have first : o.step registry options i =
      o.memo.advance registry options i ⟨t, .asked⟩ >>= fun next =>
        pure ⟨next.2, o.requests.set i ⟨t, next.1⟩⟩ := by
    rw [step, here]
  have next := step_again registry options here
  have known : memo.get? t = (o.memo.snapshot.get? t).map (·.set) := by
    rw [Memo.get?, TypeMap.get?, TypeMap.get?, same, List.find?_map, Option.map_map, Option.map_map]
    rfl
  cases found : o.memo.snapshot.get? t with
  | some s =>
    rw [found] at known
    have ran : alone = pure ⟨o.memo, o.requests.set i ⟨t, .returned s⟩⟩ := by
      simp only [alone, List.replicate, run, first, next, SharedMemo.advance, found, pure_bind]
    have answered : answer = pure (s.set, ⟨registry, options, memo⟩) := by
      simp only [answer, Activator.getOrBuild, known, Option.map_some]
    rw [ran, answered]
    exact ⟨s, rfl, free, rfl, same, rfl⟩
  | none =>
    rw [found] at known
    let set := OverloadSet.ofRegistry registry options t
    let s : SharedSet := ⟨o.memo.built, set⟩
    have ran : alone =
        ⟨⟨⟨o.memo.snapshot.insert t s, none, o.memo.built + 1⟩, o.requests.set i ⟨t, .returned s⟩⟩,
          (OverloadSet.build registry options t).events ++
            [.publishedSet t (o.memo.snapshot.size + 1)]⟩ := by
      simp only [alone, List.replicate, run, first, next, SharedMemo.advance, found, free, pure_bind,
        bind_assoc]
      rfl
    have answered : answer =
        ⟨(set, ⟨registry, options, memo.publish t set⟩),
          (OverloadSet.build registry options t).events ++ [.publishedSet t (memo.size + 1)]⟩ := by
      simp only [answer, Activator.getOrBuild, known, Option.map_none]
      rfl
    have size : memo.size = o.memo.snapshot.size := by
      rw [Memo.size, TypeMap.size, same, List.length_map]
      rfl
    rw [ran, answered, size]
    refine ⟨s, rfl, rfl, rfl, ?_, rfl⟩
    show (memo.sets.insert t set).entries =
      (o.memo.snapshot.insert t s).entries.map fun e => (e.1, e.2.set)
    have absent : memo.sets.get? t = none := known
    rw [TypeMap.entries_insert_of_get?_eq_none set absent,
      TypeMap.entries_insert_of_get?_eq_none s found, List.map_append, same]
    rfl

/-! ## The outcome -/

/-- **The outcome of overlapping requests does not depend on their order.**  Take any number of
requests for overload sets, for any types, and let them take any steps in any order.
* They stay requests for their types, and the set of a type is put together at most once and
  published at most once.
* A request that is through has returned the published set of its type; so does every request for
  the type that is through at any later time.
* The sets that are published stay as they are, and in their places.
* When all requests are through, the types with a published set are exactly those that were asked
  for, and each set is the one that is built for its type.
* There are further steps after which all requests are through. -/
theorem overlapping_requests_agree (registry : Registry) (options : Options)
    (types : List TypeTag) (schedule : List ℕ) :
    let reached := (Overlap.ofTypes types).run registry options schedule
    let o := reached.result
    (o.requests.map (·.type) = types ∧
      ∀ t, reached.events.countP (·.isBuildingOf t) ≤ 1 ∧
        reached.events.countP (·.isPublicationOf t) ≤ 1) ∧
    (∀ r ∈ o.requests, ∀ s, r.stage = .returned s →
      o.memo.snapshot.get? r.type = some s ∧
      ∀ later, ∀ r' ∈ (o.run registry options later).result.requests, ∀ s',
        r'.stage = .returned s' → r'.type.is r.type = true → s' = s) ∧
    (∀ later, o.memo.snapshot.entries <+:
      (o.run registry options later).result.memo.snapshot.entries) ∧
    (o.isComplete = true → ∀ t,
      (o.memo.snapshot.contains t = true ↔ ∃ u ∈ types, u.is t = true) ∧
      ∀ s, o.memo.snapshot.get? t = some s →
        ∃ u ∈ types, u.is t = true ∧ s.set = (OverloadSet.build registry options u).result) ∧
    ∃ rest, (o.run registry options rest).result.isComplete = true := by
  intro reached o
  have consistent : Overlap.Consistent registry options types o reached.events :=
    Overlap.consistent_run (Overlap.consistent_ofTypes registry options types) schedule
  refine ⟨⟨consistent.types_eq, consistent.once⟩, ?_, Overlap.entries_run consistent, ?_,
    consistent.exists_complete⟩
  · intro r member s returned
    have found := consistent.get?_of_returned member returned
    refine ⟨found, ?_⟩
    intro later r' member' s' returned' same
    have consistent' := Overlap.consistent_run consistent later
    have found' := consistent'.get?_of_returned member' returned'
    have kept := TypeMap.get?_of_prefix (Overlap.entries_run consistent later) found
    rw [TypeMap.get?_congr _ same, kept] at found'
    exact (Option.some.inj found').symm
  · intro complete t
    exact ⟨consistent.contains_iff complete t, fun s found => consistent.set_of_get? found⟩

end Activation
