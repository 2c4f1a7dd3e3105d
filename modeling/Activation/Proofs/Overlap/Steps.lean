import Activation.Overlap
import Activation.Proofs.Memo

/-!
# What holds while requests overlap

A request can act on what it saw before others took their steps.  This file says what is true at
every moment nevertheless, whatever steps are taken in whatever order.

`Advances` lists what a step can do.  At most one request holds the lock, and only the stages of that
request depend on the published sets staying as they are; what others have found out stays true when
a set is published (`Request.Knows.insert`).  So the snapshot that a set is added to is always the
latest one, and no set of the same type is in it.  Each published set has as its number the place
where it stands, and what was reported is that the published sets were put together and published,
followed by the building of one that is not yet published.

`Overlap.Consistent` collects all this.  Each kind of step keeps it up by a lemma of its own, in
which `Consistent.replace` deals with the requests that take no step; `consistent_step` and
`consistent_run` are the step and the induction.
-/

namespace Activation

/-! ## What a step can do -/

/-- The steps of a request for the type: from which stage to which, what is shared afterwards, and
what is reported. -/
inductive Advances (registry : Registry) (options : Options) (memo : SharedMemo) (index : ℕ)
    (t : TypeTag) : Stage → Stage → SharedMemo → List Event → Prop
  | finds {s : SharedSet} (found : memo.snapshot.get? t = some s) :
    Advances registry options memo index t .asked (.returned s) memo []
  | misses (absent : memo.snapshot.get? t = none) :
    Advances registry options memo index t .asked .waiting memo []
  | waits {holder : ℕ} (held : memo.holder? = some holder) :
    Advances registry options memo index t .waiting .waiting memo []
  | locks (free : memo.holder? = none) :
    Advances registry options memo index t .waiting .locked
      { memo with holder? := some index } []
  | findsLocked {s : SharedSet} (found : memo.snapshot.get? t = some s) :
    Advances registry options memo index t .locked (.releasing s) memo []
  | missesLocked (absent : memo.snapshot.get? t = none) :
    Advances registry options memo index t .locked (.building memo.snapshot) memo []
  | builds (current : Snapshot) :
    Advances registry options memo index t (.building current)
      (.publishing current ⟨memo.built, OverloadSet.ofRegistry registry options t⟩)
      { memo with built := memo.built + 1 } (OverloadSet.build registry options t).events
  | publishes (current : Snapshot) (s : SharedSet) :
    Advances registry options memo index t (.publishing current s) (.releasing s)
      { memo with snapshot := current.insert t s } [.publishedSet t (current.size + 1)]
  | unlocks (s : SharedSet) :
    Advances registry options memo index t (.releasing s) (.returned s)
      { memo with holder? := none } []
  | stays (s : SharedSet) :
    Advances registry options memo index t (.returned s) (.returned s) memo []

lemma advances (registry : Registry) (options : Options) (memo : SharedMemo) (index : ℕ)
    (r : Request) :
    Advances registry options memo index r.type r.stage
      (memo.advance registry options index r).result.1
      (memo.advance registry options index r).result.2
      (memo.advance registry options index r).events := by
  unfold SharedMemo.advance
  cases r.stage with
  | asked =>
    dsimp only
    split
    · rename_i s found
      exact .finds found
    · rename_i absent
      exact .misses absent
  | waiting =>
    dsimp only
    split
    · rename_i holder held
      exact .waits held
    · rename_i free
      exact .locks free
  | locked =>
    dsimp only
    split
    · rename_i s found
      exact .findsLocked found
    · rename_i absent
      exact .missesLocked absent
  | building current => exact .builds current
  | publishing current s => exact .publishes current s
  | releasing s => exact .unlocks s
  | returned s => exact .stays s

namespace Overlap

lemma step_of_getElem? (registry : Registry) (options : Options) {o : Overlap} {i : ℕ}
    {r : Request} (here : o.requests[i]? = some r) :
    ∃ stage memo events, Advances registry options o.memo i r.type r.stage stage memo events ∧
      o.step registry options i = ⟨⟨memo, o.requests.set i ⟨r.type, stage⟩⟩, events⟩ := by
  refine ⟨_, _, _, advances registry options o.memo i r, ?_⟩
  rw [step, here]
  show (⟨_, _ ++ []⟩ : Logged Overlap) = _
  rw [List.append_nil]
  rfl

/-- A step of no request changes nothing. -/
lemma step_cases (registry : Registry) (options : Options) (o : Overlap) (i : ℕ) :
    o.step registry options i = pure o ∨
      ∃ r stage memo events, o.requests[i]? = some r ∧
        Advances registry options o.memo i r.type r.stage stage memo events ∧
        o.step registry options i = ⟨⟨memo, o.requests.set i ⟨r.type, stage⟩⟩, events⟩ := by
  cases here : o.requests[i]? with
  | none => exact .inl (by rw [step, here])
  | some r =>
    obtain ⟨stage, memo, events, advances, step⟩ := step_of_getElem? registry options here
    exact .inr ⟨r, stage, memo, events, rfl, advances, step⟩

end Overlap

/-! ## What holds at every moment -/

/-- Whether a request at the stage holds the lock. -/
def Stage.holdsLock : Stage → Bool
  | .asked | .waiting | .returned _ => false
  | .locked | .building _ | .publishing _ _ | .releasing _ => true

lemma Stage.isReturned_of_holdsLock {stage : Stage} (holds : stage.holdsLock = true) :
    stage.isReturned = false := by
  cases stage with
  | returned s => cases holds
  | _ => rfl

/-- The type of the request, if its set is put together but not published. -/
def Request.unpublished (r : Request) : List TypeTag :=
  match r.stage with
  | .publishing _ _ => [r.type]
  | .asked | .waiting | .locked | .building _ | .releasing _ | .returned _ => []

/-- What a request has found out is true of the sets that are published. -/
def Request.Knows (registry : Registry) (options : Options) (snapshot : Snapshot)
    (r : Request) : Prop :=
  match r.stage with
  | .asked | .waiting | .locked => True
  | .building current => current = snapshot ∧ snapshot.get? r.type = none
  | .publishing current s =>
    (current = snapshot ∧ snapshot.get? r.type = none) ∧
      s = ⟨snapshot.size, OverloadSet.ofRegistry registry options r.type⟩
  | .releasing s | .returned s => snapshot.get? r.type = some s

/-- What a request without the lock has found out stays true when a set is published. -/
lemma Request.Knows.insert {registry : Registry} {options : Options} {r : Request}
    {snapshot : Snapshot} {t : TypeTag} {s : SharedSet}
    (knows : r.Knows registry options snapshot) (free : r.stage.holdsLock = false)
    (absent : snapshot.get? t = none) : r.Knows registry options (snapshot.insert t s) := by
  obtain ⟨type, stage⟩ := r
  cases stage with
  | asked => trivial
  | waiting => trivial
  | returned found =>
    have present : snapshot.get? type = some found := knows
    have other : ¬ t.is type = true := by
      intro same
      rw [snapshot.get?_congr same, present] at absent
      cases absent
    show (snapshot.insert t s).get? type = some found
    rw [TypeMap.get?_insert, if_neg other]
    exact present
  | locked => cases free
  | building current => cases free
  | publishing current s => cases free
  | releasing s => cases free

namespace Overlap

variable {registry : Registry} {options : Options} {types : List TypeTag} {o : Overlap}
  {events : List Event} {i : ℕ} {r : Request} {stage : Stage}

/-- The types whose sets are put together but not published: at most that of the request that holds
the lock. -/
def unpublished (o : Overlap) : List TypeTag :=
  ((o.memo.holder?.bind (o.requests[·]?)).map Request.unpublished).getD []

/-- What holds at every moment of overlapping requests for the types, in the course of which the
events were reported. -/
structure Consistent (registry : Registry) (options : Options) (types : List TypeTag)
    (o : Overlap) (events : List Event) : Prop where
  types_eq : o.requests.map (·.type) = types
  holder_iff : ∀ i, o.memo.holder? = some i ↔
    ∃ r, o.requests[i]? = some r ∧ r.stage.holdsLock = true
  knows : ∀ (i : ℕ) (r : Request), o.requests[i]? = some r →
    r.Knows registry options o.memo.snapshot
  /-- A published set is that of a type that was asked for, and its number is its place. -/
  entry : ∀ (k : ℕ) (e : TypeTag × SharedSet), o.memo.snapshot.entries[k]? = some e →
    e.1 ∈ types ∧ e.2 = ⟨k, OverloadSet.ofRegistry registry options e.1⟩
  built_eq : o.memo.built = o.memo.snapshot.size + o.unpublished.length
  events_eq : events =
    Activator.publications registry options (o.memo.snapshot.entries.map (·.1)) ++
      o.unpublished.flatMap fun t => (OverloadSet.build registry options t).events

lemma unpublished_of_holder (holder : o.memo.holder? = some i) (here : o.requests[i]? = some r) :
    o.unpublished = r.unpublished := by
  rw [unpublished, holder, Option.bind_some, here]
  rfl

lemma unpublished_of_free (free : o.memo.holder? = none) : o.unpublished = [] := by
  rw [unpublished, free]
  rfl

/-! ## One step -/

lemma getElem?_replaced (here : o.requests[i]? = some r) (stage : Stage) (j : ℕ) :
    (o.requests.set i ⟨r.type, stage⟩)[j]? =
      if j = i then some ⟨r.type, stage⟩ else o.requests[j]? := by
  have bound : i < o.requests.length := (List.getElem?_eq_some_iff.1 here).1
  rw [List.getElem?_set]
  by_cases same : j = i
  · simp [same, bound]
  · rw [if_neg (Ne.symm same), if_neg same]

/-- A step of one request leaves the others where they are.  What is left to show about it concerns
what is shared, and what requests know of it. -/
lemma Consistent.replace (consistent : Consistent registry options types o events)
    (here : o.requests[i]? = some r) {memo : SharedMemo} {events' : List Event}
    (others : ∀ j, j ≠ i → (memo.holder? = some j ↔ o.memo.holder? = some j))
    (own : memo.holder? = some i ↔ stage.holdsLock = true)
    (kept : ∀ (j : ℕ) (q : Request), j ≠ i → o.requests[j]? = some q →
      q.Knows registry options memo.snapshot)
    (knows : Request.Knows registry options memo.snapshot ⟨r.type, stage⟩)
    (entry : ∀ (k : ℕ) (e : TypeTag × SharedSet), memo.snapshot.entries[k]? = some e →
      e.1 ∈ types ∧ e.2 = ⟨k, OverloadSet.ofRegistry registry options e.1⟩)
    (built_eq : memo.built = memo.snapshot.size +
      (unpublished ⟨memo, o.requests.set i ⟨r.type, stage⟩⟩).length)
    (events_eq : events' =
      Activator.publications registry options (memo.snapshot.entries.map (·.1)) ++
        (unpublished ⟨memo, o.requests.set i ⟨r.type, stage⟩⟩).flatMap
          fun t => (OverloadSet.build registry options t).events) :
    Consistent registry options types ⟨memo, o.requests.set i ⟨r.type, stage⟩⟩ events' where
  types_eq := by
    obtain ⟨bound, rfl⟩ := List.getElem?_eq_some_iff.1 here
    have bound' : i < (o.requests.map (·.type)).length := by simpa using bound
    show (o.requests.set i ⟨_, stage⟩).map (·.type) = types
    rw [List.map_set, ← consistent.types_eq]
    simpa using List.set_getElem_self bound'
  holder_iff := by
    intro j
    show memo.holder? = some j ↔ ∃ q, (o.requests.set i ⟨r.type, stage⟩)[j]? = some q ∧ _
    rw [getElem?_replaced here]
    by_cases same : j = i
    · subst same
      simpa using own
    · rw [if_neg same, others j same]
      exact consistent.holder_iff j
  knows := by
    intro j q there
    change (o.requests.set i ⟨r.type, stage⟩)[j]? = some q at there
    rw [getElem?_replaced here] at there
    by_cases same : j = i
    · rw [if_pos same] at there
      cases there
      exact knows
    · rw [if_neg same] at there
      exact kept j q same there
  entry := entry
  built_eq := built_eq
  events_eq := events_eq

lemma Consistent.holder_eq (consistent : Consistent registry options types o events)
    (here : o.requests[i]? = some r) (holds : r.stage.holdsLock = true) :
    o.memo.holder? = some i :=
  (consistent.holder_iff i).2 ⟨r, here, holds⟩

/-- Nobody else holds the lock. -/
lemma Consistent.exclusive (consistent : Consistent registry options types o events)
    (holder : o.memo.holder? = some i) {j : ℕ} {q : Request} (other : j ≠ i)
    (there : o.requests[j]? = some q) : q.stage.holdsLock = false := by
  by_contra holds
  have holder' := consistent.holder_eq there (by simpa using holds)
  rw [holder] at holder'
  exact other (Option.some.inj holder').symm

lemma unpublished_own (here : o.requests[i]? = some r) (stage : Stage) {memo : SharedMemo}
    (holder : memo.holder? = some i) :
    unpublished ⟨memo, o.requests.set i ⟨r.type, stage⟩⟩ =
      Request.unpublished ⟨r.type, stage⟩ := by
  have there : (o.requests.set i ⟨r.type, stage⟩)[i]? = some ⟨r.type, stage⟩ := by
    rw [getElem?_replaced here, if_pos rfl]
  exact @unpublished_of_holder ⟨memo, o.requests.set i ⟨r.type, stage⟩⟩ i _ holder there

lemma unpublished_replaced (here : o.requests[i]? = some r)
    (same : Request.unpublished ⟨r.type, stage⟩ = r.unpublished) :
    unpublished ⟨o.memo, o.requests.set i ⟨r.type, stage⟩⟩ = o.unpublished := by
  cases holder : o.memo.holder? with
  | none =>
    rw [unpublished_of_free holder]
    exact unpublished_of_free holder
  | some h =>
    by_cases own : h = i
    · subst own
      rw [unpublished_of_holder holder here, ← same]
      exact unpublished_own here stage holder
    · show ((Option.bind o.memo.holder? ((o.requests.set i ⟨r.type, stage⟩)[·]?)).map _).getD _ = _
      rw [unpublished, holder, Option.bind_some, Option.bind_some, getElem?_replaced here,
        if_neg own]

/-- A request finds out something about what is shared, and leaves it as it is. -/
lemma Consistent.learns (consistent : Consistent registry options types o events)
    (here : o.requests[i]? = some r) (holds : stage.holdsLock = r.stage.holdsLock)
    (pending : Request.unpublished ⟨r.type, stage⟩ = r.unpublished)
    (knows : Request.Knows registry options o.memo.snapshot ⟨r.type, stage⟩) :
    Consistent registry options types ⟨o.memo, o.requests.set i ⟨r.type, stage⟩⟩ events := by
  have same := unpublished_replaced here pending
  refine consistent.replace here (fun _ _ => Iff.rfl) ?_
    (fun j q _ there => consistent.knows j q there) knows consistent.entry ?_ ?_
  · rw [holds, consistent.holder_iff i, here]
    simp
  · rw [same]
    exact consistent.built_eq
  · rw [same]
    exact consistent.events_eq

/-- A request takes the lock. -/
lemma Consistent.locks (consistent : Consistent registry options types o events)
    (here : o.requests[i]? = some r) (free : o.memo.holder? = none) :
    Consistent registry options types
      ⟨{ o.memo with holder? := some i }, o.requests.set i ⟨r.type, .locked⟩⟩ events := by
  have pending : unpublished
      ⟨{ o.memo with holder? := some i }, o.requests.set i ⟨r.type, .locked⟩⟩ = o.unpublished := by
    rw [unpublished_of_free free]
    exact unpublished_own here .locked rfl
  refine consistent.replace here ?_ (iff_of_true rfl rfl)
    (fun j q _ there => consistent.knows j q there) trivial consistent.entry ?_ ?_
  · intro j other
    rw [free]
    simpa using Ne.symm other
  · rw [pending]
    exact consistent.built_eq
  · rw [pending]
    exact consistent.events_eq

/-- The request that holds the lock puts its set together. -/
lemma Consistent.builds (consistent : Consistent registry options types o events)
    (here : o.requests[i]? = some r) (building : r.stage = .building o.memo.snapshot)
    (absent : o.memo.snapshot.get? r.type = none) :
    let s : SharedSet := ⟨o.memo.built, OverloadSet.ofRegistry registry options r.type⟩
    Consistent registry options types
      ⟨{ o.memo with built := o.memo.built + 1 },
        o.requests.set i ⟨r.type, .publishing o.memo.snapshot s⟩⟩
      (events ++ (OverloadSet.build registry options r.type).events) := by
  intro s
  have holder : o.memo.holder? = some i := consistent.holder_eq here (by rw [building]; rfl)
  have before : o.unpublished = [] := by
    rw [unpublished_of_holder holder here, Request.unpublished, building]
  have built : o.memo.built = o.memo.snapshot.size := by
    rw [consistent.built_eq, before]
    rfl
  have pending : unpublished ⟨{ o.memo with built := o.memo.built + 1 },
      o.requests.set i ⟨r.type, .publishing o.memo.snapshot s⟩⟩ = [r.type] :=
    unpublished_own here _ holder
  refine consistent.replace here (fun _ _ => Iff.rfl) (iff_of_true holder rfl)
    (fun j q _ there => consistent.knows j q there) ⟨⟨rfl, absent⟩, ?_⟩ consistent.entry ?_ ?_
  · rw [← built]
  · rw [pending, built]
    rfl
  · rw [pending, consistent.events_eq, before]
    simp

/-- The request that holds the lock publishes its set. -/
lemma Consistent.publishes (consistent : Consistent registry options types o events)
    (here : o.requests[i]? = some r) {s : SharedSet}
    (publishing : r.stage = .publishing o.memo.snapshot s) :
    Consistent registry options types
      ⟨{ o.memo with snapshot := o.memo.snapshot.insert r.type s },
        o.requests.set i ⟨r.type, .releasing s⟩⟩
      (events ++ [.publishedSet r.type (o.memo.snapshot.size + 1)]) := by
  have holder : o.memo.holder? = some i := consistent.holder_eq here (by rw [publishing]; rfl)
  have known := consistent.knows i r here
  rw [Request.Knows, publishing] at known
  obtain ⟨⟨-, absent⟩, s_eq⟩ := known
  have before : o.unpublished = [r.type] := by
    rw [unpublished_of_holder holder here, Request.unpublished, publishing]
  have pending : unpublished ⟨{ o.memo with snapshot := o.memo.snapshot.insert r.type s },
      o.requests.set i ⟨r.type, .releasing s⟩⟩ = [] :=
    unpublished_own here _ holder
  have entries : (o.memo.snapshot.insert r.type s).entries =
      o.memo.snapshot.entries ++ [(r.type, s)] :=
    TypeMap.entries_insert_of_get?_eq_none s absent
  refine consistent.replace here (fun _ _ => Iff.rfl) (iff_of_true holder rfl) ?_ ?_ ?_ ?_ ?_
  · -- Requests that rely on the snapshot staying as it is hold the lock, and this one does.
    intro j q other at_j
    have free := consistent.exclusive holder other at_j
    exact (consistent.knows j q at_j).insert free absent
  · show (o.memo.snapshot.insert r.type s).get? r.type = some s
    rw [TypeMap.get?_insert, if_pos r.type.is_refl]
  · intro k e at_k
    rw [entries] at at_k
    by_cases old : k < o.memo.snapshot.entries.length
    · rw [List.getElem?_append_left old] at at_k
      exact consistent.entry k e at_k
    · rw [List.getElem?_append_right (not_lt.1 old), List.getElem?_singleton] at at_k
      split at at_k
      · rename_i last
        have size : k = o.memo.snapshot.size := by
          rw [TypeMap.size]
          omega
        cases at_k
        refine ⟨?_, by rw [s_eq, size]⟩
        rw [← consistent.types_eq]
        exact List.mem_map.2 ⟨r, List.mem_of_getElem? here, rfl⟩
      · cases at_k
  · have built := consistent.built_eq
    rw [before] at built
    rw [pending, TypeMap.size, entries, List.length_append]
    exact built
  · rw [pending, consistent.events_eq, before, entries, List.map_append, List.map_singleton,
      Activator.publications_concat, List.length_map]
    simp [TypeMap.size]

/-- The request that holds the lock leaves it. -/
lemma Consistent.unlocks (consistent : Consistent registry options types o events)
    (here : o.requests[i]? = some r) {s : SharedSet} (releasing : r.stage = .releasing s) :
    Consistent registry options types
      ⟨{ o.memo with holder? := none }, o.requests.set i ⟨r.type, .returned s⟩⟩ events := by
  have holder : o.memo.holder? = some i := consistent.holder_eq here (by rw [releasing]; rfl)
  have known := consistent.knows i r here
  rw [Request.Knows, releasing] at known
  have pending : unpublished
      ⟨{ o.memo with holder? := none }, o.requests.set i ⟨r.type, .returned s⟩⟩ =
        o.unpublished := by
    rw [unpublished_of_holder holder here, Request.unpublished, releasing]
    exact unpublished_of_free rfl
  refine consistent.replace here ?_ ?_ (fun j q _ there => consistent.knows j q there) known
    consistent.entry ?_ ?_
  · intro j other
    rw [holder]
    simpa using Ne.symm other
  · simp [Stage.holdsLock]
  · rw [pending]
    exact consistent.built_eq
  · rw [pending]
    exact consistent.events_eq

/-- Every step keeps up what holds at every moment. -/
lemma consistent_step (consistent : Consistent registry options types o events) (i : ℕ) :
    Consistent registry options types (o.step registry options i).result
      (events ++ (o.step registry options i).events) := by
  rcases step_cases registry options o i with
    idle | ⟨⟨type, before⟩, stage, memo, more, here, advances, step⟩
  · rw [idle, Logged.events_pure, List.append_nil]
    exact consistent
  · have known := consistent.knows i _ here
    rw [step]
    cases advances with
    | finds found =>
      rw [List.append_nil]
      exact consistent.learns here rfl rfl found
    | misses absent =>
      rw [List.append_nil]
      exact consistent.learns here rfl rfl trivial
    | waits held =>
      rw [List.append_nil]
      exact consistent.learns here rfl rfl trivial
    | locks free =>
      rw [List.append_nil]
      exact consistent.locks here free
    | findsLocked found =>
      rw [List.append_nil]
      exact consistent.learns here rfl rfl found
    | missesLocked absent =>
      rw [List.append_nil]
      exact consistent.learns here rfl rfl ⟨rfl, absent⟩
    | builds current =>
      -- What the request saw after it took the lock is still what is published.
      obtain ⟨rfl, absent⟩ := known
      exact consistent.builds here rfl absent
    | publishes current s =>
      obtain ⟨⟨rfl, -⟩, -⟩ := known
      exact consistent.publishes here rfl
    | unlocks s =>
      rw [List.append_nil]
      exact consistent.unlocks here rfl
    | stays s =>
      rw [List.append_nil]
      exact consistent.learns here rfl rfl known

lemma consistent_run (consistent : Consistent registry options types o events)
    (schedule : List ℕ) :
    Consistent registry options types (o.run registry options schedule).result
      (events ++ (o.run registry options schedule).events) := by
  induction schedule generalizing o events with
  | nil =>
    show Consistent registry options types o (events ++ [])
    rw [List.append_nil]
    exact consistent
  | cons i rest ih =>
    have later := ih (consistent_step consistent i)
    rw [List.append_assoc] at later
    exact later

lemma consistent_ofTypes (registry : Registry) (options : Options) (types : List TypeTag) :
    Consistent registry options types (ofTypes types) [] := by
  have asked : ∀ (i : ℕ) (r : Request), (ofTypes types).requests[i]? = some r →
      r.stage = .asked := by
    intro i r here
    rw [ofTypes, List.getElem?_map] at here
    obtain ⟨t, -, rfl⟩ := Option.map_eq_some_iff.1 here
    rfl
  refine ⟨?_, ?_, ?_, ?_, rfl, rfl⟩
  · rw [ofTypes, List.map_map]
    exact List.map_id types
  · intro i
    refine iff_of_false (by simp [ofTypes]) ?_
    rintro ⟨r, here, holds⟩
    rw [asked i r here] at holds
    cases holds
  · intro i r here
    rw [Request.Knows, asked i r here]
    trivial
  · intro k e at_k
    simp [ofTypes] at at_k

end Overlap

end Activation
