import Activation.Activator

/-!
# Overlapping requests for overload sets

Any number of callers may ask one memo for overload sets at the same time.  Each of their requests
goes through stages, and a step takes one request from one stage to the next at once; between its
steps others may take theirs.

A request first looks at the published sets without a lock, and ends if the set of its type is among
them.  If it is not, the request waits for the one lock that all share, looks again at what is
published by then, and only then puts the set together, publishes it in addition to what it saw, and
leaves the lock.

`SharedMemo.advance` is a step of a request, `Overlap.run` a schedule of steps.  Steps take effect one
at a time, and each sees what all steps before it left: the snapshot is read and replaced as a whole,
and taking the lock when it is free is one step.
-/

namespace Activation

/-- An overload set that callers share.  Which one it is shows in its number: how many sets were put
together before it. -/
structure SharedSet where
  number : Nat
  set : OverloadSet

/-- The sets that are published at some moment. -/
abbrev Snapshot := TypeMap SharedSet

/-- How far a request has come. -/
inductive Stage
  /-- Nothing has been looked at. -/
  | asked
  /-- The set was not published when it was looked for. -/
  | waiting
  /-- The request holds the lock. -/
  | locked
  /-- The request holds the lock, and the set is not among those that are published. -/
  | building (current : Snapshot)
  /-- The set is put together. -/
  | publishing (current : Snapshot) (s : SharedSet)
  /-- The set is found or published, and the lock is still held. -/
  | releasing (s : SharedSet)
  | returned (s : SharedSet)

/-- Whether the request is through. -/
def Stage.isReturned : Stage → Bool
  | .returned _ => true
  | .asked | .waiting | .locked | .building _ | .publishing _ _ | .releasing _ => false

/-- A request for the overload set of a type. -/
structure Request where
  type : TypeTag
  stage : Stage

/-- What overlapping requests share. -/
structure SharedMemo where
  snapshot : Snapshot
  /-- The request that holds the lock. -/
  holder? : Option Nat
  /-- How many sets were put together. -/
  built : Nat

/-- The step of a request: what stage comes next, and what is shared then.  A request that waits for
a lock that is held stays where it is. -/
def SharedMemo.advance (registry : Registry) (options : Options) (memo : SharedMemo)
    (index : Nat) (r : Request) : Logged (Stage × SharedMemo) :=
  match r.stage with
  | .asked =>
    match memo.snapshot.get? r.type with
    | some s => pure (.returned s, memo)
    | none => pure (.waiting, memo)
  | .waiting =>
    match memo.holder? with
    | some _ => pure (.waiting, memo)
    | none => pure (.locked, { memo with holder? := some index })
  | .locked =>
    match memo.snapshot.get? r.type with
    | some s => pure (.releasing s, memo)
    | none => pure (.building memo.snapshot, memo)
  | .building current => do
    let set ← OverloadSet.build registry options r.type
    pure (.publishing current ⟨memo.built, set⟩, { memo with built := memo.built + 1 })
  | .publishing current s => do
    Logged.report (.publishedSet r.type (current.size + 1))
    pure (.releasing s, { memo with snapshot := current.insert r.type s })
  | .releasing s => pure (.returned s, { memo with holder? := none })
  | .returned s => pure (.returned s, memo)

/-- Requests that overlap, with what they share. -/
structure Overlap where
  memo : SharedMemo
  requests : List Request

namespace Overlap

/-- Requests for the sets of types, of which none has been published yet. -/
def ofTypes (types : List TypeTag) : Overlap :=
  ⟨⟨.empty, none, 0⟩, types.map fun t => ⟨t, .asked⟩⟩

/-- Takes the step of one request. -/
def step (registry : Registry) (options : Options) (o : Overlap) (index : Nat) : Logged Overlap :=
  match o.requests[index]? with
  | none => pure o
  | some r => do
    let (stage, memo) ← o.memo.advance registry options index r
    pure ⟨memo, o.requests.set index { r with stage }⟩

/-- Takes steps of requests, first to last. -/
def run (registry : Registry) (options : Options) (o : Overlap) : List Nat → Logged Overlap
  | [] => pure o
  | index :: rest => do (← o.step registry options index).run registry options rest

/-- Whether all requests have returned. -/
def isComplete (o : Overlap) : Bool := o.requests.all (·.stage.isReturned)

end Overlap

end Activation
