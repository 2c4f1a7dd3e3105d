import Activation.Proofs.Delivery

/-!
# Every argument is taken once

A body may read its arguments in any order, as often as it likes and as values of any types, and it
may go on after a read that failed.  Whatever it does, an argument is handed out at most once.

One read nulls the slot that it addresses, if there is one, and leaves the others alone
(`Reading.slots_run`).  What it gives depends on that slot only: nothing without a slot
(`Reading.run_of_beyond`), and otherwise the argument in it exactly if the read suits the argument
(`Reading.run_of_there`).  By induction over the reads, a slot is null once it has been addressed,
and holds what it held at first until then (`getElem?_readEach`).  So the first read of a slot finds
the argument, and any later one finds null; `arguments_taken_once` says what each of them gives.
-/

namespace Activation

/-! ## One read -/

namespace Reading

/-- The position that a read addresses. -/
def index : Reading → ℕ
  | .value _ i => i
  | .nullable _ i => i
  | .dynamic i => i

/-- The type that a read asks for, if it does. -/
def type? : Reading → Option TypeTag
  | .value t _ => some t
  | .nullable t _ => some t
  | .dynamic _ => none

/-- A read suits an argument: the argument is a value of the type that the read asks for, or null
if the read may find null. -/
def Suits : Reading → Argument → Prop
  | .value t _, a => a.is t = true
  | .nullable t _, a => a.isNull = true ∨ a.is t = true
  | .dynamic _, _ => True

/-- What a read gives for null: a value is missing, and otherwise null is what is there. -/
def ofNull : Reading → Except InvokeError Argument
  | .value t i => .error (.argument i t.name)
  | .nullable _ _ => .ok .null
  | .dynamic _ => .ok .null

/-- A read nulls the slot that it addresses, also if it fails. -/
lemma slots_run (r : Reading) (l : ArgumentList) :
    (r.run l).2.slots = l.slots.set r.index .null := by
  cases r with
  | value t i =>
    have left : ((value t i).run l).2 = (l.takeValue t i).2 := rfl
    rw [left, ArgumentList.snd_takeValue, ArgumentList.slots_takeArgument, index]
  | nullable t i =>
    have left : ((nullable t i).run l).2 = (l.takeNullable t i).2 := rfl
    rw [left, ArgumentList.snd_takeNullable, ArgumentList.slots_takeArgument, index]
  | dynamic i => exact ArgumentList.slots_takeArgument l i

/-- A read beyond the last slot fails, whatever it asks for, and changes nothing. -/
lemma run_of_beyond {r : Reading} {l : ArgumentList} (beyond : l.slots.length ≤ r.index) :
    r.run l = (.error (.argument r.index "argument"), l) := by
  have none := ArgumentList.takeArgument_of_le beyond
  cases r with
  | value t i =>
    simp only [index] at none
    simp [run, ArgumentList.takeValue, ArgumentList.takeNullable, none, index, Except.map]
  | nullable t i =>
    simp only [index] at none
    simp [run, ArgumentList.takeNullable, none, index, Except.map]
  | dynamic i => exact none

/-- A read hands out the argument in its slot if it suits it, and otherwise names the position and
the type that it asks for. -/
lemma run_of_there {r : Reading} {l : ArgumentList} {a : Argument}
    (there : l.slots[r.index]? = some a) :
    (r.Suits a → ∃ given, (r.run l).1 = .ok given ∧ given.Same a) ∧
    (¬ r.Suits a → ∃ t, r.type? = some t ∧ (r.run l).1 = .error (.argument r.index t.name)) := by
  obtain ⟨slots⟩ := l
  cases r with
  | value t i =>
    have found : slots[i]? = some a := there
    rw [run, takeValue_of_there found]
    cases a with
    | null => simp [Suits, Argument.is, Argument.tag?, type?, index, Except.map]
    | value v =>
      by_cases same : v.tag.is t = true
      · have typed : t.ident = v.tag.ident := (TypeTag.is_eq_true_iff.1 same).symm
        simp [Suits, Argument.is, Argument.tag?, same, typed, Except.map, Argument.Same]
      · simp [Suits, Argument.is, Argument.tag?, same, Except.map, type?, index]
  | nullable t i =>
    have found : slots[i]? = some a := there
    rw [run, takeNullable_of_there found]
    cases a with
    | null => simp [Suits, Argument.isNull, Except.map, Argument.Same]
    | value v =>
      by_cases same : v.tag.is t = true
      · have typed : t.ident = v.tag.ident := (TypeTag.is_eq_true_iff.1 same).symm
        simp [Suits, Argument.isNull, Argument.is, Argument.tag?, same, typed, Except.map,
          Argument.Same]
      · simp [Suits, Argument.isNull, Argument.is, Argument.tag?, same, Except.map, type?, index]
  | dynamic i =>
    have found : slots[i]? = some a := there
    have read : ((dynamic i).run ⟨slots⟩).1 = .ok a :=
      congrArg Prod.fst (takeArgument_of_there found)
    refine ⟨fun _ => ⟨a, read, ?_⟩, fun unsuited => absurd trivial unsuited⟩
    cases a with
    | null => exact trivial
    | value v => exact ⟨v.tag.is_refl, rfl⟩

/-- A read of a slot that is null gives what null is for it. -/
lemma run_of_null {r : Reading} {l : ArgumentList} (there : l.slots[r.index]? = some .null) :
    (r.run l).1 = r.ofNull := by
  obtain ⟨suited, unsuited⟩ := run_of_there there
  cases r with
  | value t i =>
    obtain ⟨t', asked, failed⟩ := unsuited (by simp [Suits, Argument.is, Argument.tag?])
    cases asked
    exact failed
  | nullable t i =>
    obtain ⟨given, read, same⟩ := suited (.inl rfl)
    cases given with
    | null => exact read
    | value v => exact same.elim
  | dynamic i =>
    obtain ⟨given, read, same⟩ := suited trivial
    cases given with
    | null => exact read
    | value v => exact same.elim

end Reading

/-! ## Any number of reads -/

namespace ArgumentList

/-- Does reads one after the other, also after one that failed: what each of them gives, and what is
left in the end. -/
def readEach : List Reading → ArgumentList → List (Except InvokeError Argument) × ArgumentList
  | [], l => ([], l)
  | r :: reads, l =>
    let (given, l) := r.run l
    let (more, l) := readEach reads l
    (given :: more, l)

@[simp] lemma readEach_nil (l : ArgumentList) : readEach [] l = ([], l) := rfl

@[simp] lemma readEach_cons (r : Reading) (reads : List Reading) (l : ArgumentList) :
    readEach (r :: reads) l =
      ((r.run l).1 :: (readEach reads (r.run l).2).1, (readEach reads (r.run l).2).2) := rfl

lemma length_readEach (reads : List Reading) (l : ArgumentList) :
    (readEach reads l).1.length = reads.length ∧
      (readEach reads l).2.slots.length = l.slots.length := by
  induction reads generalizing l with
  | nil => simp
  | cons r reads ih =>
    obtain ⟨answers, slots⟩ := ih (r.run l).2
    simp [answers, slots, r.slots_run]

/-- The reads in the middle of a row find what the reads before them left. -/
lemma getElem?_fst_readEach (before after : List Reading) (r : Reading) (l : ArgumentList) :
    (readEach (before ++ r :: after) l).1[before.length]? =
      some (r.run (readEach before l).2).1 := by
  induction before generalizing l with
  | nil => simp
  | cons q before ih =>
    have later := ih (q.run l).2
    simpa using later

/-- A slot that was addressed is null, and any other holds what it held at first. -/
lemma getElem?_readEach (reads : List Reading) (l : ArgumentList) (i : ℕ) :
    (readEach reads l).2.slots[i]? =
      if ∃ r ∈ reads, r.index = i then l.slots[i]?.map fun _ => .null else l.slots[i]? := by
  induction reads generalizing l with
  | nil => simp
  | cons r reads ih =>
    rw [readEach_cons, ih, r.slots_run]
    by_cases here : r.index = i
    · subst here
      by_cases bound : r.index < l.slots.length
      · simp [bound]
      · have beyond : l.slots.length ≤ r.index := by omega
        simp [List.getElem?_eq_none beyond, List.set_eq_of_length_le beyond]
    · rw [List.getElem?_set_ne here]
      simp [here]

/-- **Every argument is taken once.**  Take any arguments, and read them any number of times, at any
positions and as values of any types.
* The number of slots stays the same.
* A slot that no read addressed holds the argument that it held at first, and one that some read
  addressed is null, also if the read failed.
* A read beyond the last slot fails, and changes nothing.
* The first read of a slot gives the argument if it suits it, and otherwise names the position and
  the type that it asked for.
* Any later read of the slot gives what a read gives for null. -/
theorem arguments_taken_once (l : ArgumentList) (reads : List Reading) :
    let left := (readEach reads l).2
    left.slots.length = l.slots.length ∧
    (∀ i, (∀ r ∈ reads, r.index ≠ i) → left.slots[i]? = l.slots[i]?) ∧
    (∀ r ∈ reads, r.index < l.slots.length → left.slots[r.index]? = some .null) ∧
    ∀ before r after, reads = before ++ r :: after →
      let found := (readEach before l).2
      let given := (readEach reads l).1[before.length]?
      (l.slots.length ≤ r.index →
        given = some (.error (.argument r.index "argument")) ∧ (r.run found).2 = found) ∧
      (∀ a, l.slots[r.index]? = some a → (∀ q ∈ before, q.index ≠ r.index) →
        (r.Suits a → ∃ b, given = some (.ok b) ∧ b.Same a) ∧
        (¬ r.Suits a →
          ∃ t, r.type? = some t ∧ given = some (.error (.argument r.index t.name)))) ∧
      (r.index < l.slots.length → (∃ q ∈ before, q.index = r.index) →
        given = some r.ofNull) := by
  refine ⟨(length_readEach reads l).2, fun i never => ?_, fun r member bound => ?_, ?_⟩
  · rw [getElem?_readEach, if_neg (by simpa using never)]
  · rw [getElem?_readEach, if_pos ⟨r, member, rfl⟩, List.getElem?_eq_getElem bound]
    rfl
  rintro before r after rfl found given
  have here : given = some (r.run found).1 := getElem?_fst_readEach before after r l
  have slot : found.slots[r.index]? = _ := getElem?_readEach before l r.index
  rw [here]
  refine ⟨fun beyond => ?_, fun a there first => ?_, fun bound again => ?_⟩
  · have past : found.slots.length ≤ r.index := by
      have same : found.slots.length = l.slots.length := (length_readEach before l).2
      omega
    simp [Reading.run_of_beyond past]
  · rw [if_neg (by simpa using first), there] at slot
    simpa using Reading.run_of_there slot
  · rw [if_pos again, List.getElem?_eq_getElem bound] at slot
    exact congrArg some (Reading.run_of_null slot)

end ArgumentList

/-- A read of the wrong type uses the argument up, and leaves the next one alone. -/
example :
    ArgumentList.readEach [.value .boolean 0, .nullable (.basic "i32") 0, .dynamic 1]
        ⟨[.value ⟨.basic "i32", .int 3⟩, .value ⟨.unit, .unit⟩]⟩ =
      ([.error (.argument 0 "bool"), .ok .null, .ok (.value ⟨.unit, .unit⟩)],
        ⟨[.null, .null]⟩) := by
  rfl

end Activation
