import Activation.Linking
import Activation.Proofs.Selection

/-!
# Delivery of arguments

Two pieces of code look at the arguments of a generated constructor.  The overload decides whether
it accepts them, and the body reads them one by one, taking each out of the argument list before it
goes on to the next.  This file shows that they agree.

Reading in order is followed by an invariant on the argument list: the slots before the position
that is read next are null, and the others still hold their arguments (`readAll_of_accepted`,
`readAll_of_refused`).  A single read takes the argument if the parameter admits it, and otherwise
fails with the position and the declared type (`run_reading`).

`accepts_iff_delivered` is the agreement: a generated constructor without raw pointers accepts
exactly the arguments that all its reads can take.  It then calls the function with what
`Parameter.delivered` makes of each argument and leaves only nulls; otherwise it fails at the first
argument that its parameter does not admit, whatever the function is.
-/

namespace Activation

/-! ## One argument -/

/-- What a function gets for an argument that its parameter admits: null as it is, a value as one of
the declared type, and for a dynamic parameter the argument itself. -/
def Parameter.delivered (p : Parameter) : Argument → Argument
  | .null => .null
  | .value v => if p.shape = .dynamic then .value v else .value ⟨p.type, v.datum⟩

/-- Two arguments are the same: both are null, or both carry the same content as values of one
type. -/
def Argument.Same : Argument → Argument → Prop
  | .null, .null => True
  | .value v, .value w => v.tag.is w.tag = true ∧ v.datum = w.datum
  | _, _ => False

/-- A function gets the argument that was given. -/
lemma same_delivered {p : Parameter} {a : Argument} (admitted : p.admits a = true) :
    (p.delivered a).Same a := by
  cases a with
  | null => exact trivial
  | value v =>
    simp only [Parameter.delivered]
    by_cases dynamic : p.shape = .dynamic
    · rw [if_pos dynamic]
      exact ⟨v.tag.is_refl, rfl⟩
    · rw [if_neg dynamic]
      have typed : v.tag.is p.type = true := by
        simpa [Parameter.admits, dynamic] using admitted
      exact ⟨by rwa [TypeTag.is_comm], rfl⟩

/-- A function gets the arguments that were given, in order. -/
lemma forall₂_same_delivered {parameters : List Parameter} {args : List Argument}
    (admitted : List.Forall₂ (fun p a => Parameter.admits p a = true) parameters args) :
    List.Forall₂ Argument.Same (List.zipWith Parameter.delivered parameters args) args := by
  induction admitted with
  | nil => exact .nil
  | cons admits _ ih => exact .cons (same_delivered admits) ih

lemma takeArgument_of_there {slots : List Argument} {index : ℕ} {a : Argument}
    (there : slots[index]? = some a) :
    (⟨slots⟩ : ArgumentList).takeArgument index = (.ok a, ⟨slots.set index .null⟩) := by
  simp [ArgumentList.takeArgument, there]

/-- Reading null or a value takes the argument, also one of another type. -/
lemma takeNullable_of_there {slots : List Argument} {index : ℕ} {a : Argument}
    (there : slots[index]? = some a) (t : TypeTag) :
    (⟨slots⟩ : ArgumentList).takeNullable t index =
      (match a with
        | .null => .ok none
        | .value v => if v.tag.is t then .ok (some v.datum) else .error (.argument index t.name),
        ⟨slots.set index .null⟩) := by
  rw [ArgumentList.takeNullable, takeArgument_of_there there]
  cases a with
  | null => rfl
  | value v => by_cases same : v.tag.is t = true <;> simp [Argument.take, same]

/-- Reading a value takes the argument, also null or one of another type. -/
lemma takeValue_of_there {slots : List Argument} {index : ℕ} {a : Argument}
    (there : slots[index]? = some a) (t : TypeTag) :
    (⟨slots⟩ : ArgumentList).takeValue t index =
      (match a with
        | .null => .error (.argument index t.name)
        | .value v => if v.tag.is t then .ok v.datum else .error (.argument index t.name),
        ⟨slots.set index .null⟩) := by
  rw [ArgumentList.takeValue, takeNullable_of_there there]
  cases a with
  | null => rfl
  | value v => by_cases same : v.tag.is t = true <;> simp [same]

/-- A read takes the argument out of its slot.  It succeeds if the parameter admits the argument,
and otherwise names the position and the declared type. -/
lemma run_reading {p : Parameter} {index : ℕ} {reading : Reading}
    (suits : p.reading? index = some reading) {slots : List Argument} {a : Argument}
    (there : slots[index]? = some a) :
    reading.run ⟨slots⟩ =
      (if p.admits a then .ok (p.delivered a) else .error (.argument index p.type.name),
        ⟨slots.set index .null⟩) := by
  obtain ⟨name, type, shape⟩ := p
  cases shape with
  | pointer => cases suits
  | value =>
    cases suits
    rw [Reading.run, takeValue_of_there there]
    cases a with
    | null => rfl
    | value v =>
      by_cases same : v.tag.is type = true
      · simp [Parameter.admits, Parameter.delivered, same, Except.map]
      · simp [Parameter.admits, same, Except.map]
  | nullable =>
    cases suits
    rw [Reading.run, takeNullable_of_there there]
    cases a with
    | null => rfl
    | value v =>
      by_cases same : v.tag.is type = true
      · simp [Parameter.admits, Parameter.delivered, same, Except.map]
      · simp [Parameter.admits, same, Except.map]
  | dynamic =>
    cases suits
    rw [Reading.run, takeArgument_of_there there]
    cases a with
    | null => rfl
    | value v => rfl

/-- The slots once the next argument is taken. -/
lemma set_next (k : ℕ) (a : Argument) (rest : List Argument) :
    (List.replicate k Argument.null ++ a :: rest).set k .null =
      List.replicate (k + 1) .null ++ rest := by
  rw [List.set_append_right _ _ (by simp), List.length_replicate, Nat.sub_self, List.set_cons_zero,
    List.replicate_succ', List.append_assoc, List.singleton_append]

lemma getElem?_next (k : ℕ) (a : Argument) (rest : List Argument) :
    (List.replicate k Argument.null ++ a :: rest)[k]? = some a := by
  rw [List.getElem?_append_right (by simp), List.length_replicate, Nat.sub_self,
    List.getElem?_cons_zero]

/-! ## All arguments -/

lemma exists_reading {p : Parameter} (supported : p.shape ≠ .pointer) (index : ℕ) :
    ∃ reading, p.reading? index = some reading := by
  unfold Parameter.reading?
  cases shape : p.shape with
  | pointer => exact absurd shape supported
  | value => exact ⟨_, rfl⟩
  | nullable => exact ⟨_, rfl⟩
  | dynamic => exact ⟨_, rfl⟩

lemma readingFrom_cons {p : Parameter} {index : ℕ} {reading : Reading}
    (suits : p.reading? index = some reading) (rest : List Parameter) :
    readingFrom index (p :: rest) = reading :: readingFrom (index + 1) rest := by
  simp [readingFrom, suits]

lemma readingFrom_append (index : ℕ) {before : List Parameter}
    (supported : ∀ p ∈ before, p.shape ≠ .pointer) (after : List Parameter) :
    readingFrom index (before ++ after) =
      readingFrom index before ++ readingFrom (index + before.length) after := by
  induction before generalizing index with
  | nil => rfl
  | cons p before ih =>
    obtain ⟨reading, suits⟩ := exists_reading (supported p (by simp)) index
    rw [List.cons_append, readingFrom_cons suits, readingFrom_cons suits, List.cons_append,
      ih _ fun q member => supported q (by simp [member]), List.length_cons,
      Nat.add_right_comm, Nat.add_assoc]

/-- Reads of admitted arguments succeed one after the other, and the reads after them find their
slots null. -/
lemma readAll_append {parameters : List Parameter} {given : List Argument}
    (admitted : List.Forall₂ (fun p a => Parameter.admits p a = true) parameters given)
    (supported : ∀ p ∈ parameters, p.shape ≠ .pointer) (k : ℕ) (plan : List Reading)
    (rest : List Argument) :
    readAll (readingFrom k parameters ++ plan) ⟨List.replicate k .null ++ (given ++ rest)⟩ =
      ((readAll plan ⟨List.replicate (k + given.length) .null ++ rest⟩).1.map
          (List.zipWith Parameter.delivered parameters given ++ ·),
        (readAll plan ⟨List.replicate (k + given.length) .null ++ rest⟩).2) := by
  induction admitted generalizing k with
  | nil =>
    simp only [readingFrom, List.nil_append, List.length_nil, Nat.add_zero, List.zipWith_nil_left]
    generalize readAll plan ⟨List.replicate k .null ++ rest⟩ = read
    rcases read with ⟨_ | _, _⟩ <;> rfl
  | @cons p a parameters given admits _ ih =>
    obtain ⟨reading, suits⟩ := exists_reading (supported p (by simp)) k
    have ran := run_reading suits (getElem?_next k a (given ++ rest))
    rw [if_pos admits, set_next] at ran
    have later := ih (fun q member => supported q (by simp [member])) (k + 1)
    rw [readingFrom_cons suits, List.cons_append, List.cons_append, readAll, ran]
    dsimp only
    rw [later, List.length_cons, Nat.add_right_comm k 1, Nat.add_assoc k]
    cases (readAll plan ⟨List.replicate (k + (given.length + 1)) .null ++ rest⟩).1 <;> rfl

/-- Arguments that are accepted are all read, and each of them only once. -/
lemma readAll_of_accepted {parameters : List Parameter}
    (supported : ∀ p ∈ parameters, p.shape ≠ .pointer) {args : List Argument}
    (accepted : acceptedBy parameters args = true) :
    readAll (readingOf parameters) ⟨args⟩ =
      (.ok (List.zipWith Parameter.delivered parameters args),
        ⟨List.replicate args.length .null⟩) := by
  have all := readAll_append (forall₂_of_acceptedBy accepted) supported 0 [] []
  simpa [readingOf, readAll, Except.map] using all

/-- If the arguments before one are admitted and this one is not, then reading ends there. -/
lemma readAll_of_refused {parameters : List Parameter}
    (supported : ∀ p ∈ parameters, p.shape ≠ .pointer) {args : List Argument} {i : ℕ}
    (declared : i < parameters.length) (given : i < args.length)
    (refused : parameters[i].admits args[i] = false)
    (least : ∀ j (earlier : j < i), parameters[j].admits args[j] = true) :
    readAll (readingOf parameters) ⟨args⟩ =
      (.error (.argument i parameters[i].type.name),
        ⟨List.replicate (i + 1) .null ++ args.drop (i + 1)⟩) := by
  have before : List.Forall₂ (fun p a => Parameter.admits p a = true) (parameters.take i)
      (args.take i) := by
    refine List.forall₂_iff_get.2 ⟨by simp; omega, fun j hp ha => ?_⟩
    simpa using least j (by simp at hp; omega)
  obtain ⟨reading, suits⟩ := exists_reading (supported _ (List.getElem_mem declared)) i
  have ran := run_reading suits (getElem?_next i args[i] (args.drop (i + 1)))
  rw [refused, set_next] at ran
  have plan : readingOf parameters = readingFrom 0 (parameters.take i) ++
      reading :: readingFrom (i + 1) (parameters.drop (i + 1)) := by
    rw [← readingFrom_cons suits, List.cons_getElem_drop_succ, readingOf]
    conv_lhs => rw [← List.take_append_drop i parameters]
    rw [readingFrom_append 0 fun p member => supported p (List.mem_of_mem_take member),
      List.length_take_of_le declared.le, Nat.zero_add]
  have all := readAll_append before (fun p member => supported p (List.mem_of_mem_take member)) 0
    (reading :: readingFrom (i + 1) (parameters.drop (i + 1))) (args.drop i)
  rw [List.take_append_drop, List.length_take_of_le given.le, Nat.zero_add, ← plan,
    ← List.cons_getElem_drop_succ (h := given), readAll, ran] at all
  exact all

/-- Of arguments that are not all accepted, there is a first one that its parameter does not admit. -/
lemma exists_first_refused {parameters : List Parameter} {args : List Argument}
    (same : args.length = parameters.length) (refused : acceptedBy parameters args = false) :
    ∃ (i : ℕ) (declared : i < parameters.length) (given : i < args.length),
      parameters[i].admits args[i] = false ∧
        ∀ j (earlier : j < i), parameters[j].admits args[j] = true := by
  classical
  have some_refused : ∃ (i : ℕ) (declared : i < parameters.length) (given : i < args.length),
      parameters[i].admits args[i] = false := by
    by_contra none_refused
    push Not at none_refused
    have accepted : acceptedBy parameters args = true :=
      acceptedBy_iff.2 ⟨same, fun i hp ha => by simpa using none_refused i hp ha⟩
    simp [refused] at accepted
  obtain ⟨declared, given, first⟩ := Nat.find_spec some_refused
  refine ⟨Nat.find some_refused, declared, given, first, fun j earlier => ?_⟩
  by_contra not_admitted
  exact Nat.find_min some_refused earlier
    ⟨earlier.trans declared, earlier.trans given, by simpa using not_admitted⟩

/-! ## Linked constructors -/

namespace Generated

variable {scope : Scope}

/-- A binding is linked to the read that suits the linked parameter. -/
lemma reading?_binding {p : GeneratedParameter} {q : Parameter} (linked : p.link? scope = some q)
    (supported : p.shape ≠ .pointer) (index : ℕ) :
    q.shape = p.shape ∧ (p.binding index).reading? scope = q.reading? index := by
  obtain ⟨name, text, shape⟩ := p
  obtain ⟨type, known, rfl⟩ := Option.map_eq_some_iff.1 linked
  refine ⟨rfl, ?_⟩
  cases shape with
  | pointer => exact absurd rfl supported
  | value => exact congrArg (Option.map (Reading.value · index)) known
  | nullable => exact congrArg (Option.map (Reading.nullable · index)) known
  | dynamic => rfl

/-- The bindings of parameters are linked to the reads that suit the linked parameters. -/
lemma mapM_reading?_bindings {parameters : List GeneratedParameter} {declared : List Parameter}
    (linked : parameters.mapM (·.link? scope) = some declared)
    (supported : ∀ p ∈ parameters, p.shape ≠ .pointer) (k : ℕ) :
    (∀ q ∈ declared, q.shape ≠ .pointer) ∧ declared.length = parameters.length ∧
      (parameters.mapIdx fun i p => p.binding (k + i)).mapM (·.reading? scope) =
        some (readingFrom k declared) := by
  induction parameters generalizing declared k with
  | nil =>
    cases linked
    exact ⟨by simp, rfl, rfl⟩
  | cons p parameters ih =>
    simp only [List.mapM_cons, Option.bind_eq_bind, Option.bind_eq_some_iff, Option.pure_def,
      Option.some.injEq] at linked
    obtain ⟨q, first, rest, linked, rfl⟩ := linked
    obtain ⟨shape, binding⟩ := reading?_binding first (supported p (by simp)) k
    have allowed : q.shape ≠ .pointer := shape ▸ supported p (by simp)
    obtain ⟨reading, suits⟩ := exists_reading allowed k
    obtain ⟨others, length, plan⟩ :=
      ih linked (fun p member => supported p (by simp [member])) (k + 1)
    refine ⟨by simpa using ⟨allowed, others⟩, by simp [length], ?_⟩
    have shift : (fun i (p : GeneratedParameter) => p.binding (k + (i + 1))) =
        fun i p => p.binding (k + 1 + i) := by
      funext i p
      rw [Nat.add_right_comm, Nat.add_assoc]
    rw [readingFrom_cons suits, List.mapIdx_cons, shift, List.mapM_cons, Nat.add_zero, binding,
      suits, plan]
    rfl

/-- The parameters of a linked constructor without raw pointers, and its body: it reads by the plan
that suits the parameters and calls the function with what it read. -/
lemma link?_of_supported {functions : FunctionTable} {c : GeneratedConstructor}
    {r : ConstructorRecord} (linked : c.link? scope functions = some r)
    (supported : c.isUnsupported = false) :
    c.parameters.mapM (·.link? scope) = some r.parameters ∧
      r.parameters.length = c.parameters.length ∧ (∀ q ∈ r.parameters, q.shape ≠ .pointer) ∧
        c.bindings.mapM (·.reading? scope) = some (readingOf r.parameters) ∧
          r.body = Body.reading (readingOf r.parameters) fun read =>
            concludeCall r.owner (functions c.name read) := by
  simp only [GeneratedConstructor.link?, Option.bind_eq_bind, Option.bind_eq_some_iff, supported,
    Bool.false_eq_true, if_false, Option.some.injEq] at linked
  obtain ⟨owner, -, declared, known, plan, reads, rfl⟩ := linked
  have pointerless : ∀ p ∈ c.parameters, p.shape ≠ .pointer := by
    simpa [GeneratedConstructor.isUnsupported] using supported
  obtain ⟨allowed, length, suits⟩ := mapM_reading?_bindings known pointerless 0
  simp only [Nat.zero_add] at suits
  have same : plan = readingOf declared := Option.some.inj (reads.symm.trans suits)
  exact ⟨known, length, allowed, suits, by rw [same]⟩

/-- A call never ends in an unreadable argument. -/
lemma concludeCall_ne_argument (owner : TypeTag) (called : Outcome (Except String Datum))
    (index : ℕ) (expected : String) :
    concludeCall owner called ≠ .finished (.error (.argument index expected)) := by
  rcases called with (_ | _) | _ <;> simp [concludeCall]

/-- **Overload and body agree.**  Let a generated constructor without raw pointers be linked, and
take as many arguments as it has parameters.  Its overload accepts them if and only if all reads
succeed.  If so, the body calls the function with the given arguments in order, leaves none of them
behind, and does not end in an unreadable argument.  If not, then the body ends at the first
argument that its parameter does not admit, with the position and the declared type, whatever the
function is. -/
theorem accepts_iff_delivered {functions : FunctionTable} {c : GeneratedConstructor}
    {r : ConstructorRecord} (linked : c.link? scope functions = some r)
    (supported : c.isUnsupported = false) {args : List Argument}
    (same : args.length = c.parameters.length) :
    ∃ o plan, Overload.ofConstructor? r.toConstructor = some o ∧
      c.bindings.mapM (·.reading? scope) = some plan ∧
      (o.accepts args = true ↔ ∃ read, (readAll plan ⟨args⟩).1 = .ok read) ∧
      (o.accepts args = true →
        List.Forall₂ Argument.Same (List.zipWith Parameter.delivered r.parameters args) args ∧
        r.body ⟨args⟩ =
          (concludeCall r.owner
            (functions c.name (List.zipWith Parameter.delivered r.parameters args)),
            ⟨List.replicate args.length .null⟩) ∧
        ∀ index expected, (r.body ⟨args⟩).1 ≠ .finished (.error (.argument index expected))) ∧
      (o.accepts args = false →
        ∃ (i : ℕ) (declared : i < r.parameters.length) (given : i < args.length),
          r.parameters[i].admits args[i] = false ∧
          (∀ j (earlier : j < i), r.parameters[j].admits args[j] = true) ∧
          ∀ functions' r', c.link? scope functions' = some r' →
            r'.body ⟨args⟩ =
              (.finished (.error (.argument i r.parameters[i].type.name)),
                ⟨List.replicate (i + 1) .null ++ args.drop (i + 1)⟩)) := by
  obtain ⟨known, length, allowed, suits, body⟩ := link?_of_supported linked supported
  have unsupported : r.toConstructor.isUnsupported = false := by
    simpa [Constructor.isUnsupported, ConstructorRecord.toConstructor] using allowed
  refine ⟨_, _, Overload.ofConstructor?_eq_some_iff.2 ⟨unsupported, rfl⟩, suits, ?_⟩
  rw [Overload.accepts_ofConstructor, show r.toConstructor.parameters = r.parameters from rfl]
  cases accepted : acceptedBy r.parameters args with
  | true =>
    have all := readAll_of_accepted allowed accepted
    refine ⟨by simp [all], fun _ => ⟨?_, ?_, fun index expected => ?_⟩, by simp⟩
    · exact forall₂_same_delivered (forall₂_of_acceptedBy accepted)
    · rw [body, Body.reading, all]
    · rw [body, Body.reading, all]
      exact concludeCall_ne_argument _ _ index expected
  | false =>
    obtain ⟨i, declared, given, refused, least⟩ :=
      exists_first_refused (same.trans length.symm) accepted
    have ends := readAll_of_refused allowed declared given refused least
    refine ⟨by simp [ends], by simp, fun _ => ⟨i, declared, given, refused, least, ?_⟩⟩
    intro functions' r' linked'
    obtain ⟨known', -, -, -, body'⟩ := link?_of_supported linked' supported
    have parameters : r'.parameters = r.parameters :=
      Option.some.inj (known'.symm.trans known)
    rw [body', parameters, Body.reading, ends]

/-- A constructor with a parameter of each kind that can be given an argument. -/
def labelled : GeneratedConstructor :=
  ⟨.word "Form", "labelled", 0, true,
    [⟨"visible", .word "bool", .value⟩, ⟨"label", .word "String", .nullable⟩,
      ⟨"extra", .word "Arg", .dynamic⟩], .directly⟩

/-- The types that the constructor names. -/
def labelledScope : Scope :=
  ⟨"sample", [("Form", .basic "Form"), ("bool", .boolean), ("String", .string),
    ("Arg", .argument)], 64⟩

/-- The constructor is linked, and a function that records its arguments gets a value, a null and an
argument of another type in this order. -/
theorem labelled_delivered :
    ∃ r, labelled.link? labelledScope (fun name read => .finished (.ok (Recipe.record name read))) =
        some r ∧ labelled.isUnsupported = false ∧
      r.body ⟨[.value ⟨.boolean, .bool true⟩, .null, .value ⟨.unit, .unit⟩]⟩ =
        (.finished (.ok ⟨.basic "Form", Recipe.record "labelled"
          [.value ⟨.boolean, .bool true⟩, .null, .value ⟨.unit, .unit⟩]⟩),
          ⟨[.null, .null, .null]⟩) := by
  refine ⟨_, rfl, rfl, ?_⟩
  obtain ⟨o, plan, compiled, -, -, calls, -⟩ :=
    @accepts_iff_delivered labelledScope
      (fun name read => .finished (.ok (Recipe.record name read))) labelled _ rfl rfl
      [.value ⟨.boolean, .bool true⟩, .null, .value ⟨.unit, .unit⟩] rfl
  cases compiled
  exact (calls rfl).2.1

end Generated

end Activation
