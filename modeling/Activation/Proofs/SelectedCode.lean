import Activation.Proofs.Parallel
import Activation.Proofs.Reordering

/-!
# Which code activation runs

Constructors and enumerations bring code of their own: bodies, and functions that find the members.
Of all this code an activation runs at most one piece, that of the first candidate which accepts the
arguments, and what the overload set looks like depends on none of it.

This file says so by replacing code.  A history recodes another one if the two differ in nothing but
code (`Registration.Recodes`).  Overloads do not show their code until they are run, so the sets of
a type look the same (`forall₂_outline_eq`).  The code that arguments run comes from one
registration (`codePlace?`, `isCodedAt_codePlace?`): the first that declares a constructor which
answers to them, or else the first of the type itself, if a zero member is run.  With other code
everywhere else, the arguments run what they ran (`find?_candidatesIn_of_kept`).

`only_selected_code_matters` collects what callers see of that.
-/

namespace Activation

/-! ## Recoding -/

/-- The constructors are the same except for the code. -/
def Constructor.Recodes (c c' : Constructor) : Prop := ∃ body, c' = { c with body := body }

lemma Constructor.Recodes.matches {c c' : Constructor} (recodes : c.Recodes c') :
    c.Matches c' := by
  obtain ⟨body, rfl⟩ := recodes
  exact ⟨c.owner.is_refl, rfl, rfl⟩

/-- The registrations are of the same constructor with possibly other code, or of one type and one
kind with possibly another way to find the members. -/
def Registration.Recodes : Registration → Registration → Prop :=
  Registration.Parallel Constructor.Recodes fun _ _ => True

/-- What can be seen of an overload without running it. -/
structure Outline where
  owner : TypeTag
  name : String
  types : List TypeTag
  nullability : List Bool
  dynamic : List Bool

namespace Overload

/-- All of the overload but its code. -/
def outline (o : Overload) : Outline := ⟨o.owner, o.name, o.types, o.nullability, o.dynamic⟩

lemma arity_of_outline_eq {o o' : Overload} (same : o.outline = o'.outline) :
    o.arity = o'.arity :=
  congrArg (·.types.length) same

/-- Acceptance does not look at the code. -/
lemma accepts_of_outline_eq {o o' : Overload} (same : o.outline = o'.outline)
    (args : List Argument) : o'.accepts args = o.accepts args := by
  obtain ⟨owner, name, types, nullability, dynamic, run, length, length'⟩ := o
  obtain ⟨owner', name', types', nullability', dynamic', run', _, _⟩ := o'
  injection same with owners names types nullability dynamic
  subst types nullability dynamic
  rfl

end Overload

/-- The candidates are the same except for the code. -/
abbrev Candidate.Recodes : Candidate → Candidate → Prop :=
  Candidate.Parallel Constructor.Recodes fun _ _ => True

lemma Candidate.outline_overload_eq {c c' : Candidate} (t : TypeTag) (recodes : c.Recodes c') :
    (c.overload t).outline = (c'.overload t).outline := by
  cases recodes with
  | declared recodes =>
    obtain ⟨body, rfl⟩ := recodes
    rfl
  | zero value => rfl
  | member _ literal => rfl

lemma Candidate.admits_eq {c c' : Candidate} (recodes : c.Recodes c') (args : List Argument) :
    c'.admits args = c.admits args := by
  cases recodes with
  | declared recodes =>
    obtain ⟨body, rfl⟩ := recodes
    rfl
  | zero value => rfl
  | member _ literal => rfl

/-- With other code the overload set of a type looks the same. -/
lemma forall₂_outline_eq {history history' : List Registration}
    (recoded : List.Forall₂ Registration.Recodes history history') (options : Options)
    (t : TypeTag) :
    List.Forall₂ (fun o o' => Overload.outline o = Overload.outline o')
      (OverloadSet.ofRegistry (Registry.ofRegistrations history).result options t).overloads
      (OverloadSet.ofRegistry (Registry.ofRegistrations history').result options t).overloads :=
  OverloadSet.forall₂_ofRegistrations (fun _ _ recodes => recodes.matches)
    (fun _ _ same => Overload.arity_of_outline_eq same)
    (fun _ _ recodes => Candidate.outline_overload_eq t recodes) recoded t.is_refl

/-! ## Where the code stands -/

/-- Whether the registration declares a constructor of the type that the arguments can select. -/
def Registration.declares (options : Options) (t : TypeTag) (args : List Argument)
    (registration : Registration) : Bool :=
  registration.constructor?.any fun c => c.owner.is t && c.answers options args

/-- Whether the registration is one of the type itself. -/
def Registration.registers (t : TypeTag) (registration : Registration) : Bool :=
  registration.typeInfo?.any (·.tag.is t)

/-- Which registration of the history brings the code that activation of the type from the arguments
runs.  A zero value needs no code, and nothing is run if no candidate accepts the arguments. -/
def codePlace? (history : List Registration) (options : Options) (t : TypeTag)
    (args : List Argument) : Option ℕ :=
  match (candidatesIn history options t).find? (·.admits args) with
  | some (.declared _) => history.findIdx? (·.declares options t args)
  | some (.member _ _) => history.findIdx? (·.registers t)
  | some (.zero _) | none => none

/-- The candidate has its code from the registration at the place; a zero value has it from none. -/
def Candidate.IsCodedAt (history : List Registration) (place : Option ℕ) : Candidate → Prop
  | declared c => ∃ k, place = some k ∧ history[k]?.bind (·.constructor?) = some c
  | zero _ => place = none
  | member info _ => ∃ k told, place = some k ∧ history[k]?.bind (·.typeInfo?) = some told ∧
      told.kind = .enumeration info

section Places

variable {history history' : List Registration} {options : Options} {t : TypeTag}
  {args : List Argument}

lemma find?_answers_declaredIn (history : List Registration) (options : Options) (t : TypeTag)
    (args : List Argument) :
    (declaredIn history t).find? (·.answers options args) =
      (history.find? (·.declares options t args)).bind (·.constructor?) := by
  rw [declaredIn, List.find?_filter, List.find?_filterMap]
  simp only [Bool.decide_and, Bool.decide_eq_true]
  rfl

lemma firstTypeInfo?_eq (history : List Registration) (t : TypeTag) :
    firstTypeInfo? history t = (history.find? (·.registers t)).bind (·.typeInfo?) :=
  List.find?_filterMap ..

/-- Arguments are given to the first constructor that answers to them, and else to a zero. -/
lemma find?_admits_candidatesIn (history : List Registration) (options : Options) (t : TypeTag)
    (args : List Argument) :
    (candidatesIn history options t).find? (·.admits args) =
      (((declaredIn history t).find? (·.answers options args)).map .declared).or
        ((zerosIn history options t).find? (·.admits args)) := by
  rw [candidatesIn, List.append_assoc, List.find?_append, ← zerosIn, List.find?_map,
    ← find?_eligible]
  rfl

/-- A constructor that is run is that of the first registration which declares one that answers to
the arguments. -/
lemma registration_of_declared {c : Constructor}
    (found : (candidatesIn history options t).find? (·.admits args) = some (.declared c)) :
    (history.find? (·.declares options t args)).bind (·.constructor?) = some c := by
  rw [find?_admits_candidatesIn] at found
  rw [← find?_answers_declaredIn]
  cases first : (declaredIn history t).find? (·.answers options args) with
  | some d =>
    rw [first] at found
    cases found
    rfl
  | none =>
    -- What is found is a zero then, and no constructor.
    rw [first] at found
    rcases List.mem_append.1 (List.mem_of_find?_eq_some found) with value | member
    · obtain ⟨_, -, ⟨⟩⟩ := of_mem_zeroCandidates value
    · obtain ⟨_, _, _, -, -, ⟨⟩⟩ := of_mem_memberCandidates member

/-- A zero member that is run is that of the first registration of the type. -/
lemma registration_of_member {info : Enumeration} {literal : String}
    (found : (candidatesIn history options t).find? (·.admits args) =
      some (.member info literal)) :
    ∃ told, (history.find? (·.registers t)).bind (·.typeInfo?) = some told ∧
      told.kind = .enumeration info := by
  rcases of_mem_candidatesIn (List.mem_of_find?_eq_some found) with
    ⟨_, -, ⟨⟩⟩ | ⟨_, -, ⟨⟩⟩ | ⟨told, info', literal', first, kind, same⟩
  cases same
  rw [firstTypeInfo?_eq] at first
  exact ⟨told, first, kind⟩

/-- What is found first stands where the test is first passed. -/
lemma exists_findIdx?_of_bind_find? {α : Type} {p : Registration → Bool}
    {read : Registration → Option α} {a : α} (found : (history.find? p).bind read = some a) :
    ∃ k, history.findIdx? p = some k ∧ history[k]?.bind read = some a := by
  rw [List.find?_eq_bind_findIdx?_getElem?] at found
  cases place : history.findIdx? p with
  | none =>
    rw [place] at found
    cases found
  | some k =>
    rw [place] at found
    exact ⟨k, rfl, found⟩

/-- The first candidate that accepts the arguments has its code from where it is said to stand. -/
lemma isCodedAt_codePlace? {d : Candidate}
    (found : (candidatesIn history options t).find? (·.admits args) = some d) :
    d.IsCodedAt history (codePlace? history options t args) := by
  unfold codePlace?
  rw [found]
  cases d with
  | declared c => exact exists_findIdx?_of_bind_find? (registration_of_declared found)
  | zero value => rfl
  | member info literal =>
    obtain ⟨told, first, kind⟩ := registration_of_member found
    obtain ⟨k, place, stands⟩ := exists_findIdx?_of_bind_find? first
    exact ⟨k, told, place, stands, kind⟩

/-! ## Code that is left alone -/

/-- If the registration that passes a test first is left alone, it is still the first. -/
lemma find?_of_kept {p : Registration → Bool}
    (recoded : List.Forall₂ Registration.Recodes history history')
    (agree : ∀ a b, Registration.Recodes a b → p b = p a)
    (kept : ∀ k, history.findIdx? p = some k → history'[k]? = history[k]?) :
    history'.find? p = history.find? p := by
  rw [List.find?_eq_bind_findIdx?_getElem?, List.find?_eq_bind_findIdx?_getElem?,
    findIdx?_of_forall₂ agree recoded]
  cases place : history.findIdx? p with
  | none => rfl
  | some k => exact kept k place

lemma declares_eq (options : Options) (t : TypeTag) (args : List Argument)
    {registration registration' : Registration} (recodes : registration.Recodes registration') :
    registration'.declares options t args = registration.declares options t args := by
  have constructors := Registration.Parallel.constructor? recodes
  unfold Registration.declares
  generalize registration.constructor? = c?, registration'.constructor? = c?' at constructors ⊢
  cases constructors with
  | none => rfl
  | some recodes =>
    obtain ⟨body, rfl⟩ := recodes
    rfl

lemma registers_eq (t : TypeTag) {registration registration' : Registration}
    (recodes : registration.Recodes registration') :
    registration'.registers t = registration.registers t := by
  have types := Registration.Parallel.typeInfo? recodes
  unfold Registration.registers
  generalize registration.typeInfo? = i?, registration'.typeInfo? = i?' at types ⊢
  cases types with
  | none => rfl
  | some told => exact TypeTag.is_eq_is told.tag_is t.is_refl

/-- If only code is replaced that the arguments do not run, they run what they ran. -/
lemma find?_candidatesIn_of_kept
    (recoded : List.Forall₂ Registration.Recodes history history')
    (kept : ∀ k, codePlace? history options t args = some k → history'[k]? = history[k]?) :
    (candidatesIn history options t).find? (·.admits args) =
      (candidatesIn history' options t).find? (·.admits args) := by
  have candidates : List.Forall₂ Candidate.Recodes (candidatesIn history options t)
      (candidatesIn history' options t) :=
    forall₂_candidatesIn (fun _ _ recodes => recodes.matches) recoded t.is_refl
  rcases find?_of_forall₂ (p := (·.admits args)) (q := (·.admits args))
    (fun _ _ recodes => Candidate.admits_eq recodes args) candidates with
    ⟨none, none'⟩ | ⟨d, d', found, found', recodes⟩
  · rw [none, none']
  · rw [found, found', Option.some_inj]
    cases recodes with
    | zero value => rfl
    -- Otherwise both candidates are read off the registration that was left alone.
    | @declared c c' _ =>
      have same : history'.find? _ = history.find? _ :=
        find?_of_kept recoded (fun _ _ => declares_eq options t args) fun k place =>
          kept k (by rw [codePlace?, found]; exact place)
      have first := registration_of_declared found
      have first' := registration_of_declared found'
      rw [same, first] at first'
      cases first'
      rfl
    | @member info info' _ literal =>
      have same : history'.find? _ = history.find? _ :=
        find?_of_kept recoded (fun _ _ => registers_eq t) fun k place =>
          kept k (by rw [codePlace?, found]; exact place)
      obtain ⟨told, first, kind⟩ := registration_of_member found
      obtain ⟨told', first', kind'⟩ := registration_of_member found'
      rw [same, first] at first'
      cases first'
      rw [kind] at kind'
      cases kind'
      rfl

end Places

/-! ## What callers see -/

/-- What a caller gets is read off what comes of the candidate's code. -/
lemma Candidate.result_reply (t : TypeTag) (args : List Argument) (d : Candidate) :
    (d.reply args).result =
      match d.outcome args with
      | .finished (.ok i) => .finished (.ok i)
      | .finished (.error (.argument _ _)) => .nothing
      | .finished (.error (.failed source)) =>
        Reply.error (.constructorFailed (d.overload t).owner (d.overload t).name source)
      | .panicked message => .panicked message := by
  cases d with
  | declared c =>
    simp only [reply, outcome]
    rcases (c.body ⟨args⟩).1 with ((⟨index, expected⟩ | source) | i) | message <;> rfl
  | zero value => rfl
  | member info literal =>
    simp only [reply, outcome]
    cases info.parse literal <;> rfl

/-- **Only the selected code matters.**  Take a history, a recoding of it, a type and arguments.
* The overload sets of the type look the same, whatever the code is: as many overloads, with the
  same names, types and marks in the same order, and the same default.  The arguments select the
  overload at the same position, and the same is reported when the sets are put together.
* The first candidate that accepts the arguments is the one whose overload is selected, and has its
  code from the registration at `codePlace?`.  What comes of its code is the outcome: an object,
  nothing if it rejects an argument, the failure that it reports, or its panic.  Overloads that come
  later and accept the arguments as well are not tried.
* If no candidate accepts the arguments, there is no instance by either history.
* If the registration at `codePlace?` was left alone, then both histories give the arguments the
  same outcome, whatever the other code was replaced by, and so do the activations of the type from
  these arguments at any points of runs of two activators. -/
theorem only_selected_code_matters {history history' : List Registration}
    (recoded : List.Forall₂ Registration.Recodes history history') (options : Options)
    (t : TypeTag) (args : List Argument) :
    let r := (Registry.ofRegistrations history).result
    let r' := (Registry.ofRegistrations history').result
    let s := (OverloadSet.build r options t).result
    let s' := (OverloadSet.build r' options t).result
    let chosen := (candidatesIn history options t).find? (·.admits args)
    (s'.tag = s.tag ∧ s'.overloads.map (·.outline) = s.overloads.map (·.outline) ∧
      s'.hasDefault = s.hasDefault ∧
      s'.overloads.findIdx? (·.accepts args) = s.overloads.findIdx? (·.accepts args) ∧
      (OverloadSet.build r' options t).events = (OverloadSet.build r options t).events) ∧
    (s.select? args = chosen.map (·.overload t) ∧
      ∀ d, chosen = some d →
        d.IsCodedAt history (codePlace? history options t args) ∧
        (s.create (some args)).result =
          match d.outcome args with
          | .finished (.ok i) => .finished (.ok i)
          | .finished (.error (.argument _ _)) => .nothing
          | .finished (.error (.failed source)) =>
            Reply.error (.constructorFailed (d.overload t).owner (d.overload t).name source)
          | .panicked message => .panicked message) ∧
    (chosen = none → s.create (some args) = pure .nothing ∧ s'.create (some args) = pure .nothing) ∧
    ((∀ k, codePlace? history options t args = some k → history'[k]? = history[k]?) →
      s'.create (some args) = s.create (some args) ∧
      (args = [] → s'.createDefault = s.createDefault) ∧
      ∀ (earlier earlier' : List Operation) (op : Operation),
        op.arguments? = some args → op.target? r = some t → op.target? r' = some t →
        let a := ((Activator.ofRegistry r options).performAll earlier).result.2
        let a' := ((Activator.ofRegistry r' options).performAll earlier').result.2
        (a'.perform op).result.1 = (a.perform op).result.1) := by
  intro r r' s s' chosen
  have outlines := forall₂_outline_eq recoded options t
  have size : s'.size = s.size := outlines.length_eq.symm
  have default_eq : s'.hasDefault = s.hasDefault :=
    OverloadSet.hasDefault_of_forall₂ (fun _ _ same => Overload.arity_of_outline_eq same) outlines
  have position : s'.overloads.findIdx? (·.accepts args) = s.overloads.findIdx? (·.accepts args) :=
    findIdx?_of_forall₂ (p := (·.accepts args)) (q := (·.accepts args))
      (fun _ _ same => Overload.accepts_of_outline_eq same args) outlines
  refine ⟨⟨rfl, ?_, default_eq, position, ?_⟩,
    ⟨select?_ofRegistrations history options t args, ?_⟩, ?_, ?_⟩
  · rw [← List.forall₂_eq_eq_eq, List.forall₂_map_left_iff, List.forall₂_map_right_iff]
    exact outlines.flip.imp fun _ _ same => same.symm
  · show [Event.builtSet t s'.size (r'.discarded options t) s'.hasDefault] =
      [.builtSet t s.size (r.discarded options t) s.hasDefault]
    rw [size, default_eq, discarded_parallel (fun _ _ recodes => recodes.matches) recoded t.is_refl]
  · intro d found
    change (candidatesIn history options t).find? (·.admits args) = some d at found
    refine ⟨isCodedAt_codePlace? found, ?_⟩
    have searched : s.create (some args) = search history options t args :=
      createWith_eq_search history options t args
    rw [searched, search, found]
    exact d.result_reply t args
  · intro none
    change (candidatesIn history options t).find? (·.admits args) = Option.none at none
    -- No code is run, so that none has to be left alone.
    have nowhere : codePlace? history options t args = Option.none := by
      rw [codePlace?, none]
    have none' : (candidatesIn history' options t).find? (·.admits args) = Option.none := by
      rw [← find?_candidatesIn_of_kept recoded (by simp [nowhere]), none]
    constructor
    · exact (createWith_eq_search history options t args).trans (by rw [search, none])
    · exact (createWith_eq_search history' options t args).trans (by rw [search, none'])
  · intro kept
    have same := find?_candidatesIn_of_kept recoded kept
    have creates : s'.createWith args = s.createWith args := createWith_congr same.symm
    refine ⟨creates, ?_, ?_⟩
    · rintro rfl
      exact (OverloadSet.createDefault_ofRegistry r' options t).trans
        (creates.trans (OverloadSet.createDefault_ofRegistry r options t).symm)
    · intro earlier earlier' op given targeted targeted' a a'
      have answers := Activator.answer_of_arguments history options earlier targeted given
      have answers' := Activator.answer_of_arguments history' options earlier' targeted' given
      have tells := congrArg (fun reply => op.tell t reply.result) creates
      exact answers'.trans (tells.trans answers.symm)

/-- A constructor of gauges from one reading. -/
def gaugeFrom (name : String) (shape : Shape) (made : Outcome (Except InvokeError Datum)) :
    Registration :=
  .constructorByHand (.basic "Gauge")
    ((Signature.named name).parameter "reading" (.basic "i32") shape) fun args => (made, args)

/-- What comes of activating a gauge from a number. -/
def gaugeReply (history : List Registration) : Logged Reply :=
  (OverloadSet.build (Registry.ofRegistrations history).result .standard
    (.basic "Gauge")).result.create (some [.value ⟨.basic "i32", .int 7⟩])

/-- Two constructors take numbers, of which the first refuses to make a gauge. -/
def gauges : List Registration :=
  [gaugeFrom "exact" .value (.finished (.error (.failed "out of range"))),
    gaugeFrom "rough" .dynamic (.finished (.ok .unit))]

/-- The same constructors, of which the second panics. -/
def gaugesRecoded : List Registration :=
  [gaugeFrom "exact" .value (.finished (.error (.failed "out of range"))),
    gaugeFrom "rough" .dynamic (.panicked "broken")]

/-- A number is refused by both histories. -/
theorem gauges_refuse :
    List.Forall₂ Registration.Recodes gauges gaugesRecoded ∧
    codePlace? gauges .standard (.basic "Gauge") [.value ⟨.basic "i32", .int 7⟩] = some 0 ∧
    (gaugeReply gauges).result =
      Reply.error (.constructorFailed (.basic "Gauge") "exact" "out of range") ∧
    gaugeReply gaugesRecoded = gaugeReply gauges := by
  have recodes : ∀ name shape first second,
      (gaugeFrom name shape first).Recodes (gaugeFrom name shape second) :=
    fun name shape first second => .constructor ⟨_, rfl⟩
  have recoded : List.Forall₂ Registration.Recodes gauges gaugesRecoded :=
    .cons (recodes _ _ _ _) (.cons (recodes _ _ _ _) .nil)
  have place : codePlace? gauges .standard (.basic "Gauge") [.value ⟨.basic "i32", .int 7⟩] =
      some 0 := by rfl
  obtain ⟨-, ⟨-, refuses⟩, -, same⟩ := only_selected_code_matters recoded .standard (.basic "Gauge")
    [.value ⟨.basic "i32", .int 7⟩]
  refine ⟨recoded, place, (refuses _ rfl).2, (same fun k there => ?_).1⟩
  rw [place] at there
  cases there
  rfl

end Activation
