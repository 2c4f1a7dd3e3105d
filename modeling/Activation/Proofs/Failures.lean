import Activation.Proofs.Memo
import Activation.Proofs.Search

/-!
# When activation fails

An activation ends well, in one of three errors, or in a panic of the code that it runs.  This file
says when each of them happens, for every operation at every point of a run.

What decides is read off the operation alone: whether it names a type at all
(`Operation.namesNoType`), whether it has to be given an argument list and is given none
(`Operation.lacksArguments`), and which candidate of the type it runs (`Operation.Runs`), found by
the search through the candidates and not through overloads.  `Operation.endingBy` puts these in the
order in which they are looked at, and `Activator.ending_perform` says that operations end so.
`Operation.Ends` lists the ways to end, each with what leads to it, and they are all there are
(`Operation.endingBy_eq_iff`).

`Activator.ending_perform_iff` has one condition for each ending.  A type or an argument list that
is missing is told before anything runs; every other error is what the constructor that was run
reported; and no candidate, an argument that a constructor cannot read, or a zero that is no value
are no errors.
-/

namespace Activation

/-! ## Endings -/

/-- How an activation ends, whatever it makes. -/
abbrev ActivationEnding := Outcome (Except ActivationError Unit)

/-- How what came of an activation ended. -/
def Outcome.ending {α : Type} (o : Outcome (Except ActivationError α)) : ActivationEnding :=
  o.map (Except.map fun _ => ())

/-- How an operation with the answer ended.  Only activations can fail. -/
def Answer.ending : Answer → ActivationEnding
  | .reply r => r.ending
  | .content c => c.ending
  | .set _ | .published _ | .flag _ | .number _ => .finished (.ok ())

/-- Knowing the type changes nothing about failures. -/
lemma ending_narrow (reply : Reply) (t : TypeTag) : (reply.narrow t).ending = reply.ending := by
  rcases reply with (e | i) | message <;> rfl

/-! ## What an operation asks for -/

namespace Operation

/-- Whether the caller names no type: none is given, or the name is blank. -/
def namesNoType : Operation → Bool
  | .createInstance t | .createInstanceWith t _ => t.isNone
  | .createNamed name | .createNamedWith name _ => (Text.trim name).isEmpty
  | .create _ | .createWith _ _ | .getOrBuild _ | .get _ | .contains _ | .size => false

/-- Whether the caller gives no argument list where one may be given. -/
def lacksArguments : Operation → Bool
  | .createInstanceWith _ args | .createNamedWith _ args => args.isNone
  | .createInstance _ | .create _ | .createWith _ _ | .createNamed _ | .getOrBuild _ | .get _
  | .contains _ | .size => false

/-- The arguments that an activation is from; the empty list if it is one without arguments. -/
def arguments? : Operation → Option (List Argument)
  | .createInstance _ | .create _ | .createNamed _ => some []
  | .createInstanceWith _ args | .createNamedWith _ args => args
  | .createWith _ args => some args
  | .getOrBuild _ | .get _ | .contains _ | .size => none

/-- The operation activates the type from the arguments, and the candidate is the first of the type
that accepts them. -/
def Runs (history : List Registration) (options : Options) (op : Operation) (t : TypeTag)
    (args : List Argument) (c : Candidate) : Prop :=
  op.target? (Registry.ofRegistrations history).result = some t ∧ op.arguments? = some args ∧
    (candidatesIn history options t).find? (·.admits args) = some c

lemma named?_of_blank {name : String} (blank : (Text.trim name).isEmpty = true) (r : Registry) :
    r.named? name = none := by
  rw [Registry.named?, if_pos blank]

lemma target?_of_namesNoType {op : Operation} (unnamed : op.namesNoType = true) (r : Registry) :
    op.target? r = none := by
  cases op with
  | createInstance t => simpa [namesNoType, target?] using unnamed
  | createInstanceWith t args => simpa [namesNoType, target?] using unnamed
  | createNamed name => exact named?_of_blank unnamed r
  | createNamedWith name args => exact named?_of_blank unnamed r
  | create t => cases unnamed
  | createWith t args => cases unnamed
  | getOrBuild t => cases unnamed
  | get t => cases unnamed
  | contains t => cases unnamed
  | size => cases unnamed

lemma arguments?_of_lacksArguments {op : Operation} (lacking : op.lacksArguments = true) :
    op.arguments? = none := by
  cases op with
  | createInstanceWith t args => simpa [lacksArguments, arguments?] using lacking
  | createNamedWith name args => simpa [lacksArguments, arguments?] using lacking
  | createInstance t => cases lacking
  | create t => cases lacking
  | createWith t args => cases lacking
  | createNamed name => cases lacking
  | getOrBuild t => cases lacking
  | get t => cases lacking
  | contains t => cases lacking
  | size => cases lacking

/-- How an operation ends, if `setOf` gives the overload set of each type.  That no type is named
counts before anything else, and that a name is unknown before missing arguments. -/
def endingBy (r : Registry) (setOf : TypeTag → OverloadSet) (op : Operation) : ActivationEnding :=
  if op.namesNoType then .finished (.error .missingType)
  else
    match op.target? r with
    | none => .finished (.ok ())
    | some t =>
      if op.lacksArguments then .finished (.error (.missingArguments (setOf t).tag))
      else
        match op.arguments? with
        | none => .finished (.ok ())
        | some args => ((setOf t).createWith args).result.ending

lemma ending_replyNamed (r : Registry) (name : String) (reply : TypeTag → Logged Reply) :
    (r.replyNamed name reply).result.ending =
      if (Text.trim name).isEmpty then .finished (.error .missingType)
      else
        match r.named? name with
        | none => .finished (.ok ())
        | some t => (reply t).result.ending := by
  unfold Registry.replyNamed
  cases blank : (Text.trim name).isEmpty with
  | true =>
    rw [named?_of_blank blank]
    rfl
  | false =>
    cases r.named? name with
    | none => rfl
    | some t => rfl

/-- Without a memo, operations end so. -/
lemma ending_uncached {r : Registry} {setOf : TypeTag → OverloadSet}
    (defaults : ∀ t, (setOf t).createDefault = (setOf t).createWith []) {op : Operation}
    {answer : Logged Answer} (uncached : op.uncached? r setOf = some answer) :
    answer.result.ending = op.endingBy r setOf := by
  cases op with
  | createInstance t =>
    cases t with
    | none =>
      cases uncached
      rfl
    | some t =>
      cases uncached
      rw [defaults]
      rfl
  | createInstanceWith t args =>
    cases t with
    | none =>
      cases uncached
      rfl
    | some t =>
      cases uncached
      cases args <;> rfl
  | create t =>
    cases uncached
    rw [defaults]
    exact ending_narrow _ t
  | createWith t args =>
    cases uncached
    exact ending_narrow _ t
  | createNamed name =>
    cases uncached
    refine (ending_replyNamed r name _).trans ?_
    simp only [defaults]
    rfl
  | createNamedWith name args =>
    cases uncached
    refine (ending_replyNamed r name _).trans ?_
    cases args <;> rfl
  | getOrBuild t =>
    cases uncached
    rfl
  | get t => cases uncached
  | contains t => cases uncached
  | size => cases uncached

end Operation

/-! ## What a candidate does -/

/-- What comes of the code of a candidate. -/
def Candidate.outcome (args : List Argument) :
    Candidate → Outcome (Except InvokeError (Option Instance))
  | declared c => (c.body ⟨args⟩).1.map (Except.map some)
  | zero value => .finished (.ok value.produce)
  | member info literal => (info.parse literal).map .ok

lemma Candidate.outcome_declared_eq_failed_iff {c : Constructor} {args : List Argument}
    {source : String} :
    (declared c).outcome args = .finished (.error (.failed source)) ↔
      (c.body ⟨args⟩).1 = .finished (.error (.failed source)) := by
  simp only [outcome]
  rcases (c.body ⟨args⟩).1 with (e | i) | message
  · simp [Except.map]
  · simp [Except.map]
  · simp

/-- The ending of a candidate's reply. -/
def Candidate.ending (args : List Argument) (c : Candidate) : ActivationEnding :=
  (c.reply args).result.ending

/-- The code of a candidate finishes without a failure, possibly because of an argument that it
cannot read. -/
def Candidate.Finishes (args : List Argument) (c : Candidate) : Prop :=
  (∃ i, c.outcome args = .finished (.ok i)) ∨
    ∃ index expected, c.outcome args = .finished (.error (.argument index expected))

/-- What comes of a candidate's code decides how its reply ends.  Only a declared constructor can
report a failure. -/
lemma Candidate.ending_cases (c : Candidate) (args : List Argument) :
    (c.Finishes args ∧ c.ending args = .finished (.ok ())) ∨
    (∃ d source, c = .declared d ∧ c.outcome args = .finished (.error (.failed source)) ∧
      c.ending args = .finished (.error (.constructorFailed d.owner d.name source))) ∨
    ∃ message, c.outcome args = .panicked message ∧ c.ending args = .panicked message := by
  cases c with
  | declared d =>
    simp only [Finishes, ending, reply, outcome]
    rcases (d.body ⟨args⟩).1 with ((⟨index, expected⟩ | source) | i) | message
    · exact .inl ⟨.inr ⟨index, expected, rfl⟩, rfl⟩
    · exact .inr (.inl ⟨d, source, rfl, rfl, rfl⟩)
    · exact .inl ⟨.inl ⟨some i, rfl⟩, rfl⟩
    · exact .inr (.inr ⟨message, rfl, rfl⟩)
  | zero value => exact .inl ⟨.inl ⟨value.produce, rfl⟩, rfl⟩
  | member info literal =>
    simp only [Finishes, ending, reply, outcome]
    cases info.parse literal with
    | finished i => exact .inl ⟨.inl ⟨i, rfl⟩, rfl⟩
    | panicked message => exact .inr (.inr ⟨message, rfl, rfl⟩)

lemma Candidate.ending_of_finishes {c : Candidate} {args : List Argument}
    (finishes : c.Finishes args) : c.ending args = .finished (.ok ()) := by
  rcases c.ending_cases args with ⟨-, ends⟩ | ⟨d, source, -, reported, -⟩ | ⟨message, panics, -⟩
  · exact ends
  · simp [Finishes, reported] at finishes
  · simp [Finishes, panics] at finishes

lemma Candidate.ending_of_failed {d : Constructor} {args : List Argument} {source : String}
    (reported : (declared d).outcome args = .finished (.error (.failed source))) :
    (declared d).ending args =
      .finished (.error (.constructorFailed d.owner d.name source)) := by
  rcases (declared d).ending_cases args with
    ⟨finishes, -⟩ | ⟨d', source', same, reported', ends⟩ | ⟨message, panics, -⟩
  · simp [Finishes, reported] at finishes
  · cases same
    rw [reported] at reported'
    cases reported'
    exact ends
  · simp [reported] at panics

lemma Candidate.ending_of_panicked {c : Candidate} {args : List Argument} {message : String}
    (panics : c.outcome args = .panicked message) : c.ending args = .panicked message := by
  rcases c.ending_cases args with ⟨finishes, -⟩ | ⟨d, source, -, reported, -⟩ | ⟨m, panics', ends⟩
  · simp [Finishes, panics] at finishes
  · simp [panics] at reported
  · rw [panics] at panics'
    cases panics'
    exact ends

/-- Activation ends as the first candidate does that accepts the arguments, and well if there is
none. -/
lemma ending_createWith (history : List Registration) (options : Options) (t : TypeTag)
    (args : List Argument) :
    ((OverloadSet.ofRegistry (Registry.ofRegistrations history).result options t).createWith
        args).result.ending =
      match (candidatesIn history options t).find? (·.admits args) with
      | none => .finished (.ok ())
      | some c => c.ending args := by
  rcases createWith_cases history options t args with
    ⟨none, -, reply⟩ | ⟨c, -, found, -, -, reply⟩
  · rw [reply, none]
    rfl
  · rw [reply, found]
    rfl

/-! ## The ways in which an operation ends -/

namespace Operation

variable {history : List Registration} {options : Options} {op : Operation} {t : TypeTag}
  {args : List Argument} {c : Candidate}

lemma Runs.named (runs : op.Runs history options t args c) : op.namesNoType = false := by
  cases unnamed : op.namesNoType with
  | false => rfl
  | true =>
    have untargeted := target?_of_namesNoType unnamed (Registry.ofRegistrations history).result
    rw [runs.1] at untargeted
    cases untargeted

lemma Runs.supplied (runs : op.Runs history options t args c) : op.lacksArguments = false := by
  cases lacking : op.lacksArguments with
  | false => rfl
  | true =>
    have none := arguments?_of_lacksArguments lacking
    rw [runs.2.1] at none
    cases none

lemma Runs.owner_is {c : Constructor} (runs : op.Runs history options t args (.declared c)) :
    c.owner.is t = true :=
  owner_is_of_mem_candidatesIn (List.mem_of_find?_eq_some runs.2.2)

/-- An operation runs one candidate at most. -/
lemma Runs.unique {t' : TypeTag} {args' : List Argument} {c' : Candidate}
    (runs : op.Runs history options t args c) (runs' : op.Runs history options t' args' c') :
    args = args' ∧ c = c' := by
  obtain ⟨target, given, found⟩ := runs
  obtain ⟨target', given', found'⟩ := runs'
  obtain rfl : t = t' := Option.some.inj (target.symm.trans target')
  obtain rfl : args = args' := Option.some.inj (given.symm.trans given')
  exact ⟨rfl, Option.some.inj (found.symm.trans found')⟩

/-- How an operation ends, where `first` gives the tag under which the set of a type is known. -/
inductive Ends (history : List Registration) (options : Options) (first : TypeTag → TypeTag)
    (op : Operation) : ActivationEnding → Prop
  | missingType (unnamed : op.namesNoType = true) : Ends history options first op
      (.finished (.error .missingType))
  | missingArguments (t : TypeTag) (lacking : op.lacksArguments = true)
      (targeted : op.target? (Registry.ofRegistrations history).result = some t) :
      Ends history options first op (.finished (.error (.missingArguments (first t))))
  /-- The constructor that is run reports a failure. -/
  | failed (t : TypeTag) (args : List Argument) (c : Constructor) (source : String)
      (runs : op.Runs history options t args (.declared c))
      (reported : (Candidate.declared c).outcome args = .finished (.error (.failed source))) :
      Ends history options first op (.finished (.error (.constructorFailed c.owner c.name source)))
  | panicked (t : TypeTag) (args : List Argument) (c : Candidate) (message : String)
      (runs : op.Runs history options t args c) (panics : c.outcome args = .panicked message) :
      Ends history options first op (.panicked message)
  | ran (t : TypeTag) (args : List Argument) (c : Candidate)
      (runs : op.Runs history options t args c) (finishes : c.Finishes args) :
      Ends history options first op (.finished (.ok ()))
  /-- Nothing is wrong, and nothing is run. -/
  | idle (named : op.namesNoType = false)
      (supplied : op.lacksArguments = false ∨
        op.target? (Registry.ofRegistrations history).result = none)
      (nothing : ∀ t args c, ¬ op.Runs history options t args c) :
      Ends history options first op (.finished (.ok ()))

/-- The overload sets of a history, each under the tag that `first` gives for its type. -/
def setsOf (history : List Registration) (options : Options) (first : TypeTag → TypeTag)
    (t : TypeTag) : OverloadSet :=
  OverloadSet.ofRegistry (Registry.ofRegistrations history).result options (first t)

/-- With the sets of the tags that `first` gives, the ending is that of the candidate that runs. -/
lemma endingBy_of_runs {first : TypeTag → TypeTag} (same : ∀ t, (first t).is t = true)
    (runs : op.Runs history options t args c) :
    op.endingBy (Registry.ofRegistrations history).result (setsOf history options first) =
      c.ending args := by
  obtain ⟨targeted, given, found⟩ := id runs
  simp only [endingBy, runs.named, targeted, runs.supplied, given, Bool.false_eq_true, if_false]
  rw [setsOf, ending_createWith, candidatesIn_congr history options (same t), found]

/-- Without a candidate to run, the ending depends on what is missing. -/
lemma endingBy_of_not_runs {first : TypeTag → TypeTag} (same : ∀ t, (first t).is t = true)
    (named : op.namesNoType = false) (nothing : ∀ t args c, ¬ op.Runs history options t args c) :
    (∃ t, op.target? (Registry.ofRegistrations history).result = some t ∧
      op.lacksArguments = true ∧
      op.endingBy (Registry.ofRegistrations history).result (setsOf history options first) =
        .finished (.error (.missingArguments (first t)))) ∨
    ((op.lacksArguments = false ∨ op.target? (Registry.ofRegistrations history).result = none) ∧
      op.endingBy (Registry.ofRegistrations history).result (setsOf history options first) =
        .finished (.ok ())) := by
  unfold endingBy
  rw [named]
  cases targeted : op.target? (Registry.ofRegistrations history).result with
  | none => exact .inr ⟨.inr rfl, rfl⟩
  | some t =>
    cases lacking : op.lacksArguments with
    | true => exact .inl ⟨t, rfl, rfl, rfl⟩
    | false =>
      refine .inr ⟨.inl rfl, ?_⟩
      cases given : op.arguments? with
      | none => rfl
      | some args =>
        have none : (candidatesIn history options t).find? (·.admits args) = none := by
          cases found : (candidatesIn history options t).find? (·.admits args) with
          | none => rfl
          | some c => exact absurd ⟨targeted, given, found⟩ (nothing t args c)
        have ends := ending_createWith history options (first t) args
        rw [candidatesIn_congr history options (same t), none] at ends
        exact ends

/-- An operation ends in exactly one of these ways. -/
lemma endingBy_eq_iff {first : TypeTag → TypeTag} (same : ∀ t, (first t).is t = true)
    {e : ActivationEnding} :
    op.endingBy (Registry.ofRegistrations history).result (setsOf history options first) = e ↔
      op.Ends history options first e := by
  constructor
  · rintro rfl
    by_cases busy : ∃ t args c, op.Runs history options t args c
    · obtain ⟨t, args, c, runs⟩ := busy
      rw [endingBy_of_runs same runs]
      rcases c.ending_cases args with
        ⟨finishes, ends⟩ | ⟨d, source, rfl, reported, ends⟩ | ⟨message, panics, ends⟩
      · rw [ends]
        exact .ran t args c runs finishes
      · rw [ends]
        exact .failed t args d source runs reported
      · rw [ends]
        exact .panicked t args c message runs panics
    · have nothing : ∀ t args c, ¬ op.Runs history options t args c := by
        intro t args c runs
        exact busy ⟨t, args, c, runs⟩
      cases named : op.namesNoType with
      | true =>
        rw [endingBy, if_pos named]
        exact .missingType named
      | false =>
        rcases endingBy_of_not_runs same named nothing with
          ⟨t, targeted, lacking, ends⟩ | ⟨supplied, ends⟩
        · rw [ends]
          exact .missingArguments t lacking targeted
        · rw [ends]
          exact .idle named supplied nothing
  · intro ends
    cases ends with
    | missingType unnamed => exact if_pos unnamed
    | missingArguments t lacking targeted =>
      have named : op.namesNoType = false := by
        by_contra unnamed
        rw [target?_of_namesNoType (by simpa using unnamed)] at targeted
        cases targeted
      simp [endingBy, named, targeted, lacking, setsOf, OverloadSet.ofRegistry]
    | failed t args c source runs reported =>
      exact (endingBy_of_runs same runs).trans (Candidate.ending_of_failed reported)
    | panicked t args c message runs panics =>
      exact (endingBy_of_runs same runs).trans (Candidate.ending_of_panicked panics)
    | ran t args c runs finishes =>
      exact (endingBy_of_runs same runs).trans (Candidate.ending_of_finishes finishes)
    | idle named supplied nothing =>
      rcases endingBy_of_not_runs same named nothing with ⟨t, targeted, lacking, -⟩ | ⟨-, ends⟩
      · rcases supplied with supplied | untargeted
        · rw [supplied] at lacking
          cases lacking
        · rw [untargeted] at targeted
          cases targeted
      · exact ends

end Operation

/-! ## Operations in a run -/

namespace Activator

/-- Every operation in a run ends as its kind and the overload sets of the registry tell. -/
lemma ending_perform {registry : Registry} {options : Options} {asked : List TypeTag}
    {a : Activator} (remembers : Remembers registry options asked a) (op : Operation) :
    (a.perform op).result.1.ending =
      op.endingBy registry fun t =>
        OverloadSet.ofRegistry registry options (firstAsked asked t) := by
  cases uncached : op.uncached? registry fun t =>
      OverloadSet.ofRegistry registry options (firstAsked asked t) with
  | some answer =>
    rw [perform_eq_uncached remembers uncached]
    exact Operation.ending_uncached
      (fun t => OverloadSet.createDefault_ofRegistry registry options _) uncached
  | none =>
    cases op with
    | get t => rfl
    | contains t => rfl
    | size => rfl
    | createInstance t => cases t <;> cases uncached
    | createInstanceWith t args => cases t <;> cases uncached
    | create t => cases uncached
    | createWith t args => cases uncached
    | createNamed name => cases uncached
    | createNamedWith name args => cases uncached
    | getOrBuild t => cases uncached

/-- **When activation fails.**  Take any operation in a run of an activator that starts without
published sets.
* It ends in a missing type if and only if it names none.
* It ends in missing arguments if and only if it is given none where there may be some, and its type
  is given or its name is known; the error tells this type.
* It ends in a failed constructor if and only if the candidate that it runs is a declared
  constructor that reported this failure; the error tells the requested type and the constructor.
* It panics if and only if that candidate does.
* It ends well in all other cases, also with a name that nobody claimed, without a candidate, with
  an argument that the constructor could not read, and with a zero that is no value.

The first two errors, and only they, are those of the caller. -/
theorem ending_perform_iff (history : List Registration) (options : Options)
    (earlier : List Operation) (op : Operation) :
    let registry := (Registry.ofRegistrations history).result
    let asked := earlier.filterMap (·.target? registry)
    let a := ((ofRegistry registry options).performAll earlier).result.2
    let ending := (a.perform op).result.1.ending
    (ending = .finished (.error .missingType) ↔ op.namesNoType = true) ∧
    (∀ t, ending = .finished (.error (.missingArguments t)) ↔
      op.lacksArguments = true ∧
        ∃ u, op.target? registry = some u ∧ t = firstAsked asked u ∧ t.is u = true) ∧
    (∀ t name source, ending = .finished (.error (.constructorFailed t name source)) ↔
      ∃ u args c, op.Runs history options u args (.declared c) ∧
        (c.body ⟨args⟩).1 = .finished (.error (.failed source)) ∧
        t = c.owner ∧ t.is u = true ∧ name = c.name) ∧
    (∀ message, ending = .panicked message ↔
      ∃ t args c, op.Runs history options t args c ∧ c.outcome args = .panicked message) ∧
    (ending = .finished (.ok ()) ↔
      op.namesNoType = false ∧ (op.lacksArguments = false ∨ op.target? registry = none) ∧
        ∀ t args c, op.Runs history options t args c → c.Finishes args) ∧
    ∀ e : ActivationError,
      e.isContractViolation = true ↔ e = .missingType ∨ ∃ t, e = .missingArguments t := by
  intro registry asked a ending
  have remembers : Remembers registry options asked a :=
    remembers_performAll (remembers_ofRegistry registry options) earlier
  have same := fun t => (firstAsked_spec asked t).1
  have ends : ∀ e, ending = e ↔ op.Ends history options (firstAsked asked) e := by
    intro e
    rw [← Operation.endingBy_eq_iff same, show ending = _ from ending_perform remembers op]
    rfl
  refine ⟨?_, fun t => ?_, fun t name source => ?_, fun message => ?_, ?_, fun e => ?_⟩
  · rw [ends]
    constructor
    · rintro ⟨unnamed⟩
      exact unnamed
    · exact .missingType
  · rw [ends]
    constructor
    · intro missing
      cases missing with
      | missingArguments u lacking targeted => exact ⟨lacking, u, targeted, rfl, same u⟩
    · rintro ⟨lacking, u, targeted, rfl, -⟩
      exact .missingArguments u lacking targeted
  · rw [ends]
    constructor
    · intro failed
      cases failed with
      | failed u args c source runs reported =>
        exact ⟨u, args, c, runs, Candidate.outcome_declared_eq_failed_iff.1 reported, rfl,
          runs.owner_is, rfl⟩
    · rintro ⟨u, args, c, runs, reported, rfl, -, rfl⟩
      exact .failed u args c source runs (Candidate.outcome_declared_eq_failed_iff.2 reported)
  · rw [ends]
    constructor
    · intro panicked
      cases panicked with
      | panicked t args c message runs panics => exact ⟨t, args, c, runs, panics⟩
    · rintro ⟨t, args, c, runs, panics⟩
      exact .panicked t args c message runs panics
  · rw [ends]
    constructor
    · intro well
      cases well with
      | ran t args c runs finishes =>
        refine ⟨runs.named, .inl runs.supplied, fun t' args' c' runs' => ?_⟩
        obtain ⟨rfl, rfl⟩ := runs.unique runs'
        exact finishes
      | idle named supplied nothing =>
        exact ⟨named, supplied, fun t args c runs => absurd runs (nothing t args c)⟩
    · rintro ⟨named, supplied, finishes⟩
      by_cases busy : ∃ t args c, op.Runs history options t args c
      · obtain ⟨t, args, c, runs⟩ := busy
        exact .ran t args c runs (finishes t args c runs)
      · exact .idle named supplied fun t args c runs => busy ⟨t, args, c, runs⟩
  · cases e <;> simp [ActivationError.isContractViolation]

end Activator

end Activation
