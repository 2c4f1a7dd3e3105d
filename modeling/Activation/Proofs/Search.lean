import Activation.Proofs.History
import Activation.Proofs.Selection

/-!
# Activation as a search

Activating a type from arguments filters the declared constructors, turns them into overloads, adds
overloads for zero values, ranks all of them by arity and then looks for the first that accepts the
arguments.  This file describes the same thing without overloads and without ranking.

A *candidate* is a declared constructor, the zero value of the type, or the zero member of an
enumeration.  `candidatesIn` lists the candidates that a history gives a type: the constructors in
the order of registration, and the zeros after them.  A candidate accepts arguments by the shapes of
its parameters (`Candidate.admits`), and `search` runs the first candidate that does.

`createWith_build_eq_search` says that activation is that search, down to the events that it
reports.  The overloads of a type are those of its candidates, one by one
(`candidates_ofRegistrations`), and represent them (`represents_candidates`); the first of either
list that accepts the arguments is found at the same place (`find?_of_forall₂`), and what is found is
independent of the ranking (`OverloadSet.select?_ofRegistry`).
-/

namespace Activation

/-! ## Candidates -/

/-- Something that activation of a type may run. -/
inductive Candidate
  | declared (c : Constructor)
  /-- The zero value of a well-known type. -/
  | zero (value : ZeroValue)
  /-- The member of an enumeration that a literal names. -/
  | member (info : Enumeration) (literal : String)

namespace Candidate

/-- The parameters; only declared constructors have any. -/
def parameters : Candidate → List Parameter
  | declared c => c.parameters
  | zero _ | member _ _ => []

/-- Whether the candidate has exactly as many parameters as there are arguments, and each accepts
its argument. -/
def admits (c : Candidate) (args : List Argument) : Bool := acceptedBy c.parameters args

/-- What the caller gets from running the candidate.  An argument that a constructor cannot read
after all is reported and gives no instance. -/
def reply (args : List Argument) : Candidate → Logged Reply
  | declared c =>
    match (c.body ⟨args⟩).1 with
    | .finished (.ok i) => pure (.finished (.ok (some i)))
    | .finished (.error (.argument index expected)) => do
      Logged.report (.rejectedArgument c.owner c.name index expected)
      pure .nothing
    | .finished (.error (.failed source)) =>
      pure (Reply.error (.constructorFailed c.owner c.name source))
    | .panicked message => pure (.panicked message)
  | zero value => pure (.finished (.ok value.produce))
  | member info literal =>
    match info.parse literal with
    | .finished i => pure (.finished (.ok i))
    | .panicked message => pure (.panicked message)

end Candidate

/-- The declared constructors of a type that may be run: public ones, or all if that is asked for,
and none with a raw pointer among its parameters. -/
def eligible (options : Options) (declared : List Constructor) : List Constructor :=
  declared.filter fun c =>
    (c.isPublic || options.includeNonPublic) && !c.parameters.any (·.shape == .pointer)

/-- The zero value as a candidate, if it is asked for and the type has one. -/
def zeroCandidates (options : Options) (t : TypeTag) : List Candidate :=
  if options.zeroFallback then (zeroOf? t).toList.map .zero else []

/-- The zero member as a candidate, if it is asked for, the first registration of the type makes it
an enumeration, and the zero of the type that its members are numbered in has a literal. -/
def memberCandidates (history : List Registration) (options : Options) (t : TypeTag) :
    List Candidate :=
  if options.enumerationFallback then
    match (firstTypeInfo? history t).map TypeInfo.kind with
    | some (.enumeration info) =>
      ((zeroOf? info.underlying).bind (·.literal?)).toList.map (.member info)
    | _ => []
  else []

/-- All candidates of a type: the constructors in the order of registration, then the zero value,
then the zero member. -/
def candidatesIn (history : List Registration) (options : Options) (t : TypeTag) :
    List Candidate :=
  (eligible options (declaredIn history t)).map .declared ++ zeroCandidates options t ++
    memberCandidates history options t

/-- Candidates do not tell apart tags of one type. -/
lemma candidatesIn_congr (history : List Registration) (options : Options) {t u : TypeTag}
    (same : t.is u = true) : candidatesIn history options t = candidatesIn history options u := by
  have pointwise : ∀ v : TypeTag, v.is t = v.is u := TypeTag.is_congr same
  unfold candidatesIn zeroCandidates memberCandidates declaredIn firstTypeInfo? zeroOf?
  simp only [pointwise]

/-- A zero candidate is the zero value of the type. -/
lemma of_mem_zeroCandidates {options : Options} {t : TypeTag} {c : Candidate}
    (member : c ∈ zeroCandidates options t) :
    ∃ value, zeroOf? t = some value ∧ c = .zero value := by
  unfold zeroCandidates at member
  split at member
  · obtain ⟨value, known, rfl⟩ := List.mem_map.1 member
    exact ⟨value, by simpa using known, rfl⟩
  · cases member

/-- A member candidate belongs to what the first registration of the type makes it. -/
lemma of_mem_memberCandidates {history : List Registration} {options : Options} {t : TypeTag}
    {c : Candidate} (member : c ∈ memberCandidates history options t) :
    ∃ told info literal, firstTypeInfo? history t = some told ∧ told.kind = .enumeration info ∧
      c = .member info literal := by
  unfold memberCandidates at member
  split at member
  · split at member
    · rename_i info enumeration
      obtain ⟨literal, -, rfl⟩ := List.mem_map.1 member
      obtain ⟨told, first, kind⟩ := Option.map_eq_some_iff.1 enumeration
      exact ⟨told, info, literal, first, kind, rfl⟩
    · cases member
  · cases member

/-- Every candidate is of one of the three kinds. -/
lemma of_mem_candidatesIn {history : List Registration} {options : Options} {t : TypeTag}
    {c : Candidate} (member : c ∈ candidatesIn history options t) :
    (∃ d ∈ eligible options (declaredIn history t), c = .declared d) ∨
    (∃ value, zeroOf? t = some value ∧ c = .zero value) ∨
    ∃ told info literal, firstTypeInfo? history t = some told ∧ told.kind = .enumeration info ∧
      c = .member info literal := by
  rw [candidatesIn, List.mem_append, List.mem_append] at member
  rcases member with (declared | zero) | member
  · obtain ⟨d, allowed, rfl⟩ := List.mem_map.1 declared
    exact .inl ⟨d, allowed, rfl⟩
  · exact .inr (.inl (of_mem_zeroCandidates zero))
  · exact .inr (.inr (of_mem_memberCandidates member))

/-- Declared candidates of a type are constructors of the type. -/
lemma owner_is_of_mem_candidatesIn {history : List Registration} {options : Options} {t : TypeTag}
    {c : Constructor} (member : .declared c ∈ candidatesIn history options t) :
    c.owner.is t = true := by
  rcases of_mem_candidatesIn member with ⟨d, allowed, same⟩ | ⟨_, -, ⟨⟩⟩ | ⟨_, _, _, -, -, ⟨⟩⟩
  cases same
  exact (of_mem_declaredIn (List.mem_filter.1 allowed).1).1

/-- Runs the first candidate that accepts the arguments; without one there is no instance. -/
def search (history : List Registration) (options : Options) (t : TypeTag)
    (args : List Argument) : Logged Reply :=
  match (candidatesIn history options t).find? (·.admits args) with
  | some c => c.reply args
  | none => pure .nothing

/-! ## Overloads represent candidates -/

/-- An overload that accepts what a candidate accepts, and gives the same replies. -/
def Represents (c : Candidate) (o : Overload) : Prop :=
  ∀ args, o.accepts args = c.admits args ∧ o.conclude (o.run ⟨args⟩).1 = c.reply args

lemma represents_ofConstructor (c : Constructor) :
    Represents (.declared c) (Overload.ofConstructor c) := by
  intro args
  refine ⟨Overload.accepts_ofConstructor c args, ?_⟩
  simp only [Overload.ofConstructor, Body.map, Candidate.reply]
  rcases (c.body ⟨args⟩).1 with ((⟨index, expected⟩ | ⟨source⟩) | i) | message <;> rfl

lemma acceptedBy_nil (args : List Argument) : acceptedBy [] args = args.isEmpty := by
  cases args <;> rfl

lemma represents_zero (t : TypeTag) (value : ZeroValue) :
    Represents (.zero value) (.synthetic t "default" fun _ => .finished value.produce) := by
  intro args
  refine ⟨?_, rfl⟩
  rw [Overload.accepts_synthetic]
  exact (acceptedBy_nil args).symm

lemma represents_member (t : TypeTag) (info : Enumeration) (literal : String) :
    Represents (.member info literal) (.synthetic t "zero" fun _ => info.parse literal) := by
  intro args
  constructor
  · rw [Overload.accepts_synthetic]
    exact (acceptedBy_nil args).symm
  · simp only [Overload.synthetic, Candidate.reply]
    cases info.parse literal <;> rfl

lemma filterMap_ofConstructor? (declared : List Constructor) :
    declared.filterMap Overload.ofConstructor? =
      (declared.filter (!·.isUnsupported)).map Overload.ofConstructor := by
  induction declared with
  | nil => rfl
  | cons c rest ih =>
    cases unsupported : c.isUnsupported with
    | true => simp [Overload.ofConstructor?, unsupported, ih]
    | false => simp [Overload.ofConstructor?, unsupported, ih]

/-- The overloads of declared constructors are those of the eligible ones. -/
lemma declaredOverloads_eq (options : Options) (declared : List Constructor) :
    (declared.filter fun c => c.isPublic || options.includeNonPublic).filterMap
        Overload.ofConstructor? =
      (eligible options declared).map Overload.ofConstructor := by
  rw [filterMap_ofConstructor?, List.filter_filter, eligible]
  simp only [Bool.and_comm, Constructor.isUnsupported]

/-- The overload that a candidate of the type becomes. -/
def Candidate.overload (t : TypeTag) : Candidate → Overload
  | declared c => .ofConstructor c
  | zero value => .synthetic t "default" fun _ => .finished value.produce
  | member info literal => .synthetic t "zero" fun _ => info.parse literal

lemma Candidate.represents_overload (t : TypeTag) (c : Candidate) :
    Represents c (c.overload t) := by
  cases c with
  | declared c => exact represents_ofConstructor c
  | zero value => exact represents_zero t value
  | member info literal => exact represents_member t info literal

lemma toList_zeroOverload? (options : Options) (t : TypeTag) :
    (Registry.zeroOverload? options t).toList =
      (zeroCandidates options t).map (·.overload t) := by
  unfold zeroCandidates Registry.zeroOverload?
  cases options.zeroFallback with
  | false => rfl
  | true => cases zeroOf? t <;> rfl

lemma toList_memberOverload? (history : List Registration) (options : Options) (t : TypeTag) :
    ((Registry.ofRegistrations history).result.memberOverload? options t).toList =
      (memberCandidates history options t).map (·.overload t) := by
  unfold memberCandidates Registry.memberOverload? Registry.kind
  rw [Registry.typeInfo?_ofRegistrations]
  cases options.enumerationFallback with
  | false => rfl
  | true =>
    rcases (firstTypeInfo? history t).map TypeInfo.kind with _ | _ | _ | info
    · rfl
    · rfl
    · rfl
    · simp only [Option.getD_some, if_true]
      cases (zeroOf? info.underlying).bind (·.literal?) <;> rfl

/-- The unranked overloads of a type are those of its candidates, one by one. -/
lemma candidates_ofRegistrations (history : List Registration) (options : Options)
    (t : TypeTag) :
    (Registry.ofRegistrations history).result.candidates options t =
      (candidatesIn history options t).map (·.overload t) := by
  unfold candidatesIn Registry.candidates Registry.declaredOverloads
  rw [Registry.constructorsOf_ofRegistrations, declaredOverloads_eq, toList_zeroOverload?,
    toList_memberOverload?, List.map_append, List.map_append, List.map_map]
  rfl

lemma represents_candidates (history : List Registration) (options : Options) (t : TypeTag) :
    List.Forall₂ Represents (candidatesIn history options t)
      ((Registry.ofRegistrations history).result.candidates options t) := by
  rw [candidates_ofRegistrations, List.forall₂_map_right_iff, List.forall₂_same]
  exact fun c _ => c.represents_overload t

/-! ## Searching both -/

/-- In two lists with related elements, tests that agree on related elements find nothing in either
or related elements. -/
lemma find?_of_forall₂ {α β : Type} {R : α → β → Prop} {p : α → Bool} {q : β → Bool}
    (agree : ∀ a b, R a b → q b = p a) {l : List α} {k : List β} (related : List.Forall₂ R l k) :
    (l.find? p = none ∧ k.find? q = none) ∨
      ∃ a b, l.find? p = some a ∧ k.find? q = some b ∧ R a b := by
  induction related with
  | nil => exact .inl ⟨rfl, rfl⟩
  | @cons a b l k head _ ih =>
    rw [List.find?_cons, List.find?_cons, agree a b head]
    cases p a with
    | true => exact .inr ⟨a, b, rfl, rfl, head⟩
    | false => exact ih

/-- The arguments select the overload of the first candidate that accepts them. -/
lemma select?_ofRegistrations (history : List Registration) (options : Options) (t : TypeTag)
    (args : List Argument) :
    (OverloadSet.ofRegistry (Registry.ofRegistrations history).result options t).select? args =
      ((candidatesIn history options t).find? (·.admits args)).map (·.overload t) := by
  have accepts : (fun o : Overload => o.accepts args) ∘ (fun c : Candidate => c.overload t) =
      fun c => c.admits args := by
    funext c
    exact (c.represents_overload t args).1
  rw [OverloadSet.select?_ofRegistry, candidates_ofRegistrations, List.find?_map, accepts]

/-- Either no candidate accepts the arguments and nothing is selected, or the overload that is
selected represents the first candidate that does, and gives its reply. -/
lemma createWith_cases (history : List Registration) (options : Options) (t : TypeTag)
    (args : List Argument) :
    let s := OverloadSet.ofRegistry (Registry.ofRegistrations history).result options t
    ((candidatesIn history options t).find? (·.admits args) = none ∧ s.select? args = none ∧
        s.createWith args = pure .nothing) ∨
      ∃ c o, (candidatesIn history options t).find? (·.admits args) = some c ∧
        s.select? args = some o ∧ Represents c o ∧ s.createWith args = c.reply args := by
  intro s
  have selects : s.select? args = _ := select?_ofRegistrations history options t args
  cases found : (candidatesIn history options t).find? (·.admits args) with
  | none =>
    rw [found] at selects
    exact .inl ⟨rfl, selects, by rw [OverloadSet.createWith, selects]; rfl⟩
  | some c =>
    rw [found] at selects
    have represents := c.represents_overload t
    have accepted : (c.overload t).accepts args = true :=
      (represents args).1.trans (by simpa using List.find?_some found)
    refine .inr ⟨c, c.overload t, rfl, selects, represents, ?_⟩
    rw [OverloadSet.createWith, selects]
    show (c.overload t).activate args = c.reply args
    rw [Overload.activate, if_pos accepted, (represents args).2]

lemma createWith_eq_search (history : List Registration) (options : Options) (t : TypeTag)
    (args : List Argument) :
    (OverloadSet.ofRegistry (Registry.ofRegistrations history).result options t).createWith args =
      search history options t args := by
  unfold search
  rcases createWith_cases history options t args with
    ⟨none, -, reply⟩ | ⟨c, -, found, -, -, reply⟩
  · rw [none, reply]
  · rw [found, reply]

/-- Activation depends on the first candidate that accepts the arguments, and on nothing else. -/
lemma createWith_congr {history history' : List Registration} {options options' : Options}
    {t t' : TypeTag} {args : List Argument}
    (same : (candidatesIn history options t).find? (·.admits args) =
      (candidatesIn history' options' t').find? (·.admits args)) :
    (OverloadSet.ofRegistry (Registry.ofRegistrations history).result options t).createWith args =
      (OverloadSet.ofRegistry (Registry.ofRegistrations history').result options' t').createWith
        args := by
  rcases createWith_cases history options t args with
    ⟨none, -, reply⟩ | ⟨c, -, found, -, -, reply⟩
  · rcases createWith_cases history' options' t' args with
      ⟨-, -, reply'⟩ | ⟨c', -, found', -, -, -⟩
    · rw [reply, reply']
    · rw [← same, none] at found'
      cases found'
  · rcases createWith_cases history' options' t' args with
      ⟨none', -, -⟩ | ⟨c', -, found', -, -, reply'⟩
    · rw [← same, found] at none'
      cases none'
    · rw [← same, found] at found'
      cases found'
      rw [reply, reply']

/-- **Activation is a search.**  Whatever was registered, the overload set of a type gives to
arguments what running the first suitable candidate gives, events included. -/
theorem createWith_build_eq_search (history : List Registration) (options : Options) (t : TypeTag)
    (args : List Argument) :
    (OverloadSet.build (Registry.ofRegistrations history).result options t).result.create
        (some args) =
      search history options t args := by
  show (OverloadSet.ofRegistry _ options t).createWith args = _
  unfold OverloadSet.createWith search
  rw [OverloadSet.select?_ofRegistry]
  rcases find?_of_forall₂ (p := (·.admits args)) (q := (·.accepts args))
    (fun _ _ represents => (represents args).1) (represents_candidates history options t) with
    ⟨noCandidate, noOverload⟩ | ⟨c, o, candidate, overload, represents⟩
  · rw [noCandidate, noOverload]
  · have accepted : o.accepts args = true := by simpa using List.find?_some overload
    rw [candidate, overload]
    show o.activate args = c.reply args
    rw [Overload.activate, if_pos accepted, (represents args).2]

end Activation
