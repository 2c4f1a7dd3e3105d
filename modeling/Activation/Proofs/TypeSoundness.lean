import Activation.Proofs.LinkedParsers
import Activation.Proofs.Reordering

/-!
# Objects are of the type that was asked for

An object is tagged with a type when it is made, far from where it is asked for: in the body of a
linked constructor, in the table of zero values, or in the function that finds the members of an
enumeration.  On the way back nobody compares the tag with the type, until a caller who knows the
type takes the content out and silently gets nothing if the two differ.

This file shows that they never do, provided that the code of linked constructors and enumerations
makes objects of its own type (`Registration.MakesOwnType`).  What carries the proof is that each
candidate of a type makes objects of the type (`makes_of_mem_candidatesIn`).  A constructor is filed
under its owner, a zero under the type it is the zero of (`tag_of_produce_zeroOf`), and a member
under the type that the registration of the enumeration is about.

`activation_type_sound` says what callers see: an object is of the type that was asked for, and a
caller who knows the type gets the content of every object.
-/

namespace Activation

/-! ## Code that makes objects of its own type -/

/-- The members of an enumeration that are found are of the type. -/
def TypeKind.FindsOwnType (t : TypeTag) : TypeKind → Prop
  | .plain | .record => True
  | .enumeration info =>
    ∀ literal i, info.parse literal = .finished (some i) → i.tag.is t = true

/-- The code that is registered makes objects of the type that the registration is about.  There is
nothing to ask of a constructor that is registered by hand, since its objects are tagged for it. -/
def Registration.MakesOwnType : Registration → Prop
  | .typeByHand t kind => kind.FindsOwnType t
  | .typeRecord r => r.kind.FindsOwnType r.tag
  | .constructorByHand _ _ _ => True
  | .constructorRecord r =>
    ∀ args i, (r.body args).1 = .finished (.ok i) → i.tag.is r.owner = true

namespace Registration.MakesOwnType

variable {registration : Registration}

lemma findsOwnType (own : registration.MakesOwnType) {info : TypeInfo}
    (tells : registration.typeInfo? = some info) : info.kind.FindsOwnType info.tag := by
  cases registration with
  | typeByHand t kind =>
    cases tells
    exact own
  | typeRecord r =>
    cases tells
    exact own
  | constructorByHand owner signature body => cases tells
  | constructorRecord r => cases tells

lemma tag_is_owner (own : registration.MakesOwnType) {c : Constructor}
    (declares : registration.constructor? = some c) {args : ArgumentList} {i : Instance}
    (made : (c.body args).1 = .finished (.ok i)) : i.tag.is c.owner = true := by
  cases registration with
  | typeByHand t kind => cases declares
  | typeRecord r => cases declares
  | constructorByHand owner signature body =>
    cases declares
    -- The body gives a content, and the registration tags it with the owner.
    simp only [Body.map] at made
    cases ran : (body args).1 with
    | panicked message =>
      rw [ran] at made
      cases made
    | finished outcome =>
      rw [ran] at made
      cases outcome with
      | error e => cases made
      | ok d =>
        cases made
        exact owner.is_refl
  | constructorRecord r =>
    cases declares
    exact own args i made

end Registration.MakesOwnType

lemma tag_eq_of_mem_zeroTable :
    ∀ e ∈ zeroTable, ∀ i, e.2.produce = some i → i.tag = e.1 := by
  simp only [zeroTable, List.forall_mem_append, List.forall_mem_map, List.forall_mem_cons]
  simp [zeroLine, ZeroValue.produce]

/-- A zero value is of the type that it is the zero of. -/
lemma tag_of_produce_zeroOf {t : TypeTag} {zero : ZeroValue} {i : Instance}
    (known : zeroOf? t = some zero) (made : zero.produce = some i) : i.tag.is t = true := by
  obtain ⟨e, found, rfl⟩ := Option.map_eq_some_iff.1 known
  have same : e.1.is t = true := by simpa using List.find?_some found
  rw [tag_eq_of_mem_zeroTable e (List.mem_of_find?_eq_some found) i made]
  exact same

/-! ## Candidates -/

/-- The candidate makes objects of the type only. -/
def Candidate.Makes (t : TypeTag) (c : Candidate) : Prop :=
  ∀ args i, (c.reply args).result = .finished (.ok (some i)) → i.tag.is t = true

lemma makes_declared {t : TypeTag} {c : Constructor} (owned : c.owner.is t = true)
    (own : ∀ args i, (c.body args).1 = .finished (.ok i) → i.tag.is c.owner = true) :
    (Candidate.declared c).Makes t := by
  intro args i made
  simp only [Candidate.reply] at made
  cases ran : (c.body ⟨args⟩).1 with
  | panicked message =>
    rw [ran] at made
    cases made
  | finished outcome =>
    rw [ran] at made
    rcases outcome with (⟨index, expected⟩ | source) | j
    · cases made
    · cases made
    · cases made
      have same := own ⟨args⟩ i ran
      rw [TypeTag.is_eq_true_iff] at same owned ⊢
      exact same.trans owned

lemma makes_zero {t : TypeTag} {zero : ZeroValue} (known : zeroOf? t = some zero) :
    (Candidate.zero zero).Makes t := by
  intro args i made
  have produced : zero.produce = some i := by simpa [Candidate.reply] using made
  exact tag_of_produce_zeroOf known produced

lemma makes_member {t : TypeTag} {told : TypeInfo} {info : Enumeration} {literal : String}
    (about : told.tag.is t = true) (kind : told.kind = .enumeration info)
    (finds : told.kind.FindsOwnType told.tag) : (Candidate.member info literal).Makes t := by
  rw [kind] at finds
  intro args i made
  simp only [Candidate.reply] at made
  cases parsed : info.parse literal with
  | panicked message =>
    rw [parsed] at made
    cases made
  | finished found =>
    rw [parsed] at made
    cases made
    have same := finds literal i parsed
    rw [TypeTag.is_eq_true_iff] at same about ⊢
    exact same.trans about

/-- All candidates of a type make objects of the type. -/
lemma makes_of_mem_candidatesIn {history : List Registration}
    (own : ∀ registration ∈ history, registration.MakesOwnType) {options : Options} {t : TypeTag}
    {c : Candidate} (member : c ∈ candidatesIn history options t) : c.Makes t := by
  rcases of_mem_candidatesIn member with
    ⟨d, allowed, rfl⟩ | ⟨zero, known, rfl⟩ | ⟨told, info, literal, first, kind, rfl⟩
  · obtain ⟨owned, registration, registered, declares⟩ :=
      of_mem_declaredIn (List.mem_filter.1 allowed).1
    exact makes_declared owned fun args i => (own registration registered).tag_is_owner declares
  · exact makes_zero known
  · obtain ⟨about, registration, registered, tells⟩ := of_firstTypeInfo?_eq_some first
    exact makes_member about kind ((own registration registered).findsOwnType tells)

/-- Whatever arguments a type is activated from, an object that comes of it is of the type. -/
lemma tag_is_of_createWith {history : List Registration}
    (own : ∀ registration ∈ history, registration.MakesOwnType) {options : Options} {t : TypeTag}
    {args : List Argument} {i : Instance}
    (made : ((OverloadSet.ofRegistry (Registry.ofRegistrations history).result options t).createWith
      args).result = .finished (.ok (some i))) : i.tag.is t = true := by
  rcases createWith_cases history options t args with
    ⟨-, -, nothing⟩ | ⟨c, -, found, -, -, reply⟩
  · rw [nothing] at made
    cases made
  · rw [reply] at made
    exact makes_of_mem_candidatesIn own (List.mem_of_find?_eq_some found) args i made

/-! ## What callers see -/

/-- The answer with the content of the object in place of the object. -/
def Reply.content (reply : Reply) : Outcome (Except ActivationError (Option Datum)) :=
  reply.map (Except.map (Option.map (·.datum)))

/-- A caller who knows the type gets the content if the object is of the type. -/
lemma narrow_eq_content {reply : Reply} {t : TypeTag}
    (typed : ∀ i, reply = .finished (.ok (some i)) → i.tag.is t = true) :
    reply.narrow t = reply.content := by
  rcases reply with (e | _ | i) | message
  · rfl
  · rfl
  · have taken : i.downcast? t = some i.datum := if_pos (typed i rfl)
    simp [Reply.narrow, Reply.content, Except.map, taken]
  · rfl

lemma content_eq_nothing_iff {reply : Reply} :
    reply.content = .finished (.ok none) ↔ reply = .nothing := by
  rcases reply with (e | _ | i) | message <;>
    simp [Reply.content, Reply.nothing, Except.map]

/-- The same activation by a caller who does not know the type. -/
def Operation.untyped? : Operation → Option Operation
  | .create t => some (.createInstance (some t))
  | .createWith t args => some (.createInstanceWith (some t) (some args))
  | .createInstance _ | .createInstanceWith _ _ | .createNamed _ | .createNamedWith _ _
  | .getOrBuild _ | .get _ | .contains _ | .size => none

lemma eq_of_tell_eq_reply {op : Operation} {t : TypeTag} {reply reply' : Reply}
    (told : op.tell t reply = .reply reply') : reply = reply' := by
  cases op <;> cases told <;> rfl

/-- An activation of a type that ends well is one from arguments. -/
lemma exists_arguments_of_reply {a : Activator} {op : Operation} {t : TypeTag}
    {i : Option Instance} (targeted : op.target? a.registry = some t)
    (answered : (a.perform op).result.1 = .reply (.finished (.ok i))) :
    ∃ args, op.arguments? = some args := by
  cases op with
  | createInstance t' => exact ⟨[], rfl⟩
  | createNamed name => exact ⟨[], rfl⟩
  | create t' => exact ⟨[], rfl⟩
  | createWith t' args => exact ⟨args, rfl⟩
  | createInstanceWith t' args =>
    cases args with
    | some args => exact ⟨args, rfl⟩
    | none =>
      obtain rfl : t' = some t := targeted
      cases answered
  | createNamedWith name args =>
    cases args with
    | some args => exact ⟨args, rfl⟩
    | none =>
      have known := Activator.resolveName_of_named targeted
      simp only [Activator.perform, Activator.createNamedWith, known] at answered
      cases answered
  | getOrBuild t' => cases answered
  | get t' => cases answered
  | contains t' => cases answered
  | size => cases answered

/-- **Activation is type-sound.**  Let the code of all linked constructors and of all enumerations
make objects of its own type.  Then at every point of every run
* an object that an activation answers is of the type that was asked for, whether the type was given
  or named;
* a caller who knows the type is answered with what a caller who does not is answered, and gets the
  content of every object: no content exactly if no object is made. -/
theorem activation_type_sound {history : List Registration}
    (own : ∀ registration ∈ history, registration.MakesOwnType) (options : Options)
    (earlier : List Operation) :
    let registry := (Registry.ofRegistrations history).result
    let a := ((Activator.ofRegistry registry options).performAll earlier).result.2
    (∀ op t i, op.target? registry = some t →
      (a.perform op).result.1 = .reply (.finished (.ok (some i))) → i.tag.is t = true) ∧
    ∀ op untyped, op.untyped? = some untyped →
      ∃ reply, (a.perform untyped).result.1 = .reply reply ∧
        (a.perform op).result.1 = .content reply.content ∧
        ((a.perform op).result.1 = .content (.finished (.ok none)) ↔
          (a.perform untyped).result.1 = .reply .nothing) := by
  intro registry a
  have registry_eq : a.registry = registry :=
    (Activator.remembers_performAll (Activator.remembers_ofRegistry registry options)
      earlier).registry_eq
  let made (t : TypeTag) (args : List Argument) : Reply :=
    ((OverloadSet.ofRegistry registry options t).createWith args).result
  have answers : ∀ op t args, op.target? registry = some t → op.arguments? = some args →
      (a.perform op).result.1 = op.tell t (made t args) :=
    fun op t args => Activator.answer_of_arguments history options earlier
  have sound : ∀ t args i, made t args = .finished (.ok (some i)) → i.tag.is t = true :=
    fun t args i => tag_is_of_createWith own
  constructor
  · intro op t i targeted answered
    obtain ⟨args, given⟩ := exists_arguments_of_reply (registry_eq ▸ targeted) answered
    rw [answers op t args targeted given] at answered
    exact sound t args i (eq_of_tell_eq_reply answered)
  · intro op untyped same
    -- Both activations are of one type from the same arguments, and have one reply to tell.
    have agree : ∃ t args, (a.perform untyped).result.1 = .reply (made t args) ∧
        (a.perform op).result.1 = .content ((made t args).narrow t) := by
      cases op with
      | create t =>
        cases same
        exact ⟨t, [], answers _ t [] rfl rfl, answers _ t [] rfl rfl⟩
      | createWith t args =>
        cases same
        exact ⟨t, args, answers _ t args rfl rfl, answers _ t args rfl rfl⟩
      | createInstance t => cases same
      | createInstanceWith t args => cases same
      | createNamed name => cases same
      | createNamedWith name args => cases same
      | getOrBuild t => cases same
      | get t => cases same
      | contains t => cases same
      | size => cases same
    obtain ⟨t, args, replied, told⟩ := agree
    rw [narrow_eq_content (sound t args)] at told
    refine ⟨made t args, replied, told, ?_⟩
    rw [replied, told, Answer.content.injEq, Answer.reply.injEq]
    exact content_eq_nothing_iff

/-- Switches have two members, and can be made from a truth value. -/
def switches : List Registration :=
  [.typeByHand (.basic "Switch") (.enumeration
      (.numbered (.basic "Switch") (.basic "u8") [("on", 1), ("off", 0)])),
    .constructorRecord
      ⟨.basic "Switch", "set", true, [⟨"on", .boolean, .value⟩],
        fun args => (.finished (.ok ⟨.basic "Switch", .member "on"⟩), args), "sample"⟩]

/-- A switch that is made by name is a switch, and a caller who knows the type does not lose it. -/
theorem switches_type_sound :
    (∀ registration ∈ switches, registration.MakesOwnType) ∧
    let a := Activator.ofRegistry (Registry.ofRegistrations switches).result .standard
    let args := [.value ⟨.boolean, .bool true⟩]
    (a.perform (.createNamedWith " Switch" (some args))).result.1 =
        .reply (.finished (.ok (some ⟨.basic "Switch", .member "on"⟩))) ∧
      (⟨.basic "Switch", .member "on"⟩ : Instance).tag.is (.basic "Switch") = true ∧
      (a.perform (.createWith (.basic "Switch") args)).result.1 =
        .content (.finished (.ok (some (.member "on")))) := by
  have own : ∀ registration ∈ switches, registration.MakesOwnType := by
    simp only [switches, List.forall_mem_cons, Registration.MakesOwnType, TypeKind.FindsOwnType]
    refine ⟨fun literal i found => ?_, fun args i made => ?_, by simp⟩
    · simp only [Enumeration.numbered, memberOf, Outcome.finished.injEq,
        Option.map_eq_some_iff] at found
      obtain ⟨m, -, rfl⟩ := found
      rfl
    · cases made
      rfl
  have sound := activation_type_sound own .standard []
  have made : ((OverloadSet.ofRegistry (Registry.ofRegistrations switches).result .standard
      (.basic "Switch")).createWith [.value ⟨.boolean, .bool true⟩]).result =
        .finished (.ok (some ⟨.basic "Switch", .member "on"⟩)) := by
    rw [OverloadSet.createWith, OverloadSet.select?_ofRegistry]
    rfl
  have named := @Activator.answer_of_arguments switches .standard []
    (.createNamedWith " Switch" (some [.value ⟨.boolean, .bool true⟩])) (.basic "Switch")
    [.value ⟨.boolean, .bool true⟩] rfl rfl
  have untyped := @Activator.answer_of_arguments switches .standard []
    (.createInstanceWith (some (.basic "Switch")) (some [.value ⟨.boolean, .bool true⟩]))
    (.basic "Switch") [.value ⟨.boolean, .bool true⟩] rfl rfl
  dsimp only at named untyped sound
  rw [made] at named untyped
  refine ⟨own, named, sound.1 _ _ _ rfl named, ?_⟩
  obtain ⟨reply, replied, told, -⟩ :=
    sound.2 (.createWith (.basic "Switch") [.value ⟨.boolean, .bool true⟩]) _ rfl
  obtain rfl := Answer.reply.inj (replied.symm.trans untyped)
  exact told

end Activation
