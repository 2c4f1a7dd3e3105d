import Activation.Proofs.Extension
import Activation.Proofs.Failures

/-!
# Registrations in another order

Linked records arrive in whatever order the linker left them.  This file says what of a registry
survives that.

A history and its reordering (`Reorders`) tell the same about every type, and give it the same
constructors in another order (`Reorders.typeInfo?_eq`, `Reorders.constructorsOf_perm`).  If no two
of the constructors answer to the same arguments (`Unambiguous`), then the order cannot be seen in
the first that does (`find?_of_perm`), and the zeros of a type depend on what is told about it
alone.  So the arguments select the same on both sides (`Reorders.select?_eq`).

`activation_reordered` adds what callers see: activations of such a type, by type or by a name that
means it, are answered the same by activators of both registries at any two points of their runs.
-/

namespace Activation

/-! ## Reordered histories -/

/-- The second history has the registrations of the first, and the type registrations of each type
in the same order. -/
structure Reorders (history history' : List Registration) : Prop where
  perm : history.Perm history'
  ordered : ∀ t : TypeTag, (history.filterMap (·.typeInfo?)).filter (·.tag.is t) =
    (history'.filterMap (·.typeInfo?)).filter (·.tag.is t)

/-- No two constructors answer to the same arguments. -/
def Unambiguous (options : Options) (constructors : List Constructor) : Prop :=
  ∀ args, ∀ c ∈ constructors, ∀ d ∈ constructors,
    c.answers options args = true → d.answers options args = true → c = d

/-- Parameters that take values of different types at the same position never accept the same
arguments. -/
lemma not_acceptedBy_both {parameters parameters' : List Parameter} (i : ℕ)
    (bound : i < parameters.length) (bound' : i < parameters'.length)
    (takesValue : parameters[i].shape = .value) (takesValue' : parameters'[i].shape = .value)
    (apart : parameters[i].type.ident ≠ parameters'[i].type.ident) {args : List Argument}
    (accepted : acceptedBy parameters args = true) : ¬ acceptedBy parameters' args = true := by
  intro accepted'
  obtain ⟨length, each⟩ := acceptedBy_iff.1 accepted
  obtain ⟨-, each'⟩ := acceptedBy_iff.1 accepted'
  have admits := each i bound (by omega)
  have admits' := each' i bound' (by omega)
  cases given : args[i] with
  | null => simp [given, Parameter.admits, takesValue] at admits
  | value v =>
    have type : v.tag.ident = parameters[i].type.ident := by
      simpa [given, Parameter.admits, takesValue] using admits
    have type' : v.tag.ident = parameters'[i].type.ident := by
      simpa [given, Parameter.admits, takesValue'] using admits'
    exact apart (type.symm.trans type')

/-- Finding an element does not depend on the order if no two different ones pass the test. -/
lemma find?_of_perm {α : Type} {l l' : List α} {p : α → Bool} (perm : l.Perm l')
    (unique : ∀ a ∈ l, ∀ b ∈ l, p a = true → p b = true → a = b) : l.find? p = l'.find? p := by
  cases found : l.find? p with
  | none =>
    rw [List.find?_eq_none] at found
    exact (List.find?_eq_none.2 fun a member => found a (perm.mem_iff.2 member)).symm
  | some a =>
    have passes : p a = true := List.find?_some found
    have member : a ∈ l := List.mem_of_find?_eq_some found
    cases found' : l'.find? p with
    | none => exact absurd passes (List.find?_eq_none.1 found' a (perm.mem_iff.1 member))
    | some b =>
      have passes' : p b = true := List.find?_some found'
      have member' : b ∈ l := perm.mem_iff.2 (List.mem_of_find?_eq_some found')
      rw [unique a member b member' passes passes']

namespace Reorders

variable {history history' : List Registration}

/-- Both histories tell the same about a type. -/
lemma typeInfo?_eq (reorders : Reorders history history') (t : TypeTag) :
    (Registry.ofRegistrations history).result.typeInfo? t =
      (Registry.ofRegistrations history').result.typeInfo? t := by
  rw [Registry.typeInfo?_ofRegistrations, Registry.typeInfo?_ofRegistrations, firstTypeInfo?,
    firstTypeInfo?, ← List.head?_filter, reorders.ordered, List.head?_filter]

/-- A type has the same constructors by both histories. -/
lemma constructorsOf_perm (reorders : Reorders history history') (t : TypeTag) :
    ((Registry.ofRegistrations history).result.constructorsOf t).Perm
      ((Registry.ofRegistrations history').result.constructorsOf t) := by
  rw [Registry.constructorsOf_ofRegistrations, Registry.constructorsOf_ofRegistrations]
  exact (reorders.perm.filterMap _).filter _

lemma zeroOverloads_eq (reorders : Reorders history history') (options : Options) (t : TypeTag) :
    (Registry.ofRegistrations history).result.zeroOverloads options t =
      (Registry.ofRegistrations history').result.zeroOverloads options t := by
  simp only [Registry.zeroOverloads, Registry.memberOverload?, Registry.kind,
    reorders.typeInfo?_eq t]

lemma find?_answers_eq (reorders : Reorders history history') {options : Options} {t : TypeTag}
    (unambiguous :
      Unambiguous options ((Registry.ofRegistrations history).result.constructorsOf t))
    (args : List Argument) :
    ((Registry.ofRegistrations history).result.constructorsOf t).find? (·.answers options args) =
      ((Registry.ofRegistrations history').result.constructorsOf t).find?
        (·.answers options args) :=
  find?_of_perm (reorders.constructorsOf_perm t) (unambiguous args)

/-- The arguments select the same overload. -/
lemma select?_eq (reorders : Reorders history history') {options : Options} {t : TypeTag}
    (unambiguous :
      Unambiguous options ((Registry.ofRegistrations history).result.constructorsOf t))
    (args : List Argument) :
    (OverloadSet.ofRegistry (Registry.ofRegistrations history).result options t).select? args =
      (OverloadSet.ofRegistry (Registry.ofRegistrations history').result options t).select?
        args := by
  rw [select?_eq_or, select?_eq_or, reorders.find?_answers_eq unambiguous,
    reorders.zeroOverloads_eq]

end Reorders

/-! ## What callers see -/

namespace Operation

/-- How an activation of the type tells its caller the reply. -/
def tell (op : Operation) (t : TypeTag) (reply : Reply) : Answer :=
  match op with
  | .create _ | .createWith _ _ => .content (reply.narrow t)
  | _ => .reply reply

/-- Without a memo, an activation of a type from arguments tells what its overload set makes of
them. -/
lemma uncached_of_arguments {r : Registry} {setOf : TypeTag → OverloadSet}
    (defaults : ∀ t, (setOf t).createDefault = (setOf t).createWith []) {op : Operation}
    {t : TypeTag} {args : List Argument} (targeted : op.target? r = some t)
    (given : op.arguments? = some args) :
    ∃ answer, op.uncached? r setOf = some answer ∧
      answer.result = op.tell t ((setOf t).createWith args).result := by
  cases op with
  | createInstance t' =>
    obtain rfl : t' = some t := targeted
    obtain rfl : [] = args := Option.some.inj given
    exact ⟨_, rfl, by rw [defaults]; rfl⟩
  | createInstanceWith t' args' =>
    obtain rfl : t' = some t := targeted
    obtain rfl : args' = some args := given
    exact ⟨_, rfl, rfl⟩
  | create t' =>
    obtain rfl : t' = t := Option.some.inj targeted
    obtain rfl : [] = args := Option.some.inj given
    exact ⟨_, rfl, by rw [defaults]; rfl⟩
  | createWith t' args' =>
    obtain rfl : t' = t := Option.some.inj targeted
    obtain rfl : args' = args := Option.some.inj given
    exact ⟨_, rfl, rfl⟩
  | createNamed name =>
    replace targeted : r.named? name = some t := targeted
    obtain rfl : [] = args := Option.some.inj given
    refine ⟨_, rfl, ?_⟩
    simp only [Registry.replyNamed, targeted, defaults]
    rfl
  | createNamedWith name args' =>
    replace targeted : r.named? name = some t := targeted
    obtain rfl : args' = some args := given
    refine ⟨_, rfl, ?_⟩
    simp only [Registry.replyNamed, targeted]
    rfl
  | getOrBuild t' => cases given
  | get t' => cases given
  | contains t' => cases given
  | size => cases given

end Operation

/-- At every point of a run, an activation of a type from arguments tells what the overload set of
the type makes of them. -/
lemma Activator.answer_of_arguments (history : List Registration) (options : Options)
    (earlier : List Operation) {op : Operation} {t : TypeTag} {args : List Argument}
    (targeted : op.target? (Registry.ofRegistrations history).result = some t)
    (given : op.arguments? = some args) :
    let r := (Registry.ofRegistrations history).result
    let a := ((Activator.ofRegistry r options).performAll earlier).result.2
    (a.perform op).result.1 =
      op.tell t ((OverloadSet.ofRegistry r options t).createWith args).result := by
  intro r a
  have remembers : Remembers r options (earlier.filterMap (·.target? r)) a :=
    remembers_performAll (remembers_ofRegistry r options) earlier
  obtain ⟨answer, uncached, told⟩ := Operation.uncached_of_arguments
    (fun t => OverloadSet.createDefault_ofRegistry r options _) targeted given
  rw [perform_eq_uncached remembers uncached, told]
  -- The set may be published under another tag of the type, which the candidates do not show.
  have same := (firstAsked_spec (earlier.filterMap (·.target? r)) t).1
  rw [createWith_congr
    (congrArg (List.find? _) (candidatesIn_congr history options same))]

/-- **Linking order does not show.**  Take a history and a reordering of it, in which the type
registrations of each type stay in order, and a type no two of whose constructors that may be run
accept the same arguments.
* The set of the type has a default overload by both histories, or by neither.
* Every argument list selects the same by both: the same constructor if one answers to it, and
  otherwise the same zero or nothing.
* Activation of the type from any arguments, and from none, gives the same and reports the same.
* So the operations that activate the type are answered the same, wherever they stand in runs of two
  activators.  A name can make a difference only by meaning another type. -/
theorem activation_reordered {history history' : List Registration}
    (reorders : Reorders history history') (options : Options) (t : TypeTag)
    (unambiguous :
      Unambiguous options ((Registry.ofRegistrations history).result.constructorsOf t)) :
    let r := (Registry.ofRegistrations history).result
    let r' := (Registry.ofRegistrations history').result
    let s := (OverloadSet.build r options t).result
    let s' := (OverloadSet.build r' options t).result
    s.hasDefault = s'.hasDefault ∧
    (∀ args, ∃ (chosen : Option Constructor) (zero : Option Overload),
      (r.constructorsOf t).find? (·.answers options args) = chosen ∧
      (r'.constructorsOf t).find? (·.answers options args) = chosen ∧
      (r.zeroOverloads options t).find? (·.accepts args) = zero ∧
      (r'.zeroOverloads options t).find? (·.accepts args) = zero ∧
      s.select? args = (chosen.map Overload.ofConstructor).or zero ∧
      s'.select? args = (chosen.map Overload.ofConstructor).or zero) ∧
    (∀ args, s.create (some args) = s'.create (some args)) ∧
    s.createDefault = s'.createDefault ∧
    ∀ (earlier earlier' : List Operation) (op : Operation) (args : List Argument),
      op.arguments? = some args → op.target? r = some t → op.target? r' = some t →
      (((Activator.ofRegistry r options).performAll earlier).result.2.perform op).result.1 =
        (((Activator.ofRegistry r' options).performAll earlier').result.2.perform op).result.1 := by
  intro r r' s s'
  have selects : ∀ args, s.select? args = s'.select? args := reorders.select?_eq unambiguous
  have creates : ∀ args, s.createWith args = s'.createWith args := by
    intro args
    rw [OverloadSet.createWith, OverloadSet.createWith, selects]
  refine ⟨?_, fun args => ?_, creates, ?_, ?_⟩
  · have default_eq : s.default? = s'.default? :=
      (OverloadSet.default?_ofRegistry r options t).trans
        ((selects []).trans (OverloadSet.default?_ofRegistry r' options t).symm)
    rw [OverloadSet.hasDefault, OverloadSet.hasDefault, default_eq]
  · refine ⟨_, _, rfl, (reorders.find?_answers_eq unambiguous args).symm, rfl, ?_,
      select?_eq_or r options t args, ?_⟩
    · rw [reorders.zeroOverloads_eq]
    · exact (selects args).symm.trans (select?_eq_or r options t args)
  · exact (OverloadSet.createDefault_ofRegistry r options t).trans
      ((creates []).trans (OverloadSet.createDefault_ofRegistry r' options t).symm)
  · intro earlier earlier' op args given targeted targeted'
    rw [Activator.answer_of_arguments history options earlier targeted given,
      Activator.answer_of_arguments history' options earlier' targeted' given]
    exact congrArg (fun reply => op.tell t reply.result) (creates args)

/-- The constructor of messages with the name, from one value of the type. -/
def messageFrom (name : String) (type : TypeTag) (made : Except InvokeError Datum) : Registration :=
  .constructorByHand (.basic "Message") ((Signature.named name).value "content" type)
    fun args => (.finished made, args)

/-- Messages are made from texts and from truth values, and the type is registered twice. -/
def messages : List Registration :=
  [messageFrom "of_text" .string (.ok (.text "sent")), .typeByHand (.basic "Message") .record,
    messageFrom "of_flag" .boolean (.error (.failed "no text")),
    .typeByHand (.basic "Message") .plain]

/-- The same registrations, the constructors first and in the other order. -/
def messagesReordered : List Registration :=
  [messageFrom "of_flag" .boolean (.error (.failed "no text")),
    messageFrom "of_text" .string (.ok (.text "sent")),
    .typeByHand (.basic "Message") .record, .typeByHand (.basic "Message") .plain]

/-- Both orders answer a truth value in the same way. -/
theorem messages_reordered :
    Reorders messages messagesReordered ∧
    Unambiguous .standard
      ((Registry.ofRegistrations messages).result.constructorsOf (.basic "Message")) ∧
    ((Activator.ofRegistry (Registry.ofRegistrations messages).result .standard).perform
        (.createWith (.basic "Message") [.value ⟨.boolean, .bool true⟩])).result.1 =
      ((Activator.ofRegistry (Registry.ofRegistrations messagesReordered).result .standard).perform
        (.createWith (.basic "Message") [.value ⟨.boolean, .bool true⟩])).result.1 := by
  have reorders : Reorders messages messagesReordered := by
    refine ⟨?_, fun t => rfl⟩
    refine (List.Perm.cons _ (.swap _ _ _)).trans ?_
    exact (List.Perm.swap _ _ _).trans (.cons _ (.refl _))
  have unambiguous : Unambiguous .standard
      ((Registry.ofRegistrations messages).result.constructorsOf (.basic "Message")) := by
    have apart : ∀ args, acceptedBy [⟨"content", .string, .value⟩] args = true →
        ¬ acceptedBy [⟨"content", .boolean, .value⟩] args = true :=
      fun args => not_acceptedBy_both 0 (by decide) (by decide) rfl rfl (by decide)
    have members : (Registry.ofRegistrations messages).result.constructorsOf (.basic "Message") =
        declaredIn messages (.basic "Message") :=
      Registry.constructorsOf_ofRegistrations messages (.basic "Message")
    intro args c member d member' answers answers'
    rw [members] at member member'
    have accepted : acceptedBy c.parameters args = true := (Bool.and_eq_true _ _ ▸ answers).2
    have accepted' : acceptedBy d.parameters args = true := (Bool.and_eq_true _ _ ▸ answers').2
    rcases List.mem_pair.1 member with rfl | rfl <;> rcases List.mem_pair.1 member' with rfl | rfl
    · rfl
    · exact absurd accepted' (apart args accepted)
    · exact absurd accepted (apart args accepted')
    · rfl
  refine ⟨reorders, unambiguous, ?_⟩
  exact (activation_reordered reorders .standard (.basic "Message") unambiguous).2.2.2.2 [] [] _ _
    rfl rfl rfl

end Activation
