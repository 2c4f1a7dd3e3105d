import Activation.Activator
import Mathlib

/-!
# Operations on an activator

What an activator can be asked for, as data: activations by type and by name, overload sets, and
what the memo holds.  A run does operations one after the other, each with the activator that the
one before it left (`Activator.performAll`).

Every operation either asks for the overload set of one type and goes on with it, or does not touch
the memo.  The type is `Operation.target?`, and what an activation makes of the set is
`Operation.uncached?`, which knows nothing of a memo.  `Activator.perform_of_target` and
`Activator.perform_of_no_target` take every operation apart in this way.  What an operation does
besides asking for the set never puts a set together or publishes one
(`filter_isPublication_uncached`).
-/

namespace Activation

/-! ## Operations -/

/-- Something that an activator can be asked for. -/
inductive Operation
  | createInstance (t : Option TypeTag)
  | createInstanceWith (t : Option TypeTag) (args : Option (List Argument))
  | create (t : TypeTag)
  | createWith (t : TypeTag) (args : List Argument)
  | createNamed (name : String)
  | createNamedWith (name : String) (args : Option (List Argument))
  | getOrBuild (t : TypeTag)
  | get (t : TypeTag)
  | contains (t : TypeTag)
  | size

/-- What an operation answers. -/
inductive Answer
  | reply (r : Reply)
  /-- The content of a new object, for a caller who knows the type. -/
  | content (c : Outcome (Except ActivationError (Option Datum)))
  | set (s : OverloadSet)
  /-- The published set, if there is one. -/
  | published (s : Option OverloadSet)
  | flag (b : Bool)
  | number (n : ℕ)

namespace Activator

/-- Does one operation. -/
def perform (a : Activator) : Operation → Logged (Answer × Activator)
  | .createInstance t => do
    let (r, a) ← a.createInstance t
    pure (.reply r, a)
  | .createInstanceWith t args => do
    let (r, a) ← a.createInstanceWith t args
    pure (.reply r, a)
  | .create t => do
    let (c, a) ← a.create t
    pure (.content c, a)
  | .createWith t args => do
    let (c, a) ← a.createWith t args
    pure (.content c, a)
  | .createNamed name => do
    let (r, a) ← a.createNamed name
    pure (.reply r, a)
  | .createNamedWith name args => do
    let (r, a) ← a.createNamedWith name args
    pure (.reply r, a)
  | .getOrBuild t => do
    let (s, a) ← a.getOrBuild t
    pure (.set s, a)
  | .get t => pure (.published (a.memo.get? t), a)
  | .contains t => pure (.flag (a.memo.contains t), a)
  | .size => pure (.number a.memo.size, a)

/-- Does operations one after the other. -/
def performAll (a : Activator) : List Operation → Logged (List Answer × Activator)
  | [] => pure ([], a)
  | op :: rest => do
    let (answer, a) ← a.perform op
    let (answers, a) ← a.performAll rest
    pure (answer :: answers, a)

end Activator

/-! ## Operations without a memo -/

/-- The type that a name means; a blank name means none. -/
def Registry.named? (r : Registry) (name : String) : Option TypeTag :=
  if (Text.trim name).isEmpty then none else r.resolve (Text.trim name)

/-- The type whose overload set an operation asks for. -/
def Operation.target? (r : Registry) : Operation → Option TypeTag
  | .createInstance t | .createInstanceWith t _ => t
  | .create t | .createWith t _ | .getOrBuild t => some t
  | .createNamed name | .createNamedWith name _ => r.named? name
  | .get _ | .contains _ | .size => none

/-- The reply for the type that a name means.  A blank name is a missing type, and a name that
nobody claimed is reported. -/
def Registry.replyNamed (r : Registry) (name : String) (reply : TypeTag → Logged Reply) :
    Logged Reply :=
  match r.named? name with
  | some t => reply t
  | none =>
    if (Text.trim name).isEmpty then pure (Reply.error .missingType)
    else do
      Logged.report (.unknownName (Text.trim name))
      pure .nothing

/-- What an activation answers without a memo, if `setOf` gives the overload set of each type.  The
other operations are about the memo itself. -/
def Operation.uncached? (r : Registry) (setOf : TypeTag → OverloadSet) :
    Operation → Option (Logged Answer)
  | .createInstance none | .createInstanceWith none _ =>
    some (pure (.reply (Reply.error .missingType)))
  | .createInstance (some t) => some (.reply <$> (setOf t).createDefault)
  | .createInstanceWith (some t) args => some (.reply <$> (setOf t).create args)
  | .create t => some ((fun reply => .content (reply.narrow t)) <$> (setOf t).createDefault)
  | .createWith t args =>
    some ((fun reply => .content (reply.narrow t)) <$> (setOf t).create (some args))
  | .createNamed name => some (.reply <$> r.replyNamed name fun t => (setOf t).createDefault)
  | .createNamedWith name args => some (.reply <$> r.replyNamed name fun t => (setOf t).create args)
  | .getOrBuild t => some (pure (.set (setOf t)))
  | .get _ | .contains _ | .size => none

namespace Activator

/-! ## One operation -/

lemma resolveName_of_named {a : Activator} {name : String} {t : TypeTag}
    (known : a.registry.named? name = some t) : a.resolveName name = pure (.ok (some t)) := by
  unfold Registry.named? at known
  split at known
  · cases known
  · rename_i present
    simp [resolveName, present, known]

lemma resolveName_of_blank {a : Activator} {name : String}
    (blank : (Text.trim name).isEmpty = true) :
    a.resolveName name = pure (.error .missingType) := by
  simp [resolveName, blank]

lemma resolveName_of_unknown {a : Activator} {name : String}
    (unknown : a.registry.named? name = none) (present : (Text.trim name).isEmpty = false) :
    a.resolveName name = (do
      Logged.report (.unknownName (Text.trim name))
      pure (.ok none)) := by
  simp only [Registry.named?, present, Bool.false_eq_true, if_false] at unknown
  simp [resolveName, present, unknown]

/-- An operation that asks for no set leaves the activator as it is. -/
lemma perform_of_no_target {a : Activator} {op : Operation}
    (untargeted : op.target? a.registry = none) (setOf : TypeTag → OverloadSet) :
    (a.perform op).result.2 = a ∧
      (op.uncached? a.registry setOf = none ∧ (a.perform op).events = [] ∨
        ∃ answer, op.uncached? a.registry setOf = some answer ∧
          (a.perform op).result.1 = answer.result ∧ (a.perform op).events = answer.events) := by
  cases op with
  | createInstance t =>
    obtain rfl : t = none := untargeted
    exact ⟨rfl, .inr ⟨_, rfl, rfl, rfl⟩⟩
  | createInstanceWith t args =>
    obtain rfl : t = none := untargeted
    exact ⟨rfl, .inr ⟨_, rfl, rfl, rfl⟩⟩
  | create t => simp [Operation.target?] at untargeted
  | createWith t args => simp [Operation.target?] at untargeted
  | getOrBuild t => simp [Operation.target?] at untargeted
  | createNamed name =>
    replace untargeted : a.registry.named? name = none := untargeted
    cases blank : (Text.trim name).isEmpty with
    | true =>
      simp [perform, createNamed, Operation.uncached?, Registry.replyNamed, untargeted, blank,
        resolveName_of_blank blank]
    | false =>
      simp [perform, createNamed, Operation.uncached?, Registry.replyNamed, untargeted, blank,
        resolveName_of_unknown untargeted blank]
  | createNamedWith name args =>
    replace untargeted : a.registry.named? name = none := untargeted
    cases blank : (Text.trim name).isEmpty with
    | true =>
      simp [perform, createNamedWith, Operation.uncached?, Registry.replyNamed, untargeted, blank,
        resolveName_of_blank blank]
    | false =>
      simp [perform, createNamedWith, Operation.uncached?, Registry.replyNamed, untargeted, blank,
        resolveName_of_unknown untargeted blank]
  | get t => exact ⟨rfl, .inl ⟨rfl, rfl⟩⟩
  | contains t => exact ⟨rfl, .inl ⟨rfl, rfl⟩⟩
  | size => exact ⟨rfl, .inl ⟨rfl, rfl⟩⟩

/-- An operation that asks for the set of a type goes on with what it gets, and leaves the activator
as asking alone does. -/
lemma perform_of_target {a : Activator} {op : Operation} {t : TypeTag}
    (targeted : op.target? a.registry = some t) (setOf : TypeTag → OverloadSet)
    (gets : (a.getOrBuild t).result.1 = setOf t) :
    (a.perform op).result.2 = (a.getOrBuild t).result.2 ∧
      ∃ answer, op.uncached? a.registry setOf = some answer ∧
        (a.perform op).result.1 = answer.result ∧
        (a.perform op).events = (a.getOrBuild t).events ++ answer.events := by
  cases op with
  | createInstance t' =>
    obtain rfl : t' = some t := targeted
    refine ⟨rfl, _, rfl, ?_, ?_⟩ <;> simp [perform, createInstance, gets]
  | createInstanceWith t' args =>
    obtain rfl : t' = some t := targeted
    refine ⟨rfl, _, rfl, ?_, ?_⟩ <;> simp [perform, createInstanceWith, gets]
  | create t' =>
    obtain rfl : t' = t := Option.some.inj targeted
    refine ⟨rfl, _, rfl, ?_, ?_⟩ <;> simp [perform, create, createInstance, gets]
  | createWith t' args =>
    obtain rfl : t' = t := Option.some.inj targeted
    refine ⟨rfl, _, rfl, ?_, ?_⟩ <;> simp [perform, createWith, createInstanceWith, gets]
  | getOrBuild t' =>
    obtain rfl : t' = t := Option.some.inj targeted
    refine ⟨rfl, _, rfl, ?_, ?_⟩ <;> simp [perform, gets]
  | createNamed name =>
    replace targeted : a.registry.named? name = some t := targeted
    simp only [perform, createNamed, resolveName_of_named targeted, Operation.uncached?,
      Registry.replyNamed, targeted]
    refine ⟨rfl, _, rfl, ?_, ?_⟩ <;> simp [createInstance, gets]
  | createNamedWith name args =>
    replace targeted : a.registry.named? name = some t := targeted
    simp only [perform, createNamedWith, resolveName_of_named targeted, Operation.uncached?,
      Registry.replyNamed, targeted]
    refine ⟨rfl, _, rfl, ?_, ?_⟩ <;> simp [createInstanceWith, gets]
  | get t' => simp [Operation.target?] at targeted
  | contains t' => simp [Operation.target?] at targeted
  | size => simp [Operation.target?] at targeted

/-- All that an operation does to the activator is to ask for the set of its type. -/
lemma perform_leaves (a : Activator) (op : Operation) :
    (a.perform op).result.2 =
      match op.target? a.registry with
      | none => a
      | some t => (a.getOrBuild t).result.2 := by
  cases targeted : op.target? a.registry with
  | none =>
    exact (perform_of_no_target targeted (OverloadSet.ofRegistry a.registry a.options)).1
  | some t => exact (perform_of_target targeted (fun _ => (a.getOrBuild t).result.1) rfl).1

end Activator

/-! ## What is not reported -/

/-- Whether the event reports that an overload set was put together or published. -/
def Event.isPublication : Event → Bool
  | .builtSet .. | .publishedSet .. => true
  | _ => false

lemma filter_isPublication_conclude (o : Overload)
    (outcome : Outcome (Except InvokeError (Option Instance))) :
    (o.conclude outcome).events.filter Event.isPublication = [] := by
  rcases outcome with ((_ | _) | _) | _ <;> rfl

lemma filter_isPublication_createDefault (s : OverloadSet) :
    s.createDefault.events.filter Event.isPublication = [] := by
  unfold OverloadSet.createDefault
  cases s.default? with
  | none => rfl
  | some o => exact filter_isPublication_conclude o _

lemma filter_isPublication_create (s : OverloadSet) (args : Option (List Argument)) :
    (s.create args).events.filter Event.isPublication = [] := by
  cases args with
  | none => rfl
  | some args =>
    show (s.createWith args).events.filter Event.isPublication = []
    unfold OverloadSet.createWith
    cases s.select? args with
    | none => rfl
    | some o =>
      show (o.activate args).events.filter Event.isPublication = []
      unfold Overload.activate
      split
      · exact filter_isPublication_conclude o _
      · rfl

lemma filter_isPublication_replyNamed {r : Registry} {name : String}
    {reply : TypeTag → Logged Reply}
    (quiet : ∀ t, (reply t).events.filter Event.isPublication = []) :
    (r.replyNamed name reply).events.filter Event.isPublication = [] := by
  unfold Registry.replyNamed
  cases r.named? name with
  | some t => exact quiet t
  | none =>
    dsimp only
    split <;> rfl

/-- Without a memo nothing is published. -/
lemma filter_isPublication_uncached {r : Registry} {setOf : TypeTag → OverloadSet}
    {op : Operation} {answer : Logged Answer} (uncached : op.uncached? r setOf = some answer) :
    answer.events.filter Event.isPublication = [] := by
  cases op with
  | createInstance t =>
    cases t with
    | none =>
      cases uncached
      rfl
    | some t =>
      cases uncached
      rw [Logged.events_map]
      exact filter_isPublication_createDefault _
  | createInstanceWith t args =>
    cases t with
    | none =>
      cases uncached
      rfl
    | some t =>
      cases uncached
      rw [Logged.events_map]
      exact filter_isPublication_create _ args
  | create t =>
    cases uncached
    rw [Logged.events_map]
    exact filter_isPublication_createDefault _
  | createWith t args =>
    cases uncached
    rw [Logged.events_map]
    exact filter_isPublication_create _ (some args)
  | createNamed name =>
    cases uncached
    rw [Logged.events_map]
    exact filter_isPublication_replyNamed fun t => filter_isPublication_createDefault _
  | createNamedWith name args =>
    cases uncached
    rw [Logged.events_map]
    exact filter_isPublication_replyNamed fun t => filter_isPublication_create _ args
  | getOrBuild t =>
    cases uncached
    rfl
  | get t => cases uncached
  | contains t => cases uncached
  | size => cases uncached

end Activation
