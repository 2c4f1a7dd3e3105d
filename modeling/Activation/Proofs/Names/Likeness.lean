import Activation.Proofs.History
import Activation.Proofs.Operation

/-!
# Alike except for names

Types, constructors and parameters have names that are shown to people.  This file says when values,
outcomes and reports are the same except for names that they show.

For values this is what comparing them says: it looks at the identities of types and never at their
names, also inside a value.  Every value is like itself (`Datum.beq_refl`).  Outcomes are alike if
they are of the same form with like values or with errors that have the same cause, and reports if
they tell the same about the same types.

Computations that report on their way are alike if their results and their reports are.  This goes
through their parts (`Logged.Alike.pure`, `Logged.Alike.bind`), so that two programs of one form are
compared part by part.
-/

namespace Activation

/-! ## Values -/

mutual

lemma Datum.beq_refl : ∀ d : Datum, Datum.beq d d = true
  | .unit => rfl
  | .bool b => by simp [Datum.beq]
  | .char c => by simp [Datum.beq]
  | .int n => by simp [Datum.beq]
  | .float32 bits => by simp [Datum.beq]
  | .float64 bits => by simp [Datum.beq]
  | .duration seconds nanoseconds => by simp [Datum.beq]
  | .uuid bits => by simp [Datum.beq]
  | .text s => by simp [Datum.beq]
  | .list items => Datum.beqList_refl items
  | .absent => rfl
  | .present d => Datum.beq_refl d
  | .member name => by simp [Datum.beq]
  | .record fields => Datum.beqFields_refl fields
  | .null => rfl
  | .boxed t d => by simp [Datum.beq, Datum.beq_refl d, TypeTag.is_refl]

lemma Datum.beqList_refl : ∀ items : List Datum, Datum.beqList items items = true
  | [] => rfl
  | d :: rest => by simp [Datum.beqList, Datum.beq_refl d, Datum.beqList_refl rest]

lemma Datum.beqFields_refl : ∀ fields : List (String × Datum), Datum.beqFields fields fields = true
  | [] => rfl
  | (name, d) :: rest => by simp [Datum.beqFields, Datum.beq_refl d, Datum.beqFields_refl rest]

end

instance : ReflBEq Datum := ⟨Datum.beq_refl _⟩

instance : ReflBEq Tagged where
  rfl {v} := by
    show (v.tag.is v.tag && v.datum == v.datum) = true
    simp

instance : ReflBEq Argument where
  rfl {a} := by
    cases a with
    | null => rfl
    | value v => exact BEq.refl v

/-- The values are the same, if names are not looked at. -/
def Alike {α : Type} [BEq α] (a b : α) : Prop := (a == b) = true

lemma Alike.refl {α : Type} [BEq α] [ReflBEq α] (a : α) : Alike a a := BEq.refl a

/-- Like objects are of one type and have like contents. -/
lemma alike_tagged_iff {v v' : Tagged} :
    Alike v v' ↔ v.tag.is v'.tag = true ∧ Alike v.datum v'.datum := by
  show (v.tag.is v'.tag && v.datum == v'.datum) = true ↔ _
  rw [Bool.and_eq_true]
  rfl

/-! ## Outcomes -/

/-- Both finish with related results, or panic with one message. -/
inductive Outcome.Alike {α β : Type} (R : α → β → Prop) : Outcome α → Outcome β → Prop
  | finished {a : α} {b : β} (same : R a b) : Outcome.Alike R (.finished a) (.finished b)
  | panicked (message : String) : Outcome.Alike R (.panicked message) (.panicked message)

/-- Both are related values, or related errors. -/
inductive ResultAlike {ε α β : Type} (E : ε → ε → Prop) (V : α → β → Prop) :
    Except ε α → Except ε β → Prop
  | ok {a : α} {b : β} (same : V a b) : ResultAlike E V (.ok a) (.ok b)
  | error {e e' : ε} (same : E e e') : ResultAlike E V (.error e) (.error e')

/-- The errors have one cause.  Which type was expected of an argument is told by name only. -/
inductive InvokeError.Alike : InvokeError → InvokeError → Prop
  | argument (index : ℕ) (expected expected' : String) :
      InvokeError.Alike (.argument index expected) (.argument index expected')
  | failed (source : String) : InvokeError.Alike (.failed source) (.failed source)

/-- The errors have one cause and quote the same types, possibly by other names. -/
inductive ActivationError.Alike : ActivationError → ActivationError → Prop
  | missingType : ActivationError.Alike .missingType .missingType
  | missingArguments {t t' : TypeTag} (same : t.is t' = true) :
      ActivationError.Alike (.missingArguments t) (.missingArguments t')
  | constructorFailed {t t' : TypeTag} (same : t.is t' = true) (name name' source : String) :
      ActivationError.Alike (.constructorFailed t name source) (.constructorFailed t' name' source)

/-- What came of the code of two overloads is the same except for names. -/
abbrev RunsAlike : Outcome (Except InvokeError (Option Instance)) →
    Outcome (Except InvokeError (Option Instance)) → Prop :=
  Outcome.Alike (ResultAlike InvokeError.Alike (Option.Rel Alike))

/-- The replies are the same except for names. -/
abbrev Reply.Alike : Reply → Reply → Prop :=
  Outcome.Alike (ResultAlike ActivationError.Alike (Option.Rel Activation.Alike))

/-- What a caller who knows the type gets is the same except for names. -/
abbrev ContentAlike : Outcome (Except ActivationError (Option Datum)) →
    Outcome (Except ActivationError (Option Datum)) → Prop :=
  Outcome.Alike (ResultAlike ActivationError.Alike (Option.Rel Alike))

lemma Reply.Alike.nothing : Reply.Alike .nothing .nothing := .finished (.ok .none)

lemma relOption_alike_refl {α : Type} [BEq α] [ReflBEq α] :
    ∀ o : Option α, Option.Rel Alike o o
  | none => .none
  | some a => .some (Alike.refl a)

/-- A caller who knows the type gets like contents from like replies. -/
lemma Reply.Alike.narrow {reply reply' : Reply} (alike : Reply.Alike reply reply') {t t' : TypeTag}
    (same : t.is t' = true) : ContentAlike (reply.narrow t) (reply'.narrow t') := by
  cases alike with
  | panicked message => exact .panicked message
  | finished alike =>
    cases alike with
    | error alike => exact .finished (.error alike)
    | ok alike =>
      cases alike with
      | none => exact .finished (.ok .none)
      | @some i i' alike =>
        obtain ⟨tags, contents⟩ := alike_tagged_iff.1 alike
        refine .finished (.ok ?_)
        show Option.Rel _ (i.downcast? t) (i'.downcast? t')
        rw [Tagged.downcast?, Tagged.downcast?, TypeTag.is_eq_is tags same]
        split
        · exact .some contents
        · exact .none

/-! ## Reports -/

/-- The reports that activation makes tell the same about one type. -/
inductive Event.Alike : Event → Event → Prop
  | builtSet {t t' : TypeTag} (same : t.is t' = true) (overloads discarded : ℕ)
      (hasDefault : Bool) :
      Event.Alike (.builtSet t overloads discarded hasDefault)
        (.builtSet t' overloads discarded hasDefault)
  | publishedSet {t t' : TypeTag} (same : t.is t' = true) (published : ℕ) :
      Event.Alike (.publishedSet t published) (.publishedSet t' published)
  | rejectedArgument {t t' : TypeTag} (same : t.is t' = true) (name name' : String) (index : ℕ)
      (expected expected' : String) :
      Event.Alike (.rejectedArgument t name index expected)
        (.rejectedArgument t' name' index expected')

/-- Results are related, and what is reported on the way is the same except for names. -/
structure Logged.Alike {α β : Type} (R : α → β → Prop) (x : Logged α) (y : Logged β) : Prop where
  result : R x.result y.result
  events : List.Forall₂ Event.Alike x.events y.events

namespace Logged.Alike

variable {α β γ δ : Type} {R : α → β → Prop} {S : γ → δ → Prop}

lemma pure {a : α} {b : β} (same : R a b) :
    Logged.Alike R (Pure.pure a : Logged α) (Pure.pure b) := ⟨same, .nil⟩

lemma report {e e' : Event} (same : e.Alike e') :
    Logged.Alike (fun _ _ => True) (Logged.report e) (Logged.report e') :=
  ⟨trivial, .cons same .nil⟩

lemma bind {x : Logged α} {y : Logged β} (first : Logged.Alike R x y) {f : α → Logged γ}
    {g : β → Logged δ} (next : ∀ a b, R a b → Logged.Alike S (f a) (g b)) :
    Logged.Alike S (x >>= f) (y >>= g) := by
  have later := next x.result y.result first.result
  exact ⟨later.result, List.rel_append first.events later.events⟩

end Logged.Alike

end Activation
