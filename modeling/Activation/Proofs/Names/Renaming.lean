import Activation.Proofs.Names.Likeness
import Activation.Proofs.Parallel

/-!
# Activation does not look at names

A history renames another one if it registers the same types and constructors in the same order,
whatever they and their parameters are called, whether they are registered by hand or linked in, and
whatever type a parameter that takes values of every type is declared with (`Constructor.Renames`).
Activation by name looks names up.  This file shows that activation by type never looks at them, not
even if different types come to share a name.

Bodies are compared on arguments that count as the same, and it is left open which do
(`ArgumentPairing`): only those that are the same down to the names, or all that are alike.

The proof follows two activators side by side.  Registries of the two histories give a type overload
sets that are alike (`OverloadSet.Alike`), whatever tag stands for the type.  Activators that build
and remember such sets stay so with every operation and answer alike (`Activator.Alike.perform`),
and therefore over whole runs (`Activator.Alike.performAll`).  `activation_ignores_names` has what
callers see of it.
-/

namespace Activation

/-! ## Renaming -/

/-- Which argument lists count as the same for the comparison of bodies. -/
structure ArgumentPairing where
  pairs : List Argument → List Argument → Prop
  nil : pairs [] []
  alike : ∀ args args', pairs args args' → List.Forall₂ Alike args args'

namespace ArgumentPairing

/-- Only equal argument lists count as the same, so that every body does the same as itself. -/
def equal : ArgumentPairing where
  pairs := Eq
  nil := rfl
  alike := by
    rintro args _ rfl
    exact List.forall₂_same.2 fun a _ => Alike.refl a

/-- All argument lists that are alike count as the same. -/
def upToNames : ArgumentPairing where
  pairs := List.Forall₂ Alike
  nil := .nil
  alike := fun _ _ alike => alike

end ArgumentPairing

variable {pairing : ArgumentPairing}

/-- The parameters have one shape, and one declared type unless they take values of every type. -/
structure Parameter.Renames (p p' : Parameter) : Prop where
  shape_eq : p.shape = p'.shape
  type_is : p.shape ≠ .dynamic → p.type.is p'.type = true

/-- The constructors belong to one type, are both public or neither, have parameters that
correspond, and their bodies do the same with arguments that count as the same. -/
structure Constructor.Renames (pairing : ArgumentPairing) (c c' : Constructor) : Prop where
  owner_is : c.owner.is c'.owner = true
  isPublic_eq : c.isPublic = c'.isPublic
  parameters : List.Forall₂ Parameter.Renames c.parameters c'.parameters
  body : ∀ args args', pairing.pairs args args' →
    Outcome.Alike (ResultAlike InvokeError.Alike Alike) (c.body ⟨args⟩).1 (c'.body ⟨args'⟩).1

/-- The functions give like members for one literal. -/
def MemberReader.Renames (parse parse' : MemberReader) : Prop :=
  ∀ literal, Outcome.Alike (Option.Rel Alike) (parse literal) (parse' literal)

/-- The registrations are of one type and one kind, or of corresponding constructors.  Nothing is
asked of their names and of where they come from. -/
def Registration.Renames (pairing : ArgumentPairing) : Registration → Registration → Prop :=
  Registration.Parallel (Constructor.Renames pairing) MemberReader.Renames

lemma Constructor.Renames.matches {c c' : Constructor} (renames : c.Renames pairing c') :
    c.Matches c' := by
  refine ⟨renames.owner_is, renames.isPublic_eq, ?_⟩
  have parameters := renames.parameters
  unfold Constructor.isUnsupported
  generalize c.parameters = ps, c'.parameters = ps' at parameters ⊢
  induction parameters with
  | nil => rfl
  | cons head _ ih => rw [List.any_cons, List.any_cons, ih, head.shape_eq]

/-! ## Acceptance -/

lemma Parameter.Renames.admits_eq {p p' : Parameter} (renames : p.Renames p') {a a' : Argument}
    (alike : Alike a a') : p'.admits a' = p.admits a := by
  cases a with
  | null =>
    cases a' with
    | null => rw [Parameter.admits, Parameter.admits, renames.shape_eq]
    | value v' => cases alike
  | value v =>
    cases a' with
    | null => cases alike
    | value v' =>
      have tags : v.tag.is v'.tag = true := (alike_tagged_iff.1 alike).1
      by_cases dynamic : p.shape = .dynamic
      · simp [Parameter.admits, ← renames.shape_eq, dynamic]
      · rw [Parameter.admits, Parameter.admits, renames.shape_eq,
          TypeTag.is_eq_is tags (renames.type_is dynamic)]

lemma acceptedBy_eq {parameters parameters' : List Parameter}
    (renames : List.Forall₂ Parameter.Renames parameters parameters') {args args' : List Argument}
    (alike : List.Forall₂ Alike args args') :
    acceptedBy parameters' args' = acceptedBy parameters args := by
  unfold acceptedBy
  rw [renames.length_eq, alike.length_eq]
  congr 1
  induction renames generalizing args args' with
  | nil => rfl
  | cons head _ ih =>
    cases alike with
    | nil => rfl
    | cons first rest =>
      simp only [List.zip_cons_cons, List.all_cons, head.admits_eq first, ih rest]

/-! ## Overloads -/

/-- The overloads are of one type, accept the same arguments, and come to the same on arguments that
count as the same. -/
structure Overload.Alike (pairing : ArgumentPairing) (o o' : Overload) : Prop where
  owner_is : o.owner.is o'.owner = true
  arity_eq : o.arity = o'.arity
  accepts_eq : ∀ args args', List.Forall₂ Activation.Alike args args' →
    o'.accepts args' = o.accepts args
  runs : ∀ args args', pairing.pairs args args' → RunsAlike (o.run ⟨args⟩).1 (o'.run ⟨args'⟩).1

namespace Overload

lemma alike_ofConstructor {c c' : Constructor} (renames : c.Renames pairing c') :
    (ofConstructor c).Alike pairing (ofConstructor c') := by
  refine ⟨renames.owner_is, ?_, fun args args' alike => ?_, fun args args' paired => ?_⟩
  · rw [arity_ofConstructor, arity_ofConstructor, renames.parameters.length_eq]
  · rw [accepts_ofConstructor, accepts_ofConstructor, acceptedBy_eq renames.parameters alike]
  · have bodies := renames.body args args' paired
    simp only [ofConstructor, Body.map]
    generalize (c.body ⟨args⟩).1 = came, (c'.body ⟨args'⟩).1 = came' at bodies ⊢
    cases bodies with
    | panicked message => exact .panicked message
    | finished same =>
      cases same with
      | ok same => exact .finished (.ok (.some same))
      | error same => exact .finished (.error same)

lemma alike_synthetic {t t' : TypeTag} (same : t.is t' = true) (name : String)
    {produce produce' : Unit → Outcome (Option Instance)}
    (alike : ∀ u, Outcome.Alike (Option.Rel Activation.Alike) (produce u) (produce' u)) :
    (synthetic t name produce).Alike pairing (synthetic t' name produce') := by
  refine ⟨same, rfl, fun args args' alike => ?_, fun args args' _ => ?_⟩
  · rw [accepts_synthetic, accepts_synthetic]
    cases alike <;> rfl
  · show RunsAlike ((produce ()).map .ok) ((produce' ()).map .ok)
    have came := alike ()
    generalize produce () = outcome, produce' () = outcome' at came ⊢
    cases came with
    | panicked message => exact .panicked message
    | finished same => exact .finished (.ok same)

/-- What overloads come to for the caller is the same except for names. -/
lemma Alike.conclude {o o' : Overload} (alike : o.Alike pairing o')
    {outcome outcome' : Outcome (Except InvokeError (Option Instance))}
    (came : RunsAlike outcome outcome') :
    Logged.Alike Reply.Alike (o.conclude outcome) (o'.conclude outcome') := by
  cases came with
  | panicked message => exact .pure (.panicked message)
  | finished same =>
    cases same with
    | ok same => exact .pure (.finished (.ok same))
    | error same =>
      cases same with
      | failed source =>
        exact .pure (.finished (.error (.constructorFailed alike.owner_is _ _ source)))
      | argument index expected expected' =>
        exact .bind (.report (.rejectedArgument alike.owner_is _ _ index expected expected'))
          fun _ _ _ => .pure .nothing

end Overload

lemma Candidate.overload_alike {t t' : TypeTag} (same : t.is t' = true) {c c' : Candidate}
    (renames : c.Parallel (Constructor.Renames pairing) MemberReader.Renames c') :
    (c.overload t).Alike pairing (c'.overload t') := by
  cases renames with
  | declared renames => exact Overload.alike_ofConstructor renames
  | zero value =>
    exact Overload.alike_synthetic same "default" fun _ =>
      .finished (relOption_alike_refl value.produce)
  | member renames literal => exact Overload.alike_synthetic same "zero" fun _ => renames literal

/-! ## Overload sets -/

/-- The sets are of one type, with overloads that are alike in the same places. -/
structure OverloadSet.Alike (pairing : ArgumentPairing) (s s' : OverloadSet) : Prop where
  tag_is : s.tag.is s'.tag = true
  overloads : List.Forall₂ (Overload.Alike pairing) s.overloads s'.overloads

namespace OverloadSet.Alike

variable {s s' : OverloadSet}

/-- Arguments that are alike select overloads in the same place. -/
lemma findIdx?_accepts (alike : s.Alike pairing s') {args args' : List Argument}
    (paired : List.Forall₂ Activation.Alike args args') :
    s'.overloads.findIdx? (·.accepts args') = s.overloads.findIdx? (·.accepts args) :=
  findIdx?_of_forall₂ (fun _ _ same => same.accepts_eq args args' paired) alike.overloads

lemma hasDefault_eq (alike : s.Alike pairing s') : s'.hasDefault = s.hasDefault :=
  hasDefault_of_forall₂ (fun _ _ same => same.arity_eq) alike.overloads

lemma createWith (alike : s.Alike pairing s') {args args' : List Argument}
    (paired : pairing.pairs args args') :
    Logged.Alike Reply.Alike (s.createWith args) (s'.createWith args') := by
  have lists := pairing.alike args args' paired
  unfold OverloadSet.createWith select?
  rcases find?_of_forall₂ (p := (·.accepts args)) (q := (·.accepts args'))
    (fun _ _ same => same.accepts_eq args args' lists) alike.overloads with
    ⟨none, none'⟩ | ⟨o, o', selected, selected', same⟩
  · rw [none, none']
    exact .pure .nothing
  · have accepted : o.accepts args = true := by simpa using List.find?_some selected
    have accepted' : o'.accepts args' = true := by simpa using List.find?_some selected'
    rw [selected, selected']
    show Logged.Alike Reply.Alike (o.activate args) (o'.activate args')
    rw [Overload.activate, Overload.activate, if_pos accepted, if_pos accepted']
    exact same.conclude (same.runs args args' paired)

lemma create (alike : s.Alike pairing s') {args args' : Option (List Argument)}
    (paired : Option.Rel pairing.pairs args args') :
    Logged.Alike Reply.Alike (s.create args) (s'.create args') := by
  cases paired with
  | none => exact .pure (.finished (.error (.missingArguments alike.tag_is)))
  | some paired => exact alike.createWith paired

lemma createDefault (alike : s.Alike pairing s') :
    Logged.Alike Reply.Alike s.createDefault s'.createDefault := by
  have overloads := alike.overloads
  unfold OverloadSet.createDefault
  rw [s.default_eq, s'.default_eq]
  generalize s.overloads = l, s'.overloads = l' at overloads ⊢
  cases overloads with
  | nil => exact .pure .nothing
  | @cons o o' _ _ same _ =>
    rw [List.head?_cons, List.head?_cons, Option.filter_some, Option.filter_some, same.arity_eq]
    by_cases zero : (o'.arity == 0) = true
    · rw [if_pos zero, if_pos zero]
      exact same.conclude (same.runs [] [] pairing.nil)
    · rw [if_neg zero, if_neg zero]
      exact .pure .nothing

end OverloadSet.Alike

/-- Renamed histories give a type sets that are alike, and report it in the same way. -/
lemma OverloadSet.alike_build {history history' : List Registration}
    (renamed : List.Forall₂ (Registration.Renames pairing) history history') (options : Options)
    {t t' : TypeTag} (same : t.is t' = true) :
    Logged.Alike (OverloadSet.Alike pairing)
      (build (Registry.ofRegistrations history).result options t)
      (build (Registry.ofRegistrations history').result options t') := by
  have overloads : List.Forall₂ (Overload.Alike pairing)
      (ofRegistry (Registry.ofRegistrations history).result options t).overloads
      (ofRegistry (Registry.ofRegistrations history').result options t').overloads :=
    forall₂_ofRegistrations (fun _ _ renames => renames.matches) (fun _ _ alike => alike.arity_eq)
      (fun _ _ renames => Candidate.overload_alike same renames) renamed same
  have alike : OverloadSet.Alike pairing
      (ofRegistry (Registry.ofRegistrations history).result options t)
      (ofRegistry (Registry.ofRegistrations history').result options t') := ⟨same, overloads⟩
  have size : (ofRegistry (Registry.ofRegistrations history).result options t).size =
      (ofRegistry (Registry.ofRegistrations history').result options t').size := overloads.length_eq
  refine .bind (.report ?_) fun _ _ _ => .pure alike
  rw [size, ← alike.hasDefault_eq,
    ← discarded_parallel (fun _ _ renames => renames.matches) renamed same]
  exact .builtSet same _ _ _

/-! ## Operations -/

/-- The operations ask for the same of one type, with arguments that count as the same.  Activation
by name is left out. -/
inductive Operation.Corresponds (pairing : ArgumentPairing) : Operation → Operation → Prop
  | createInstance {t t' : Option TypeTag} (types : Option.Rel (fun u u' => u.is u' = true) t t') :
      Corresponds pairing (.createInstance t) (.createInstance t')
  | createInstanceWith {t t' : Option TypeTag} {args args' : Option (List Argument)}
      (types : Option.Rel (fun u u' => u.is u' = true) t t')
      (paired : Option.Rel pairing.pairs args args') :
      Corresponds pairing (.createInstanceWith t args) (.createInstanceWith t' args')
  | create {t t' : TypeTag} (same : t.is t' = true) : Corresponds pairing (.create t) (.create t')
  | createWith {t t' : TypeTag} {args args' : List Argument} (same : t.is t' = true)
      (paired : pairing.pairs args args') :
      Corresponds pairing (.createWith t args) (.createWith t' args')
  | getOrBuild {t t' : TypeTag} (same : t.is t' = true) :
      Corresponds pairing (.getOrBuild t) (.getOrBuild t')
  | get {t t' : TypeTag} (same : t.is t' = true) : Corresponds pairing (.get t) (.get t')
  | contains {t t' : TypeTag} (same : t.is t' = true) :
      Corresponds pairing (.contains t) (.contains t')
  | size : Corresponds pairing .size .size

/-- The answers are the same except for names. -/
inductive Answer.Alike (pairing : ArgumentPairing) : Answer → Answer → Prop
  | reply {r r' : Reply} (alike : Reply.Alike r r') : Answer.Alike pairing (.reply r) (.reply r')
  | content {c c' : Outcome (Except ActivationError (Option Datum))} (alike : ContentAlike c c') :
      Answer.Alike pairing (.content c) (.content c')
  | set {s s' : OverloadSet} (alike : s.Alike pairing s') :
      Answer.Alike pairing (.set s) (.set s')
  | published {s s' : Option OverloadSet} (alike : Option.Rel (OverloadSet.Alike pairing) s s') :
      Answer.Alike pairing (.published s) (.published s')
  | flag (b : Bool) : Answer.Alike pairing (.flag b) (.flag b)
  | number (n : ℕ) : Answer.Alike pairing (.number n) (.number n)

/-- The activators put together sets that are alike, and have published such sets for the same types
in the same order. -/
structure Activator.Alike (pairing : ArgumentPairing) (a a' : Activator) : Prop where
  builds : ∀ t t' : TypeTag, t.is t' = true → Logged.Alike (OverloadSet.Alike pairing)
    (OverloadSet.build a.registry a.options t) (OverloadSet.build a'.registry a'.options t')
  remembers : List.Forall₂ (fun e e' => e.1.is e'.1 = true ∧ e.2.Alike pairing e'.2)
    a.memo.sets.entries a'.memo.sets.entries

/-- A result together with an activator, compared in both parts. -/
def Activator.Leaves {α : Type} (pairing : ArgumentPairing) (R : α → α → Prop)
    (x x' : α × Activator) : Prop :=
  R x.1 x'.1 ∧ x.2.Alike pairing x'.2

namespace Activator

lemma alike_ofRegistry {history history' : List Registration}
    (renamed : List.Forall₂ (Registration.Renames pairing) history history') (options : Options) :
    (ofRegistry (Registry.ofRegistrations history).result options).Alike pairing
      (ofRegistry (Registry.ofRegistrations history').result options) :=
  ⟨fun _ _ same => OverloadSet.alike_build renamed options same, .nil⟩

namespace Alike

variable {a a' : Activator} {t t' : TypeTag}

lemma size_eq (alike : a.Alike pairing a') : a'.memo.size = a.memo.size :=
  alike.remembers.length_eq.symm

lemma get? (alike : a.Alike pairing a') (same : t.is t' = true) :
    Option.Rel (OverloadSet.Alike pairing) (a.memo.get? t) (a'.memo.get? t') := by
  unfold Memo.get? TypeMap.get?
  rcases find?_of_forall₂ (p := (·.1.is t)) (q := (·.1.is t'))
    (fun _ _ entries => TypeTag.is_eq_is entries.1 same) alike.remembers with
    ⟨none, none'⟩ | ⟨e, e', found, found', entries⟩
  · rw [none, none']
    exact .none
  · rw [found, found']
    exact .some entries.2

lemma contains_eq (alike : a.Alike pairing a') (same : t.is t' = true) :
    a'.memo.contains t' = a.memo.contains t := by
  have known := alike.get? same
  rw [Memo.contains, Memo.contains, ← TypeMap.isSome_get?, ← TypeMap.isSome_get?]
  unfold Memo.get? at known
  generalize a.memo.sets.get? t = s?, a'.memo.sets.get? t' = s?' at known ⊢
  cases known <;> rfl

/-- Activators that are alike ask for a set alike, and stay so. -/
lemma getOrBuild (alike : a.Alike pairing a') (same : t.is t' = true) :
    Logged.Alike (Leaves pairing (OverloadSet.Alike pairing)) (a.getOrBuild t)
      (a'.getOrBuild t') := by
  have known := alike.get? same
  unfold Activator.getOrBuild
  generalize found : a.memo.get? t = s?, found' : a'.memo.get? t' = s?' at known ⊢
  cases known with
  | some sets => exact .pure ⟨sets, alike⟩
  | none =>
    -- Neither activator knows the type, so that both publish a set as their last one.
    refine .bind (alike.builds t t' same) fun s s' sets => ?_
    rw [alike.size_eq]
    refine .bind (.report (.publishedSet same _)) fun _ _ _ => .pure ⟨sets, alike.builds, ?_⟩
    have entries : (a.memo.publish t s).sets.entries = a.memo.sets.entries ++ [(t, s)] :=
      TypeMap.entries_insert_of_get?_eq_none s found
    have entries' : (a'.memo.publish t' s').sets.entries = a'.memo.sets.entries ++ [(t', s')] :=
      TypeMap.entries_insert_of_get?_eq_none s' found'
    dsimp only
    rw [entries, entries']
    exact List.rel_append alike.remembers (.cons ⟨same, sets⟩ .nil)

lemma createInstance (alike : a.Alike pairing a') {t t' : Option TypeTag}
    (types : Option.Rel (fun u u' => u.is u' = true) t t') :
    Logged.Alike (Leaves pairing Reply.Alike) (a.createInstance t) (a'.createInstance t') := by
  cases types with
  | none => exact .pure ⟨.finished (.error .missingType), alike⟩
  | some same =>
    refine .bind (alike.getOrBuild same) fun x x' gets => ?_
    exact .bind gets.1.createDefault fun _ _ replies => .pure ⟨replies, gets.2⟩

lemma createInstanceWith (alike : a.Alike pairing a') {t t' : Option TypeTag}
    {args args' : Option (List Argument)} (types : Option.Rel (fun u u' => u.is u' = true) t t')
    (paired : Option.Rel pairing.pairs args args') :
    Logged.Alike (Leaves pairing Reply.Alike) (a.createInstanceWith t args)
      (a'.createInstanceWith t' args') := by
  cases types with
  | none => exact .pure ⟨.finished (.error .missingType), alike⟩
  | some same =>
    refine .bind (alike.getOrBuild same) fun x x' gets => ?_
    exact .bind (gets.1.create paired) fun _ _ replies => .pure ⟨replies, gets.2⟩

/-- Activators that are alike answer corresponding operations alike, and stay so. -/
lemma perform (alike : a.Alike pairing a') {op op' : Operation}
    (corresponds : op.Corresponds pairing op') :
    Logged.Alike (Leaves pairing (Answer.Alike pairing)) (a.perform op) (a'.perform op') := by
  cases corresponds with
  | createInstance types =>
    exact .bind (alike.createInstance types) fun x x' does => .pure ⟨.reply does.1, does.2⟩
  | createInstanceWith types paired =>
    exact .bind (alike.createInstanceWith types paired) fun x x' does =>
      .pure ⟨.reply does.1, does.2⟩
  | create same =>
    refine .bind (R := Leaves pairing ContentAlike) ?_ fun x x' does =>
      .pure ⟨.content does.1, does.2⟩
    exact .bind (alike.createInstance (.some same)) fun x x' does =>
      .pure ⟨does.1.narrow same, does.2⟩
  | createWith same paired =>
    refine .bind (R := Leaves pairing ContentAlike) ?_ fun x x' does =>
      .pure ⟨.content does.1, does.2⟩
    exact .bind (alike.createInstanceWith (.some same) (.some paired)) fun x x' does =>
      .pure ⟨does.1.narrow same, does.2⟩
  | getOrBuild same =>
    exact .bind (alike.getOrBuild same) fun x x' gets => .pure ⟨.set gets.1, gets.2⟩
  | get same => exact .pure ⟨.published (alike.get? same), alike⟩
  | contains same =>
    refine .pure ⟨?_, alike⟩
    rw [alike.contains_eq same]
    exact .flag _
  | size =>
    refine .pure ⟨?_, alike⟩
    rw [alike.size_eq]
    exact .number _

/-- Corresponding runs of activators that are alike are answered alike, one by one. -/
lemma performAll {ops ops' : List Operation}
    (corresponds : List.Forall₂ (Operation.Corresponds pairing) ops ops')
    (alike : a.Alike pairing a') :
    Logged.Alike (Leaves pairing (List.Forall₂ (Answer.Alike pairing))) (a.performAll ops)
      (a'.performAll ops') := by
  -- The rest of the runs starts from activators that are not the first ones, but alike again.
  induction corresponds generalizing a a' with
  | nil => exact .pure ⟨.nil, alike⟩
  | cons first _ ih =>
    refine .bind (alike.perform first) fun x x' does => ?_
    exact .bind (ih does.2) fun y y' rest => .pure ⟨.cons does.1 rest.1, rest.2⟩

end Alike

end Activator

/-! ## What callers see -/

/-- **Activation by type does not look at names.**  Take a history, a renaming of it, and options.
* For every type, by whatever tag it is given, and arguments that count as the same, both histories
  select the overload at the same position.  Activation from these arguments and activation without
  arguments come to the same except for names, and so do the reports of it and of putting the set
  together.
* Two runs of operations that correspond, by activators that start without published sets, are
  answered alike one by one and report the same except for names.  Afterwards both activators have
  published sets of the same types, in the same order. -/
theorem activation_ignores_names {history history' : List Registration}
    (renamed : List.Forall₂ (Registration.Renames pairing) history history') (options : Options) :
    let r := (Registry.ofRegistrations history).result
    let r' := (Registry.ofRegistrations history').result
    (∀ (t t' : TypeTag) (args args' : List Argument), t.is t' = true → pairing.pairs args args' →
      let s := OverloadSet.build r options t
      let s' := OverloadSet.build r' options t'
      s'.result.overloads.findIdx? (·.accepts args') =
        s.result.overloads.findIdx? (·.accepts args) ∧
      s'.result.hasDefault = s.result.hasDefault ∧
      Logged.Alike Reply.Alike (s.result.create (some args)) (s'.result.create (some args')) ∧
      Logged.Alike Reply.Alike s.result.createDefault s'.result.createDefault ∧
      List.Forall₂ Event.Alike s.events s'.events) ∧
    ∀ ops ops' : List Operation, List.Forall₂ (Operation.Corresponds pairing) ops ops' →
      let run := (Activator.ofRegistry r options).performAll ops
      let run' := (Activator.ofRegistry r' options).performAll ops'
      List.Forall₂ (Answer.Alike pairing) run.result.1 run'.result.1 ∧
      List.Forall₂ Event.Alike run.events run'.events ∧
      run'.result.2.memo.sets.entries.map (·.1.ident) =
        run.result.2.memo.sets.entries.map (·.1.ident) := by
  intro r r'
  constructor
  · intro t t' args args' same paired s s'
    have builds := OverloadSet.alike_build renamed options same
    have sets : s.result.Alike pairing s'.result := builds.result
    have lists := pairing.alike args args' paired
    exact ⟨sets.findIdx?_accepts lists, sets.hasDefault_eq, sets.create (.some paired),
      sets.createDefault, builds.events⟩
  · intro ops ops' corresponds run run'
    have fresh := Activator.alike_ofRegistry renamed options
    have runs := fresh.performAll corresponds
    refine ⟨runs.result.1, runs.events, ?_⟩
    rw [← List.forall₂_eq_eq_eq, List.forall₂_map_left_iff, List.forall₂_map_right_iff]
    refine runs.result.2.remembers.flip.imp fun e' e entries => ?_
    exact (TypeTag.is_eq_true_iff.1 entries.1).symm

/-- The type of rooms, by the name that is given to it. -/
def room (name : String) : TypeTag := ⟨.nominal "Room", name⟩

/-- The type of keys, by the name that is given to it. -/
def key (name : String) : TypeTag := ⟨.nominal "Key", name⟩

/-- Keys are cut, but do not open rooms yet. -/
def rooms : List Registration :=
  [.typeRecord ⟨room "hotel::Room", "Suite", .record, "hotel"⟩,
    .constructorByHand (room "hotel::Room")
      ((Signature.named "opened_with").value "key" (key "hotel::Key"))
      fun args => (.finished (.error (.failed "locked")), args),
    .constructorByHand (key "hotel::Key") (.named "cut") fun args => (.finished (.ok .unit), args)]

/-- The same with other names, which make no difference between rooms and keys, and with the
constructors linked in. -/
def roomsRenamed : List Registration :=
  [.typeByHand (room "Thing") .record,
    .constructorRecord ⟨room "Thing", "new", true, [⟨"thing", key "Thing", .value⟩],
      fun args => (.finished (.error (.failed "locked")), args), "things"⟩,
    .constructorRecord ⟨key "Thing", "new", true, [],
      fun args => (.finished (.ok ⟨key "Thing", .unit⟩), args), "things"⟩]

/-- Opening a room fails by both histories, with errors that quote different names; and activators
that are given one and the same key answer alike. -/
theorem rooms_renamed :
    let r := (Registry.ofRegistrations rooms).result
    let r' := (Registry.ofRegistrations roomsRenamed).result
    let opened := (OverloadSet.build r .standard (room "hotel::Room")).result.create
      (some [.value ⟨key "hotel::Key", .unit⟩])
    let opened' := (OverloadSet.build r' .standard (room "Thing")).result.create
      (some [.value ⟨key "Thing", .unit⟩])
    let ops : List Operation :=
      [.createWith (room "Suite") [.value ⟨key "Suite", .unit⟩], .create (key "Suite"), .size]
    (∀ pairing, List.Forall₂ (Registration.Renames pairing) rooms roomsRenamed) ∧
    (room "hotel::Room").is (room "Thing") = true ∧
    ArgumentPairing.upToNames.pairs [.value ⟨key "hotel::Key", .unit⟩]
      [.value ⟨key "Thing", .unit⟩] ∧
    List.Forall₂ (Operation.Corresponds .equal) ops ops ∧
    opened.result =
      Reply.error (.constructorFailed (room "hotel::Room") "opened_with" "locked") ∧
    opened'.result = Reply.error (.constructorFailed (room "Thing") "new" "locked") ∧
    Logged.Alike Reply.Alike opened opened' ∧
    List.Forall₂ (Answer.Alike .equal)
      ((Activator.ofRegistry r .standard).performAll ops).result.1
      ((Activator.ofRegistry r' .standard).performAll ops).result.1 := by
  intro r r' opened opened' ops
  have renamed : ∀ pairing, List.Forall₂ (Registration.Renames pairing) rooms roomsRenamed := by
    intro pairing
    refine .cons (.type ⟨by decide, .record⟩)
      (.cons (.constructor ?_) (.cons (.constructor ?_) .nil))
    · refine ⟨by decide, rfl, .cons ⟨rfl, fun _ => by decide⟩ .nil, fun _ _ _ => ?_⟩
      exact .finished (.error (.failed "locked"))
    · exact ⟨by decide, rfl, .nil, fun _ _ _ => .finished (.ok rfl)⟩
  have paired : ArgumentPairing.upToNames.pairs [.value ⟨key "hotel::Key", .unit⟩]
      [.value ⟨key "Thing", .unit⟩] := .cons rfl .nil
  have corresponds : List.Forall₂ (Operation.Corresponds .equal) ops ops :=
    .cons (.createWith (by decide) rfl) (.cons (.create (by decide)) (.cons .size .nil))
  refine ⟨renamed, by decide, paired, corresponds, ?_, ?_, ?_, ?_⟩
  · exact congrArg Logged.result (createWith_eq_search rooms .standard (room "hotel::Room") _)
  · exact congrArg Logged.result (createWith_eq_search roomsRenamed .standard (room "Thing") _)
  · exact ((activation_ignores_names (renamed .upToNames) .standard).1 (room "hotel::Room")
      (room "Thing") _ _ (by decide) paired).2.2.1
  · exact ((activation_ignores_names (renamed .equal) .standard).2 ops ops corresponds).1

end Activation
