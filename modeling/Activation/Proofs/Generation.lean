import Activation.Generated.Code
import Activation.Proofs.Classification
import Activation.Proofs.Decimals
import Activation.Proofs.Entries

/-!
# What is generated from an implementation

Three questions decide what becomes of an implementation: whether anything is generated from it,
which of its functions are registered, and what is left of its source.  This file answers them by
what stands in the source, without the readers and the loop that find it out.

An attribute about registration may hold the word `skip`, any number of times, and nothing else
(`SkipList`, `OnlySkips`).  That is when its elements can be read (`readElements_takeSkip`), and so
whether a function is to be skipped can be told if all its attributes are of that form
(`isSkipped_eq_ok_iff`).  A function constructs the implemented type if it satisfies `Constructs`,
which is what `returned?` looks for (`constructs_iff`).  `Records` is what the registration of a
function says, down to the code that submits it.

What is left of the source is described by relations: a list of attributes has lost those about
registration (`Unmarked`), a member is the same but for them (`MemberUnmarked`), and of the
implementation nothing else has changed.  An implementation that was read holds its whole source, so
this says of the source too what is left of it.

The members are gone through one by one, and all that is carried along is the number of functions
registered so far.  `Became` is what the loop establishes for the members that it has seen; each
kind of member keeps it (`Became.other`, `Became.unregistered`, `Became.registers`), and
`became_of_generateFrom` is the induction.  `generate_registers_constructors` puts the answers
together, with `Refused` for the first question.
-/

namespace Activation.Generated

open Source

/-! ## Lists of skips -/

/-- The word `skip`, any number of times with commas between, and possibly one at the end. -/
inductive SkipList : List Tree → Prop
  | empty : SkipList []
  | last : SkipList [.word "skip"]
  | more (joint : Bool) {rest : List Tree} (skips : SkipList rest) :
    SkipList (.word "skip" :: .leaf (.mark "," joint) :: rest)

lemma takeSkip_eq_ok_iff {known known' : Bool} {path : ElementPath} {rest rest' : List Tree} :
    takeSkip known path rest = .ok (known', rest') ↔
      path = ⟨false, ["skip"]⟩ ∧ known' = true ∧ rest' = rest := by
  unfold takeSkip
  rw [← name?_eq_some_iff]
  split
  · rename_i named
    simp [named, eq_comm]
  · rename_i other
    simp [other]

/-- Skips are taken entry by entry. -/
lemma takes_skip : Takes takeSkip (· = [.word "skip"]) fun _ _ => true where
  no_comma := by
    rintro entry rfl
    simp [Tree.word, Tree.isMark]
  takes_iff := by
    intro known known' trees rest more comma
    simp only [elementPath_eq_ok_iff, takeSkip_eq_ok_iff]
    constructor
    · rintro ⟨path, after, ⟨front, spelled, rfl, -⟩, rfl, rfl, rfl⟩
      exact ⟨front, spellsPath_single_iff.1 spelled, rfl, rfl⟩
    · rintro ⟨_, rfl, rfl, rfl⟩
      exact ⟨_, rest, ⟨_, spellsPath_single_iff.2 rfl, rfl, afterSeparator_of_afterComma comma⟩,
        rfl, rfl, rfl⟩

/-- Lists of skips are those whose entries are skips. -/
lemma skipList_iff {trees : List Tree} :
    SkipList trees ↔ ∀ entry ∈ entriesAmong trees, entry = [.word "skip"] := by
  have plain : ∀ t ∈ [Tree.word "skip"], t.isMark "," = false := by simp [Tree.word, Tree.isMark]
  constructor
  · intro skips
    induction skips with
    | empty => simp
    | last => simp [entriesAmong_single plain]
    | @more joint rest skips ih =>
      have split := entriesAmong_comma plain joint rest
      rw [List.singleton_append] at split
      rw [split]
      exact List.forall_mem_cons.2 ⟨rfl, ih⟩
  · intro skips
    induction length : trees.length using Nat.strong_induction_on generalizing trees with
    | _ n ih =>
      by_cases full : trees = []
      · rw [full]
        exact .empty
      obtain ⟨entry, rest, more, rfl, noComma, ends⟩ := exists_first_entry trees
      have shorter := length_of_afterComma ends full
      rw [entriesAmong_append noComma ends full] at skips
      obtain ⟨rfl, later⟩ := List.forall_mem_cons.1 skips
      rcases afterComma_eq_ok_iff.1 ends with ⟨rfl, rfl⟩ | ⟨joint, rfl⟩
      · exact .last
      · exact .more joint (ih _ (length ▸ shorter) later rfl)

/-- Reading skips succeeds on lists of skips, and tells whether there is one. -/
lemma readElementsUpTo_takeSkip {n : ℕ} {trees : List Tree} (bound : trees.length ≤ n)
    (known : Bool) {skip : Bool} :
    readElementsUpTo takeSkip n known trees = .ok skip ↔
      SkipList trees ∧ skip = (known || !trees.isEmpty) := by
  rw [readElementsUpTo_eq_ok_iff takes_skip bound, skipList_iff]
  have stays : ∀ entries : List (List Tree), entries.foldl (fun _ _ => true) true = true := by
    intro entries
    induction entries with
    | nil => rfl
    | cons entry entries ih => exact ih
  have noted : (entriesAmong trees).foldl (fun _ _ => true) known = (known || !trees.isEmpty) := by
    by_cases full : trees = []
    · simp [full]
    · obtain ⟨entry, rest, more, rfl, plain, ends⟩ := exists_first_entry trees
      rw [entriesAmong_append plain ends full, List.foldl_cons, stays]
      simp [full]
  rw [noted]

/-! ## Attributes about registration -/

/-- The attribute is about registration. -/
def IsMark (a : Attribute) : Prop := a.HasPath "activator"

instance (a : Attribute) : Decidable (IsMark a) := inferInstanceAs (Decidable (a.HasPath _))

lemma isActivator_iff {a : Attribute} : isActivator a = true ↔ IsMark a := Attribute.isNamed_iff

/-- The attribute has arguments, and they are a list of skips. -/
def OnlySkips (a : Attribute) : Prop := ∃ inside, a.form = .arguments inside ∧ SkipList inside

/-- The word `skip` is among the arguments of the attribute. -/
def MentionsSkip (a : Attribute) : Prop :=
  ∃ inside, a.form = .arguments inside ∧ .word "skip" ∈ inside

instance (a : Attribute) : Decidable (MentionsSkip a) :=
  match form : a.form with
  | .arguments inside =>
    decidable_of_iff (inside.any (·.isWord "skip") = true) <| by
      simp [MentionsSkip, form, Tree.isWord_iff]
  | .bare => isFalse <| by simp [MentionsSkip, form]
  | .value _ => isFalse <| by simp [MentionsSkip, form]

/-- A list of skips that is not empty holds a skip. -/
lemma SkipList.mem_iff {trees : List Tree} (skips : SkipList trees) :
    .word "skip" ∈ trees ↔ trees.isEmpty = false := by
  cases skips with
  | empty => simp
  | last => simp
  | more joint skips => simp

/-- The elements of an attribute can be read if there are only skips. -/
lemma readElements_takeSkip {a : Attribute} {skip : Bool} :
    a.readElements takeSkip false = .ok skip ↔ OnlySkips a ∧ (skip = true ↔ MentionsSkip a) := by
  unfold Attribute.readElements OnlySkips MentionsSkip
  cases a.form with
  | bare => simp
  | value v => simp
  | arguments inside =>
    simp only [readElementsUpTo_takeSkip le_rfl false, Bool.false_or, AttributeForm.arguments.injEq,
      exists_eq_left']
    refine and_congr_right fun skips => ?_
    rw [skips.mem_iff]
    cases skip <;> cases inside.isEmpty <;> simp

/-- All attributes about registration of the function hold nothing but skips. -/
def RightlyMarked (f : FunctionItem) : Prop := ∀ a ∈ f.attributes, IsMark a → OnlySkips a

/-- The function has a `skip` in one of its attributes about registration. -/
def MarkedSkip (f : FunctionItem) : Prop := ∃ a ∈ f.attributes, IsMark a ∧ MentionsSkip a

instance (f : FunctionItem) : Decidable (MarkedSkip f) :=
  inferInstanceAs (Decidable (∃ a ∈ f.attributes, _))

/-- Whether a function is skipped can be told if its attributes are right. -/
lemma isSkipped_eq_ok_iff {f : FunctionItem} {skip : Bool} :
    isSkipped f = .ok skip ↔ RightlyMarked f ∧ (skip = true ↔ MarkedSkip f) := by
  unfold isSkipped
  dsimp only
  split
  · rename_i e last
    refine iff_of_false (fun impossible => by cases impossible) ?_
    rintro ⟨right, -⟩
    -- The fault would be that of an attribute about registration, and those can all be read.
    have fault := List.mem_of_getLast? last
    simp only [List.mem_filterMap, List.mem_map, List.mem_filter] at fault
    obtain ⟨-, ⟨a, ⟨member, named⟩, rfl⟩, broken⟩ := fault
    have read : a.readElements takeSkip false = .ok (decide (MentionsSkip a)) :=
      readElements_takeSkip.2 ⟨right a member (isActivator_iff.1 named), decide_eq_true_iff⟩
    rw [read] at broken
    cases broken
  · rename_i noFault
    have reads : ∀ a ∈ f.attributes, IsMark a →
        a.readElements takeSkip false = .ok (decide (MentionsSkip a)) := by
      intro a member mark
      rw [List.getLast?_eq_none_iff, List.filterMap_eq_nil_iff] at noFault
      have sound := noFault _
        (List.mem_map_of_mem (List.mem_filter.2 ⟨member, isActivator_iff.2 mark⟩))
      cases read : a.readElements takeSkip false with
      | error e => simp [read] at sound
      | ok known =>
        rw [Bool.eq_iff_iff.2 ((readElements_takeSkip.1 read).2.trans decide_eq_true_iff.symm)]
    have right : RightlyMarked f := fun a member mark =>
      (readElements_takeSkip.1 (reads a member mark)).1
    rw [List.any_map, List.any_filter, Except.ok.injEq, and_iff_right right, Bool.eq_iff_iff,
      List.any_eq_true]
    refine iff_comm.trans (iff_congr Iff.rfl (exists_congr fun a => ?_))
    refine and_congr_right fun member => ?_
    rw [Bool.and_eq_true, isActivator_iff]
    refine and_congr_right fun mark => ?_
    simp only [Function.comp_apply, reads a member mark, decide_eq_true_iff]

/-! ## Functions that construct the type -/

/-- The characters of a punctuation mark, each with whether the next one belongs to it; any other
token by itself. -/
def singleTokens : Token → List Token
  | .mark text joint =>
    text.toList.zipIdx.map fun c =>
      .mark (String.ofList [c.1]) (joint || decide (c.2 + 1 < text.toList.length))
  | t => [t]

/-- The type means the implemented one: it is `Self`, or written with the same tokens. -/
def Means (implemented t : Tree) : Prop :=
  t = .node .pathType [.node .segment [.word "Self"]] ∨
    t.written.tokens.flatMap singleTokens = implemented.written.tokens.flatMap singleTokens

lemma singleMarks_eq (joint : Bool) (cs : List Char) (n : ℕ) :
    Tree.singleMarks joint cs = (cs.zipIdx n).map fun c =>
      .mark (String.ofList [c.1]) (joint || decide (c.2 + 1 < n + cs.length)) := by
  induction cs generalizing n with
  | nil => rfl
  | cons c cs ih =>
    cases cs with
    | nil => simp [Tree.singleMarks]
    | cons d cs =>
      rw [Tree.singleMarks, ih (n + 1), List.zipIdx_cons, List.map_cons]
      simp [Nat.add_assoc, Nat.add_comm 1]

/-- What a tree is compared by are the single tokens of its written form. -/
lemma spelling_eq (t : Tree) : t.spelling = t.written.tokens.flatMap singleTokens := by
  refine List.flatMap_congr fun token _ => ?_
  cases token with
  | mark text joint => simpa [singleTokens] using singleMarks_eq joint text.toList 0
  | word _ | lifetime _ | literal _ => rfl

lemma isBareName_iff {name : String} {t : Tree} :
    t.isBareName name = true ↔ t = .node .pathType [.node .segment [.word name]] := by
  unfold Tree.isBareName
  split
  · simp [Tree.isWord_iff]
  · rename_i other
    simpa using other (.word name)

lemma isSelf_iff {implemented t : Tree} :
    Tree.isSelf implemented t = true ↔ Means implemented t := by
  rw [Tree.isSelf, Bool.or_eq_true, isBareName_iff, Tree.isSpelledLike, beq_iff_eq, spelling_eq,
    spelling_eq, Means]

/-- The type is a result of the implemented one: a path whose last name is `Result`, with the
implemented type as the first of its arguments. -/
def IsResultOf (implemented t : Tree) : Prop :=
  ∃ rest made, t.HasLastName "Result" rest ∧ Tree.FirstType rest made ∧ Means implemented made

lemma isResultOf_iff {implemented t : Tree} :
    IsResultOf implemented t ↔
      ∃ made more, t.finalSegment? = some ⟨"Result", .angles (made :: more)⟩ ∧
        (made.isType && Tree.isSelf implemented made) = true := by
  simp only [Bool.and_eq_true, isSelf_iff]
  constructor
  · rintro ⟨rest, made, last, first, means⟩
    obtain ⟨more, arguments, type⟩ := (Tree.firstType_iff "Result").2 first
    exact ⟨made, more, Tree.finalSegment?_eq_some_iff.2 ⟨rest, last, arguments⟩, type, means⟩
  · rintro ⟨made, more, final, type, means⟩
    obtain ⟨rest, last, arguments⟩ := Tree.finalSegment?_eq_some_iff.1 final
    exact ⟨rest, made, last, (Tree.firstType_iff _).1 ⟨more, arguments, type⟩, means⟩

/-- The function constructs the implemented type: it stands for itself, and returns the type or a
result of it. -/
structure Constructs (implemented : Tree) (f : FunctionItem) : Prop where
  no_receiver : f.receiver? = none
  not_async : .word "async" ∉ f.qualifiers
  not_unsafe : .word "unsafe" ∉ f.qualifiers
  not_generic : f.genericParameters = []
  returns : ∃ result, f.result? = some result ∧
    (Means implemented result ∨ IsResultOf implemented result)

lemma constructs_iff {implemented : Tree} {f : FunctionItem} :
    (returned? implemented f).isSome = true ↔ Constructs implemented f := by
  unfold returned?
  split
  · rename_i excluded
    refine iff_of_false Bool.false_ne_true fun constructs => ?_
    rcases excluded with receiver | isAsync | isUnsafe | generic
    · simp [constructs.no_receiver] at receiver
    · exact constructs.not_async (by simpa using isAsync)
    · exact constructs.not_unsafe (by simpa using isUnsafe)
    · exact generic constructs.not_generic
  · rename_i admitted
    simp only [not_or, Option.not_isSome_iff_eq_none, not_not, List.contains_iff_mem] at admitted
    obtain ⟨receiver, isAsync, isUnsafe, generic⟩ := admitted
    cases returns : f.result? with
    | none =>
      refine iff_of_false Bool.false_ne_true fun constructs => ?_
      obtain ⟨result, same, -⟩ := constructs.returns
      rw [returns] at same
      cases same
    | some result =>
      have constructs : Constructs implemented f ↔
          Means implemented result ∨ IsResultOf implemented result := by
        constructor
        · intro constructs
          obtain ⟨result', same, means⟩ := constructs.returns
          obtain rfl : result = result' := Option.some.inj (returns.symm.trans same)
          exact means
        · intro means
          exact ⟨receiver, isAsync, isUnsafe, generic, result, returns, means⟩
      rw [constructs, isResultOf_iff, ← isSelf_iff]
      by_cases direct : Tree.isSelf implemented result = true
      · simp only [if_pos direct]
        exact iff_of_true rfl (.inl direct)
      · simp only [if_neg direct, or_iff_right direct]
        split
        · rename_i made more final
          rw [final]
          cases suits : made.isType && Tree.isSelf implemented made with
          | true => exact iff_of_true rfl ⟨made, more, rfl, suits⟩
          | false =>
            refine iff_of_false Bool.false_ne_true ?_
            rintro ⟨made', more', same, suits'⟩
            cases same
            rw [suits] at suits'
            cases suits'
        · rename_i other
          refine iff_of_false Bool.false_ne_true ?_
          rintro ⟨made, more, final, -⟩
          exact other made more final

instance (implemented : Tree) (f : FunctionItem) : Decidable (Constructs implemented f) :=
  decidable_of_iff _ constructs_iff

/-! ## Registrations -/

/-- The code of a shape. -/
def shapeCode : Shape → String
  | .value => "::activator::ParamShape::Value"
  | .nullable => "::activator::ParamShape::Nullable"
  | .dynamic => "::activator::ParamShape::Dynamic"
  | .pointer => "::activator::ParamShape::Pointer"

lemma shapePath_eq (s : Shape) : shapePath s = shapeCode s := by
  cases s <;> decide +kernel

/-- The parameter of a record is that of a function, by its name if its pattern is one, and by how
its type accepts arguments once the implemented type stands in it for `Self`. -/
structure RecordsParameter (implemented : Tree) (p : InputParameter) (code : ParameterCode) :
    Prop where
  name_eq : code.name = p.name?.getD "_"
  accepts : ∃ shape type, Tree.Accepts (Tree.replaceSelf implemented p.type) shape type ∧
    code.shape = shapeCode shape ∧ code.type = type.text

/-- The code that submits the record of the constructor with the number. -/
def constructorSubmission (number : String) : String :=
  "::activator::inventory::submit!\x7b::activator::registry::ConstructorReg(&__ACTIVATOR_CTOR_" ++
    number ++ ")\x7d"

lemma submission_constructor (number : String) :
    submission "ConstructorReg" ("__ACTIVATOR_CTOR_" ++ number) = constructorSubmission number := by
  have front :
      "::activator::inventory::submit!\x7b::activator::registry::ConstructorReg(&__ACTIVATOR_CTOR_" =
        "::activator::" ++ ("inventory::submit!" ++ ("\x7b" ++ ("::activator::" ++ ("registry::" ++
          ("ConstructorReg" ++ ("(&" ++ "__ACTIVATOR_CTOR_")))))) := by decide +kernel
  have back : ")\x7d" = ")" ++ "\x7d" := by decide +kernel
  unfold submission braced libraryPath constructorSubmission
  rw [front, back]
  simp only [String.append_assoc]

/-- The registration is one of the function, registered at the place, and so are the record that is
written for it and the submission of the record. -/
structure Records (implemented : Tree) (f : FunctionItem) (place : ℕ) (c : GeneratedConstructor) :
    Prop where
  ordinal_eq : c.ordinal = place
  submitted : ∃ number, Text.IsDecimalForm place number ∧
    c.code.static = "__ACTIVATOR_CTOR_" ++ number ∧
    c.code.submission = constructorSubmission number
  owner_eq : c.code.owner = implemented.text
  name_eq : c.code.name = f.name
  isPublic_iff : c.code.isPublic = true ↔ f.visibility = .everywhere
  parameters : List.Forall₂ (RecordsParameter implemented) f.parameters c.code.parameters
  invoker_iff : c.code.invoker = .named "::activator::registry::unsupported_invoker" ↔
    ∃ p ∈ f.parameters, ∃ parts, Tree.replaceSelf implemented p.type = .node .pointerType parts

lemma isUnsupported_constructorOf (implemented : Tree) (place : ℕ) (f : FunctionItem)
    (returned : Returned) :
    (constructorOf implemented place f returned).isUnsupported = true ↔
      ∃ p ∈ f.parameters, ∃ parts,
        Tree.replaceSelf implemented p.type = .node .pointerType parts := by
  simp [GeneratedConstructor.isUnsupported, constructorOf, parameterOf,
    Tree.classify_fst_eq_pointer_iff]

/-- The record refers to no code of its own if some parameter cannot be given an argument. -/
lemma invoker_eq_unsupported_iff (c : GeneratedConstructor) :
    c.code.invoker = .named "::activator::registry::unsupported_invoker" ↔
      c.isUnsupported = true := by
  have path : libraryPath "registry::unsupported_invoker" =
      "::activator::registry::unsupported_invoker" := by decide +kernel
  rw [← path]
  unfold GeneratedConstructor.code
  cases c.isUnsupported with
  | true => exact iff_of_true rfl rfl
  | false => exact iff_of_false (fun same => nomatch same) Bool.false_ne_true

lemma recordsParameter (implemented : Tree) (p : InputParameter) :
    RecordsParameter implemented p ⟨(parameterOf implemented p).name,
      (parameterOf implemented p).type.text, shapePath (parameterOf implemented p).shape⟩ where
  name_eq := rfl
  accepts := ⟨_, _, Tree.accepts_classify _, shapePath_eq _, rfl⟩

lemma records_constructorOf (implemented : Tree) (place : ℕ) (f : FunctionItem)
    (returned : Returned) :
    Records implemented f place (constructorOf implemented place f returned) where
  ordinal_eq := rfl
  submitted := ⟨_, Text.isDecimalForm_iff.2 rfl, rfl, submission_constructor _⟩
  owner_eq := rfl
  name_eq := rfl
  isPublic_iff := beq_iff_eq
  parameters := by
    show List.Forall₂ _ f.parameters ((f.parameters.map (parameterOf implemented)).map _)
    rw [List.map_map, List.forall₂_map_right_iff, List.forall₂_same]
    exact fun p _ => recordsParameter implemented p
  invoker_iff :=
    (invoker_eq_unsupported_iff _).trans
      (isUnsupported_constructorOf implemented place f returned)

/-! ## Members -/

/-- The attributes that are left once those about registration are taken off. -/
inductive Unmarked : List Attribute → List Attribute → Prop
  | nil : Unmarked [] []
  | takes {a : Attribute} {attributes kept : List Attribute} (mark : IsMark a)
    (later : Unmarked attributes kept) : Unmarked (a :: attributes) kept
  | keeps {a : Attribute} {attributes kept : List Attribute} (other : ¬ IsMark a)
    (later : Unmarked attributes kept) : Unmarked (a :: attributes) (a :: kept)

/-- The member without its attributes about registration, if it is a function; any other member as
it is. -/
inductive MemberUnmarked : Member → Member → Prop
  | function (f : FunctionItem) {kept : List Attribute} (unmarked : Unmarked f.attributes kept) :
    MemberUnmarked (.function f) (.function { f with attributes := kept })
  | other (source : Tree) : MemberUnmarked (.other source) (.other source)

lemma unmarked_filter (attributes : List Attribute) :
    Unmarked attributes (attributes.filter (!isActivator ·)) := by
  induction attributes with
  | nil => exact .nil
  | cons a attributes ih =>
    by_cases mark : IsMark a
    · rw [List.filter_cons_of_neg (by simp [isActivator_iff.2 mark])]
      exact .takes mark ih
    · rw [List.filter_cons_of_pos (by simpa [← isActivator_iff] using mark)]
      exact .keeps mark ih

lemma memberUnmarked_withoutActivators (f : FunctionItem) :
    MemberUnmarked (.function f) (.function (withoutActivators f)) :=
  .function f (unmarked_filter f.attributes)

/-- The functions among members. -/
def functionsOf (members : List Member) : List FunctionItem :=
  members.filterMap fun
    | .function f => some f
    | .other _ => none

lemma mem_functionsOf_iff {members : List Member} {f : FunctionItem} :
    f ∈ functionsOf members ↔ .function f ∈ members := by
  simp only [functionsOf, List.mem_filterMap]
  constructor
  · rintro ⟨member, among, found⟩
    cases member with
    | function f' =>
      cases found
      exact among
    | other source => cases found
  · intro among
    exact ⟨_, among, rfl⟩

/-- The functions among members that are to be registered: those that construct the type and are
not skipped. -/
def registered (implemented : Tree) (members : List Member) : List FunctionItem :=
  (functionsOf members).filter fun f => decide (¬ MarkedSkip f ∧ Constructs implemented f)

/-- What members have become, if the first registration has the given place: all their attributes
about registration are right and taken off, and the functions to be registered are, with places in a
row. -/
structure Became (implemented : Tree) (place : ℕ) (members members' : List Member)
    (constructors : List GeneratedConstructor) : Prop where
  rightly : ∀ f ∈ functionsOf members, RightlyMarked f
  unmarked : List.Forall₂ MemberUnmarked members members'
  constructed : List.Forall₂ (fun f c => ∃ returned, c = constructorOf implemented f.2 f.1 returned)
    ((registered implemented members).zipIdx place) constructors

namespace Became

variable {implemented : Tree} {place : ℕ} {members members' : List Member}
  {constructors : List GeneratedConstructor}

lemma other (became : Became implemented place members members' constructors) (source : Tree) :
    Became implemented place (.other source :: members) (.other source :: members')
      constructors where
  rightly := became.rightly
  unmarked := .cons (.other source) became.unmarked
  constructed := became.constructed

/-- A function that is not registered leaves the places alone. -/
lemma unregistered (became : Became implemented place members members' constructors)
    {f : FunctionItem} (right : RightlyMarked f)
    (out : ¬ (¬ MarkedSkip f ∧ Constructs implemented f)) :
    Became implemented place (.function f :: members) (.function (withoutActivators f) :: members')
      constructors where
  rightly := List.forall_mem_cons.2 ⟨right, became.rightly⟩
  unmarked := .cons (memberUnmarked_withoutActivators f) became.unmarked
  constructed := by
    have same : registered implemented (.function f :: members) = registered implemented members :=
      List.filter_cons_of_neg (by simpa using out)
    rw [same]
    exact became.constructed

/-- A function that is registered takes its place from those after it. -/
lemma registers (became : Became implemented (place + 1) members members' constructors)
    {f : FunctionItem} (right : RightlyMarked f)
    (counts : ¬ MarkedSkip f ∧ Constructs implemented f) (returned : Returned) :
    Became implemented place (.function f :: members) (.function (withoutActivators f) :: members')
      (constructorOf implemented place f returned :: constructors) where
  rightly := List.forall_mem_cons.2 ⟨right, became.rightly⟩
  unmarked := .cons (memberUnmarked_withoutActivators f) became.unmarked
  constructed := by
    have first : registered implemented (.function f :: members) =
        f :: registered implemented members :=
      List.filter_cons_of_pos (decide_eq_true counts)
    rw [first, List.zipIdx_cons]
    exact .cons ⟨returned, rfl⟩ became.constructed

lemma records (became : Became implemented place members members' constructors) :
    List.Forall₂ (fun f c => Records implemented f.1 f.2 c)
      ((registered implemented members).zipIdx place) constructors := by
  refine became.constructed.imp ?_
  rintro f _ ⟨returned, rfl⟩
  exact records_constructorOf implemented f.2 f.1 returned

/-- Every registration is one of its function, whatever its place. -/
lemma exists_constructed (became : Became implemented place members members' constructors) :
    List.Forall₂ (fun f c => ∃ place returned, c = constructorOf implemented place f returned)
      (registered implemented members) constructors := by
  rw [← List.zipIdx_map_fst place (registered implemented members), List.forall₂_map_left_iff]
  exact became.constructed.imp fun f _ constructed => ⟨f.2, constructed⟩

end Became

/-- A function that is not skipped is registered if it is found to construct the type. -/
lemma isSome_returned_unless_skip (implemented : Tree) {f : FunctionItem} {skip : Bool}
    (skips : skip = true ↔ MarkedSkip f) :
    (if skip then none else returned? implemented f).isSome = true ↔
      ¬ MarkedSkip f ∧ Constructs implemented f := by
  cases skip with
  | true => exact iff_of_false Bool.false_ne_true fun counts => counts.1 (skips.1 rfl)
  | false =>
    have unskipped : ¬ MarkedSkip f := fun marked => Bool.false_ne_true (skips.2 marked)
    exact constructs_iff.trans (and_iff_right unskipped).symm

/-- What is generated from members is what they become. -/
lemma became_of_generateFrom {implemented : Tree} {place : ℕ} {members members' : List Member}
    {constructors : List GeneratedConstructor}
    (made : generateFrom implemented place members = .ok (members', constructors)) :
    Became implemented place members members' constructors := by
  -- The place is generalized, because a registered function moves it on for the members after it.
  induction members generalizing place members' constructors with
  | nil =>
    cases made
    exact ⟨by simp [functionsOf], .nil, .nil⟩
  | cons member rest ih =>
    cases member with
    | other source =>
      obtain ⟨⟨members', constructors⟩, later, same⟩ := bind_eq_ok_iff.1 made
      cases same
      exact (ih later).other source
    | function f =>
      obtain ⟨skip, skipped, made⟩ := bind_eq_ok_iff.1 made
      obtain ⟨right, skips⟩ := isSkipped_eq_ok_iff.1 skipped
      have counts := isSome_returned_unless_skip implemented skips
      cases found : if skip then none else returned? implemented f with
      | none =>
        simp only [found] at made
        obtain ⟨⟨members', constructors⟩, later, same⟩ := bind_eq_ok_iff.1 made
        cases same
        exact (ih later).unregistered right fun counted => by simpa [found] using counts.2 counted
      | some returned =>
        simp only [found] at made
        obtain ⟨⟨members', constructors⟩, later, same⟩ := bind_eq_ok_iff.1 made
        cases same
        exact (ih later).registers right (counts.1 (by rw [found]; rfl)) returned

/-- Only attributes about registration that are not right keep members from becoming anything. -/
lemma exists_generateFrom {implemented : Tree} {members : List Member}
    (rightly : ∀ f ∈ functionsOf members, RightlyMarked f) (place : ℕ) :
    ∃ made, generateFrom implemented place members = .ok made := by
  induction members generalizing place with
  | nil => exact ⟨_, rfl⟩
  | cons member rest ih =>
    cases member with
    | other source =>
      obtain ⟨made, later⟩ := ih rightly place
      exact ⟨_, bind_eq_ok_iff.2 ⟨made, later, rfl⟩⟩
    | function f =>
      obtain ⟨right, rightly⟩ := List.forall_mem_cons.1 rightly
      have skipped : isSkipped f = .ok (decide (MarkedSkip f)) :=
        isSkipped_eq_ok_iff.2 ⟨right, decide_eq_true_iff⟩
      simp only [generateFrom, skipped, bind, Except.bind]
      cases if decide (MarkedSkip f) = true then none else returned? implemented f with
      | none =>
        obtain ⟨made, later⟩ := ih rightly place
        simp only [later]
        exact ⟨_, rfl⟩
      | some returned =>
        obtain ⟨made, later⟩ := ih rightly (place + 1)
        simp only [later]
        exact ⟨_, rfl⟩

/-! ## Implementations -/

/-- Nothing is generated: the attribute that asks for it is given arguments, the implementation is
one of a trait or has generic parameters, or some attribute about registration of a function holds
something else than skips. -/
inductive Refused (arguments : List Tree) (i : Implementation) : Prop
  | argumentsGiven (given : arguments ≠ [])
  | ofTrait (trait : Tree) (implements : i.trait? = some trait)
  | isGeneric (generic : i.genericParameters ≠ [])
  | malformed (f : FunctionItem) (function : .function f ∈ i.members) (a : Attribute)
    (among : a ∈ f.attributes) (mark : IsMark a) (other : ¬ OnlySkips a)

/-- What is generated from an implementation is what its members become. -/
lemma became_of_generate {arguments : List Tree} {i : Implementation} {g : Generation}
    (made : generate arguments i = .ok g) :
    Became i.type 0 i.members g.implementation.members g.constructors := by
  unfold generate at made
  split at made
  · cases made
  split at made
  · cases made
  split at made
  · cases made
  split at made
  · cases made
  · rename_i members constructors became
    cases made
    exact became_of_generateFrom became

/-- **Exactly the constructors are registered.**  Take any implementation, and any arguments of the
attribute that asks for registrations.
* Nothing is generated exactly if they are refused.
* Otherwise the implementation stays what it is, but its functions lose their attributes about
  registration, and no others.
* The registrations are those of the functions that construct the type and are not skipped, one for
  each, in the order of the source and numbered from zero.  Each records the name, the visibility
  and the parameters of its function, refers to code of its own unless some parameter is a raw
  pointer, and is submitted under its number. -/
theorem generate_registers_constructors (arguments : List Tree) (i : Implementation) :
    match generate arguments i with
    | .error _ => Refused arguments i
    | .ok g =>
      ¬ Refused arguments i ∧
        (∃ members, g.implementation = { i with members } ∧
          List.Forall₂ MemberUnmarked i.members members) ∧
        List.Forall₂ (fun f c => Records i.type f.1 f.2 c)
          (registered i.type i.members).zipIdx g.constructors := by
  by_cases given : arguments ≠ []
  · rw [generate, if_pos given]
    exact .argumentsGiven given
  by_cases implements : i.trait?.isSome = true
  · obtain ⟨trait, known⟩ := Option.isSome_iff_exists.1 implements
    rw [generate, if_neg given, if_pos implements]
    exact .ofTrait trait known
  by_cases generic : i.genericParameters ≠ []
  · rw [generate, if_neg given, if_neg implements, if_pos generic]
    exact .isGeneric generic
  rw [generate, if_neg given, if_neg implements, if_neg generic]
  cases made : generateFrom i.type 0 i.members with
  | error e =>
    by_contra accepted
    have rightly : ∀ f ∈ functionsOf i.members, RightlyMarked f := by
      intro f member a among mark
      by_contra other
      exact accepted (.malformed f (mem_functionsOf_iff.1 member) a among mark other)
    obtain ⟨found, made'⟩ := exists_generateFrom rightly 0
    rw [made] at made'
    cases made'
  | ok found =>
    obtain ⟨members', constructors⟩ := found
    have became := became_of_generateFrom made
    refine ⟨?_, ⟨members', rfl, became.unmarked⟩, became.records⟩
    rintro (given' | ⟨trait, known⟩ | generic' | ⟨f, function, a, among, mark, other⟩)
    · exact given given'
    · exact implements (by rw [known]; rfl)
    · exact generic generic'
    · exact other (became.rightly f (mem_functionsOf_iff.2 function) a among mark)

end Activation.Generated
