import Activation.Proofs.Shapes
import Activation.Proofs.WrittenWords

/-!
# The implemented type outside its implementation

The code that is generated for a constructor stands outside the implementation, where `Self` means
nothing, so the implemented type is put in for it in the types of parameters.

What that does to a type is told by its outline: the tokens of the type, with a gap in place of
every type that is `Self` and nothing else (`Tree.outline`).  With `Self` in the gaps the outline is
the type as it was (`Tree.fill_outline`), and with the implemented type in the gaps it is the type
that is recorded (`Tree.fill_outline_of_replaceSelf`).  The one exception is a method that is
declared inside the type, in a block that computes a length, say: a receiver without a type is
given one.

A word `Self` that an outline keeps is not a type of its own.  It begins a longer path, as in
`Self::Item`, or is an argument of a macro, and it is left alone.  So the code is free of `Self`
exactly as far as outlines are (`implemented_type_stands_for_self`), and an array whose length is a
constant of the implemented type brings it out (`length_brings_out_self`).
-/

namespace Activation

namespace Source.Tree

/-! ## Outlines -/

mutual

/-- The tokens of a tree, with a gap in place of every type `Self`. -/
def outline : Tree → List (Option Token)
  | .leaf t => [some t]
  | .group b inside =>
    some (bracketToken b.opening) :: outlineOf inside ++ [some (bracketToken b.closing)]
  | .node .verbatim parts => (tokensOf parts).map some
  | .node k parts => if (Tree.node k parts).isBareName "Self" then [none] else outlineOf parts

/-- The tokens of several trees, with gaps. -/
def outlineOf : List Tree → List (Option Token)
  | [] => []
  | t :: ts => outline t ++ outlineOf ts

end

/-- The tokens of an outline, with the given ones in every gap. -/
def fill (inside : List Token) (outline : List (Option Token)) : List Token :=
  outline.flatMap fun
    | some t => [t]
    | none => inside

@[simp] lemma fill_nil (inside : List Token) : fill inside [] = [] := rfl

@[simp] lemma fill_cons_none (inside : List Token) (outline : List (Option Token)) :
    fill inside (none :: outline) = inside ++ fill inside outline := rfl

@[simp] lemma fill_cons_some (inside : List Token) (t : Token) (outline : List (Option Token)) :
    fill inside (some t :: outline) = t :: fill inside outline := rfl

@[simp] lemma fill_append (inside : List Token) (first second : List (Option Token)) :
    fill inside (first ++ second) = fill inside first ++ fill inside second :=
  List.flatMap_append

@[simp] lemma fill_map_some (inside ts : List Token) : fill inside (ts.map some) = ts := by
  induction ts with
  | nil => rfl
  | cons t ts ih => rw [List.map_cons, fill_cons_some, ih]

lemma outline_node {k : Kind} (written : k ≠ .verbatim) (parts : List Tree) :
    outline (.node k parts) =
      if (Tree.node k parts).isBareName "Self" then [none] else outlineOf parts := by
  rw [outline]
  exact written

mutual

/-- With `Self` in its gaps an outline is the tree that it is of. -/
lemma fill_outline : ∀ t : Tree, fill [.word "Self"] t.outline = t.tokens
  | .leaf t => rfl
  | .group b inside => by simp [outline, tokens, fill_outlineOf inside]
  | .node k parts => by
    by_cases verbatim : k = .verbatim
    · subst verbatim
      rw [outline, fill_map_some, tokens]
    rw [outline_node verbatim]
    split
    · rename_i bare
      rw [Generated.isBareName_iff.1 bare]
      rfl
    · rw [fill_outlineOf parts, tokens]

lemma fill_outlineOf : ∀ ts : List Tree, fill [.word "Self"] (outlineOf ts) = tokensOf ts
  | [] => rfl
  | t :: ts => by rw [outlineOf, fill_append, fill_outline t, fill_outlineOf ts, tokensOf]

end

/-! ## Putting in the implemented type -/

variable {implemented : Tree}

lemma replaceSelf_node {k : Kind} (written : k ≠ .verbatim) (called : k ≠ .receiver)
    (parts : List Tree) :
    replaceSelf implemented (.node k parts) =
      if (Tree.node k parts).isBareName "Self" then implemented
      else .node k (replaceSelfIn implemented parts) := by
  rw [replaceSelf]
  · exact written
  · exact called

lemma wordsAmong_receiverType (implemented : Tree) (parts : List Tree) :
    WordsAmong [receiverType implemented parts] (implemented :: parts) := by
  unfold receiverType
  dsimp only
  split
  · have reference : (parts.dropWhile (·.isNode .attributeItem)).takeWhile (!·.isWord "self") ⊆
        parts :=
      ((List.takeWhile_sublist _).trans (List.dropWhile_sublist _)).subset
    exact .of_node .otherType (.append (.of_subset fun t member => .tail _ (reference member))
      (.of_subset (by simp)))
  · exact .of_subset (by simp)

/-- What is added to a receiver without a type says nothing that the receiver and the implemented
type do not say. -/
lemma wordsAmong_typedReceiver (implemented : Tree) (parts : List Tree) :
    WordsAmong (typedReceiver implemented parts) (implemented :: parts) := by
  unfold typedReceiver
  split
  · exact .of_subset (by simp)
  · exact .append (.of_subset (by simp))
      (.cons (.of_mark ":" _) (wordsAmong_receiverType implemented parts))

lemma self_mem_typedReceiver_iff (free : .word "Self" ∉ implemented.tokens) (parts : List Tree) :
    .word "Self" ∈ tokensOf (typedReceiver implemented parts) ↔ .word "Self" ∈ tokensOf parts := by
  constructor
  · intro stands
    have among := wordsAmong_typedReceiver implemented parts "Self" stands
    rw [tokensOf, List.mem_append] at among
    exact among.resolve_left free
  · apply WordsAmong.of_subset
    unfold typedReceiver
    split <;> simp

mutual

/-- Once the implemented type is put in, a word `Self` is one that the outline keeps. -/
lemma self_mem_replaceSelf_iff (free : .word "Self" ∉ implemented.tokens) : ∀ t : Tree,
    .word "Self" ∈ (replaceSelf implemented t).tokens ↔ some (.word "Self") ∈ t.outline
  | .leaf t => by simp [replaceSelf, tokens, outline]
  | .group b inside => by
    simp [replaceSelf, tokens, outline, bracketToken, self_mem_replaceSelfIn_iff free inside]
  | .node k parts => by
    have within := self_mem_replaceSelfIn_iff free parts
    by_cases verbatim : k = .verbatim
    · subst verbatim
      simp [replaceSelf, tokens, outline]
    by_cases receiver : k = .receiver
    · subst receiver
      rw [replaceSelf, tokens, self_mem_typedReceiver_iff free, within, outline_node verbatim]
      simp [isBareName]
    rw [replaceSelf_node verbatim receiver, outline_node verbatim]
    split
    · simpa using free
    · exact within

lemma self_mem_replaceSelfIn_iff (free : .word "Self" ∉ implemented.tokens) : ∀ ts : List Tree,
    .word "Self" ∈ tokensOf (replaceSelfIn implemented ts) ↔ some (.word "Self") ∈ outlineOf ts
  | [] => by simp [replaceSelfIn, tokensOf, outlineOf]
  | t :: ts => by
    rw [replaceSelfIn, tokensOf, outlineOf, List.mem_append, List.mem_append,
      self_mem_replaceSelf_iff free t, self_mem_replaceSelfIn_iff free ts]

end

mutual

/-- Whether a receiver without a type stands in the tree. -/
def hasUntypedReceiver : Tree → Bool
  | .leaf _ => false
  | .group _ inside => hasUntypedReceiverIn inside
  | .node .verbatim _ => false
  | .node .receiver parts => !parts.any (·.isMark ":") || hasUntypedReceiverIn parts
  | .node _ parts => hasUntypedReceiverIn parts

/-- Whether a receiver without a type stands in one of the trees. -/
def hasUntypedReceiverIn : List Tree → Bool
  | [] => false
  | t :: ts => hasUntypedReceiver t || hasUntypedReceiverIn ts

end

lemma hasUntypedReceiver_node {k : Kind} (written : k ≠ .verbatim) (called : k ≠ .receiver)
    (parts : List Tree) :
    hasUntypedReceiver (.node k parts) = hasUntypedReceiverIn parts := by
  rw [hasUntypedReceiver]
  · exact written
  · exact called

/-- A mark stays where it is. -/
lemma any_isMark_replaceSelfIn {text : String} {ts : List Tree} (stands : ts.any (·.isMark text)) :
    (replaceSelfIn implemented ts).any (·.isMark text) := by
  induction ts with
  | nil => simp at stands
  | cons t ts ih =>
    rw [replaceSelfIn, List.any_cons, Bool.or_eq_true]
    rw [List.any_cons, Bool.or_eq_true] at stands
    apply stands.imp _ ih
    intro here
    cases t with
    | leaf t => simpa [replaceSelf] using here
    | group b inside => simp [isMark] at here
    | node k parts => simp [isMark] at here

mutual

/-- With the implemented type in its gaps the outline of a type is the type that it is put in. -/
lemma fill_outline_of_replaceSelf (implemented : Tree) : ∀ t : Tree, t.hasUntypedReceiver = false →
    fill implemented.tokens t.outline = (replaceSelf implemented t).tokens
  | .leaf t, _ => rfl
  | .group b inside, typed => by
    simp [outline, replaceSelf, tokens, fill_outlineOf_replaceSelfIn implemented inside typed]
  | .node k parts, typed => by
    by_cases verbatim : k = .verbatim
    · subst verbatim
      rw [outline, fill_map_some, replaceSelf, tokens]
    by_cases receiver : k = .receiver
    · subst receiver
      rw [hasUntypedReceiver, Bool.or_eq_false_iff, Bool.not_eq_false'] at typed
      have kept : typedReceiver implemented (replaceSelfIn implemented parts) =
          replaceSelfIn implemented parts := by
        rw [typedReceiver, any_isMark_replaceSelfIn typed.1, Bool.true_or, if_pos rfl]
      rw [outline_node verbatim, if_neg (by simp [isBareName]),
        fill_outlineOf_replaceSelfIn implemented parts typed.2, replaceSelf, kept, tokens]
    rw [hasUntypedReceiver_node verbatim receiver] at typed
    rw [outline_node verbatim, replaceSelf_node verbatim receiver]
    split
    · simp
    · rw [fill_outlineOf_replaceSelfIn implemented parts typed, tokens]

lemma fill_outlineOf_replaceSelfIn (implemented : Tree) : ∀ ts : List Tree,
    hasUntypedReceiverIn ts = false →
      fill implemented.tokens (outlineOf ts) = tokensOf (replaceSelfIn implemented ts)
  | [], _ => rfl
  | t :: ts, typed => by
    rw [hasUntypedReceiverIn, Bool.or_eq_false_iff] at typed
    rw [outlineOf, fill_append, fill_outline_of_replaceSelf implemented t typed.1,
      fill_outlineOf_replaceSelfIn implemented ts typed.2, replaceSelfIn, tokensOf]

end

/-! ## Classification -/

/-- A type takes values of a type that says no more. -/
lemma Accepts.wordsAmong {t inner : Tree} {shape : Shape} (accepts : Accepts t shape inner) :
    WordsAmong [inner] [t] := by
  cases accepts with
  | pointer parts => exact .refl _
  | dynamic => exact .refl _
  | value => exact .refl _
  | nullable ends one =>
    obtain ⟨front, back, rfl, -⟩ := ends
    obtain ⟨parts, rfl, only, -⟩ := one
    have argument : inner ∈ parts := List.mem_of_mem_filter (only ▸ List.mem_singleton_self inner)
    have angles : WordsAmong [inner] [.node .angleArguments parts] :=
      (WordsAmong.of_subset (by simpa using argument)).trans (.parts_node .angleArguments parts)
    have segment : WordsAmong [inner]
        [.node .segment [.word "Option", .node .angleArguments parts]] :=
      (angles.trans (.of_subset (by simp))).trans (.parts_node .segment _)
    exact (segment.trans (.of_subset (by simp))).trans (.parts_node .pathType _)

/-- The written form of the type of the values that are taken has only words of the type. -/
lemma word_mem_of_classify {t : Tree} {w : String}
    (stands : .word w ∈ t.classify.2.written.tokens) : .word w ∈ t.tokens := by
  have taken := accepts_classify t
  have inside : .word w ∈ tokensOf [t.classify.2] := by
    simpa [tokensOf] using word_mem_of_written stands
  simpa [tokensOf] using taken.wordsAmong w inside

end Source.Tree

namespace Generated

open Source Tree

/-! ## Generated code -/

/-- The type that the code for an argument names. -/
def Binding.type? : Binding → Option Tree
  | .value type _ | .nullable type _ => some type
  | .dynamic _ => none

/-- The types that the code for the arguments names are those of the parameters. -/
lemma exists_type_of_mem_bindings {c : GeneratedConstructor} {b : Binding} (taken : b ∈ c.bindings)
    {type : Tree} (named : b.type? = some type) : ∃ q ∈ c.parameters, q.type = type := by
  obtain ⟨index, within, rfl⟩ := List.mem_mapIdx.1 taken
  refine ⟨c.parameters[index], List.getElem_mem within, ?_⟩
  unfold GeneratedParameter.binding at named
  split at named <;> cases named <;> rfl

/-- **The implemented type stands for `Self` in generated code.**  Take what is generated from the
implementation of a type that does not mention `Self`.  A parameter is classified by its type once
the implemented type is put in.
* With `Self` in its gaps the outline of the type is the type; with the implemented type in its gaps
  it is the type that is classified, unless a receiver without a type stands in it.
* The word `Self` stands in the type that is classified exactly if it stands in the outline.
* If it does not stand there, it does not stand in the type that is written for the parameter
  either.
The records of the parameters name the types that are written for them, and so does the code that
takes the arguments. -/
theorem implemented_type_stands_for_self {arguments : List Tree} {i : Implementation}
    {g : Generation} (made : generate arguments i = .ok g) (free : .word "Self" ∉ i.type.tokens) :
    List.Forall₂ (fun (f : FunctionItem) c =>
        List.Forall₂ (fun p (q : GeneratedParameter) =>
            let t := replaceSelf i.type p.type
            (q.shape, q.type) = t.classify ∧
            p.type.tokens = fill [.word "Self"] p.type.outline ∧
            (p.type.hasUntypedReceiver = false →
              t.tokens = fill i.type.tokens p.type.outline) ∧
            (.word "Self" ∈ t.tokens ↔ some (.word "Self") ∈ p.type.outline) ∧
            (some (.word "Self") ∉ p.type.outline → .word "Self" ∉ q.type.written.tokens))
          f.parameters c.parameters ∧
        c.code.parameters.map (·.type) = c.parameters.map (fun q => spell q.type.written.tokens) ∧
        ∀ b ∈ c.bindings, ∀ type, b.type? = some type → ∃ q ∈ c.parameters, q.type = type)
      (registered i.type i.members) g.constructors := by
  refine (became_of_generate made).exists_constructed.imp ?_
  rintro f _ ⟨place, returned, rfl⟩
  refine ⟨?_, ?_, fun b taken type named => exists_type_of_mem_bindings taken named⟩
  · show List.Forall₂ _ f.parameters (f.parameters.map (parameterOf i.type))
    rw [List.forall₂_map_right_iff, List.forall₂_same]
    intro p _
    have left := self_mem_replaceSelf_iff free p.type
    exact ⟨rfl, (fill_outline p.type).symm,
      fun typed => (fill_outline_of_replaceSelf i.type p.type typed).symm, left,
      fun none stands => none (left.1 (word_mem_of_classify stands))⟩
  · exact List.map_map

/-- A limit of gauges that is a gauge itself, if there is one, is recorded by the name of the
type. -/
theorem gauge_of_gauges_recorded :
    ∃ g c q, generate [] (gauge (coreOption (namedType "Self"))) = .ok g ∧
      g.constructors = [c] ∧ c.parameters = [q] ∧ q.type = namedType "Gauge" ∧
      .word "Self" ∉ q.type.written.tokens := by
  obtain ⟨g, made⟩ := exists_generate_gauge (coreOption (namedType "Self"))
  have recorded := implemented_type_stands_for_self made (by decide)
  rw [registered_gauge] at recorded
  obtain ⟨c, _, ⟨parameters, -⟩, none, constructors⟩ := List.forall₂_cons_left_iff.1 recorded
  obtain ⟨q, _, ⟨classified, -, -, -, free⟩, last, recorded⟩ :=
    List.forall₂_cons_left_iff.1 parameters
  cases none
  cases last
  exact ⟨g, c, q, made, constructors, recorded, congrArg Prod.snd classified, free (by decide)⟩

/-- The bytes of which there are as many as a constant of the implemented type says. -/
def selfSizedBytes : Tree :=
  .node .otherType [.group .square [namedType "u8", .mark ";",
    .node .otherExpression [.node .segment [.word "Self"], .mark "::", .node .segment [.word "N"]]]]

/-- A length that is a constant of the implemented type brings `Self` out of the implementation. -/
theorem length_brings_out_self :
    .word "Self" ∉ (gauge selfSizedBytes).type.tokens ∧
      ∃ g c, generate [] (gauge selfSizedBytes) = .ok g ∧ g.constructors = [c] ∧
        c.code.parameters = [⟨"limit", "[u8;Self::N]", "::activator::ParamShape::Value"⟩] ∧
        c.bindings.map (·.code) = ["let __arg0=args.take::<[u8;Self::N]>(0usize)?;"] :=
  ⟨by decide, _, _, rfl, rfl, by decide +kernel, by decide +kernel⟩

end Generated

end Activation
