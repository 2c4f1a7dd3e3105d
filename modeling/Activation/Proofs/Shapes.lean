import Activation.Proofs.Delivery
import Activation.Proofs.Generation

/-!
# Shapes of parameters

How a parameter accepts arguments follows from the last name of its type, whatever names stand in
front of it, by the rule of `Tree.Accepts`.  This file says so of the parameters that are recorded
for an implementation, once the implemented type stands in them for `Self`.

The rule is about how a type is written.  A type in round brackets is neither a raw pointer nor a
path, whatever it means, so its parameter takes values of exactly the type in the brackets
(`shapes_follow_last_names`): the brackets make no difference where the type without them would do
the same, and otherwise they do (`enclosed_option_refuses_null`).
-/

namespace Activation

namespace Source.Tree

/-! ## Round brackets -/

/-- The type between round brackets. -/
def inRounds (t : Tree) : Tree := .node .otherType [.group .round [t]]

lemma classify_inRounds (t : Tree) : t.inRounds.classify = (.value, t.inRounds) := rfl

lemma replaceSelf_inRounds (implemented t : Tree) :
    replaceSelf implemented t.inRounds = (replaceSelf implemented t).inRounds := by
  simp [inRounds, replaceSelf, replaceSelfIn, isBareName]

lemma replaceSelf_iterate_inRounds (implemented t : Tree) (n : ℕ) :
    replaceSelf implemented (inRounds^[n] t) = inRounds^[n] (replaceSelf implemented t) :=
  Function.Semiconj.iterate_right (replaceSelf_inRounds implemented) n t

end Source.Tree

namespace Generated

open Source Tree

/-! ## Parameters -/

lemma parameterOf_eq (implemented : Tree) (p : InputParameter) :
    parameterOf implemented p =
      ⟨p.name?.getD "_", (replaceSelf implemented p.type).classify.2,
        (replaceSelf implemented p.type).classify.1⟩ := rfl

/-- A parameter in round brackets takes values of the type in them. -/
lemma parameterOf_inRounds (implemented : Tree) (p : InputParameter) (n : ℕ) :
    parameterOf implemented { p with type := inRounds^[n + 1] p.type } =
      ⟨p.name?.getD "_", inRounds^[n + 1] (replaceSelf implemented p.type), .value⟩ := by
  have enclosed : replaceSelf implemented (inRounds^[n + 1] p.type) =
      (inRounds^[n] (replaceSelf implemented p.type)).inRounds := by
    rw [replaceSelf_iterate_inRounds, Function.iterate_succ_apply']
  rw [parameterOf_eq, enclosed, classify_inRounds,
    Function.iterate_succ_apply' inRounds n (replaceSelf implemented p.type)]

lemma shape_of_link? {scope : Scope} {p : GeneratedParameter} {q : Parameter}
    (linked : p.link? scope = some q) : q.shape = p.shape := by
  obtain ⟨type, -, rfl⟩ := Option.map_eq_some_iff.1 linked
  rfl

/-- Linking keeps whether some parameter cannot be given an argument. -/
lemma isUnsupported_of_link? {scope : Scope} {functions : FunctionTable}
    {c : GeneratedConstructor} {r : ConstructorRecord}
    (linked : c.link? scope functions = some r) :
    r.toConstructor.isUnsupported = c.isUnsupported := by
  simp only [GeneratedConstructor.link?, Option.bind_eq_bind, Option.bind_eq_some_iff,
    Option.some.injEq] at linked
  obtain ⟨owner, -, declared, known, plan, -, rfl⟩ := linked
  show declared.any (·.shape == .pointer) = c.parameters.any (·.shape == .pointer)
  generalize c.parameters = parameters at known
  induction parameters generalizing declared with
  | nil =>
    cases known
    rfl
  | cons p parameters ih =>
    simp only [List.mapM_cons, Option.bind_eq_bind, Option.bind_eq_some_iff, Option.pure_def,
      Option.some.injEq] at known
    obtain ⟨q, first, rest, later, rfl⟩ := known
    rw [List.any_cons, List.any_cons, shape_of_link? first, ih rest later]

/-- A type in round brackets that means what it means without them is linked to a parameter that
takes the values of it, and to the same one as without the brackets if that takes them too. -/
lemma link?_inRounds {scope : Scope} {implemented : Tree} {p : InputParameter} {n : ℕ}
    {type : TypeTag}
    (enclosed : scope.type? (inRounds^[n + 1] (replaceSelf implemented p.type)).text = some type)
    (plain : scope.type? (replaceSelf implemented p.type).text = some type) :
    ∃ q, (parameterOf implemented { p with type := inRounds^[n + 1] p.type }).link? scope = some q ∧
      (∀ a, q.admits a = true ↔ a.is type = true) ∧
      ((parameterOf implemented p).shape = .value →
        (parameterOf implemented p).link? scope = some q) := by
  refine ⟨⟨p.name?.getD "_", type, .value⟩, ?_, fun a => ?_, fun values => ?_⟩
  · rw [parameterOf_inRounds, GeneratedParameter.link?, enclosed]
    rfl
  · cases a <;> simp [Parameter.admits, Argument.is, Argument.tag?]
  · have accepts := accepts_classify (replaceSelf implemented p.type)
    have shape : (replaceSelf implemented p.type).classify.1 = .value := values
    rw [shape] at accepts
    have made : parameterOf implemented p =
        ⟨p.name?.getD "_", replaceSelf implemented p.type, .value⟩ := by
      rw [parameterOf_eq, shape, accepts.eq_of_value]
    rw [made, GeneratedParameter.link?, plain]
    rfl

/-- **Shapes follow the last name of a type.**  Take what is generated from any implementation.
* Every parameter is recorded with the shape and the type that the rule gives for its type, once the
  implemented type stands in it for `Self`; the rule gives no other.
* A constructor with a parameter of a raw pointer is no overload, however it is linked.
* In any number of round brackets a parameter takes values only, and is recorded with the type as it
  is written.  If the type means the same with the brackets as without them, it takes exactly the
  values of that type; and it is linked like the parameter without brackets, if that takes values
  of the type too. -/
theorem shapes_follow_last_names {arguments : List Tree} {i : Implementation} {g : Generation}
    (made : generate arguments i = .ok g) :
    List.Forall₂ (fun (f : FunctionItem) c =>
        List.Forall₂ (fun p (code : ParameterCode) => ∃ shape type,
          (∀ shape' type', Accepts (replaceSelf i.type p.type) shape' type' ↔
            shape' = shape ∧ type' = type) ∧
          code.shape = shapePath shape ∧ code.type = type.text) f.parameters c.code.parameters ∧
        ((∃ p ∈ f.parameters, ∃ type, Accepts (replaceSelf i.type p.type) .pointer type) →
          ∀ scope functions r, c.link? scope functions = some r →
            Overload.ofConstructor? r.toConstructor = none))
      (registered i.type i.members) g.constructors ∧
    ∀ (p : InputParameter) (n : ℕ),
      let t := replaceSelf i.type p.type
      let plain := parameterOf i.type p
      let enclosed := parameterOf i.type { p with type := inRounds^[n + 1] p.type }
      enclosed.shape = .value ∧ enclosed.type = inRounds^[n + 1] t ∧
      ∀ (scope : Scope) type, scope.type? enclosed.type.text = some type →
        scope.type? t.text = some type →
        ∃ q, enclosed.link? scope = some q ∧ (∀ a, q.admits a = true ↔ a.is type = true) ∧
          (plain.shape = .value → plain.link? scope = some q) := by
  constructor
  · refine (became_of_generate made).exists_constructed.imp ?_
    rintro f _ ⟨place, returned, rfl⟩
    have records := records_constructorOf i.type place f returned
    constructor
    · refine records.parameters.imp fun p code recorded => ?_
      obtain ⟨shape, type, accepts, shaped, typed⟩ := recorded.accepts
      refine ⟨shape, type, fun shape' type' => ?_, shaped.trans (shapePath_eq shape).symm, typed⟩
      rw [accepts_iff, accepts_iff.1 accepts, Prod.ext_iff, eq_comm, @eq_comm _ _ type']
    · rintro ⟨p, member, type, accepts⟩ scope functions r linked
      have pointer : ∃ parts, replaceSelf i.type p.type = .node .pointerType parts :=
        classify_fst_eq_pointer_iff.1 (congrArg Prod.fst (accepts_iff.1 accepts))
      have unsupported :=
        (isUnsupported_constructorOf i.type place f returned).2 ⟨p, member, pointer⟩
      have refused := isUnsupported_of_link? linked
      rw [Overload.ofConstructor?, refused, if_pos unsupported]
  · intro p n t plain enclosed
    have written : enclosed = ⟨p.name?.getD "_", inRounds^[n + 1] t, .value⟩ :=
      parameterOf_inRounds i.type p n
    refine ⟨by rw [written], by rw [written], fun scope type inside outside => ?_⟩
    rw [written] at inside
    exact link?_inRounds inside outside

/-- The type of a plain name. -/
def namedType (name : String) : Tree := .node .pathType [.node .segment [.word name]]

/-- The type `core::Option` with one argument. -/
def coreOption (inner : Tree) : Tree :=
  .node .pathType [.node .segment [.word "core"], .mark "::",
    .node .segment [.word "Option", .node .angleArguments [.mark "<", inner, .mark ">"]]]

/-- The function that makes gauges from a limit of the given type. -/
def gaugeFunction (limit : Tree) : FunctionItem where
  attributes := []
  visibility := .everywhere
  qualifiers := []
  name := "limited"
  genericParameters := []
  receiver? := none
  parameters := [⟨some "limit", limit, .node .parameter []⟩]
  result? := some (namedType "Self")
  signature := []
  body := []

/-- The implementation of gauges with that function. -/
def gauge (limit : Tree) : Implementation where
  attributes := []
  genericParameters := []
  trait? := none
  type := namedType "Gauge"
  header := []
  members := [.function (gaugeFunction limit)]

lemma exists_generate_gauge (limit : Tree) : ∃ g, generate [] (gauge limit) = .ok g := ⟨_, rfl⟩

lemma registered_gauge (limit : Tree) :
    registered (gauge limit).type (gauge limit).members = [gaugeFunction limit] := rfl

/-- A limit that may be missing is recorded as one that may be null, and takes values only once it
stands in brackets. -/
theorem gauge_limit_recorded :
    ∃ g c code, generate [] (gauge (coreOption (namedType "i32"))) = .ok g ∧
      g.constructors = [c] ∧ c.code.parameters = [code] ∧
      code.shape = shapePath .nullable ∧ code.type = "i32" ∧
      (parameterOf (namedType "Gauge")
        ⟨some "limit", inRounds^[2] (coreOption (namedType "i32")), .node .parameter []⟩).shape =
          .value := by
  obtain ⟨g, made⟩ := exists_generate_gauge (coreOption (namedType "i32"))
  obtain ⟨recorded, enclosed⟩ := shapes_follow_last_names made
  rw [registered_gauge] at recorded
  obtain ⟨c, _, ⟨parameters, -⟩, none, constructors⟩ := List.forall₂_cons_left_iff.1 recorded
  obtain ⟨code, _, ⟨shape, type, rule, written⟩, last, codes⟩ :=
    List.forall₂_cons_left_iff.1 parameters
  cases none
  cases last
  obtain ⟨rfl, rfl⟩ := (rule .nullable (namedType "i32")).1 (accepts_iff.2 rfl)
  refine ⟨g, c, code, made, constructors, codes, written.1, ?_,
    (enclosed ⟨some "limit", coreOption (namedType "i32"), .node .parameter []⟩ 1).1⟩
  rw [written.2]
  decide +kernel

/-- The parameters that are recorded for the functions of an implementation. -/
def recordedParameters (i : Implementation) : List ParameterCode :=
  match generate [] i with
  | .ok g => g.constructors.flatMap (·.code.parameters)
  | .error _ => []

/-- An optional limit may be null, and may not be once it stands in brackets. -/
theorem enclosed_option_refuses_null :
    recordedParameters (gauge (coreOption (namedType "i32"))) =
      [⟨"limit", "i32", "::activator::ParamShape::Nullable"⟩] ∧
    recordedParameters (gauge (coreOption (namedType "i32")).inRounds) =
      [⟨"limit", "(core::Option<i32>)", "::activator::ParamShape::Value"⟩] := by
  decide +kernel

end Generated

end Activation
