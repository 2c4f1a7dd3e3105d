import Activation.Proofs.LinkedParsers
import Activation.Proofs.Reordering

/-!
# Enumerations are activated as their zero member

An enumeration that is declared without fields is activated without arguments as the variant whose
number is zero, wherever it stands, and gives no instance if there is none.  Four parts of the
library have a say in this.  The members are numbered in an integer type, whatever the attributes
of the declaration list (`Generated.isIntegerName_registeredNumbering`).  The zeros of integer types
have one literal (`literal_zero_of_mem_integerTypes`).  Members are found by the decimal forms of
their numbers, and no two numbers have the same (`Text.decimal_injective`), so that the literal finds
the member whose number is zero and no other (`memberOf_decimal`).  And this member is all that the
type can be activated as without arguments, unless a constructor gets in first
(`find?_candidates_nil`).

`DeclaredEnumeration.activated_as_zero_member` puts them together, for every point of every run.
-/

namespace Activation

/-- The zeros of integer types have one literal. -/
lemma literal_zero_of_mem_integerTypes :
    ∀ name ∈ Generated.integerTypes,
      (zeroOf? (.basic name)).bind (·.literal?) = some (Text.decimal 0) := by
  decide +kernel

/-! ## Declared enumerations -/

/-- An enumeration that a source declares and a registration is generated for, as it is linked.  Its
variants have numbers, no two the same. -/
structure DeclaredEnumeration (scope : Scope) (evaluate : Evaluation) where
  declaration : Source.Declaration
  variants : List Source.Variant
  /-- The variants with their numbers, as they stand in the declaration. -/
  members : List (String × ℤ)
  generated : Generated.GeneratedType
  record : TypeRecord
  form_eq : declaration.form = .enumeration variants
  accepted : Generated.generateType declaration = .ok generated
  numbered : numbersFrom? evaluate 0 variants = some members
  distinct : (members.map (·.2)).Nodup
  linked : generated.link? scope evaluate declaration = some record
  /-- It is none of the well-known types. -/
  isNew : zeroOf? record.tag = none

namespace DeclaredEnumeration

open Generated

variable {scope : Scope} {evaluate : Evaluation}

/-- The record says what the members are numbered in and how they are found. -/
lemma exists_kind_eq (e : DeclaredEnumeration scope evaluate) :
    ∃ name ∈ integerTypes, ∃ underlying, scope.type? name = some underlying ∧
      e.record.kind = .enumeration (.numbered e.record.tag underlying e.members) := by
  obtain ⟨underlying, known, kind⟩ := kind_of_link? e.form_eq e.accepted e.numbered e.linked
  exact ⟨_, mem_integerTypes_iff.2 (isIntegerName_registeredNumbering e.declaration), underlying,
    known, kind⟩

end DeclaredEnumeration

/-! ## Activation -/

/-- If no constructor of the type can be run without arguments and the type has no zero value, only
a zero member can be. -/
lemma find?_candidates_nil {history : List Registration} {options : Options} {t : TypeTag}
    (noZero : zeroOf? t = none)
    (needsArguments : ∀ c ∈ eligible options (declaredIn history t), c.parameters ≠ []) :
    (candidatesIn history options t).find? (·.admits []) =
      (memberCandidates history options t).find? (·.admits []) := by
  have declared : ((eligible options (declaredIn history t)).map Candidate.declared).find?
      (·.admits []) = none := by
    rw [List.find?_eq_none]
    intro c member
    obtain ⟨d, allowed, rfl⟩ := List.mem_map.1 member
    intro admitted
    have none : d.parameters.length = 0 := (acceptedBy_iff.1 admitted).1.symm
    exact needsArguments d allowed (List.length_eq_zero_iff.1 none)
  have zero : zeroCandidates options t = [] := by
    unfold zeroCandidates
    rw [noZero]
    split <;> rfl
  rw [candidatesIn, zero, List.append_nil, List.find?_append, declared, Option.none_or]

namespace DeclaredEnumeration

variable {scope : Scope} {evaluate : Evaluation} {history : List Registration}

/-- The only candidate for the zero member is found by the decimal form of zero. -/
lemma memberCandidates_eq (e : DeclaredEnumeration scope evaluate)
    (integers : ∀ name ∈ Generated.integerTypes, scope.type? name = some (.basic name))
    (first : firstTypeInfo? history e.record.tag = (Registration.typeRecord e.record).typeInfo?)
    (options : Options) :
    ∃ underlying, memberCandidates history options e.record.tag =
      if options.enumerationFallback then
        [.member (.numbered e.record.tag underlying e.members) (Text.decimal 0)]
      else [] := by
  obtain ⟨name, integer, underlying, known, kind⟩ := e.exists_kind_eq
  obtain rfl : .basic name = underlying := Option.some.inj ((integers name integer).symm.trans known)
  have registered : (firstTypeInfo? history e.record.tag).map TypeInfo.kind =
      some (.enumeration (.numbered e.record.tag (.basic name) e.members)) := by
    rw [first, ← kind]
    rfl
  refine ⟨.basic name, ?_⟩
  unfold memberCandidates
  rw [registered]
  split
  · dsimp only [Enumeration.numbered]
    rw [literal_zero_of_mem_integerTypes name integer]
    rfl
  · rfl

/-- **An enumeration is activated as its zero member.**  Let a history register a declared
enumeration before anything else is registered about its type, and no constructor of the type that
may be run be without parameters.  Then at every point of every run a caller who asks for the
enumeration without arguments
* gets the variant whose number is zero, wherever it stands in the declaration, and no content if
  there is none, if members are to be fallen back on;
* gets no content in any case, if they are not. -/
theorem activated_as_zero_member (e : DeclaredEnumeration scope evaluate)
    (integers : ∀ name ∈ Generated.integerTypes, scope.type? name = some (.basic name))
    (first : firstTypeInfo? history e.record.tag = (Registration.typeRecord e.record).typeInfo?)
    (options : Options)
    (needsArguments : ∀ c ∈ eligible options (declaredIn history e.record.tag), c.parameters ≠ [])
    (earlier : List Operation) :
    let registry := (Registry.ofRegistrations history).result
    let a := ((Activator.ofRegistry registry options).performAll earlier).result.2
    let answer := (a.perform (.create e.record.tag)).result.1
    (options.enumerationFallback = true →
      (∀ name, (name, 0) ∈ e.members → answer = .content (.finished (.ok (some (.member name))))) ∧
      ((∀ m ∈ e.members, m.2 ≠ 0) → answer = .content (.finished (.ok none)))) ∧
    (options.enumerationFallback = false → answer = .content (.finished (.ok none))) := by
  intro registry a answer
  let made := (search history options e.record.tag []).result
  have told : answer = .content (made.narrow e.record.tag) := by
    have answered := @Activator.answer_of_arguments history options earlier
      (.create e.record.tag) e.record.tag [] rfl rfl
    dsimp only at answered
    rw [createWith_eq_search] at answered
    exact answered
  have found := find?_candidates_nil e.isNew needsArguments
  obtain ⟨underlying, members⟩ := e.memberCandidates_eq integers first options
  rw [members] at found
  constructor
  · intro fallsBack
    rw [if_pos fallsBack] at found
    have replied : made =
        .finished (.ok (memberOf e.record.tag e.members (Text.decimal 0))) := by
      simp only [made, search, found]
      rfl
    constructor
    · intro name member
      have own : (⟨e.record.tag, .member name⟩ : Instance).downcast? e.record.tag =
          some (.member name) := if_pos e.record.tag.is_refl
      rw [told, replied, memberOf_decimal e.distinct member]
      show Answer.content (.finished (.ok (Option.bind _ _))) = _
      rw [Option.bind_some, own]
    · intro missing
      rw [told, replied, memberOf_decimal_eq_none missing]
      rfl
  · intro fallsBack
    rw [if_neg (by simp [fallsBack])] at found
    have replied : made = .nothing := by
      simp only [made, search, found]
      rfl
    rw [told, replied]
    rfl

end DeclaredEnumeration

/-- What a source with signs of numbers is about: the signs and the integer types. -/
def signScope : Scope :=
  ⟨"sample", ("Sign", .basic "Sign") :: Generated.integerTypes.map fun name => (name, .basic name),
    64⟩

/-- The signs of numbers, from minus one upwards and in one byte. -/
def declaredSigns : DeclaredEnumeration signScope constantNumber? where
  declaration :=
    ⟨[⟨false, [.word "repr"], .arguments [.word "C", .leaf (.mark "," false), .word "i8"],
      .word "repr"⟩], "Sign", [],
      .enumeration [⟨"minus", false, some [.leaf (.mark "-" true), .leaf (.literal "1")]⟩,
        ⟨"neither", false, none⟩, ⟨"plus", false, none⟩]⟩
  variants := _
  members := [("minus", -1), ("neither", 0), ("plus", 1)]
  generated := ⟨"Sign", "Sign", .enumeration "i8" [.returnIf "minus" "i8", .returnIf "neither" "i8",
    .returnIf "plus" "i8", .returnNothing], false⟩
  record := ⟨.basic "Sign", "Sign", .enumeration (.numbered (.basic "Sign") (.basic "i8")
    [("minus", -1), ("neither", 0), ("plus", 1)]), "sample"⟩
  form_eq := rfl
  accepted := rfl
  numbered := rfl
  distinct := by decide
  linked := Generated.link?_eq_some rfl rfl rfl rfl rfl (by decide) rfl
    (by simp [IntegerLayout.Holds])
  isNew := by decide +kernel

/-- Signs are registered, after a constructor that makes them from texts. -/
def signs : List Registration :=
  [.constructorByHand (.basic "Sign") ((Signature.named "parse").value "text" .string)
      fun args => (.finished (.error (.failed "no sign")), args),
    .typeRecord declaredSigns.record, .typeByHand (.basic "Sign") .plain]

/-- The sign that is made without arguments is the second one. -/
theorem signs_activated_as_neither :
    (∀ name ∈ Generated.integerTypes, signScope.type? name = some (.basic name)) ∧
    firstTypeInfo? signs (.basic "Sign") =
      (Registration.typeRecord declaredSigns.record).typeInfo? ∧
    (∀ c ∈ eligible .standard (declaredIn signs (.basic "Sign")), c.parameters ≠ []) ∧
    ((Activator.ofRegistry (Registry.ofRegistrations signs).result .standard).perform
        (.create (.basic "Sign"))).result.1 =
      .content (.finished (.ok (some (.member "neither")))) := by
  have integers : ∀ name ∈ Generated.integerTypes,
      signScope.type? name = some (.basic name) := by decide +kernel
  have first : firstTypeInfo? signs (.basic "Sign") =
      (Registration.typeRecord declaredSigns.record).typeInfo? := rfl
  have needsArguments : ∀ c ∈ eligible .standard (declaredIn signs (.basic "Sign")),
      c.parameters ≠ [] := by
    intro c member
    obtain ⟨filed, -⟩ := List.mem_filter.1 member
    obtain rfl := List.mem_singleton.1 filed
    exact List.cons_ne_nil _ _
  have activated := declaredSigns.activated_as_zero_member integers first .standard needsArguments []
  exact ⟨integers, first, needsArguments, (activated.1 rfl).1 "neither" (by decide)⟩

end Activation
