import Activation.Proofs.Operation
import Activation.Proofs.Search

/-!
# Activation by name

A type is activated by a name in two steps: the blanks around the name are cut off, and what remains
is looked up among the names that registrations claimed.  A registration claims its name as it is
written.  So the two agree for a name that neither begins nor ends with a blank, and for no other: a
name that was claimed with blanks at an end is held for its type, and is never looked up.

`named_activation` says what a caller gets for any name, with any blanks around it
(`Registry.named?_padded`).  It depends on the text without the blanks alone, and leaving all other
names out of the registry would change nothing (`Registry.named?_withTrimmedNames`).
`padded_name_unknown` is a case of a name that is held and cannot be used.
-/

namespace Activation

/-! ## Blanks around a text -/

namespace Text

lemma trim_padded {before after : String} (hb : before.toList.all isBlank = true)
    (ha : after.toList.all isBlank = true) (name : String) :
    trim (before ++ name ++ after) = trim name := by
  rw [List.all_eq_true] at hb ha
  rw [trim, trim, String.toList_append, String.toList_append, trimChars_append_blanks hb ha]

/-- What is left has no blanks at its ends. -/
lemma trim_trim (s : String) : trim (trim s) = trim s := by
  have begins : ∀ (p : List Char) (c : Char), (p.dropWhile isBlank).head? = some c →
      isBlank c = false := by
    intro p c first
    have some := List.head?_dropWhile_not isBlank p
    rw [first] at some
    simpa using some
  have keeps : trimChars (trimChars s.toList) = trimChars s.toList := by
    refine trimChars_eq_self (fun c first => ?_) fun c last => ?_
    · -- Cutting at the end leaves the first character that is no blank, or nothing.
      have kept : (trimChars s.toList) <+: s.toList.dropWhile isBlank := by
        have cut := List.dropWhile_suffix (p := isBlank) (l := (s.toList.dropWhile isBlank).reverse)
        simpa [trimChars] using List.reverse_prefix.2 cut
      obtain ⟨rest, whole⟩ := kept
      refine begins s.toList c ?_
      rw [← whole, List.head?_append, first]
      rfl
    · rw [trimChars, List.getLast?_reverse] at last
      exact begins _ c last
  rw [trim, trim, String.toList_ofList, keeps]

end Text

/-! ## What a name means -/

namespace Registry

lemma named?_padded {before after : String} (hb : before.toList.all Text.isBlank = true)
    (ha : after.toList.all Text.isBlank = true) (r : Registry) (name : String) :
    r.named? (before ++ name ++ after) = r.named? name := by
  rw [named?, named?, Text.trim_padded hb ha]

lemma named?_eq_some_iff {r : Registry} {name : String} {t : TypeTag} :
    r.named? name = some t ↔
      Text.trim name ≠ "" ∧ r.resolve (Text.trim name) = some t := by
  unfold named?
  by_cases blank : Text.trim name = ""
  · simp [blank]
  · have present : (Text.trim name).isEmpty = false := by
      simpa using blank
    simp [present, blank]

/-- The registry in which only names without blanks at their ends are held. -/
def withTrimmedNames (r : Registry) : Registry :=
  { r with names := r.names.filter fun c => Text.trim c.name == c.name }

/-- Names with blanks at an end are never looked up. -/
lemma named?_withTrimmedNames (r : Registry) (name : String) :
    r.withTrimmedNames.named? name = r.named? name := by
  have same : r.withTrimmedNames.resolve (Text.trim name) = r.resolve (Text.trim name) := by
    unfold resolve holder? withTrimmedNames
    rw [List.find?_filter]
    congr 2
    funext c
    by_cases wanted : c.name = Text.trim name
    · simp [wanted, Text.trim_trim]
    · simp [wanted]
  rw [named?, named?, same]

end Registry

/-! ## What a caller gets -/

namespace Activator

lemma createNamed_of_named {a : Activator} {name : String} {t : TypeTag}
    (known : a.registry.named? name = some t) (args : Option (List Argument)) :
    a.createNamed name = a.createInstance (some t) ∧
      a.createNamedWith name args = a.createInstanceWith (some t) args := by
  constructor
  · rw [createNamed, resolveName_of_named known, pure_bind]
  · rw [createNamedWith, resolveName_of_named known, pure_bind]

lemma createNamed_of_blank {a : Activator} {name : String} (blank : Text.trim name = "")
    (args : Option (List Argument)) :
    a.createNamed name = pure (Reply.error .missingType, a) ∧
      a.createNamedWith name args = pure (Reply.error .missingType, a) := by
  have blank : (Text.trim name).isEmpty = true := by
    simpa using blank
  constructor
  · rw [createNamed, resolveName_of_blank blank, pure_bind]
  · rw [createNamedWith, resolveName_of_blank blank, pure_bind]

lemma createNamed_of_unknown {a : Activator} {name : String} (present : Text.trim name ≠ "")
    (unknown : a.registry.resolve (Text.trim name) = none) (args : Option (List Argument)) :
    let told : Logged (Reply × Activator) := do
      Logged.report (.unknownName (Text.trim name))
      pure (.nothing, a)
    a.createNamed name = told ∧ a.createNamedWith name args = told := by
  have present : (Text.trim name).isEmpty = false := by
    simpa using present
  have unknown : a.registry.named? name = none := by
    simp [Registry.named?, present, unknown]
  constructor
  · rw [createNamed, resolveName_of_unknown unknown present, bind_assoc]
    rfl
  · rw [createNamedWith, resolveName_of_unknown unknown present, bind_assoc]
    rfl

end Activator

/-- **What a name activates.**  Take any activator, at any point, and any blanks around a name.
* A name that is held for a type, and neither is empty nor has blanks at its ends, activates the
  type: with arguments and without, the outcome is that of activating the type itself.
* In general the name activates the type that its text without blanks is held for.  Without any such
  text no type is named, and if the text is not held the name is unknown, whatever the name as it is
  written may be held for.
* So the names that are held with blanks at an end make no difference to activation. -/
theorem named_activation (a : Activator) {before after : String}
    (hb : before.toList.all Text.isBlank = true) (ha : after.toList.all Text.isBlank = true)
    (name : String) (args : Option (List Argument)) :
    (∀ t, a.registry.resolve name = some t → name ≠ "" → Text.trim name = name →
      a.createNamed (before ++ name ++ after) = a.createInstance (some t) ∧
      a.createNamedWith (before ++ name ++ after) args = a.createInstanceWith (some t) args) ∧
    (∀ t, Text.trim name ≠ "" → a.registry.resolve (Text.trim name) = some t →
      a.createNamed (before ++ name ++ after) = a.createInstance (some t) ∧
      a.createNamedWith (before ++ name ++ after) args = a.createInstanceWith (some t) args) ∧
    (Text.trim name = "" →
      a.createNamed (before ++ name ++ after) = pure (Reply.error .missingType, a) ∧
      a.createNamedWith (before ++ name ++ after) args = pure (Reply.error .missingType, a)) ∧
    (Text.trim name ≠ "" → a.registry.resolve (Text.trim name) = none →
      let told : Logged (Reply × Activator) := do
        Logged.report (.unknownName (Text.trim name))
        pure (.nothing, a)
      a.createNamed (before ++ name ++ after) = told ∧
      a.createNamedWith (before ++ name ++ after) args = told) ∧
    a.registry.withTrimmedNames.named? (before ++ name ++ after) =
      a.registry.named? (before ++ name ++ after) := by
  have trimmed := Text.trim_padded hb ha name
  have named : ∀ t, Text.trim name ≠ "" → a.registry.resolve (Text.trim name) = some t →
      a.registry.named? (before ++ name ++ after) = some t := by
    intro t present held
    rw [Registry.named?_padded hb ha]
    exact Registry.named?_eq_some_iff.2 ⟨present, held⟩
  refine ⟨fun t held present whole => ?_, fun t present held => ?_, fun blank => ?_,
    fun present unknown => ?_, Registry.named?_withTrimmedNames _ _⟩
  · have known : a.registry.named? (before ++ name ++ after) = some t := by
      apply named t
      · rw [whole]
        exact present
      · rw [whole]
        exact held
    exact Activator.createNamed_of_named known args
  · exact Activator.createNamed_of_named (named t present held) args
  · rw [← trimmed] at blank
    exact Activator.createNamed_of_blank blank args
  · rw [← trimmed] at present unknown ⊢
    exact Activator.createNamed_of_unknown present unknown args

/-- A type is registered under a name without blanks at its ends, and an integer type under one with
them. -/
def aliases : List Registration :=
  [.typeRecord ⟨.basic "Point", "Coordinates", .record, "sample"⟩,
    .typeRecord ⟨.basic "i32", " padded ", .record, "sample"⟩]

/-- The name without blanks can be used, and blanks around it do not matter. -/
theorem coordinates_activate :
    let a := Activator.ofRegistry (Registry.ofRegistrations aliases).result .standard
    "\t ".toList.all Text.isBlank = true ∧ " ".toList.all Text.isBlank = true ∧
    a.registry.resolve "Coordinates" = some (.basic "Point") ∧ "Coordinates" ≠ "" ∧
    Text.trim "Coordinates" = "Coordinates" ∧
    a.createNamed ("\t " ++ "Coordinates" ++ " ") = a.createInstance (some (.basic "Point")) ∧
    a.createNamedWith ("\t " ++ "Coordinates" ++ " ") (some [.null]) =
      a.createInstanceWith (some (.basic "Point")) (some [.null]) := by
  intro a
  have before : "\t ".toList.all Text.isBlank = true := by decide
  have after : " ".toList.all Text.isBlank = true := by decide
  have held : a.registry.resolve "Coordinates" = some (.basic "Point") := by rfl
  have whole : Text.trim "Coordinates" = "Coordinates" := by rfl
  have activates := (named_activation a before after "Coordinates" (some [.null])).1
    (.basic "Point") held (by decide) whole
  exact ⟨before, after, held, by decide, whole, activates⟩

/-- A name that begins and ends with a blank is held for a type that can be activated, and gives
nothing. -/
theorem padded_name_unknown :
    let a := Activator.ofRegistry (Registry.ofRegistrations aliases).result .standard
    a.registry.resolve " padded " = some (.basic "i32") ∧
    (a.createInstance (some (.basic "i32"))).result.1 =
      .finished (.ok (some ⟨.basic "i32", .int 0⟩)) ∧
    (a.createNamed ("" ++ " padded " ++ "")).result.1 = .nothing ∧
    a.createNamed ("" ++ " padded " ++ "") ≠ a.createInstance (some (.basic "i32")) := by
  intro a
  have made : (a.createInstance (some (.basic "i32"))).result.1 =
      .finished (.ok (some ⟨.basic "i32", .int 0⟩)) := by
    show (OverloadSet.ofRegistry (Registry.ofRegistrations aliases).result .standard
      (.basic "i32")).createDefault.result = _
    rw [OverloadSet.createDefault_ofRegistry, createWith_eq_search]
    rfl
  have nothing : (a.createNamed ("" ++ " padded " ++ "")).result.1 = .nothing := by rfl
  refine ⟨by rfl, made, nothing, fun same => ?_⟩
  rw [same, made] at nothing
  cases nothing

end Activation
