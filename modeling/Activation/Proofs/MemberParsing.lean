import Activation.Proofs.Enumerations

/-!
# Members are parsed from their numbers

The parser of an enumeration compares a text with the number of one member after the other, each
converted to the type that the members are numbered in and written in decimal.  This file shows that
it finds a member by the canonical decimal form of its number, and by no other text.

The parser is the one that is generated: `decimals_parse_members` says how its statements read, and
what comes of running them once they are linked.  The form is described without the writer
(`Text.IsDecimalForm`), and only one text is of that form (`Text.isDecimalForm_iff`).
-/

namespace Activation

open Source Generated

/-- The code of the statement that returns a member of an enumeration for its number, as one of the
integer type. -/
def comparisonCode (enumeration member integer : String) : String :=
  "if literal==::std::string::ToString::to_string(&(" ++ enumeration ++ "::" ++
    spell [.word member, .word "as", .word integer] ++
    "))\x7breturn::core::option::Option::Some(::activator::Instance::new(" ++ enumeration ++ "::" ++
    member ++ "));\x7d"

lemma code_returnIf (enumeration member integer : String) :
    (ParserStatement.returnIf member integer).code enumeration =
      comparisonCode enumeration member integer := by
  have front : "))\x7breturn::core::option::Option::Some(::activator::Instance::new(" =
      "))" ++ ("\x7b" ++ ("return::core::option::Option::Some(" ++
        ("::activator::" ++ "Instance::new("))) := by decide +kernel
  have back : "));\x7d" = "));" ++ "\x7d" := by decide +kernel
  unfold comparisonCode ParserStatement.code words braced libraryPath
  rw [front, back]
  simp only [String.append_assoc, List.map_cons, List.map_nil]

/-- **Members are parsed from their numbers.**  Take an enumeration that a source declares and a
registration is generated for.  Let its variants have names of their own, and numbers that are all
different and that the type which they are numbered in holds.
* Every variant is a member, and the generated parser has a statement for each of them, in the order
  of the declaration, which returns the variant for its number as one of that type; the last
  statement returns nothing.
* Where both types are known, the registration is linked with that parser.  It gives a member for the
  decimal form of its number, which is canonical.
* It gives nothing else: a text for which it gives a member is the canonical decimal form of the
  number of that member, and for a text that is none of these forms it gives nothing. -/
theorem decimals_parse_members {scope : Scope} {evaluate : Evaluation} {d : Declaration}
    {variants : List Variant} {members : List (String × ℤ)} {g : GeneratedType}
    {tag underlying : TypeTag} (form : d.form = .enumeration variants)
    (accepted : generateType d = .ok g) (numbered : numbersFrom? evaluate 0 variants = some members)
    (named : (variants.map (·.name)).Nodup) (distinct : (members.map (·.2)).Nodup)
    (held : ∀ layout, integerLayout? scope.pointerWidth (registeredNumbering d) = some layout →
      ∀ m ∈ members, layout.Holds m.2)
    (known : scope.type? d.name = some tag)
    (known' : scope.type? (registeredNumbering d) = some underlying) :
    members.map (·.1) = variants.map (·.name) ∧
    g.parserStatements =
      variants.map (fun v => comparisonCode d.name v.name (registeredNumbering d)) ++
        ["::core::option::Option::None"] ∧
    ∃ parse, g.link? scope evaluate d =
        some ⟨tag, g.name, .enumeration ⟨underlying, parse⟩, scope.package⟩ ∧
      (∀ m ∈ members, Text.IsDecimalForm m.2 (Text.decimal m.2) ∧
        parse (Text.decimal m.2) = .finished (some ⟨tag, .member m.1⟩)) ∧
      (∀ s v, parse s = .finished (some v) →
        ∃ m ∈ members, v = ⟨tag, .member m.1⟩ ∧ Text.IsDecimalForm m.2 s) ∧
      ∀ s, (∀ m ∈ members, ¬ Text.IsDecimalForm m.2 s) → parse s = .finished none := by
  have records := records_of_generateType accepted
  obtain ⟨layout, laidOut⟩ :=
    exists_integerLayout scope.pointerWidth (isIntegerName_registeredNumbering d)
  have statements : g.parserStatements =
      variants.map (fun v => comparisonCode d.name v.name (registeredNumbering d)) ++
        ["::core::option::Option::None"] := by
    rw [GeneratedType.parserStatements, (records.enumeration variants form).1, records.ident_eq]
    show List.map _ _ = _
    rw [List.map_append, List.map_map]
    exact congrArg (· ++ _) (List.map_congr_left fun v _ => code_returnIf d.name v.name _)
  refine ⟨map_fst_numbersFrom? numbered, statements,
    fun literal => .finished (memberOf tag members literal),
    link?_eq_some form accepted numbered known known' named laidOut (held layout laidOut),
    fun m member => ⟨Text.isDecimalForm_iff.2 rfl, ?_⟩, fun s v found => ?_, fun s other => ?_⟩
  · exact congrArg Outcome.finished (memberOf_decimal distinct member)
  · exact exists_of_memberOf_eq_some (Outcome.finished.inj found)
  · exact congrArg Outcome.finished (memberOf_eq_none other)

/-- The parser of signs begins with the one below zero, finds it by its number, and finds none by a
zero with a sign. -/
theorem signs_parsed_by_decimals :
    (∀ layout, integerLayout? 64 (registeredNumbering declaredSigns.declaration) = some layout →
      ∀ m ∈ declaredSigns.members, layout.Holds m.2) ∧
    declaredSigns.generated.parserStatements.head? =
      some ("if literal==::std::string::ToString::to_string(&(Sign::minus as i8))\x7breturn" ++
        "::core::option::Option::Some(::activator::Instance::new(Sign::minus));\x7d") ∧
    ∃ parse, declaredSigns.generated.link? signScope constantNumber? declaredSigns.declaration =
        some ⟨.basic "Sign", "Sign", .enumeration ⟨.basic "i8", parse⟩, "sample"⟩ ∧
      parse "-1" = .finished (some ⟨.basic "Sign", .member "minus"⟩) ∧
      parse "-0" = .finished none := by
  have held : ∀ layout,
      integerLayout? 64 (registeredNumbering declaredSigns.declaration) = some layout →
        ∀ m ∈ declaredSigns.members, layout.Holds m.2 := by
    intro layout known m member
    cases known
    simp only [declaredSigns, List.mem_cons, List.not_mem_nil, or_false] at member
    rcases member with rfl | rfl | rfl <;> simp [IntegerLayout.Holds]
  obtain ⟨-, statements, parse, linked, finds, -, misses⟩ :=
    decimals_parse_members declaredSigns.form_eq declaredSigns.accepted declaredSigns.numbered
      (by decide) declaredSigns.distinct held (show signScope.type? _ = _ from rfl)
      (show signScope.type? _ = _ from rfl)
  have minusOne : Text.decimal (-1) = "-1" := by decide +kernel
  have code : comparisonCode "Sign" "minus" "i8" =
      "if literal==::std::string::ToString::to_string(&(Sign::minus as i8))\x7breturn" ++
        "::core::option::Option::Some(::activator::Instance::new(Sign::minus));\x7d" := by
    decide +kernel
  have found := (finds ("minus", -1) (by simp [declaredSigns])).2
  refine ⟨held, by rw [statements, ← code]; rfl, parse, linked, minusOne ▸ found,
    misses "-0" fun m member form => ?_⟩
  have written : "-0" = Text.decimal m.2 := Text.isDecimalForm_iff.1 form
  simp only [declaredSigns, List.mem_cons, List.not_mem_nil, or_false] at member
  rcases member with rfl | rfl | rfl <;> exact absurd written (by decide +kernel)

end Activation
