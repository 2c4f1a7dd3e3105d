import Activation.Generated.Code
import Activation.Proofs.Entries

/-!
# What is generated from a declared type

A declaration is checked in parts: what it is, what its attributes ask for, and, if it is an
enumeration, its variants and what they are numbered in.  This file answers by what stands in the
source whether anything is generated, and what.

The entries of the attributes decide (`Source.Declaration.entriesOf`).  An entry of options gives a
name or asks for the default constructor (`OptionEntry`); an entry of a representation is a path,
possibly with arguments, and counts if it is an integer type (`NumberingEntry`, `listedInteger?`).
Reading them comes to taking the last name and the last integer type that are given
(`typeOptions_eq_ok_iff`, `numbering_eq_ok_iff`).

`TypeRefused` lists the reasons for which nothing is generated, and `RecordsType` says what is
generated otherwise.  `declared_types_are_registered` puts both together for every declaration.
-/

namespace Activation.Source

/-- The entries of all attributes with a name, in order. -/
def Declaration.entriesOf (name : String) (d : Declaration) : List (List Tree) :=
  (d.attributes.filter fun a => a.HasPath name).flatMap (·.entries)

lemma textValueAfter_eq_ok_iff {trees rest : List Tree} {text : String} :
    textValueAfter trees = .ok (text, rest) ↔
      ∃ joint literal, trees = .leaf (.mark "=" joint) :: .leaf (.literal literal) :: rest ∧
        textValue? literal = some text := by
  constructor
  · intro read
    unfold textValueAfter at read
    split at read
    · rename_i joint literal rest'
      split at read
      · rename_i value
        cases read
        exact ⟨joint, literal, rfl, value⟩
      · cases read
    · cases read
    · cases read
  · rintro ⟨joint, literal, rfl, value⟩
    simp [textValueAfter, value]

end Activation.Source

namespace Activation.Generated

open Source

/-! ## Options -/

/-- An entry of options: `name = "…"` or `default`. -/
inductive OptionEntry : List Tree → Prop
  | name (joint : Bool) {literal text : String} (value : textValue? literal = some text) :
    OptionEntry [.word "name", .leaf (.mark "=" joint), .leaf (.literal literal)]
  | default : OptionEntry [.word "default"]

/-- The name that an entry gives. -/
def givenName? : List Tree → Option String
  | [.leaf (.word "name"), .leaf (.mark "=" _), .leaf (.literal literal)] => textValue? literal
  | _ => none

/-- Whether an entry asks for the default constructor. -/
def isDefaultEntry : List Tree → Bool
  | [t] => t.isWord "default"
  | _ => false

/-- The options after an entry. -/
def noteOption (options : TypeOptions) (entry : List Tree) : TypeOptions :=
  ⟨(givenName? entry).or options.name?, options.withDefault || isDefaultEntry entry⟩

lemma noteOption_name {options : TypeOptions} {joint : Bool} {literal text : String}
    (value : textValue? literal = some text) :
    noteOption options [.word "name", .leaf (.mark "=" joint), .leaf (.literal literal)] =
      { options with name? := some text } := by
  simp [noteOption, givenName?, isDefaultEntry, Tree.word, value]

lemma noteOption_default (options : TypeOptions) :
    noteOption options [.word "default"] = { options with withDefault := true } := by
  simp [noteOption, givenName?, isDefaultEntry, Tree.word, Tree.isWord]

lemma takeTypeOption_eq_ok_iff {known known' : TypeOptions} {path : ElementPath}
    {after rest : List Tree} :
    takeTypeOption known path after = .ok (known', rest) ↔
      (path = ⟨false, ["name"]⟩ ∧ ∃ text, textValueAfter after = .ok (text, rest) ∧
        known' = { known with name? := some text }) ∨
      (path = ⟨false, ["default"]⟩ ∧ rest = after ∧
        known' = { known with withDefault := true }) := by
  unfold takeTypeOption
  simp only [name?_eq_some_iff]
  split
  · rename_i isName
    subst isName
    rw [bind_eq_ok_iff]
    constructor
    · rintro ⟨⟨text, rest'⟩, read, same⟩
      cases same
      exact .inl ⟨rfl, text, read, rfl⟩
    · rintro (⟨-, text, read, rfl⟩ | ⟨isDefault, -⟩)
      · exact ⟨(text, rest), read, rfl⟩
      · simp at isDefault
  · rename_i notName
    split
    · rename_i isDefault
      subst isDefault
      constructor
      · intro taken
        cases taken
        exact .inr ⟨rfl, rfl, rfl⟩
      · rintro (⟨isName, -⟩ | ⟨-, rfl, rfl⟩)
        · exact absurd isName notName
        · rfl
    · rename_i notDefault
      simp [notName, notDefault]

/-- Options are taken entry by entry. -/
lemma takes_typeOption : Takes takeTypeOption OptionEntry noteOption where
  no_comma := by
    intro entry form
    cases form <;> simp [Tree.word, Tree.isMark]
  takes_iff := by
    intro known known' trees rest more comma
    simp only [elementPath_eq_ok_iff, takeTypeOption_eq_ok_iff]
    constructor
    · rintro ⟨path, after, ⟨front, spelled, rfl, -⟩,
        ⟨rfl, text, read, rfl⟩ | ⟨rfl, rfl, rfl⟩⟩
      · obtain rfl := spellsPath_single_iff.1 spelled
        obtain ⟨joint, literal, rfl, value⟩ := textValueAfter_eq_ok_iff.1 read
        exact ⟨_, .name joint value, rfl, (noteOption_name value).symm⟩
      · obtain rfl := spellsPath_single_iff.1 spelled
        exact ⟨_, .default, rfl, (noteOption_default known).symm⟩
    · rintro ⟨entry, form, rfl, rfl⟩
      cases form with
      | @name joint literal text value =>
        have ends : afterSeparator?
            (.leaf (.mark "=" joint) :: .leaf (.literal literal) :: rest) = none := by
          cases joint <;> rfl
        exact ⟨_, _, ⟨_, spellsPath_single_iff.2 rfl, rfl, ends⟩,
          .inl ⟨rfl, text, textValueAfter_eq_ok_iff.2 ⟨joint, literal, rfl, value⟩,
            noteOption_name value⟩⟩
      | default =>
        exact ⟨_, rest, ⟨_, spellsPath_single_iff.2 rfl, rfl, afterSeparator_of_afterComma comma⟩,
          .inr ⟨rfl, rfl, noteOption_default known⟩⟩

lemma foldl_noteOption (entries : List (List Tree)) (options : TypeOptions) :
    entries.foldl noteOption options =
      ⟨((entries.filterMap givenName?).getLast?).or options.name?,
        options.withDefault || entries.any isDefaultEntry⟩ := by
  induction entries generalizing options with
  | nil => simp
  | cons entry entries ih =>
    have last := foldl_or_eq givenName? (entry :: entries) options.name?
    rw [List.foldl_cons, foldl_or_eq] at last
    rw [List.foldl_cons, ih, noteOption, List.any_cons, Bool.or_assoc, last]

/-- The name that a declaration gives its type: the last of those that it lists, or its own. -/
def registeredName (d : Declaration) : String :=
  ((d.entriesOf "activatable").filterMap givenName?).getLast?.getD d.name

/-- Whether a declaration asks for the default constructor. -/
def asksForDefault (d : Declaration) : Bool := (d.entriesOf "activatable").any isDefaultEntry

/-- Options can be read exactly if all attributes of that name hold nothing else. -/
lemma typeOptions_eq_ok_iff {d : Declaration} {options : TypeOptions} :
    typeOptions d = .ok options ↔
      (∀ a ∈ d.attributes, a.HasPath "activatable" → a.HoldsOnly OptionEntry) ∧
        options = ⟨((d.entriesOf "activatable").filterMap givenName?).getLast?,
          asksForDefault d⟩ := by
  rw [typeOptions, foldlM_readElements_eq_ok_iff takes_typeOption, foldl_noteOption]
  simp [Declaration.entriesOf, asksForDefault, Attribute.isNamed_eq]

/-! ## Numbering -/

/-- An entry of a representation: a path, possibly with arguments in round brackets. -/
inductive NumberingEntry : List Tree → Prop
  | path {path : ElementPath} {trees : List Tree} (spelled : SpellsPath path trees) :
    NumberingEntry trees
  | withArguments {path : ElementPath} {trees : List Tree} (spelled : SpellsPath path trees)
    (inside : List Tree) : NumberingEntry (trees ++ [.group .round inside])

/-- The word names an integer type: it says whether there is a sign, and how many bits there are. -/
def IsIntegerName (w : String) : Prop :=
  ∃ sign ∈ ["i", "u"], ∃ width ∈ ["8", "16", "32", "64", "128", "size"], w = sign ++ width

instance (w : String) : Decidable (IsIntegerName w) :=
  inferInstanceAs (Decidable (∃ sign ∈ _, ∃ width ∈ _, _))

lemma mem_integerTypes_iff {w : String} : w ∈ integerTypes ↔ IsIntegerName w := by
  simp [integerTypes, IsIntegerName, or_assoc]

/-- The integer type that an entry is, possibly with arguments. -/
def listedInteger? : List Tree → Option String
  | [.leaf (.word w)] | [.leaf (.word w), .group .round _] =>
    if IsIntegerName w then some w else none
  | _ => none

/-- The numbering after an entry. -/
def noteNumbering (numbering : Option String) (entry : List Tree) : Option String :=
  (listedInteger? entry).or numbering

/-- What follows arguments in round brackets, if they stand in front. -/
def afterArguments : List Tree → List Tree
  | .group .round _ :: rest => rest
  | rest => rest

lemma afterArguments_cases (trees : List Tree) :
    (∃ inside, trees = .group .round inside :: afterArguments trees) ∨
      afterArguments trees = trees := by
  unfold afterArguments
  split
  · exact .inl ⟨_, rfl⟩
  · exact .inr rfl

lemma afterArguments_of_afterComma {trees rest : List Tree} (ends : afterComma trees = .ok rest) :
    afterArguments trees = trees := by
  rcases afterComma_eq_ok_iff.1 ends with ⟨rfl, -⟩ | ⟨joint, rfl⟩ <;> rfl

/-- An element that names an integer type replaces what was asked for before it. -/
lemma takeNumbering_eq (known : Option String) (path : ElementPath) (trees : List Tree) :
    takeNumbering known path trees =
      .ok ((path.name?.filter (integerTypes.contains ·)).or known, afterArguments trees) := by
  have arguments : ∀ numbering : Option String,
      (match trees with
        | .group .round _ :: rest => Except.ok (numbering, rest)
        | rest => .ok (numbering, rest) : Except AttributeError (Option String × List Tree)) =
        .ok (numbering, afterArguments trees) := by
    intro numbering
    rcases trees with _ | ⟨_ | ⟨_ | _ | _, inside⟩ | _, rest⟩ <;> rfl
  unfold takeNumbering
  cases path.name? with
  | none => exact arguments known
  | some name =>
    cases listed : integerTypes.contains name with
    | true =>
      simp only [listed, if_true, Option.filter_some, Option.some_or]
      exact arguments (some name)
    | false =>
      simp only [listed, Bool.false_eq_true, if_false, Option.filter_some, Option.none_or]
      exact arguments known

/-- An entry lists the integer type that its path is, whether it has arguments or not. -/
lemma listedInteger?_of_spells {path : ElementPath} {trees : List Tree}
    (spelled : SpellsPath path trees) :
    listedInteger? trees = path.name?.filter (integerTypes.contains ·) ∧
      ∀ inside, listedInteger? (trees ++ [.group .round inside]) =
        path.name?.filter (integerTypes.contains ·) := by
  cases spelled with
  | relative name more =>
    cases more with
    | nil => simp [listedInteger?, Tree.word, ElementPath.name?, Option.filter, mem_integerTypes_iff]
    | cons joint next more => simp [listedInteger?, Tree.word, ElementPath.name?]
  | absolute joint name more => simp [listedInteger?, ElementPath.name?]

lemma takes_numbering : Takes takeNumbering NumberingEntry noteNumbering where
  no_comma := by
    intro entry form
    cases form with
    | path spelled => exact spelled.no_comma
    | withArguments spelled inside =>
      intro t member
      rcases List.mem_append.1 member with front | last
      · exact spelled.no_comma t front
      · rw [List.mem_singleton.1 last]
        rfl
  takes_iff := by
    intro known known' trees rest more comma
    simp only [elementPath_eq_ok_iff, takeNumbering_eq]
    constructor
    · rintro ⟨path, after, ⟨front, spelled, rfl, -⟩, taken⟩
      obtain ⟨listed, listed'⟩ := listedInteger?_of_spells spelled
      cases taken
      rcases afterArguments_cases after with ⟨inside, same⟩ | same
      · refine ⟨_, .withArguments spelled inside, ?_, ?_⟩
        · rw [List.append_assoc, List.singleton_append, ← same]
        · rw [noteNumbering, listed']
      · refine ⟨_, .path spelled, ?_, ?_⟩
        · rw [same]
        · rw [noteNumbering, listed]
    · rintro ⟨entry, form, rfl, rfl⟩
      cases form with
      | @path path trees spelled =>
        refine ⟨path, rest, ⟨_, spelled, rfl, afterSeparator_of_afterComma comma⟩, ?_⟩
        rw [afterArguments_of_afterComma comma, noteNumbering, (listedInteger?_of_spells spelled).1]
      | @withArguments path trees spelled inside =>
        refine ⟨path, .group .round inside :: rest, ⟨_, spelled, by simp, rfl⟩, ?_⟩
        rw [noteNumbering, (listedInteger?_of_spells spelled).2]
        rfl

/-- The integer type that the members of an enumeration are numbered in: the last one listed, or
else `isize`. -/
def registeredNumbering (d : Declaration) : String :=
  ((d.entriesOf "repr").filterMap listedInteger?).getLast?.getD "isize"

lemma isIntegerName_of_listedInteger? {entry : List Tree} {name : String}
    (listed : listedInteger? entry = some name) : IsIntegerName name := by
  have chosen : ∀ w, (if IsIntegerName w then some w else none) = some name →
      IsIntegerName name := by
    intro w chosen
    split at chosen
    · rename_i integer
      cases chosen
      exact integer
    · cases chosen
  unfold listedInteger? at listed
  split at listed
  · exact chosen _ listed
  · exact chosen _ listed
  · cases listed

/-- Members are numbered in an integer type, whatever the attributes list. -/
lemma isIntegerName_registeredNumbering (d : Declaration) :
    IsIntegerName (registeredNumbering d) := by
  unfold registeredNumbering
  cases last : ((d.entriesOf "repr").filterMap listedInteger?).getLast? with
  | none => decide
  | some name =>
    obtain ⟨entry, -, listed⟩ := List.mem_filterMap.1 (List.mem_of_getLast? last)
    exact isIntegerName_of_listedInteger? listed

/-- The numbering can be read exactly if all representations are lists of paths. -/
lemma numbering_eq_ok_iff {d : Declaration} {underlying : String} :
    numbering d = .ok underlying ↔
      (∀ a ∈ d.attributes, a.HasPath "repr" → a.HoldsOnly NumberingEntry) ∧
        underlying = registeredNumbering d := by
  simp only [numbering, bind_eq_ok_iff, foldlM_readElements_eq_ok_iff takes_numbering,
    Attribute.isNamed_eq]
  have noted := foldl_or_eq listedInteger? (d.entriesOf "repr") none
  rw [Option.or_none] at noted
  constructor
  · rintro ⟨last, ⟨form, rfl⟩, same⟩
    cases same
    refine ⟨by simpa using form, ?_⟩
    rw [registeredNumbering, ← noted]
    rfl
  · rintro ⟨form, rfl⟩
    refine ⟨_, ⟨by simpa using form, rfl⟩, ?_⟩
    rw [registeredNumbering, ← noted]
    rfl

/-! ## Registrations -/

/-- Nothing is generated: the declared type has generic parameters or is a union; some attribute with
options holds something else; or the type is an enumeration that asks for the default constructor,
has a variant with fields, or has a representation that is no list of paths. -/
inductive TypeRefused (d : Declaration) : Prop
  | isGeneric (generic : d.genericParameters ≠ [])
  | malformedOptions (a : Attribute) (mark : a ∈ d.attributes)
    (named : a.HasPath "activatable") (other : ¬ a.HoldsOnly OptionEntry)
  | isUnion (union : d.form = .union)
  | defaultOfEnumeration (variants : List Variant) (form : d.form = .enumeration variants)
    (asks : asksForDefault d = true)
  | hasFields (variants : List Variant) (form : d.form = .enumeration variants) (v : Variant)
    (variant : v ∈ variants) (fields : v.hasFields = true)
  | malformedNumbering (variants : List Variant) (form : d.form = .enumeration variants)
    (a : Attribute) (mark : a ∈ d.attributes) (named : a.HasPath "repr")
    (other : ¬ a.HoldsOnly NumberingEntry)

/-- The record is that of a public constructor without parameters, for the default of a type. -/
structure DefaultConstructor (ident : String) (c : ConstructorCode) : Prop where
  static_eq : c.static = "__ACTIVATOR_DEFAULT_CTOR"
  owner_eq : c.owner = ident
  name_eq : c.name = "default"
  isPublic : c.isPublic = true
  parameters_eq : c.parameters = []
  invoker_eq : c.invoker = .named "__activator_default"

/-- The code that submits the record of a type. -/
def typeSubmission : String :=
  "::activator::inventory::submit!\x7b::activator::registry::TypeReg(&__ACTIVATOR_TYPE)\x7d"

/-- The code that submits the record of the default constructor. -/
def defaultSubmission : String :=
  "::activator::inventory::submit!\x7b" ++
    "::activator::registry::ConstructorReg(&__ACTIVATOR_DEFAULT_CTOR)\x7d"

/-- What is generated records the declared type once, and with it the default constructor exactly if
the type is a record that asks for it. -/
structure RecordsType (d : Declaration) (g : GeneratedType) : Prop where
  ident_eq : g.ident = d.name
  name_eq : g.name = registeredName d
  record : d.form = .record → g.kind = .record ∧ g.kindPath = "::activator::TypeKind::Struct"
  enumeration : ∀ variants, d.form = .enumeration variants →
    g.kind = .enumeration (registeredNumbering d)
        (variants.map (fun v => .returnIf v.name (registeredNumbering d)) ++ [.returnNothing]) ∧
      g.kindPath = "::activator::TypeKind::Enum"
  withDefault : d.form = .record → asksForDefault d = true →
    ∃ c, g.defaultCode? = some c ∧ DefaultConstructor d.name c ∧
      g.submissions = [defaultSubmission, typeSubmission]
  withoutDefault : ¬ (d.form = .record ∧ asksForDefault d = true) →
    g.defaultCode? = none ∧ g.submissions = [typeSubmission]

lemma submission_type : submission "TypeReg" "__ACTIVATOR_TYPE" = typeSubmission := by
  decide +kernel

lemma submission_default :
    submission "ConstructorReg" "__ACTIVATOR_DEFAULT_CTOR" = defaultSubmission := by
  decide +kernel

lemma default_of_hasDefault {g : GeneratedType} (asked : g.hasDefault = true) :
    ∃ c, g.defaultCode? = some c ∧ DefaultConstructor g.ident c ∧
      g.submissions = [defaultSubmission, typeSubmission] := by
  have code : g.defaultCode? = some ⟨"__ACTIVATOR_DEFAULT_CTOR", g.ident, "default", true, [],
      .named "__activator_default"⟩ := if_pos asked
  refine ⟨_, code, ⟨rfl, rfl, rfl, rfl, rfl, rfl⟩, ?_⟩
  rw [GeneratedType.submissions, code, submission_type, ← submission_default]
  rfl

lemma no_default_of_not_hasDefault {g : GeneratedType} (asked : ¬ g.hasDefault = true) :
    g.defaultCode? = none ∧ g.submissions = [typeSubmission] := by
  have code : g.defaultCode? = none := if_neg asked
  rw [GeneratedType.submissions, code, submission_type]
  exact ⟨rfl, rfl⟩

/-- Every declaration that is not refused is registered. -/
lemma exists_registration {d : Declaration} (accepted : ¬ TypeRefused d) :
    ∃ g, generateType d = .ok g ∧ RecordsType d g := by
  have plain : ¬ d.genericParameters ≠ [] := fun generic => accepted (.isGeneric generic)
  have options : typeOptions d = .ok ⟨_, asksForDefault d⟩ :=
    typeOptions_eq_ok_iff.2 ⟨fun a mark named =>
      by_contra fun other => accepted (.malformedOptions a mark named other), rfl⟩
  rw [generateType, if_neg plain, options]
  cases form : d.form with
  | union => exact absurd (.isUnion form) accepted
  | record =>
    refine ⟨_, rfl, rfl, rfl, fun _ => ⟨rfl, rfl⟩, fun variants other => ?_,
      fun _ asks => default_of_hasDefault asks,
      fun none => no_default_of_not_hasDefault fun asks => none ⟨form, asks⟩⟩
    cases form.symm.trans other
  | enumeration variants =>
    have noDefault : ¬ asksForDefault d = true := fun asks =>
      accepted (.defaultOfEnumeration variants form asks)
    have noFields : ¬ variants.any (·.hasFields) = true := by
      intro some
      obtain ⟨v, variant, fields⟩ := List.any_eq_true.1 some
      exact accepted (.hasFields variants form v variant fields)
    have counted : numbering d = .ok (registeredNumbering d) :=
      numbering_eq_ok_iff.2 ⟨fun a mark named =>
        by_contra fun other => accepted (.malformedNumbering variants form a mark named other), rfl⟩
    simp only [if_neg noDefault, if_neg noFields, counted]
    refine ⟨_, rfl, rfl, rfl, fun other => ?_, fun variants' same => ?_, fun other => ?_,
      fun _ => no_default_of_not_hasDefault Bool.false_ne_true⟩
    · cases form.symm.trans other
    · cases form.symm.trans same
      exact ⟨rfl, rfl⟩
    · cases form.symm.trans other

/-- No declaration that is refused is registered. -/
lemma not_refused_of_generateType {d : Declaration} {g : GeneratedType}
    (made : generateType d = .ok g) : ¬ TypeRefused d := by
  unfold generateType at made
  split at made
  · cases made
  rename_i plain
  split at made
  · cases made
  rename_i options read
  obtain ⟨right, rfl⟩ := typeOptions_eq_ok_iff.1 read
  dsimp only at made
  split at made
  · cases made
  · rename_i form
    rintro (generic | ⟨a, mark, named, other⟩ | other | ⟨_, other, -⟩ | ⟨_, other, -⟩ |
      ⟨_, other, -⟩)
    · exact plain generic
    · exact other (right a mark named)
    all_goals cases form.symm.trans other
  · rename_i variants form
    split at made
    · cases made
    rename_i noDefault
    split at made
    · cases made
    rename_i noFields
    split at made
    · cases made
    rename_i underlying counted
    obtain ⟨listed, -⟩ := numbering_eq_ok_iff.1 counted
    rintro (generic | ⟨a, mark, named, other⟩ | other | ⟨_, -, asks⟩ |
      ⟨variants', same, v, variant, fields⟩ | ⟨_, -, a, mark, named, other⟩)
    · exact plain generic
    · exact other (right a mark named)
    · cases form.symm.trans other
    · exact noDefault asks
    · cases form.symm.trans same
      exact noFields (List.any_eq_true.2 ⟨v, variant, fields⟩)
    · exact other (listed a mark named)

/-- What is generated from a declaration records it. -/
lemma records_of_generateType {d : Declaration} {g : GeneratedType}
    (made : generateType d = .ok g) : RecordsType d g := by
  obtain ⟨g', registered, records⟩ := exists_registration (not_refused_of_generateType made)
  rw [made] at registered
  cases registered
  exact records

/-- **Declared types are registered as they say.**  Take any declaration of a record, an enumeration
or a union, with any attributes.
* Nothing is generated exactly if it is refused.
* Otherwise one type is recorded: under the last name that its attributes list, or else its own; as
  a record or an enumeration, which it is; and an enumeration with the last integer type that its
  representations list, or else `isize`.
* A public constructor without parameters, named `default`, is recorded with it exactly if it is a
  record that asks for one. -/
theorem declared_types_are_registered (d : Declaration) :
    match generateType d with
    | .error _ => TypeRefused d
    | .ok g => ¬ TypeRefused d ∧ RecordsType d g := by
  cases made : generateType d with
  | error e =>
    by_contra accepted
    obtain ⟨g, registered, -⟩ := exists_registration accepted
    rw [made] at registered
    cases registered
  | ok g => exact ⟨not_refused_of_generateType made, records_of_generateType made⟩

example :
    (Declaration.read? ("#[activatable(name = \"Sign\",)] #[repr(u8, i16, align(8))] " ++
        "enum Way \x7b Back, Forth \x7d")).bind
        (fun d => (generateType d).toOption) =
      some ⟨"Way", "Sign", .enumeration "i16"
        [.returnIf "Back" "i16", .returnIf "Forth" "i16", .returnNothing], false⟩ := by
  decide +kernel

end Activation.Generated
