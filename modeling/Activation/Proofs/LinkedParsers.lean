import Activation.Linking
import Activation.Proofs.Decimals
import Activation.Proofs.DeclaredTypes

/-!
# Parsers as they are linked

A parser is generated as a row of statements, which know members and integer types by their names.
Linking it puts in what the names mean: a statement then compares a text with one decimal form, and
returns one instance.

Running the statements comes to looking for the first member whose number has the text as its decimal
form (`memberOf`, `run_comparisons`), for three reasons.  There is one statement for each variant, in
the order of the declaration.  A name stands for the number of its own member, because nothing is
linked where a name is not clear (`Clear`).  And converting a number into the integer type leaves it
alone, because nothing is linked either where the type does not hold the numbers
(`IntegerLayout.convert_of_holds`).

`kind_of_link?` says this of every enumeration that is linked, and `link?_eq_some` says that an
enumeration is linked if its names are known and clear and its numbers held.
-/

namespace Activation

open Source Generated

/-! ## Members by their numbers -/

/-- The member whose number has the given decimal form. -/
def memberOf (tag : TypeTag) (members : List (String × ℤ)) (literal : String) : Option Instance :=
  (members.find? fun m => Text.decimal m.2 == literal).map fun m => ⟨tag, .member m.1⟩

/-- The enumeration of numbered members. -/
def Enumeration.numbered (tag underlying : TypeTag) (members : List (String × ℤ)) : Enumeration :=
  ⟨underlying, fun literal => .finished (memberOf tag members literal)⟩

section

variable {tag : TypeTag} {members : List (String × ℤ)}

/-- The decimal form of a number finds the member with that number. -/
lemma memberOf_decimal (distinct : (members.map (·.2)).Nodup) {name : String} {n : ℤ}
    (member : (name, n) ∈ members) :
    memberOf tag members (Text.decimal n) = some ⟨tag, .member name⟩ := by
  have found : (members.find? fun m => Text.decimal m.2 == Text.decimal n).isSome = true := by
    rw [List.find?_isSome]
    exact ⟨(name, n), member, by simp⟩
  obtain ⟨m, first⟩ := Option.isSome_iff_exists.1 found
  have form : Text.decimal m.2 = Text.decimal n := by simpa using List.find?_some first
  have number : m.2 = n := Text.decimal_injective form
  have same : m = (name, n) :=
    List.inj_on_of_nodup_map distinct (List.mem_of_find?_eq_some first) member number
  rw [memberOf, first, same]
  rfl

/-- A member that is found has the text as its decimal form. -/
lemma exists_of_memberOf_eq_some {literal : String} {v : Instance}
    (found : memberOf tag members literal = some v) :
    ∃ m ∈ members, v = ⟨tag, .member m.1⟩ ∧ Text.IsDecimalForm m.2 literal := by
  obtain ⟨m, first, rfl⟩ := Option.map_eq_some_iff.1 found
  have form : Text.decimal m.2 = literal := by simpa using List.find?_some first
  exact ⟨m, List.mem_of_find?_eq_some first, rfl, Text.isDecimalForm_iff.2 form.symm⟩

lemma memberOf_eq_none {literal : String} (other : ∀ m ∈ members, ¬ Text.IsDecimalForm m.2 literal) :
    memberOf tag members literal = none := by
  cases found : memberOf tag members literal with
  | none => rfl
  | some v =>
    obtain ⟨m, member, -, form⟩ := exists_of_memberOf_eq_some found
    exact absurd form (other m member)

lemma memberOf_decimal_eq_none {n : ℤ} (missing : ∀ m ∈ members, m.2 ≠ n) :
    memberOf tag members (Text.decimal n) = none :=
  memberOf_eq_none fun m member form =>
    missing m member (Text.decimal_injective (Text.isDecimalForm_iff.1 form).symm)

end

/-! ## Integer types -/

/-- Every name of an integer type has a layout. -/
lemma exists_integerLayout (pointerWidth : ℕ) {name : String} (integer : IsIntegerName name) :
    ∃ layout, integerLayout? pointerWidth name = some layout := by
  obtain ⟨sign, hasSign, width, hasWidth, rfl⟩ := integer
  simp only [List.mem_cons, List.not_mem_nil, or_false] at hasSign hasWidth
  rcases hasSign with rfl | rfl <;>
    rcases hasWidth with rfl | rfl | rfl | rfl | rfl | rfl <;> exact ⟨_, rfl⟩

namespace IntegerLayout

/-- The integers of the type. -/
def Holds (layout : IntegerLayout) (n : ℤ) : Prop :=
  if layout.isSigned then -2 ^ layout.width ≤ 2 * n ∧ 2 * n < 2 ^ layout.width
  else 0 ≤ n ∧ n < 2 ^ layout.width

/-- An integer of the type stays what it is. -/
lemma convert_of_holds {layout : IntegerLayout} {n : ℤ} (held : layout.Holds n) :
    layout.convert n = n := by
  obtain ⟨isSigned, width⟩ := layout
  cases isSigned with
  | true =>
    obtain ⟨low, high⟩ : -2 ^ width ≤ 2 * n ∧ 2 * n < 2 ^ width := held
    show (BitVec.ofInt width n).toInt = n
    rw [BitVec.toInt_ofInt]
    apply Int.bmod_eq_of_le_mul_two
    · push_cast
      omega
    · push_cast
      omega
  | false =>
    obtain ⟨low, high⟩ : 0 ≤ n ∧ n < 2 ^ width := held
    show ((BitVec.ofInt width n).toNat : ℤ) = n
    rw [BitVec.toNat_ofInt]
    push_cast
    rw [Int.emod_eq_of_lt low high, Int.toNat_of_nonneg low]

/-- A type holds the integers that it does not change. -/
lemma holds_eq (layout : IntegerLayout) (n : ℤ) :
    layout.holds n = decide (layout.convert n = n) := by
  obtain ⟨isSigned, width⟩ := layout
  cases isSigned <;> rfl

end IntegerLayout

/-! ## Names of members -/

/-- Every member has a name of its own. -/
def Clear (members : List (String × ℤ)) : Prop :=
  ∀ m ∈ members, numberOf? members m.1 = some m.2

lemma clear_of_nodup {members : List (String × ℤ)} (named : (members.map (·.1)).Nodup) :
    Clear members := by
  have only : ∀ m ∈ members, members.filter (·.1 == m.1) = [m] := by
    induction members with
    | nil => simp
    | cons first rest ih =>
      obtain ⟨new, named⟩ := List.nodup_cons.1 named
      have others : ∀ m ∈ rest, m.1 ≠ first.1 := fun m member same =>
        new (List.mem_map.2 ⟨m, member, same⟩)
      intro m member
      rcases List.mem_cons.1 member with rfl | later
      · have none : rest.filter (·.1 == m.1) = [] :=
          List.filter_eq_nil_iff.2 fun u among => by simpa using others u among
        rw [List.filter_cons_of_pos (by simp), none]
      · have other : first.1 ≠ m.1 := (others m later).symm
        rw [List.filter_cons_of_neg (by simpa using other), ih named m later]
  intro m member
  rw [numberOf?, only m member]

/-- A name that stands for a number belongs to one member. -/
lemma eq_of_numberOf? {members : List (String × ℤ)} {name : String} {n : ℤ}
    (known : numberOf? members name = some n) {m : String × ℤ} (member : m ∈ members)
    (named : m.1 = name) : m.2 = n := by
  unfold numberOf? at known
  split at known
  · rename_i m' only
    have among : m ∈ members.filter (·.1 == name) :=
      List.mem_filter.2 ⟨member, beq_iff_eq.2 named⟩
    rw [only, List.mem_singleton] at among
    rw [among]
    exact Option.some.inj known
  · cases known

/-- Every variant is a member. -/
lemma map_fst_numbersFrom? {evaluate : Evaluation} {variants : List Variant} {next : ℤ}
    {members : List (String × ℤ)} (numbered : numbersFrom? evaluate next variants = some members) :
    members.map (·.1) = variants.map (·.name) := by
  induction variants generalizing next members with
  | nil =>
    cases numbered
    rfl
  | cons v rest ih =>
    have split : ∃ n more, numbersFrom? evaluate (n + 1) rest = some more ∧
        (v.name, n) :: more = members := by
      cases value : v.value? <;>
        simp only [numbersFrom?, value, Option.bind_eq_bind, Option.bind_eq_some_iff,
          Option.some.injEq] at numbered <;>
        obtain ⟨n, -, more, later, same⟩ := numbered <;>
        exact ⟨n, more, later, same⟩
    obtain ⟨n, more, later, rfl⟩ := split
    simp [ih later]

/-! ## Statements -/

/-- The statements of a linked parser: each member in turn, and nothing after all of them. -/
def comparisons (tag : TypeTag) (members : List (String × ℤ)) : List LinkedStatement :=
  members.map (fun m => .returnIf (Text.decimal m.2) ⟨tag, .member m.1⟩) ++ [.returnNothing]

/-- Running the comparisons comes to looking for the first member with the decimal form. -/
lemma run_comparisons (tag : TypeTag) (members : List (String × ℤ)) (literal : String) :
    LinkedStatement.run literal (comparisons tag members) = memberOf tag members literal := by
  induction members with
  | nil => rfl
  | cons m rest ih =>
    show (if literal = Text.decimal m.2 then some _
      else LinkedStatement.run literal (comparisons tag rest)) = _
    rw [ih]
    by_cases here : literal = Text.decimal m.2
    · simp [memberOf, here]
    · have other : ¬ Text.decimal m.2 = literal := fun same => here same.symm
      simp [memberOf, here, other]

lemma mapM_eq_some_of_forall {α β : Type} {f : α → Option β} {g : α → β} {l : List α}
    (each : ∀ a ∈ l, f a = some (g a)) : l.mapM f = some (l.map g) := by
  induction l with
  | nil => rfl
  | cons a l ih =>
    obtain ⟨first, later⟩ := List.forall_mem_cons.1 each
    rw [List.mapM_cons, first, ih later]
    rfl

lemma exists_of_mapM_eq_some {α β : Type} {f : α → Option β} {l : List α} {bs : List β}
    (made : l.mapM f = some bs) : ∀ a ∈ l, ∃ b, f a = some b := by
  induction l generalizing bs with
  | nil => simp
  | cons a l ih =>
    simp only [List.mapM_cons, Option.bind_eq_bind, Option.bind_eq_some_iff] at made
    obtain ⟨b, first, rest, later, -⟩ := made
    exact List.forall_mem_cons.2 ⟨⟨b, first⟩, ih later⟩

section

variable {pointerWidth : ℕ} {tag : TypeTag} {members : List (String × ℤ)} {variants : List Variant}
  {integer : String} {layout : IntegerLayout}

/-- The statements of a generated parser are linked to the comparisons with its members. -/
lemma mapM_link? (names : members.map (·.1) = variants.map (·.name))
    (laidOut : integerLayout? pointerWidth integer = some layout) (clear : Clear members)
    (held : ∀ m ∈ members, layout.convert m.2 = m.2) :
    (parserOf integer variants).mapM (·.link? pointerWidth tag members) =
      some (comparisons tag members) := by
  -- The statements can be told from the members, because these are the variants in their order.
  have statements : parserOf integer variants =
      members.map (fun m => .returnIf m.1 integer) ++ [.returnNothing] := by
    have both : variants.map (fun v => ParserStatement.returnIf v.name integer) =
        (variants.map (·.name)).map (ParserStatement.returnIf · integer) := by simp
    rw [parserOf, both, ← names, List.map_map]
    rfl
  have each : (members.map fun m => ParserStatement.returnIf m.1 integer).mapM
        (·.link? pointerWidth tag members) =
      some (members.map fun m => .returnIf (Text.decimal m.2) ⟨tag, .member m.1⟩) := by
    rw [List.mapM_map]
    refine mapM_eq_some_of_forall fun m member => ?_
    simp [ParserStatement.link?, clear m member, laidOut, held m member]
  rw [statements, List.mapM_append, each]
  rfl

/-- Where a generated parser is linked, its members have names of their own. -/
lemma clear_of_mapM_link? (names : members.map (·.1) = variants.map (·.name))
    {statements : List LinkedStatement}
    (linked : (parserOf integer variants).mapM (·.link? pointerWidth tag members) =
      some statements) : Clear members := by
  intro m member
  have named : m.1 ∈ variants.map (·.name) := names ▸ List.mem_map_of_mem member
  obtain ⟨v, variant, same⟩ := List.mem_map.1 named
  have among : ParserStatement.returnIf v.name integer ∈ parserOf integer variants :=
    List.mem_append_left _ (List.mem_map_of_mem variant)
  obtain ⟨statement, made⟩ := exists_of_mapM_eq_some linked _ among
  simp only [ParserStatement.link?, Option.bind_eq_bind, Option.bind_eq_some_iff, same] at made
  obtain ⟨n, known, -⟩ := made
  rw [known, eq_of_numberOf? known member rfl]

end

/-! ## Enumerations -/

section

variable {scope : Scope} {evaluate : Evaluation} {d : Declaration} {variants : List Variant}
  {members : List (String × ℤ)} {g : GeneratedType}

/-- The record of a linked enumeration says what the members are numbered in and how they are
found. -/
lemma Generated.kind_of_link? {record : TypeRecord} (form : d.form = .enumeration variants)
    (accepted : generateType d = .ok g) (numbered : numbersFrom? evaluate 0 variants = some members)
    (linked : g.link? scope evaluate d = some record) :
    ∃ underlying, scope.type? (registeredNumbering d) = some underlying ∧
      record.kind = .enumeration (.numbered record.tag underlying members) := by
  have kind := ((records_of_generateType accepted).enumeration variants form).1
  have names := map_fst_numbersFrom? numbered
  simp only [GeneratedType.link?, Option.bind_eq_bind, Option.bind_eq_some_iff] at linked
  obtain ⟨tag, -, linkedKind, became, made⟩ := linked
  simp only [kind, GeneratedKind.link?, form, numbered, Option.bind_eq_bind,
    Option.bind_eq_some_iff, Option.some.injEq, exists_eq_left'] at became
  obtain ⟨underlying, known, layout, laidOut, became⟩ := became
  split at became
  · rename_i held
    simp only [Option.bind_eq_some_iff, Option.some.injEq] at became
    obtain ⟨statements, parsed, rfl⟩ := became
    have kept : ∀ m ∈ members, layout.convert m.2 = m.2 := by
      simpa [IntegerLayout.holds_eq] using held
    have same := (mapM_link? names laidOut (clear_of_mapM_link? names parsed) kept).symm.trans parsed
    obtain rfl := Option.some.inj same
    refine ⟨underlying, known, ?_⟩
    rw [← Option.some.inj made]
    simp only [run_comparisons]
    rfl
  · cases became

/-- An enumeration is linked if the scope knows its types, its variants have names of their own, and
the type that they are numbered in holds their numbers. -/
lemma Generated.link?_eq_some {tag underlying : TypeTag} {layout : IntegerLayout}
    (form : d.form = .enumeration variants) (accepted : generateType d = .ok g)
    (numbered : numbersFrom? evaluate 0 variants = some members)
    (known : scope.type? d.name = some tag)
    (known' : scope.type? (registeredNumbering d) = some underlying)
    (named : (variants.map (·.name)).Nodup)
    (laidOut : integerLayout? scope.pointerWidth (registeredNumbering d) = some layout)
    (held : ∀ m ∈ members, layout.Holds m.2) :
    g.link? scope evaluate d =
      some ⟨tag, g.name, .enumeration (.numbered tag underlying members), scope.package⟩ := by
  have records := records_of_generateType accepted
  have kind : g.kind = .enumeration (registeredNumbering d)
      (parserOf (registeredNumbering d) variants) := (records.enumeration variants form).1
  have names := map_fst_numbersFrom? numbered
  have kept : ∀ m ∈ members, layout.convert m.2 = m.2 := fun m member =>
    IntegerLayout.convert_of_holds (held m member)
  have inRange : members.all (layout.holds ·.2) = true := by
    simpa [IntegerLayout.holds_eq] using kept
  have parsed : (parserOf (registeredNumbering d) variants).mapM
      (·.link? scope.pointerWidth tag members) = some (comparisons tag members) :=
    mapM_link? names laidOut (clear_of_nodup (names ▸ named)) kept
  have linkedKind : g.kind.link? scope evaluate tag d =
      some (.enumeration (.numbered tag underlying members)) := by
    rw [kind]
    simp only [GeneratedKind.link?, form, known', laidOut, numbered, inRange, parsed,
      run_comparisons, Option.bind_eq_bind, Option.bind_some, if_true]
    rfl
  simp only [GeneratedType.link?, records.ident_eq, known, linkedKind, Option.bind_eq_bind,
    Option.bind_some]

end

end Activation
