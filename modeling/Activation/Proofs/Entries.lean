import Activation.Source.Attribute
import Mathlib

/-!
# Entries of attributes

The arguments of an attribute are read from front to back: a path, then whatever a handler takes
after it, then a comma.  This file says what that comes to without the reader.  The *entries* of an
attribute are the stretches of trees between its commas (`entriesAmong`, `Attribute.entries`), and a
handler takes entries of a form, each of them by itself (`Takes`).  For such a handler an attribute
can be read exactly if it has arguments and all its entries are of that form
(`Attribute.HoldsOnly`), and then its entries have been noted one after the other, also across
several attributes (`foldlM_readElements_eq_ok_iff`).

The path of an element is what `SpellsPath` says (`elementPath_eq_ok_iff`).  It is never cut short:
the reader of a path stops only where no further separator follows, and neither a comma nor the end
of the arguments begins one.
-/

namespace Activation.Source

/-- A computation ends well if both of its parts do. -/
lemma bind_eq_ok_iff {ε α β : Type} {x : Except ε α} {f : α → Except ε β} {b : β} :
    x >>= f = .ok b ↔ ∃ a, x = .ok a ∧ f a = .ok b := by
  cases x with
  | error e => simp [bind, Except.bind]
  | ok a => simp [bind, Except.bind]

lemma map_eq_ok_iff {ε α β : Type} {x : Except ε α} {f : α → β} {b : β} :
    x.map f = .ok b ↔ ∃ a, x = .ok a ∧ f a = b := by
  cases x with
  | error e => simp [Except.map]
  | ok a => simp [Except.map]

/-! ## Paths -/

lemma Tree.isWord_iff {name : String} {t : Tree} : t.isWord name = true ↔ t = .word name := by
  unfold Tree.isWord
  split
  · simp [Tree.word]
  · rename_i other
    simpa [Tree.word] using other name

/-- The path of the attribute is the given name alone. -/
def Attribute.HasPath (name : String) (a : Attribute) : Prop := a.path = [.word name]

lemma Attribute.isNamed_iff {name : String} {a : Attribute} :
    a.isNamed name = true ↔ a.HasPath name := by
  unfold Attribute.isNamed Attribute.HasPath
  split
  · rename_i t single
    simp [single, Tree.isWord_iff]
  · rename_i other
    simpa using other (.word name)

instance (name : String) (a : Attribute) : Decidable (a.HasPath name) :=
  decidable_of_iff _ Attribute.isNamed_iff

lemma Attribute.isNamed_eq (name : String) (a : Attribute) :
    a.isNamed name = decide (a.HasPath name) :=
  Bool.eq_iff_iff.2 (Attribute.isNamed_iff.trans decide_eq_true_iff.symm)

/-- Names with a path separator in front of each. -/
inductive SpellsNames : List String → List Tree → Prop
  | nil : SpellsNames [] []
  | cons (joint : Bool) (name : String) {names : List String} {trees : List Tree}
    (more : SpellsNames names trees) :
    SpellsNames (name :: names)
      (.leaf (.mark ":" true) :: .leaf (.mark ":" joint) :: .word name :: trees)

/-- A path: names with path separators between them, and possibly one in front. -/
inductive SpellsPath : ElementPath → List Tree → Prop
  | relative (name : String) {names : List String} {trees : List Tree}
    (more : SpellsNames names trees) : SpellsPath ⟨false, name :: names⟩ (.word name :: trees)
  | absolute (joint : Bool) (name : String) {names : List String} {trees : List Tree}
    (more : SpellsNames names trees) :
    SpellsPath ⟨true, name :: names⟩
      (.leaf (.mark ":" true) :: .leaf (.mark ":" joint) :: .word name :: trees)

lemma SpellsNames.no_comma {names : List String} {trees : List Tree}
    (spelled : SpellsNames names trees) : ∀ t ∈ trees, t.isMark "," = false := by
  induction spelled with
  | nil => simp
  | cons joint name more ih => simpa [Tree.word, Tree.isMark] using ih

lemma SpellsPath.no_comma {path : ElementPath} {trees : List Tree}
    (spelled : SpellsPath path trees) : ∀ t ∈ trees, t.isMark "," = false := by
  cases spelled with
  | relative name more => simpa [Tree.word, Tree.isMark] using more.no_comma
  | absolute joint name more => simpa [Tree.word, Tree.isMark] using more.no_comma

lemma name?_eq_some_iff {path : ElementPath} {name : String} :
    path.name? = some name ↔ path = ⟨false, [name]⟩ := by
  obtain ⟨isAbsolute, names⟩ := path
  rcases isAbsolute with _ | _ <;> rcases names with _ | ⟨first, _ | ⟨second, more⟩⟩ <;>
    simp [ElementPath.name?]

lemma spellsPath_single_iff {name : String} {trees : List Tree} :
    SpellsPath ⟨false, [name]⟩ trees ↔ trees = [.word name] := by
  constructor
  · rintro (⟨_, ⟨⟩⟩ | _)
    rfl
  · rintro rfl
    exact .relative name .nil

@[simp] lemma afterSeparator?_separator (joint : Bool) (rest : List Tree) :
    afterSeparator? (.leaf (.mark ":" true) :: .leaf (.mark ":" joint) :: rest) = some rest := rfl

lemma eq_of_afterMark?_single {c : Char} {trees rest : List Tree} {joint : Bool}
    (found : Pattern.afterMark? [c] trees = some (joint, rest)) :
    trees = .leaf (.mark (String.ofList [c]) joint) :: rest := by
  unfold Pattern.afterMark? at found
  split at found
  · rename_i single
    cases single
    split at found
    · rename_i text_eq
      cases found
      rw [text_eq]
    · cases found
  · rename_i notSingle chars
    cases chars
    exact absurd rfl notSingle
  · cases found

lemma exists_of_afterSeparator? {trees rest : List Tree} (found : afterSeparator? trees = some rest) :
    ∃ joint, trees = .leaf (.mark ":" true) :: .leaf (.mark ":" joint) :: rest := by
  obtain ⟨⟨joint, rest'⟩, marked, rfl⟩ := Option.map_eq_some_iff.1 found
  unfold Pattern.afterMark? at marked
  split at marked
  · rename_i single
    cases single
  · rename_i chars
    cases chars
    split at marked
    · rename_i text_eq
      subst text_eq
      exact ⟨joint, congrArg _ (eq_of_afterMark?_single marked)⟩
    · cases marked
  · cases marked

lemma moreNames_of_not_afterSeparator {trees : List Tree} (ends : afterSeparator? trees = none)
    (n : ℕ) : moreNames n trees = .ok ([], trees) := by
  cases n with
  | zero => rfl
  | succ n => rw [moreNames, ends]

/-- Names are read to the end. -/
lemma moreNames_append {names : List String} {front rest : List Tree}
    (spelled : SpellsNames names front) (ends : afterSeparator? rest = none) {n : ℕ}
    (bound : (front ++ rest).length ≤ n) : moreNames n (front ++ rest) = .ok (names, rest) := by
  induction spelled generalizing n with
  | nil => exact moreNames_of_not_afterSeparator ends n
  | @cons joint name names trees more ih =>
    obtain ⟨m, rfl⟩ : ∃ m, n = m + 1 := Nat.exists_eq_succ_of_ne_zero (by
      rintro rfl
      simp at bound)
    have shorter : (trees ++ rest).length ≤ m := by
      simp only [List.cons_append, List.length_cons] at bound
      omega
    simp only [List.cons_append, moreNames, afterSeparator?_separator]
    show (moreNames m (trees ++ rest)).map _ = _
    rw [ih shorter]
    rfl

lemma spellsNames_of_moreNames {n : ℕ} {trees rest : List Tree} {names : List String}
    (bound : trees.length ≤ n) (read : moreNames n trees = .ok (names, rest)) :
    ∃ front, SpellsNames names front ∧ trees = front ++ rest ∧ afterSeparator? rest = none := by
  induction n generalizing trees names with
  | zero =>
    obtain rfl : trees = [] := List.length_eq_zero_iff.1 (by omega)
    cases read
    exact ⟨[], .nil, rfl, rfl⟩
  | succ n ih =>
    rw [moreNames] at read
    split at read
    · rename_i separated
      cases read
      exact ⟨[], .nil, rfl, separated⟩
    · rename_i name tail separated
      obtain ⟨joint, rfl⟩ := exists_of_afterSeparator? separated
      have shorter : tail.length ≤ n := by
        simp only [List.length_cons] at bound
        omega
      obtain ⟨⟨names', rest'⟩, more, same⟩ := map_eq_ok_iff.1 read
      cases same
      obtain ⟨front, spelled, rfl, ends⟩ := ih shorter more
      exact ⟨_, .cons joint name spelled, rfl, ends⟩
    · cases read

/-- What follows the first name of a path is read to its end. -/
lemma map_moreNames_eq_ok_iff {isAbsolute : Bool} {name : String} {trees rest : List Tree}
    {path : ElementPath} :
    (moreNames trees.length trees).map
        (fun (names, rest) => ((⟨isAbsolute, name :: names⟩ : ElementPath), rest)) =
        .ok (path, rest) ↔
      ∃ names front, path = ⟨isAbsolute, name :: names⟩ ∧ SpellsNames names front ∧
        trees = front ++ rest ∧ afterSeparator? rest = none := by
  rw [map_eq_ok_iff]
  constructor
  · rintro ⟨⟨names, rest'⟩, read, same⟩
    cases same
    obtain ⟨front, spelled⟩ := spellsNames_of_moreNames le_rfl read
    exact ⟨names, front, rfl, spelled⟩
  · rintro ⟨names, front, rfl, spelled, rfl, ends⟩
    exact ⟨(names, rest), moreNames_append spelled ends le_rfl, rfl⟩

/-- What an element begins with is a path, and no path separator follows it. -/
lemma elementPath_eq_ok_iff {trees rest : List Tree} {path : ElementPath} :
    elementPath trees = .ok (path, rest) ↔
      ∃ front, SpellsPath path front ∧ trees = front ++ rest ∧ afterSeparator? rest = none := by
  constructor
  · intro read
    unfold elementPath at read
    cases separated : afterSeparator? trees with
    | none =>
      rw [separated] at read
      simp only at read
      split at read
      · obtain ⟨names, front, rfl, spelled, rfl, ends⟩ := map_moreNames_eq_ok_iff.1 read
        exact ⟨_, .relative _ spelled, rfl, ends⟩
      all_goals cases read
    | some after =>
      obtain ⟨joint, rfl⟩ := exists_of_afterSeparator? separated
      rw [separated] at read
      simp only at read
      split at read
      · obtain ⟨names, front, rfl, spelled, rfl, ends⟩ := map_moreNames_eq_ok_iff.1 read
        exact ⟨_, .absolute joint _ spelled, rfl, ends⟩
      all_goals cases read
  · rintro ⟨front, spelled, rfl, ends⟩
    cases spelled with
    | relative name more => exact map_moreNames_eq_ok_iff.2 ⟨_, _, rfl, more, rfl, ends⟩
    | absolute joint name more =>
      simp only [List.cons_append, elementPath, afterSeparator?_separator]
      exact map_moreNames_eq_ok_iff.2 ⟨_, _, rfl, more, rfl, ends⟩

/-! ## Entries -/

/-- What may follow an element: nothing, or a comma and the elements after it. -/
lemma afterComma_eq_ok_iff {trees rest : List Tree} :
    afterComma trees = .ok rest ↔
      (trees = [] ∧ rest = []) ∨ ∃ joint, trees = .leaf (.mark "," joint) :: rest := by
  unfold afterComma
  split
  · exact ⟨fun read => by cases read; exact .inl ⟨rfl, rfl⟩, by simp⟩
  · rename_i joint after
    constructor
    · intro read
      cases read
      exact .inr ⟨joint, rfl⟩
    · rintro (⟨impossible, -⟩ | ⟨joint, same⟩)
      · cases impossible
      · cases same
        rfl
  · rename_i notEmpty notComma
    constructor
    · intro impossible
      cases impossible
    · rintro (⟨rfl, -⟩ | ⟨joint, rfl⟩)
      · exact absurd rfl notEmpty
      · exact absurd rfl (notComma joint rest)

lemma afterSeparator_of_afterComma {trees rest : List Tree} (read : afterComma trees = .ok rest) :
    afterSeparator? trees = none := by
  rcases afterComma_eq_ok_iff.1 read with ⟨rfl, -⟩ | ⟨joint, rfl⟩
  · rfl
  · cases joint <;> rfl

lemma length_of_afterComma {entry rest more : List Tree} (ends : afterComma rest = .ok more)
    (full : entry ++ rest ≠ []) : more.length < (entry ++ rest).length := by
  rcases afterComma_eq_ok_iff.1 ends with ⟨rfl, rfl⟩ | ⟨joint, rfl⟩
  · exact List.length_pos_iff.2 full
  · simp only [List.length_append, List.length_cons]
    omega

/-- The stretches of trees between commas.  A comma at the end is followed by none. -/
def entriesAmong (trees : List Tree) : List (List Tree) :=
  let stretches := trees.splitOnP (·.isMark ",")
  if stretches.getLast?.any (·.isEmpty) then stretches.dropLast else stretches

example :
    entriesAmong [.word "C", .mark ",", .word "u8", .mark ","] = [[.word "C"], [.word "u8"]] :=
  rfl

@[simp] lemma entriesAmong_nil : entriesAmong [] = [] := rfl

lemma entriesAmong_single {entry : List Tree} (plain : ∀ t ∈ entry, t.isMark "," = false)
    (full : entry ≠ []) : entriesAmong entry = [entry] := by
  simp [entriesAmong, List.splitOnP_eq_singleton plain, full]

lemma entriesAmong_comma {entry : List Tree} (plain : ∀ t ∈ entry, t.isMark "," = false)
    (joint : Bool) (more : List Tree) :
    entriesAmong (entry ++ .leaf (.mark "," joint) :: more) = entry :: entriesAmong more := by
  have split := List.splitOnP_append_cons_of_forall_mem plain (.leaf (.mark "," joint)) rfl more
  have others := List.splitOnP_ne_nil (·.isMark ",") more
  simp only [entriesAmong, split, List.getLast?_cons_of_ne_nil others]
  split
  · exact List.dropLast_cons_of_ne_nil others
  · rfl

/-- An entry is followed by those after its comma. -/
lemma entriesAmong_append {entry rest more : List Tree}
    (plain : ∀ t ∈ entry, t.isMark "," = false) (ends : afterComma rest = .ok more)
    (full : entry ++ rest ≠ []) : entriesAmong (entry ++ rest) = entry :: entriesAmong more := by
  rcases afterComma_eq_ok_iff.1 ends with ⟨rfl, rfl⟩ | ⟨joint, rfl⟩
  · rw [List.append_nil] at full ⊢
    exact entriesAmong_single plain full
  · exact entriesAmong_comma plain joint more

/-- Trees begin with an entry. -/
lemma exists_first_entry (trees : List Tree) :
    ∃ entry rest more, trees = entry ++ rest ∧ (∀ t ∈ entry, t.isMark "," = false) ∧
      afterComma rest = .ok more := by
  have plain : ∀ t ∈ trees.takeWhile (!·.isMark ","), t.isMark "," = false := by
    intro t member
    simpa using List.mem_takeWhile_imp member
  have whole := (List.takeWhile_append_dropWhile (p := (!·.isMark ",")) (l := trees)).symm
  have stop := List.head?_dropWhile_not (!·.isMark ",") trees
  cases after : trees.dropWhile (!·.isMark ",") with
  | nil => exact ⟨_, [], [], after ▸ whole, plain, rfl⟩
  | cons comma more =>
    rw [after] at stop
    have isComma : comma.isMark "," = true := by simpa using stop
    unfold Tree.isMark at isComma
    split at isComma
    · rename_i text joint
      obtain rfl : text = "," := by simpa using isComma
      exact ⟨_, _, more, after ▸ whole, plain, rfl⟩
    · cases isComma

/-! ## Reading entries -/

/-- The handler takes the entries of a form, and notes each of them: from a path on, it takes the
trees up to the end of an entry exactly if they are of that form. -/
structure Takes {σ : Type} (handle : ElementHandler σ) (Form : List Tree → Prop)
    (note : σ → List Tree → σ) : Prop where
  no_comma : ∀ {entry}, Form entry → ∀ t ∈ entry, t.isMark "," = false
  takes_iff : ∀ {known known' : σ} {trees rest more : List Tree}, afterComma rest = .ok more →
    ((∃ path after, elementPath trees = .ok (path, after) ∧
        handle known path after = .ok (known', rest)) ↔
      ∃ entry, Form entry ∧ trees = entry ++ rest ∧ known' = note known entry)

section

variable {σ : Type} {handle : ElementHandler σ} {Form : List Tree → Prop}
  {note : σ → List Tree → σ} {known known' : σ}

lemma readElementsUpTo_succ_eq_ok_iff {n : ℕ} {trees : List Tree} (full : trees ≠ []) :
    readElementsUpTo handle (n + 1) known trees = .ok known' ↔
      ∃ next rest more, (∃ path after, elementPath trees = .ok (path, after) ∧
          handle known path after = .ok (next, rest)) ∧
        afterComma rest = .ok more ∧ readElementsUpTo handle n next more = .ok known' := by
  cases trees with
  | nil => exact absurd rfl full
  | cons t trees =>
    simp only [readElementsUpTo, bind_eq_ok_iff, Prod.exists]
    constructor
    · rintro ⟨path, after, element, next, rest, handled, more, comma, read⟩
      exact ⟨next, rest, more, ⟨path, after, element, handled⟩, comma, read⟩
    · rintro ⟨next, rest, more, ⟨path, after, element, handled⟩, comma, read⟩
      exact ⟨path, after, element, next, rest, handled, more, comma, read⟩

/-- Elements can be read exactly if all entries are of the form, and all of them are noted. -/
lemma readElementsUpTo_eq_ok_iff (takes : Takes handle Form note) {n : ℕ} {trees : List Tree}
    (bound : trees.length ≤ n) :
    readElementsUpTo handle n known trees = .ok known' ↔
      (∀ entry ∈ entriesAmong trees, Form entry) ∧
        known' = (entriesAmong trees).foldl note known := by
  induction n generalizing trees known with
  | zero =>
    obtain rfl : trees = [] := List.length_eq_zero_iff.1 (by omega)
    simp [readElementsUpTo, eq_comm]
  | succ n ih =>
    by_cases full : trees = []
    · subst full
      simp [readElementsUpTo, eq_comm]
    · rw [readElementsUpTo_succ_eq_ok_iff full]
      constructor
      · rintro ⟨next, rest, more, taken, comma, read⟩
        obtain ⟨entry, form, rfl, rfl⟩ := (takes.takes_iff comma).1 taken
        have shorter := length_of_afterComma comma full
        rw [entriesAmong_append (takes.no_comma form) comma full]
        obtain ⟨later, noted⟩ := (ih (by omega)).1 read
        exact ⟨List.forall_mem_cons.2 ⟨form, later⟩, noted⟩
      · obtain ⟨entry, rest, more, rfl, plain, comma⟩ := exists_first_entry trees
        have shorter := length_of_afterComma comma full
        rw [entriesAmong_append plain comma full, List.forall_mem_cons, List.foldl_cons]
        rintro ⟨⟨form, later⟩, noted⟩
        exact ⟨_, rest, more, (takes.takes_iff comma).2 ⟨entry, form, rfl, rfl⟩, comma,
          (ih (by omega)).2 ⟨later, noted⟩⟩

/-- The entries of an attribute; none if it has no arguments. -/
def Attribute.entries (a : Attribute) : List (List Tree) :=
  match a.form with
  | .arguments inside => entriesAmong inside
  | .bare | .value _ => []

/-- The attribute has arguments, and all its entries are of a form. -/
def Attribute.HoldsOnly (Form : List Tree → Prop) (a : Attribute) : Prop :=
  (∃ inside, a.form = .arguments inside) ∧ ∀ entry ∈ a.entries, Form entry

/-- An attribute can be read exactly if it holds nothing but entries of the form. -/
lemma readElements_eq_ok_iff (takes : Takes handle Form note) {a : Attribute} :
    a.readElements handle known = .ok known' ↔
      a.HoldsOnly Form ∧ known' = a.entries.foldl note known := by
  unfold Attribute.readElements Attribute.HoldsOnly Attribute.entries
  cases a.form with
  | bare => simp
  | value v => simp
  | arguments inside => simpa using readElementsUpTo_eq_ok_iff takes le_rfl

/-- Attributes can be read one after the other exactly if each of them can. -/
lemma foldlM_readElements_eq_ok_iff (takes : Takes handle Form note)
    {attributes : List Attribute} :
    attributes.foldlM (fun known a => a.readElements handle known) known = .ok known' ↔
      (∀ a ∈ attributes, a.HoldsOnly Form) ∧
        known' = (attributes.flatMap (·.entries)).foldl note known := by
  induction attributes generalizing known with
  | nil => simp [pure, Except.pure, eq_comm]
  | cons a attributes ih =>
    simp only [List.foldlM_cons, bind_eq_ok_iff, readElements_eq_ok_iff takes, ih,
      List.forall_mem_cons, List.flatMap_cons, List.foldl_append]
    constructor
    · rintro ⟨next, ⟨first, rfl⟩, others, noted⟩
      exact ⟨⟨first, others⟩, noted⟩
    · rintro ⟨⟨first, others⟩, noted⟩
      exact ⟨_, ⟨first, rfl⟩, others, noted⟩

end

/-- Where each entry replaces what is known, or leaves it, the last that replaces it counts. -/
lemma foldl_or_eq {α β : Type} (f : α → Option β) (l : List α) (known : Option β) :
    l.foldl (fun known a => (f a).or known) known = ((l.filterMap f).getLast?).or known := by
  induction l generalizing known with
  | nil => rfl
  | cons a l ih =>
    rw [List.foldl_cons, ih]
    cases told : f a with
    | none => simp [told]
    | some b => cases later : (l.filterMap f).getLast? <;> simp [told, later, List.getLast?_cons]

end Activation.Source
