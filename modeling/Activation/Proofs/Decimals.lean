import Activation.Text.Decimal
import Mathlib

/-!
# Canonical decimal forms

Integers are written in decimal, and this file shows that they are written in the one canonical form.
The form is described without the writer: `IsDecimalForm` says which characters stand where, and what
number they spell.  Only one text is of that form (`isDecimalForm_iff`), because digits without a
zero in front are determined by what they spell (`PlainDigits.eq_decimalDigits`).
-/

namespace Activation.Text

/-! ## Reading what was written -/

lemma isDigit_digitChar {d : ℕ} (small : d < 10) : (digitChar d).isDigit = true := by
  interval_cases d <;> decide

lemma radixDigitValue?_digitChar {d : ℕ} (small : d < 10) :
    radixDigitValue? 10 (digitChar d) = some d := by
  interval_cases d <;> decide

lemma ofDigits_concat_digitChar (s : List Char) {d : ℕ} (small : d < 10) :
    ofDigits 10 (s ++ [digitChar d]) = ofDigits 10 s * 10 + d := by
  rw [ofDigits, List.foldl_append, ← ofDigits, List.foldl_cons, List.foldl_nil,
    radixDigitValue?_digitChar small, Option.getD_some]

lemma ofDigits_decimalDigits (n : ℕ) : ofDigits 10 (decimalDigits n) = n := by
  induction n using decimalDigits.induct with
  | case1 n small =>
    have one := ofDigits_concat_digitChar [] small
    rw [decimalDigits, if_pos small]
    simpa [ofDigits] using one
  | case2 n large ih =>
    have last : n % 10 < 10 := Nat.mod_lt n (by omega)
    rw [decimalDigits, if_neg large, ofDigits_concat_digitChar _ last, ih]
    omega

lemma all_isDigit_decimalDigits (n : ℕ) : (decimalDigits n).all Char.isDigit = true := by
  induction n using decimalDigits.induct with
  | case1 n small =>
    rw [decimalDigits, if_pos small]
    simpa using isDigit_digitChar small
  | case2 n large ih =>
    have last := isDigit_digitChar (Nat.mod_lt n (by omega : 0 < 10))
    rw [decimalDigits, if_neg large, List.all_append, ih]
    simpa using last

lemma decimalDigits_ne_nil (n : ℕ) : decimalDigits n ≠ [] := by
  rw [decimalDigits]
  split <;> simp

lemma readNat?_decimalDigits (n : ℕ) : readNat? (decimalDigits n) = some n := by
  rw [readNat?, if_pos ⟨decimalDigits_ne_nil n, all_isDigit_decimalDigits n⟩,
    ofDigits_decimalDigits]

/-- Reading the decimal form of a number gives the number. -/
lemma readInt?_decimalChars (n : ℤ) : readInt? (decimalChars n) = some n := by
  cases n with
  | negSucc n =>
    rw [decimalChars, readInt?, readNat?_decimalDigits]
    rfl
  | ofNat n =>
    have digits := all_isDigit_decimalDigits n
    have read := readNat?_decimalDigits n
    show readInt? (decimalDigits n) = _
    -- A digit is no sign.
    unfold readInt?
    split
    · rename_i rest signed
      rw [signed] at digits
      simp at digits
    · rename_i rest signed
      rw [signed] at digits
      simp at digits
    · rw [read]
      rfl

lemma decimal_injective : Function.Injective decimal := by
  intro m n same
  have chars : decimalChars m = decimalChars n := by
    simpa [decimal] using congrArg String.toList same
  have read := readInt?_decimalChars m
  rw [chars, readInt?_decimalChars n] at read
  exact (Option.some.inj read).symm

/-! ## The canonical form -/

/-- The characters are digits that spell a number, with no zero in front of other digits. -/
structure PlainDigits (digits : List Char) (n : ℕ) : Prop where
  ne_nil : digits ≠ []
  isDigit : ∀ c ∈ digits, c.isDigit = true
  no_leading_zero : digits.head? = some '0' → digits = ['0']
  spells : ofDigits 10 digits = n

/-- The text is the canonical form of an integer: digits with no zero in front, behind a minus sign
if the integer is negative. -/
def IsDecimalForm (n : ℤ) (s : String) : Prop :=
  ∃ digits, PlainDigits digits n.natAbs ∧ s.toList = if n < 0 then '-' :: digits else digits

/-- A digit is the character of its value. -/
lemma exists_digitChar {c : Char} (digit : c.isDigit = true) : ∃ d < 10, digitChar d = c := by
  have bounds : 48 ≤ c.toNat ∧ c.toNat ≤ 57 := by
    simp only [Char.isDigit, Bool.and_eq_true, decide_eq_true_eq, ge_iff_le,
      UInt32.le_iff_toNat_le] at digit
    exact digit
  refine ⟨c.toNat - 48, by omega, ?_⟩
  have code : '0'.toNat + (c.toNat - 48) = c.toNat := by
    have zero : '0'.toNat = 48 := rfl
    omega
  rw [digitChar, code, Char.ofNat_toNat]

lemma head?_decimalDigits {n : ℕ} (zero : (decimalDigits n).head? = some '0') : n = 0 := by
  induction n using decimalDigits.induct with
  | case1 n small =>
    rw [decimalDigits, if_pos small] at zero
    have first : digitChar n = '0' := by simpa using zero
    interval_cases n <;> first | rfl | exact absurd first (by decide)
  | case2 n large ih =>
    rw [decimalDigits, if_neg large, List.head?_append_of_ne_nil _ (decimalDigits_ne_nil _)] at zero
    have front := ih zero
    omega

lemma plainDigits_decimalDigits (n : ℕ) : PlainDigits (decimalDigits n) n where
  ne_nil := decimalDigits_ne_nil n
  isDigit := by simpa using all_isDigit_decimalDigits n
  no_leading_zero := by
    intro zero
    obtain rfl := head?_decimalDigits zero
    rw [decimalDigits]
    rfl
  spells := ofDigits_decimalDigits n

/-- Digits without a zero in front are determined by what they spell. -/
lemma PlainDigits.eq_decimalDigits {digits : List Char} {n : ℕ} (plain : PlainDigits digits n) :
    digits = decimalDigits n := by
  induction digits using List.reverseRecOn generalizing n with
  | nil => exact absurd rfl plain.ne_nil
  | append_singleton front c ih =>
    obtain ⟨d, small, rfl⟩ := exists_digitChar (plain.isDigit c (by simp))
    have spelled := plain.spells
    rw [ofDigits_concat_digitChar _ small] at spelled
    by_cases only : front = []
    · subst only
      have same : n = d := by simpa [ofDigits] using spelled.symm
      rw [same, decimalDigits, if_pos small, List.nil_append]
    · have head : (front ++ [digitChar d]).head? = front.head? := List.head?_append_of_ne_nil _ only
      have zeroFirst : front.head? ≠ some '0' := by
        intro zero
        have alone := congrArg List.length (plain.no_leading_zero (head.trans zero))
        have some_front := List.length_pos_iff.2 only
        simp only [List.length_append, List.length_singleton] at alone
        omega
      have rest : front = decimalDigits (ofDigits 10 front) :=
        ih ⟨only, fun x member => plain.isDigit x (by simp [member]),
          fun zero => absurd zero zeroFirst, rfl⟩
      have positive : ofDigits 10 front ≠ 0 := by
        intro zero
        rw [rest, zero] at zeroFirst
        exact zeroFirst (by rw [decimalDigits]; rfl)
      have large : ¬ n < 10 := by omega
      have quotient : n / 10 = ofDigits 10 front := by omega
      have remainder : n % 10 = d := by omega
      rw [decimalDigits, if_neg large, quotient, remainder, ← rest]

/-- There is one canonical form of an integer, the one that is written. -/
lemma isDecimalForm_iff {n : ℤ} {s : String} : IsDecimalForm n s ↔ s = decimal n := by
  have chars : s = decimal n ↔ s.toList = decimalChars n := by
    rw [decimal, ← String.toList_inj, String.toList_ofList]
  rw [chars]
  constructor
  · rintro ⟨digits, plain, form⟩
    rw [form, plain.eq_decimalDigits]
    cases n with
    | ofNat n => exact if_neg (by simp)
    | negSucc n => exact if_pos (Int.negSucc_lt_zero n)
  · intro form
    refine ⟨decimalDigits n.natAbs, plainDigits_decimalDigits _, form.trans ?_⟩
    cases n with
    | ofNat n => exact (if_neg (by simp)).symm
    | negSucc n => exact (if_pos (Int.negSucc_lt_zero n)).symm

end Activation.Text
