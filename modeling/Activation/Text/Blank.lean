/-!
# Blank text

The characters of the property `White_Space`, and cutting them off both ends of a text.

Trimming forgets blanks on either side (`trimChars_append_blanks`), and keeps a text that neither
begins nor ends with one (`trimChars_eq_self`).
-/

namespace Activation.Text

/-- Whether the character is white space, in the sense of the property `White_Space`. -/
def isBlank (c : Char) : Bool :=
  let n := c.toNat
  (9 ≤ n && n ≤ 13) || n == 0x20 || n == 0x85 || n == 0xa0 || n == 0x1680 ||
    (0x2000 ≤ n && n ≤ 0x200a) || n == 0x2028 || n == 0x2029 || n == 0x202f || n == 0x205f ||
    n == 0x3000

/-- The characters between the first and the last one that is not blank. -/
def trimChars (s : List Char) : List Char :=
  ((s.dropWhile isBlank).reverse.dropWhile isBlank).reverse

/-- The text without the blank characters at its ends. -/
def trim (s : String) : String := String.ofList (trimChars s.toList)

/-- Blanks on either side are cut off. -/
theorem trimChars_append_blanks {before s after : List Char}
    (hb : ∀ c ∈ before, isBlank c = true) (ha : ∀ c ∈ after, isBlank c = true) :
    trimChars (before ++ s ++ after) = trimChars s := by
  have dropBlanks : ∀ (p q : List Char), (∀ c ∈ p, isBlank c = true) →
      (p ++ q).dropWhile isBlank = q.dropWhile isBlank := by
    intro p q hp
    induction p with
    | nil => rfl
    | cons c p ih =>
      have hc : isBlank c = true := hp c (by simp)
      simp [hc, ih fun d hd => hp d (by simp [hd])]
  have key : ∀ q : List Char,
      ((q ++ after).dropWhile isBlank).reverse.dropWhile isBlank =
        (q.dropWhile isBlank).reverse.dropWhile isBlank := by
    intro q
    induction q with
    | nil =>
      have : after.dropWhile isBlank = [] := by
        simpa using dropBlanks after [] ha
      simp [this]
    | cons c q ih =>
      by_cases hc : isBlank c = true
      · simpa [hc] using ih
      · have hr : ∀ d ∈ after.reverse, isBlank d = true := by
          intro d hd
          exact ha d (by simpa using hd)
        simp only [List.cons_append, hc, List.dropWhile_cons_of_neg, Bool.false_eq_true,
          not_false_eq_true, List.reverse_cons, List.reverse_append, List.append_assoc]
        exact dropBlanks _ _ hr
  unfold trimChars
  rw [List.append_assoc, dropBlanks _ _ hb, key]

/-- A text that is empty, or begins and ends with other characters than blanks, is kept. -/
theorem trimChars_eq_self {s : List Char} (hh : ∀ c, s.head? = some c → isBlank c = false)
    (hl : ∀ c, s.getLast? = some c → isBlank c = false) : trimChars s = s := by
  have keep : ∀ p : List Char, (∀ c, p.head? = some c → isBlank c = false) →
      p.dropWhile isBlank = p := by
    intro p hp
    cases p with
    | nil => rfl
    | cons c p => simp [hp c rfl]
  unfold trimChars
  rw [keep s hh, keep s.reverse (by simpa using hl), List.reverse_reverse]

end Activation.Text
