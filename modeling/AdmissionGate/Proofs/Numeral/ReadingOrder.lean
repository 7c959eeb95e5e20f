import Mathlib
import AdmissionGate.Proofs.Numeral.Reading

/-!
# Which defect of a numeral is met first

A text that is no numeral has one of two defects behind its sign: the digits at its front come to the limit, or a character that is
no digit follows digits that are still below it.  A text may show both, as `99999x` does for sixteen bits, and then the one that
stands further to the left is blamed.  The two conditions say so without a word about the reader: each takes only digits into the
front, and the value of more digits is never less.

One step of the reader takes the first digit from the text over into the value, and both conditions are indifferent to that
(`overflows_cons`, `breaks_cons`).  What the reader answers follows by induction on the text.
-/

namespace AdmissionGate.Numeral

/-- Whether digits at the front of a text come to a limit, on top of a value. -/
def Overflows (limit value : Nat) (cs : List Char) : Prop :=
  ∃ digits, digits <+: cs ∧ (∀ c ∈ digits, c.isDigit = true) ∧ limit ≤ Nat.ofDigitChars 10 digits value

/-- Whether a character that is no digit is met behind digits that, on top of a value, stay below a limit. -/
def Breaks (limit value : Nat) (cs : List Char) : Prop :=
  ∃ digits c rest, cs = digits ++ c :: rest ∧ (∀ d ∈ digits, d.isDigit = true) ∧ c.isDigit = false ∧
    Nat.ofDigitChars 10 digits value < limit

/-- Whether a text is digits throughout, with a value below a limit. -/
def IsBelow (limit : Nat) (cs : List Char) : Prop :=
  (∀ c ∈ cs, c.isDigit = true) ∧ Nat.ofDigitChars 10 cs 0 < limit

section Digits

variable {limit value : Nat} {c : Char} {cs : List Char}

/-! ### One step -/

theorem readDigits_of_not_digit (other : c.isDigit = false) :
    readDigits limit value (c :: cs) = .error .invalidDigit := by
  simp [readDigits, other]

theorem readDigits_of_digit (digit : c.isDigit = true) :
    readDigits limit value (c :: cs) =
      if value * 10 + digitValue c < limit then readDigits limit (value * 10 + digitValue c) cs
      else .error .tooLarge := by
  simp only [readDigits, if_pos digit]

theorem overflows_of_le (reached : limit ≤ value) : Overflows limit value cs :=
  ⟨[], List.nil_prefix, by simp, reached⟩

theorem not_overflows_nil (below : value < limit) : ¬ Overflows limit value [] := by
  rintro ⟨digits, front, -, reached⟩
  rw [List.prefix_nil] at front
  subst front
  exact Nat.not_le.mpr below reached

theorem not_overflows_of_not_digit (below : value < limit) (other : c.isDigit = false) :
    ¬ Overflows limit value (c :: cs) := by
  rintro ⟨digits, front, plain, reached⟩
  rcases List.prefix_cons_iff.mp front with rfl | ⟨others, rfl, -⟩
  · exact Nat.not_le.mpr below reached
  · have digit : c.isDigit = true := plain c (by simp)
    simp [other] at digit

theorem overflows_cons (below : value < limit) (digit : c.isDigit = true) :
    Overflows limit value (c :: cs) ↔ Overflows limit (value * 10 + digitValue c) cs := by
  constructor
  · rintro ⟨digits, front, plain, reached⟩
    rcases List.prefix_cons_iff.mp front with rfl | ⟨others, rfl, behind⟩
    · exact absurd reached (Nat.not_le.mpr below)
    · rw [ofDigitChars_cons] at reached
      exact ⟨others, behind, fun d listed => plain d (by simp [listed]), reached⟩
  · rintro ⟨digits, front, plain, reached⟩
    refine ⟨c :: digits, (List.prefix_cons_inj c).mpr front, ?_, ?_⟩
    · simpa [digit] using plain
    · rwa [ofDigitChars_cons]

theorem not_breaks_nil : ¬ Breaks limit value [] := by
  rintro ⟨digits, c, rest, empty, -⟩
  simp at empty

theorem not_breaks_of_le (reached : limit ≤ value) : ¬ Breaks limit value cs := by
  rintro ⟨digits, c, rest, -, -, -, below⟩
  have grown := le_ofDigitChars digits value
  omega

theorem breaks_of_not_digit (below : value < limit) (other : c.isDigit = false) : Breaks limit value (c :: cs) :=
  ⟨[], c, cs, rfl, by simp, other, below⟩

theorem breaks_cons (digit : c.isDigit = true) :
    Breaks limit value (c :: cs) ↔ Breaks limit (value * 10 + digitValue c) cs := by
  constructor
  · rintro ⟨digits, d, rest, placed, plain, other, below⟩
    cases digits with
    | nil =>
      -- the first character would be digit and no digit
      cases placed
      simp [digit] at other
    | cons first digits =>
      cases placed
      rw [ofDigitChars_cons] at below
      exact ⟨digits, d, rest, rfl, fun e listed => plain e (by simp [listed]), other, below⟩
  · rintro ⟨digits, d, rest, rfl, plain, other, below⟩
    refine ⟨c :: digits, d, rest, rfl, ?_, other, ?_⟩
    · simpa [digit] using plain
    · rwa [ofDigitChars_cons]

/-! ### All steps -/

theorem readDigits_ne_empty : readDigits limit value cs ≠ .error .empty := by
  fun_induction readDigits limit value cs with
  | case1 | case3 | case4 => simp
  | case2 value c cs digit next fits ih => exact ih

theorem readDigits_eq_tooLarge_iff (below : value < limit) :
    readDigits limit value cs = .error .tooLarge ↔ Overflows limit value cs := by
  induction cs generalizing value with
  | nil => exact iff_of_false (by simp [readDigits]) (not_overflows_nil below)
  | cons c cs ih =>
    cases digit : c.isDigit with
    | false =>
      rw [readDigits_of_not_digit digit]
      exact iff_of_false (by simp) (not_overflows_of_not_digit below digit)
    | true =>
      rw [readDigits_of_digit digit, overflows_cons below digit]
      by_cases fits : value * 10 + digitValue c < limit
      · rw [if_pos fits]
        exact ih fits
      · rw [if_neg fits]
        exact iff_of_true rfl (overflows_of_le (Nat.not_lt.mp fits))

theorem readDigits_eq_invalidDigit_iff (below : value < limit) :
    readDigits limit value cs = .error .invalidDigit ↔ Breaks limit value cs := by
  induction cs generalizing value with
  | nil => exact iff_of_false (by simp [readDigits]) not_breaks_nil
  | cons c cs ih =>
    cases digit : c.isDigit with
    | false =>
      rw [readDigits_of_not_digit digit]
      exact iff_of_true rfl (breaks_of_not_digit below digit)
    | true =>
      rw [readDigits_of_digit digit, breaks_cons digit]
      by_cases fits : value * 10 + digitValue c < limit
      · rw [if_pos fits]
        exact ih fits
      · rw [if_neg fits]
        exact iff_of_false (by simp) (not_breaks_of_le (Nat.not_lt.mp fits))

theorem readDigits_eq_ok_iff {n : Nat} (nonempty : cs ≠ []) :
    readDigits limit 0 cs = .ok n ↔ IsBelow limit cs ∧ Nat.ofDigitChars 10 cs 0 = n := by
  constructor
  · intro read
    obtain ⟨plain, rfl, below⟩ := of_readDigits_eq_ok read
    exact ⟨⟨plain, below nonempty⟩, rfl⟩
  · rintro ⟨⟨plain, below⟩, rfl⟩
    exact readDigits_eq_ok plain below

/-- Zeros in front leave the value at zero, wherever the limit is. -/
theorem readDigits_zeros (positive : 0 < limit) (count : Nat) :
    readDigits limit 0 (List.replicate count '0' ++ cs) = readDigits limit 0 cs := by
  induction count with
  | zero => rfl
  | succ count ih =>
    have zero : 0 * 10 + digitValue '0' = 0 := rfl
    have digit : '0'.isDigit = true := rfl
    rw [List.replicate_succ, List.cons_append, readDigits_of_digit digit, zero, if_pos positive]
    exact ih

end Digits

/-! ### Texts with a sign -/

/-- What is left of a text when a plus sign in front is dropped.  A sign on its own stays. -/
def unsigned : List Char → List Char
  | '+' :: c :: cs => c :: cs
  | cs => cs

section Texts

variable {width : Nat} {text : List Char}

theorem unsigned_ne_nil (nonempty : text ≠ []) : unsigned text ≠ [] := by
  unfold unsigned
  split
  · simp
  · exact nonempty

theorem parse_eq_readDigits (nonempty : text ≠ []) : parse width text = readDigits (2 ^ width) 0 (unsigned text) := by
  unfold parse
  split
  · exact absurd rfl nonempty
  · rfl
  · rename_i unsignedAlready
    rw [unsigned]
    · rfl
    · exact unsignedAlready

theorem parse_eq_empty_iff : parse width text = .error .empty ↔ text = [] := by
  constructor
  · intro read
    by_contra nonempty
    rw [parse_eq_readDigits nonempty] at read
    exact readDigits_ne_empty read
  · rintro rfl
    rfl

theorem parse_eq_ok_iff_isBelow {n : Nat} :
    parse width text = .ok n ↔
      text ≠ [] ∧ IsBelow (2 ^ width) (unsigned text) ∧ Nat.ofDigitChars 10 (unsigned text) 0 = n := by
  by_cases empty : text = []
  · subst empty
    simp [parse]
  · rw [parse_eq_readDigits empty, readDigits_eq_ok_iff (unsigned_ne_nil empty), and_iff_right empty]

theorem parse_eq_tooLarge_iff : parse width text = .error .tooLarge ↔ Overflows (2 ^ width) 0 (unsigned text) := by
  have positive : 0 < 2 ^ width := Nat.two_pow_pos width
  by_cases empty : text = []
  · subst empty
    exact iff_of_false (by simp [parse]) (not_overflows_nil positive)
  · rw [parse_eq_readDigits empty, readDigits_eq_tooLarge_iff positive]

theorem parse_eq_invalidDigit_iff : parse width text = .error .invalidDigit ↔ Breaks (2 ^ width) 0 (unsigned text) := by
  have positive : 0 < 2 ^ width := Nat.two_pow_pos width
  by_cases empty : text = []
  · subst empty
    exact iff_of_false (by simp [parse]) not_breaks_nil
  · rw [parse_eq_readDigits empty, readDigits_eq_invalidDigit_iff positive]

/-- Invalid digits are what is left when the other answers are excluded. -/
theorem parse_eq_invalidDigit_iff_not :
    parse width text = .error .invalidDigit ↔
      text ≠ [] ∧ ¬ IsBelow (2 ^ width) (unsigned text) ∧ ¬ Overflows (2 ^ width) 0 (unsigned text) := by
  constructor
  · intro read
    refine ⟨?_, ?_, ?_⟩
    · intro empty
      cases read.symm.trans (parse_eq_empty_iff.mpr empty)
    · intro below
      have nonempty : text ≠ [] := by
        rintro rfl
        cases read
      cases read.symm.trans (parse_eq_ok_iff_isBelow.mpr ⟨nonempty, below, rfl⟩)
    · intro overflows
      cases read.symm.trans (parse_eq_tooLarge_iff.mpr overflows)
  · rintro ⟨nonempty, notBelow, within⟩
    cases read : parse width text with
    | ok n => exact absurd (parse_eq_ok_iff_isBelow.mp read).2.1 notBelow
    | error e =>
      cases e with
      | empty => exact absurd (parse_eq_empty_iff.mp read) nonempty
      | tooLarge => exact absurd (parse_eq_tooLarge_iff.mp read) within
      | invalidDigit => rfl

theorem parse_of_head {cs : List Char} {c : Char} (begun : unsigned text = c :: cs) (other : c.isDigit = false) :
    parse width text = .error .invalidDigit := by
  rw [parse_eq_invalidDigit_iff, begun]
  exact breaks_of_not_digit (Nat.two_pow_pos width) other

theorem parse_of_sign (sign : text = ['+'] ∨ (unsigned text).head? = some '-') :
    parse width text = .error .invalidDigit := by
  rcases sign with rfl | minus
  · exact parse_of_head rfl rfl
  · obtain ⟨cs, begun⟩ := List.head?_eq_some_iff.mp minus
    exact parse_of_head begun rfl

/-- Texts that differ in their signs and leading zeros are read alike. -/
theorem parse_padded {padded : List Char} {count : Nat} (nonempty : text ≠ [])
    (zeros : unsigned padded = List.replicate count '0' ++ unsigned text) : parse width padded = parse width text := by
  have filled : padded ≠ [] := by
    rintro rfl
    have nothing := (List.append_eq_nil_iff.mp zeros.symm).2
    exact unsigned_ne_nil nonempty nothing
  rw [parse_eq_readDigits filled, parse_eq_readDigits nonempty, zeros, readDigits_zeros (Nat.two_pow_pos width)]

end Texts

end AdmissionGate.Numeral
