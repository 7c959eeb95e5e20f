import Mathlib
import AdmissionGate.Numeral

/-!
# Reading numerals

A text of digits, perhaps with a plus sign in front, is read as the value of its digits if that is below the limit.  No other
text is read.
-/

namespace AdmissionGate.Numeral

theorem le_ofDigitChars (digits : List Char) (value : Nat) : value ≤ Nat.ofDigitChars 10 digits value := by
  rw [Nat.ofDigitChars_eq_ofDigitChars_zero]
  have positive : 0 < 10 ^ digits.length := Nat.pow_pos (by decide)
  have scaled : value ≤ 10 ^ digits.length * value := Nat.le_mul_of_pos_left value positive
  omega

/-- A digit is taken over into the value as the reader does it. -/
theorem ofDigitChars_cons (c : Char) (digits : List Char) (value : Nat) :
    Nat.ofDigitChars 10 (c :: digits) value = Nat.ofDigitChars 10 digits (value * 10 + digitValue c) := by
  rw [Nat.ofDigitChars_cons, digitValue, Nat.mul_comm]

/-- Digits are read as their value if it stays below the limit. -/
theorem readDigits_eq_ok {limit : Nat} {digits : List Char} {value : Nat} (h : ∀ c ∈ digits, c.isDigit = true)
    (below : Nat.ofDigitChars 10 digits value < limit) :
    readDigits limit value digits = .ok (Nat.ofDigitChars 10 digits value) := by
  induction digits generalizing value with
  | nil => rfl
  | cons c digits ih =>
    have digit : c.isDigit = true := h c (by simp)
    rw [ofDigitChars_cons] at below ⊢
    have fits : value * 10 + digitValue c < limit := Nat.lt_of_le_of_lt (le_ofDigitChars digits _) below
    simp only [readDigits, if_pos digit, if_pos fits]
    exact ih (fun d hd => h d (by simp [hd])) below

/-- Whether a text spells a number below a power of two: in digits, perhaps with a plus sign in front. -/
structure Spells (width : Nat) (text digits : List Char) : Prop where
  signed : text = digits ∨ text = '+' :: digits
  nonempty : digits ≠ []
  plain : ∀ c ∈ digits, c.isDigit = true
  fits : Nat.ofDigitChars 10 digits 0 < 2 ^ width

theorem Spells.parse_eq_ok {width : Nat} {text digits : List Char} (h : Spells width text digits) :
    parse width text = .ok (Nat.ofDigitChars 10 digits 0) := by
  have read := readDigits_eq_ok h.plain h.fits
  obtain ⟨first, rest, rfl⟩ := List.exists_cons_of_ne_nil h.nonempty
  rcases h.signed with rfl | rfl
  · have unsigned : first ≠ '+' := by
      rintro rfl
      exact absurd (h.plain '+' (by simp)) (by decide)
    rw [parse]
    · exact read
    · exact fun empty => nomatch empty
    · intro c cs same
      exact unsigned (List.head_eq_of_cons_eq same)
  · exact read

/-! ### Nothing else is read -/

/-- What has been read is the value of the digits.  The limit is looked at with each digit, so it holds of the value unless there
    are none. -/
theorem of_readDigits_eq_ok {limit : Nat} {digits : List Char} {value n : Nat}
    (h : readDigits limit value digits = .ok n) :
    (∀ c ∈ digits, c.isDigit = true) ∧ Nat.ofDigitChars 10 digits value = n ∧ (digits ≠ [] → n < limit) := by
  induction digits generalizing value with
  | nil =>
    cases h
    exact ⟨fun c none => absurd none List.not_mem_nil, rfl, fun nonempty => absurd rfl nonempty⟩
  | cons c digits ih =>
    simp only [readDigits] at h
    split at h
    · rename_i digit
      split at h
      · rename_i fits
        obtain ⟨plain, read, below⟩ := ih h
        refine ⟨?_, ?_, fun _ => ?_⟩
        · rintro d listed
          rcases List.mem_cons.mp listed with rfl | listed
          · exact digit
          · exact plain d listed
        · rw [ofDigitChars_cons, read]
        · cases digits with
          | nil =>
            cases read
            exact fits
          | cons d digits => exact below (List.cons_ne_nil d digits)
      · cases h
    · cases h

theorem spells_of_readDigits {width : Nat} {text digits : List Char} {n : Nat} (signed : text = digits ∨ text = '+' :: digits)
    (nonempty : digits ≠ []) (h : readDigits (Nat.pow 2 width) 0 digits = .ok n) :
    Spells width text digits ∧ Nat.ofDigitChars 10 digits 0 = n := by
  obtain ⟨plain, read, below⟩ := of_readDigits_eq_ok h
  exact ⟨⟨signed, nonempty, plain, read ▸ below nonempty⟩, read⟩

theorem parse_eq_ok_iff {width : Nat} {text : List Char} {n : Nat} :
    parse width text = .ok n ↔ ∃ digits, Spells width text digits ∧ Nat.ofDigitChars 10 digits 0 = n := by
  constructor
  · intro read
    unfold parse at read
    split at read
    · cases read
    · rename_i c cs
      exact ⟨c :: cs, spells_of_readDigits (.inr rfl) (List.cons_ne_nil c cs) read⟩
    · rename_i nonempty _
      exact ⟨text, spells_of_readDigits (.inl rfl) nonempty read⟩
  · rintro ⟨digits, spells, rfl⟩
    exact spells.parse_eq_ok

end AdmissionGate.Numeral
