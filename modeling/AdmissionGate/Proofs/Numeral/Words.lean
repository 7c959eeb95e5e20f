import Mathlib
import AdmissionGate.Proofs.Numeral.ReadingOrder

/-!
# Numerals in words of their width

A numeral of some width can be read within a word of that width, without ever looking at a number that does not fit.  With each
digit the word is multiplied by ten and the digit is added, and either of the two may run out of the word: `6553` and another `6`
do so with the addition in sixteen bits, `6554` and another `0` with the multiplication.  If both are given up before they wrap,
the answer is the one that reading in natural numbers gives (`toNat_parseWord`).
-/

namespace AdmissionGate.Numeral

/-- Read digits on top of a word.  Neither the multiplication nor the addition is done if it would wrap. -/
def readWord {width : Nat} (word : BitVec width) : List Char → Except NumeralError (BitVec width)
  | [] => .ok word
  | c :: cs =>
    let ten := BitVec.ofNat width 10
    let digit := BitVec.ofNat width (digitValue c)
    if c.isDigit then
      if word.umulOverflow ten then .error .tooLarge
      else if (word * ten).uaddOverflow digit then .error .tooLarge
      else readWord (word * ten + digit) cs
    else .error .invalidDigit

/-- The word of some width that a text spells. -/
def parseWord (width : Nat) (text : List Char) : Except NumeralError (BitVec width) :=
  if text = [] then .error .empty else readWord 0 (unsigned text)

section Words

variable {width : Nat} {word : BitVec width} {c : Char}

theorem ten_lt_two_pow (wide : 4 ≤ width) : 10 < 2 ^ width :=
  calc
    10 < 2 ^ 4 := by decide
    _ ≤ 2 ^ width := Nat.pow_le_pow_right (by decide) wide

theorem digitValue_lt_ten (digit : c.isDigit = true) : digitValue c < 10 := by
  rw [Char.isDigit_iff_toNat] at digit
  have nine : '9'.toNat - '0'.toNat = 9 := rfl
  rw [digitValue]
  omega

theorem toNat_ofNat_of_le_ten (wide : 4 ≤ width) {n : Nat} (small : n ≤ 10) : (BitVec.ofNat width n).toNat = n := by
  have held := ten_lt_two_pow wide
  rw [BitVec.toNat_ofNat, Nat.mod_eq_of_lt (by omega)]

/-- One digit more: an operation would wrap just if the value comes to the limit, and otherwise both are exact. -/
theorem readWord_of_digit (wide : 4 ≤ width) (digit : c.isDigit = true) (cs : List Char) :
    (2 ^ width ≤ word.toNat * 10 + digitValue c ∧ readWord word (c :: cs) = .error .tooLarge) ∨
      ∃ next : BitVec width, next.toNat = word.toNat * 10 + digitValue c ∧ readWord word (c :: cs) = readWord next cs := by
  have small := digitValue_lt_ten digit
  have ten := toNat_ofNat_of_le_ten wide (Nat.le_refl 10)
  have last := toNat_ofNat_of_le_ten wide (Nat.le_of_lt small)
  by_cases multiplied : word.umulOverflow (BitVec.ofNat width 10)
  · left
    have reached : 2 ^ width ≤ word.toNat * 10 := by
      simpa only [BitVec.umulOverflow, ten, ge_iff_le, decide_eq_true_eq] using multiplied
    exact ⟨by omega, by simp [readWord, digit, multiplied]⟩
  · have product : (word * BitVec.ofNat width 10).toNat = word.toNat * 10 := by
      rw [BitVec.toNat_mul_of_not_umulOverflow multiplied, ten]
    by_cases added : (word * BitVec.ofNat width 10).uaddOverflow (BitVec.ofNat width (digitValue c))
    · left
      have reached : 2 ^ width ≤ word.toNat * 10 + digitValue c := by
        simpa only [BitVec.uaddOverflow, product, last, ge_iff_le, decide_eq_true_eq] using added
      exact ⟨reached, by simp [readWord, digit, multiplied, added]⟩
    · right
      refine ⟨word * BitVec.ofNat width 10 + BitVec.ofNat width (digitValue c), ?_, ?_⟩
      · rw [BitVec.toNat_add_of_not_uaddOverflow added, product, last]
      · simp [readWord, digit, multiplied, added]

theorem toNat_readWord (wide : 4 ≤ width) (cs : List Char) :
    (readWord word cs).map BitVec.toNat = readDigits (2 ^ width) word.toNat cs := by
  induction cs generalizing word with
  | nil => rfl
  | cons c cs ih =>
    cases digit : c.isDigit with
    | false =>
      rw [readDigits_of_not_digit digit]
      simp [readWord, digit, Except.map]
    | true =>
      rw [readDigits_of_digit digit]
      rcases readWord_of_digit wide digit cs with ⟨reached, wraps⟩ | ⟨next, value, reads⟩
      · rw [wraps, if_neg (Nat.not_lt.mpr reached)]
        rfl
      · have fits : word.toNat * 10 + digitValue c < 2 ^ width := value ▸ next.isLt
        rw [reads, if_pos fits, ← value]
        exact ih

theorem toNat_parseWord (wide : 4 ≤ width) (text : List Char) :
    (parseWord width text).map BitVec.toNat = parse width text := by
  by_cases empty : text = []
  · subst empty
    rfl
  · rw [parseWord, if_neg empty, toNat_readWord wide, parse_eq_readDigits empty]
    rfl

end Words

end AdmissionGate.Numeral
