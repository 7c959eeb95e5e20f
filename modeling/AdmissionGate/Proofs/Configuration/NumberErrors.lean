import AdmissionGate.Proofs.Configuration.FirstBlamed
import AdmissionGate.Proofs.Numeral.Words

/-!
# How a number of the configuration is read

A variable that holds a number is read as the text that is left of it between blank characters, and that text comes to one of
four things: it is empty, it is a number of the width, its digits come to the limit, or it has a character that is no digit.  Of
the last two the one that stands further to the left counts.  Neither a plus sign nor leading zeros make a difference to a number,
and words of the width are enough to read it.
-/

namespace AdmissionGate

namespace Numeral

/-- Whether a result is what a text comes to as a numeral of some width. -/
structure Classifies (width : Nat) (text : List Char) (result : Except NumeralError Nat) : Prop where
  empty : result = .error .empty ↔ text = []
  number : ∀ n, result = .ok n ↔
    text ≠ [] ∧ IsBelow (2 ^ width) (unsigned text) ∧ Nat.ofDigitChars 10 (unsigned text) 0 = n
  tooLarge : result = .error .tooLarge ↔ Overflows (2 ^ width) 0 (unsigned text)
  invalidDigit : result = .error .invalidDigit ↔ Breaks (2 ^ width) 0 (unsigned text)
  otherwise : result = .error .invalidDigit ↔
    text ≠ [] ∧ ¬ IsBelow (2 ^ width) (unsigned text) ∧ ¬ Overflows (2 ^ width) 0 (unsigned text)
  /-- A sign on its own is no number, and no number has a minus sign. -/
  signs : text = ['+'] ∨ (unsigned text).head? = some '-' → result = .error .invalidDigit
  zeros : ∀ padded count, text ≠ [] → unsigned padded = List.replicate count '0' ++ unsigned text →
    parse width padded = result
  /-- Nothing wraps: in words of the width, with each operation that would wrap given up, the answer is the same. -/
  words : 4 ≤ width → (parseWord width text).map BitVec.toNat = result

end Numeral

namespace Configuration

open Numeral (Classifies parse)

theorem readNumber_of_surrounds {lookup : String → Option String} {setting : Variable} {value : String} {text : List Char}
    (held : lookup setting.name = some value) (surrounds : Text.Surrounds value.toList text) (width standard : Nat) :
    readNumber lookup setting width standard = (parse width text).mapError fun reason => ⟨setting, value, reason⟩ := by
  rw [readNumber, held]
  simp only [Text.trimChars_eq_iff.mpr surrounds]
  cases parse width text <;> rfl

/-- A text is a number of its width, or it is blamed for what stands furthest to the left in it; a variable is read as the text
between its blank characters. -/
theorem numbers_read_in_order (width : Nat) (text : List Char) :
    Classifies width text (parse width text) ∧
      ∀ (lookup : String → Option String) (setting : Variable) (standard : Nat) (value : String),
        lookup setting.name = some value → Text.Surrounds value.toList text →
          readNumber lookup setting width standard =
            (parse width text).mapError fun reason => ⟨setting, value, reason⟩ := by
  constructor
  · exact {
      empty := Numeral.parse_eq_empty_iff
      number := fun n => Numeral.parse_eq_ok_iff_isBelow
      tooLarge := Numeral.parse_eq_tooLarge_iff
      invalidDigit := Numeral.parse_eq_invalidDigit_iff
      otherwise := Numeral.parse_eq_invalidDigit_iff_not
      signs := Numeral.parse_of_sign
      zeros := fun padded count => Numeral.parse_padded
      words := fun wide => Numeral.toNat_parseWord wide text }
  · intro lookup setting standard value held surrounds
    exact readNumber_of_surrounds held surrounds width standard

/-- Digits that come to the limit of sixteen bits with the last addition, and a character behind them that is no digit. -/
theorem numbers_read_in_order_overflow :
    let text := "+0065536x".toList
    let lookup : String → Option String := fun name => [("HEALTH_PORT", "\t+0065536x\u00a0")].lookup name
    lookup Variable.healthPort.name = some "\t+0065536x\u00a0" ∧
      Text.Surrounds "\t+0065536x\u00a0".toList text ∧ Numeral.Overflows (2 ^ 16) 0 (Numeral.unsigned text) ∧
      readNumber lookup .healthPort 16 8080 = .error ⟨.healthPort, "\t+0065536x\u00a0", .tooLarge⟩ ∧
      parse 16 "65536x".toList = .error .tooLarge ∧
      (Numeral.parseWord 16 text).map BitVec.toNat = .error .tooLarge := by
  intro text lookup
  have surrounds : Text.Surrounds "\t+0065536x\u00a0".toList text := Text.trimChars_eq_iff.mp (by decide)
  have digits : ∀ c ∈ "0065536".toList, c.isDigit = true := List.all_eq_true.mp (by decide)
  have reached : 2 ^ 16 ≤ Nat.ofDigitChars 10 "0065536".toList 0 := by simp [Nat.ofDigitChars]
  have overflows : Numeral.Overflows (2 ^ 16) 0 (Numeral.unsigned text) :=
    ⟨"0065536".toList, by decide, digits, reached⟩
  obtain ⟨classifies, reads⟩ := numbers_read_in_order 16 text
  have blamed : parse 16 text = .error .tooLarge := classifies.tooLarge.mpr overflows
  have shorter := (numbers_read_in_order 16 "65536x".toList).1
  have padded : parse 16 text = parse 16 "65536x".toList := shorter.zeros text 2 (by decide) (by decide)
  refine ⟨rfl, surrounds, overflows, ?_, padded ▸ blamed, blamed ▸ classifies.words (by decide)⟩
  rw [reads lookup .healthPort 8080 "\t+0065536x\u00a0" rfl surrounds, blamed]
  rfl

end Configuration

end AdmissionGate
