import AdmissionGate.Proofs.Json.NumberReading
import AdmissionGate.Proofs.Numeral.Reading

/-!
# Writing whole numbers

A whole number is written as a literal that stands for it, provided that it fits a signed or an unsigned word of 64 bits.
-/

namespace AdmissionGate

namespace Json

theorem isDigits_toDigits (n : Nat) : IsDigits (Nat.toDigits 10 n) :=
  ⟨Nat.toDigits_ne_nil, fun _ hc => Nat.isDigit_of_mem_toDigits (by decide) (by decide) hc⟩

theorem head?_toDigits {n : Nat} (h : 0 < n) : (Nat.toDigits 10 n).head? ≠ some '0' := by
  induction n using Nat.strongRecOn with
  | ind n ih =>
    rcases Nat.lt_or_ge n 10 with small | large
    · rw [Nat.toDigits_of_lt_base small]
      intro first
      have zero : n.digitChar = '0' := by simpa using first
      have value := Nat.toNat_digitChar_sub_48_of_lt_ten small
      rw [zero] at value
      simp only [Char.reduceToNat] at value
      omega
    · rw [Nat.toDigits_of_base_le (by decide) large, List.head?_append]
      have rest := ih (n / 10) (by omega) (by omega)
      cases hd : (Nat.toDigits 10 (n / 10)).head? with
      | none =>
        rw [List.head?_eq_none_iff] at hd
        exact absurd hd Nat.toDigits_ne_nil
      | some c =>
        rw [hd] at rest
        exact rest

theorem isWhole_toDigits (n : Nat) : IsWhole (Nat.toDigits 10 n) := by
  rcases Nat.eq_zero_or_pos n with rfl | positive
  · exact Or.inl (Nat.toDigits_zero 10)
  · exact Or.inr ⟨isDigits_toDigits n, head?_toDigits positive⟩

/-- The literal that a whole number is written as. -/
def Literal.ofInt (n : Int) : Literal :=
  ⟨decide (n < 0), Nat.toDigits 10 n.natAbs, none, none⟩

/-- Whether a whole number fits a signed or an unsigned word of 64 bits. -/
def IsWord (n : Int) : Prop :=
  -0x8000000000000000 ≤ n ∧ n < 0x10000000000000000

theorem spellsLiteral_write (n : Int) : SpellsLiteral (Number.write (.whole n)) (.ofInt n) := by
  have whole := isWhole_toDigits n.natAbs
  rw [Number.write, Int.toString_eq_repr, Int.repr_eq_if, Literal.ofInt]
  split
  · rename_i nonneg
    have sign : decide (n < 0) = false := by
      rw [decide_eq_false_iff_not]
      omega
    have magnitude : n.toNat = n.natAbs := by omega
    rw [sign, Nat.toList_repr, magnitude]
    simpa using SpellsLiteral.positive whole .absent .absent
  · rename_i neg
    have sign : decide (n < 0) = true := by
      rw [decide_eq_true_iff]
      omega
    have magnitude : (-n).toNat = n.natAbs := by omega
    rw [sign, String.toList_append, Nat.toList_repr, magnitude]
    simpa using SpellsLiteral.negative whole .absent .absent

theorem wholeOf_ofInt {n : Int} (h : IsWord n) : Number.wholeOf (.ofInt n) = some n := by
  obtain ⟨low, high⟩ := h
  have value := Nat.ofDigitChars_ten_toDigits (n := n.natAbs)
  have fits : Nat.ofDigitChars 10 (Nat.toDigits 10 n.natAbs) 0 < Number.greatestWord + 1 := by
    rw [value, Number.greatestWord]
    omega
  have read := Numeral.readDigits_eq_ok (isDigits_toDigits n.natAbs).2 fits
  rw [value] at read
  rw [Number.wholeOf, Literal.ofInt]
  simp only [read]
  by_cases neg : n < 0
  · have within : 0 < n.natAbs ∧ n.natAbs ≤ Number.leastWordMagnitude := by
      rw [Number.leastWordMagnitude]
      omega
    have back : (-(n.natAbs : Int)) = n := by omega
    rw [if_pos (decide_eq_true neg), if_pos within, back]
  · have notNegative : ¬ decide (n < 0) = true := by simpa using neg
    have back : (n.natAbs : Int) = n := by omega
    rw [if_neg notNegative, back]

theorem number_ofInt {n : Int} (h : IsWord n) : (Literal.ofInt n).number = .whole n := by
  rw [Literal.number, Number.ofLiteral, wholeOf_ofInt h, Option.getD_some]

theorem isFinite_ofInt {n : Int} (h : IsWord n) : (Literal.ofInt n).IsFinite := by
  rw [Literal.IsFinite, wholeOf_ofInt h]
  exact Or.inl rfl

end Json

end AdmissionGate
