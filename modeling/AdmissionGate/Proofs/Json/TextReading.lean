import Mathlib
import AdmissionGate.Proofs.Json.Grammar

/-!
# Reading texts in quotes

The reader of texts ends at the first quotation mark that is not escaped, and gives the characters that are spelled before
it, whichever of their spellings is used.
-/

namespace AdmissionGate.Json

/-! ### Words of 16 bits -/

theorem hexValue_eq_some_iff {c : Char} {n : Nat} : hexValue c = some n ↔ SpellsHexDigit c n := by
  constructor
  · intro h
    rw [hexValue] at h
    split at h
    · rename_i range
      cases h
      exact .decimal range.1 range.2
    · split at h
      · rename_i range
        cases h
        exact .lower range.1 range.2
      · split at h
        · rename_i range
          cases h
          exact .upper range.1 range.2
        · cases h
  · intro h
    cases h with
    | decimal low high => rw [hexValue, if_pos ⟨low, high⟩]
    | lower low high =>
      have notDecimal : ¬ ('0' ≤ c ∧ c ≤ '9') := fun range => absurd (Char.le_trans low range.2) (by decide)
      rw [hexValue, if_neg notDecimal, if_pos ⟨low, high⟩]
    | upper low high =>
      have notDecimal : ¬ ('0' ≤ c ∧ c ≤ '9') := fun range => absurd (Char.le_trans low range.2) (by decide)
      have notLower : ¬ ('a' ≤ c ∧ c ≤ 'f') := fun range => absurd (Char.le_trans range.1 high) (by decide)
      rw [hexValue, if_neg notDecimal, if_neg notLower, if_pos ⟨low, high⟩]

theorem SpellsHexDigit.lt {c : Char} {n : Nat} (h : SpellsHexDigit c n) : n < 16 := by
  cases h with
  | decimal low high =>
    have upper : c.toNat ≤ '9'.toNat := high
    simp only [Char.reduceToNat] at upper ⊢
    omega
  | lower low high =>
    have upper : c.toNat ≤ 'f'.toNat := high
    simp only [Char.reduceToNat] at upper ⊢
    omega
  | upper low high =>
    have upper : c.toNat ≤ 'F'.toNat := high
    simp only [Char.reduceToNat] at upper ⊢
    omega

theorem hexWord_eq_some_iff {a b c d : Char} {w : Nat} : hexWord a b c d = some w ↔ SpellsWord [a, b, c, d] w := by
  simp only [hexWord, Option.bind_eq_bind, Option.bind_eq_some_iff, Option.pure_def, Option.some.injEq,
    hexValue_eq_some_iff]
  constructor
  · rintro ⟨i, hi, j, hj, k, hk, l, hl, rfl⟩
    exact .digits hi hj hk hl
  · intro h
    cases h with
    | digits hi hj hk hl => exact ⟨_, hi, _, hj, _, hk, _, hl, rfl⟩

theorem SpellsWord.four {s : List Char} {w : Nat} (h : SpellsWord s w) : ∃ a b c d, s = [a, b, c, d] := by
  cases h with
  | digits hi hj hk hl => exact ⟨_, _, _, _, rfl⟩

theorem SpellsWord.lt {s : List Char} {w : Nat} (h : SpellsWord s w) : w < 0x10000 := by
  cases h with
  | digits hi hj hk hl =>
    have := hi.lt
    have := hj.lt
    have := hk.lt
    have := hl.lt
    omega

theorem isHighSurrogate_iff {w : Nat} : isHighSurrogate w = true ↔ 0xd800 ≤ w ∧ w ≤ 0xdbff := by
  simp [isHighSurrogate]

theorem isLowSurrogate_iff {w : Nat} : isLowSurrogate w = true ↔ 0xdc00 ≤ w ∧ w ≤ 0xdfff := by
  simp [isLowSurrogate]

/-- No character is a surrogate. -/
theorem not_surrogate (c : Char) : isHighSurrogate c.toNat = false ∧ isLowSurrogate c.toNat = false := by
  have valid : c.toNat.isValidChar := c.valid
  constructor
  · rw [Bool.eq_false_iff, ne_eq, isHighSurrogate_iff]
    omega
  · rw [Bool.eq_false_iff, ne_eq, isLowSurrogate_iff]
    omega

/-- The halves of the surrogate pair of a character give it back. -/
theorem ofSurrogates_halves {c : Char} (h : 0x10000 ≤ c.toNat) :
    isHighSurrogate (0xd800 + (c.toNat - 0x10000) / 0x400) = true ∧
      isLowSurrogate (0xdc00 + (c.toNat - 0x10000) % 0x400) = true ∧
      ofSurrogates (0xd800 + (c.toNat - 0x10000) / 0x400) (0xdc00 + (c.toNat - 0x10000) % 0x400) = c := by
  have valid : c.toNat.isValidChar := c.valid
  rw [isHighSurrogate_iff, isLowSurrogate_iff, ofSurrogates]
  have whole : 0x10000 + (0xd800 + (c.toNat - 0x10000) / 0x400 - 0xd800) * 0x400 +
      (0xdc00 + (c.toNat - 0x10000) % 0x400 - 0xdc00) = c.toNat := by omega
  refine ⟨by omega, by omega, ?_⟩
  rw [whole, Char.ofNat_toNat]

/-- A surrogate pair stands for a character above U+FFFF whose halves it is made of. -/
theorem halves_ofSurrogates {w v : Nat} (hw : isHighSurrogate w = true) (hv : isLowSurrogate v = true) :
    0x10000 ≤ (ofSurrogates w v).toNat ∧ 0xd800 + ((ofSurrogates w v).toNat - 0x10000) / 0x400 = w ∧
      0xdc00 + ((ofSurrogates w v).toNat - 0x10000) % 0x400 = v := by
  rw [isHighSurrogate_iff] at hw
  rw [isLowSurrogate_iff] at hv
  have valid : (0x10000 + (w - 0xd800) * 0x400 + (v - 0xdc00)).isValidChar := Or.inr (by omega)
  rw [ofSurrogates, Char.toNat_ofNat, if_pos valid]
  omega

/-! ### Short escapes -/

theorem shortEscape_eq_some_iff {letter c : Char} : shortEscape letter = some c ↔ (letter, c) ∈ shortEscapes := by
  constructor
  · intro h
    rw [shortEscape.eq_def] at h
    split at h <;> first
      | cases h; decide
      | cases h
  · intro h
    simp only [shortEscapes, List.mem_cons, Prod.mk.injEq, List.not_mem_nil, or_false] at h
    rcases h with ⟨rfl, rfl⟩ | ⟨rfl, rfl⟩ | ⟨rfl, rfl⟩ | ⟨rfl, rfl⟩ | ⟨rfl, rfl⟩ | ⟨rfl, rfl⟩ | ⟨rfl, rfl⟩ | ⟨rfl, rfl⟩ <;>
      rfl

/-! ### Whole texts -/

theorem readText_quote (read r : List Char) : readText read ('"' :: r) = some (read.reverse, r) := by
  rw [readText]

/-- One spelled character is taken off at a time. -/
theorem readText_char {s : List Char} {c : Char} (h : SpellsChar s c) (read r : List Char) :
    readText read (s ++ r) = readText (c :: read) r := by
  cases h with
  | plain notQuote notBackslash printable =>
    have kept : ¬ (c = '\\' ∨ c.toNat < 0x20) := by
      rintro (backslash | control)
      · exact notBackslash backslash
      · omega
    -- the other branches of the reader are for a quote and for a backslash
    rw [List.cons_append, List.nil_append, readText, if_neg kept]
    · exact notQuote
    · intro a b c' d r' hc
      exact absurd hc notBackslash
    · intro c' r' hc
      exact absurd hc notBackslash
  | @short letter _ hmem =>
    have escape := shortEscape_eq_some_iff.mpr hmem
    have notWord : letter ≠ 'u' := by
      rintro rfl
      cases escape
    rw [List.cons_append, List.cons_append, List.nil_append, readText, escape]
    intro a b c' d r' hletter
    exact absurd hletter notWord
  | @word w _ hw =>
    obtain ⟨a, b, c', d, rfl⟩ := hw.four
    have word := hexWord_eq_some_iff.mpr hw
    simp only [List.cons_append, List.nil_append, readText, word, not_surrogate, Bool.false_eq_true, if_false,
      Char.ofNat_toNat]
  | @pair high low _ above hhigh hlow =>
    obtain ⟨a, b, c', d, rfl⟩ := hhigh.four
    obtain ⟨e, f, g, i, rfl⟩ := hlow.four
    have highWord := hexWord_eq_some_iff.mpr hhigh
    have lowWord := hexWord_eq_some_iff.mpr hlow
    obtain ⟨isHigh, isLow, whole⟩ := ofSurrogates_halves above
    simp only [List.cons_append, List.nil_append, readText, highWord, lowWord, isHigh, isLow, if_true, whole]

theorem readText_append {s cs : List Char} (h : SpellsChars s cs) (read r : List Char) :
    readText read (s ++ '"' :: r) = some (read.reverse ++ cs, r) := by
  induction h generalizing read with
  | nil => rw [List.nil_append, readText_quote, List.append_nil]
  | cons hc _ ih =>
    rw [List.append_assoc, readText_char hc, ih, List.reverse_cons, List.append_assoc]
    rfl

/-- What some reading took off: spelled characters and a quotation mark. -/
def TakenOff (read s text r : List Char) : Prop :=
  ∃ t cs, s = t ++ '"' :: r ∧ SpellsChars t cs ∧ text = read.reverse ++ cs

theorem TakenOff.char {read s text r u : List Char} {c : Char} (hc : SpellsChar u c)
    (h : TakenOff (c :: read) s text r) : TakenOff read (u ++ s) text r := by
  obtain ⟨t, cs, rfl, spelled, rfl⟩ := h
  refine ⟨u ++ t, c :: cs, by rw [List.append_assoc], .cons hc spelled, ?_⟩
  rw [List.reverse_cons, List.append_assoc]
  rfl

theorem readText_sound {read s text r : List Char} (h : readText read s = some (text, r)) : TakenOff read s text r := by
  fun_induction readText read s with
  | case2 read r' =>
    cases h
    exact ⟨[], [], rfl, .nil, (List.append_nil _).symm⟩
  | case5 read a b c d w high isHigh e f g i r' v low isLow ih =>
    obtain ⟨above, first, second⟩ := halves_ofSurrogates isHigh isLow
    have highWord := hexWord_eq_some_iff.mp high
    have lowWord := hexWord_eq_some_iff.mp low
    rw [← first] at highWord
    rw [← second] at lowWord
    exact (ih h).char (.pair above highWord lowWord)
  | case9 read a b c d r' w word notHigh notLow ih =>
    have spelled := hexWord_eq_some_iff.mp word
    have small := spelled.lt
    have valid : w.isValidChar := by
      rw [isHighSurrogate_iff] at notHigh
      rw [isLowSurrogate_iff] at notLow
      rcases Nat.lt_or_ge w 0xd800 with below | above
      · exact Or.inl below
      · exact Or.inr (by omega)
    have code : (Char.ofNat w).toNat = w := by rw [Char.toNat_ofNat, if_pos valid]
    rw [← code] at spelled
    exact (ih h).char (.word spelled)
  | case11 read letter r' notWord c short ih => exact (ih h).char (.short (shortEscape_eq_some_iff.mp short))
  | case13 read c r' notQuote _ _ kept ih =>
    rw [not_or, Nat.not_lt] at kept
    exact (ih h).char (.plain notQuote kept.1 kept.2)
  | _ => cases h

/-- Behind a quotation mark the reader takes off what the grammar has between quotation marks. -/
theorem exists_quotes_of_readText {s text r : List Char} (h : readText [] s = some (text, r)) :
    ∃ t, '"' :: s = t ++ r ∧ Quotes t (String.ofList text) := by
  obtain ⟨t, cs, rfl, spelled, rfl⟩ := readText_sound h
  exact ⟨'"' :: (t ++ ['"']), by simp, .marks spelled⟩

theorem Quotes.readText {t : List Char} {name : String} (h : Quotes t name) :
    ∃ u, t = '"' :: u ∧ ∀ r, readText [] (u ++ r) = some (name.toList, r) := by
  cases h with
  | @marks s cs spelled =>
    refine ⟨s ++ ['"'], rfl, ?_⟩
    intro r
    rw [List.append_assoc, List.cons_append, List.nil_append, readText_append spelled, String.toList_ofList]
    rfl

end AdmissionGate.Json
