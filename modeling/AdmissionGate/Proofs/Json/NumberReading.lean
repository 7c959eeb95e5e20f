import Mathlib.Data.List.DropRight
import Mathlib.Data.List.TakeWhile
import AdmissionGate.Proofs.Json.Grammar

/-!
# Reading numbers

The reader of literals takes a literal off the front of a text exactly if the grammar has one there, provided that what
follows cannot belong to it.  A literal stands for a number exactly if it is finite.
-/

namespace AdmissionGate.Json

/-! ### White space -/

theorem isSpace_iff {c : Char} : isSpace c = true ↔ c = ' ' ∨ c = '\t' ∨ c = '\n' ∨ c = '\r' := by
  simp [isSpace, or_assoc]

theorem blank_nil : Blank [] := by
  intro c hc
  cases hc

theorem blank_takeWhile (s : List Char) : Blank (s.takeWhile isSpace) := by
  intro c hc
  exact isSpace_iff.mp (List.mem_takeWhile_imp hc)

/-- Skipping white space takes a blank off the front. -/
theorem exists_blank_skipSpace (s : List Char) : ∃ gap, Blank gap ∧ s = gap ++ skipSpace s :=
  ⟨s.takeWhile isSpace, blank_takeWhile s, List.takeWhile_append_dropWhile.symm⟩

/-- Skipping white space stops at a character that is none. -/
theorem skipSpace_blank {gap : List Char} (h : Blank gap) {c : Char} (hc : isSpace c = false) (r : List Char) :
    skipSpace (gap ++ c :: r) = c :: r := by
  induction gap with
  | nil => simp [skipSpace, hc]
  | cons a gap ih =>
    have ha : isSpace a = true := isSpace_iff.mpr (h a (by simp))
    have hgap : Blank gap := fun x hx => h x (by simp [hx])
    have rest := ih hgap
    simp only [skipSpace] at rest ⊢
    rw [List.cons_append, List.dropWhile_cons_of_pos ha, rest]

theorem skipSpace_cons {c : Char} (hc : isSpace c = false) (r : List Char) : skipSpace (c :: r) = c :: r :=
  skipSpace_blank blank_nil hc r

theorem skipSpace_skipSpace (s : List Char) : skipSpace (skipSpace s) = skipSpace s :=
  List.dropWhile_idempotent isSpace s

theorem skipSpace_eq_nil {s : List Char} : skipSpace s = [] ↔ Blank s := by
  constructor
  · intro h
    obtain ⟨gap, hgap, hs⟩ := exists_blank_skipSpace s
    rw [hs, h, List.append_nil]
    exact hgap
  · intro h
    simp only [skipSpace, List.dropWhile_eq_nil_iff]
    intro c hc
    exact isSpace_iff.mpr (h c hc)

/-! ### Runs of digits -/

/-- The text does not go on with a digit. -/
def EndsDigits (r : List Char) : Prop :=
  ∀ c t, r = c :: t → c.isDigit = false

theorem readDigits_append {ds r : List Char} (h : IsDigits ds) (hr : EndsDigits r) :
    readDigits (ds ++ r) = some (ds, r) := by
  have stop : r.takeWhile Char.isDigit = [] ∧ r.dropWhile Char.isDigit = r := by
    cases r with
    | nil => simp
    | cons c t => simp [hr c t rfl]
  have taken : (ds ++ r).takeWhile Char.isDigit = ds := by
    rw [List.takeWhile_append_of_pos h.2, stop.1, List.append_nil]
  have left : (ds ++ r).dropWhile Char.isDigit = r := by
    rw [List.dropWhile_append_of_pos h.2, stop.2]
  rw [readDigits, taken, left]
  split
  · exact absurd rfl h.1
  · rfl

theorem readDigits_sound {s ds r : List Char} (h : readDigits s = some (ds, r)) :
    s = ds ++ r ∧ IsDigits ds ∧ EndsDigits r := by
  rw [readDigits] at h
  split at h
  · cases h
  · rename_i nonempty
    simp only [Option.some.injEq, Prod.mk.injEq] at h
    obtain ⟨rfl, rfl⟩ := h
    refine ⟨List.takeWhile_append_dropWhile.symm, ⟨nonempty, fun c hc => List.mem_takeWhile_imp hc⟩, ?_⟩
    intro c t hct
    have first := List.head?_dropWhile_not Char.isDigit s
    rw [hct] at first
    simpa using first

/-! ### The parts of a literal -/

theorem readWhole_append {w r : List Char} (h : IsWhole w) (hr : EndsDigits r) : readWhole (w ++ r) = some (w, r) := by
  rcases h with rfl | ⟨digits, first⟩
  · rfl
  · cases w with
    | nil => exact absurd rfl digits.1
    | cons c w =>
      have notZero : c ≠ '0' := by simpa using first
      rw [List.cons_append, readWhole]
      · exact readDigits_append digits hr
      · intro r' hr'
        simp only [List.cons.injEq] at hr'
        exact notZero hr'.1

theorem readWhole_sound {s w r : List Char} (h : readWhole s = some (w, r)) : s = w ++ r ∧ IsWhole w := by
  rw [readWhole.eq_def] at h
  split at h
  · simp only [Option.some.injEq, Prod.mk.injEq] at h
    obtain ⟨rfl, rfl⟩ := h
    exact ⟨rfl, Or.inl rfl⟩
  · rename_i notZero
    obtain ⟨rfl, digits, -⟩ := readDigits_sound h
    refine ⟨rfl, Or.inr ⟨digits, ?_⟩⟩
    intro first
    cases w with
    | nil => cases first
    | cons c w =>
      simp only [List.head?_cons, Option.some.injEq] at first
      subst first
      exact notZero _ rfl

/-- The text does not go on with a digit, a point or the mark of an exponent. -/
def EndsNumber (r : List Char) : Prop :=
  ∀ c t, r = c :: t → c.isDigit = false ∧ c ≠ '.' ∧ ¬ IsExponentMark c

theorem EndsNumber.endsDigits {r : List Char} (h : EndsNumber r) : EndsDigits r :=
  fun c t hct => (h c t hct).1

theorem readFraction_append {f r : List Char} {fraction : Option (List Char)} (h : SpellsFraction f fraction)
    (hr : EndsDigits r) (noPoint : ∀ t, r ≠ '.' :: t) : readFraction (f ++ r) = some (fraction, r) := by
  cases h with
  | absent =>
    rw [List.nil_append, readFraction]
    exact noPoint
  | digits hds => rw [List.cons_append, readFraction, readDigits_append hds hr, Option.map_some]

theorem readFraction_sound {s r : List Char} {fraction : Option (List Char)} (h : readFraction s = some (fraction, r)) :
    ∃ f, s = f ++ r ∧ SpellsFraction f fraction := by
  rw [readFraction.eq_def] at h
  split at h
  · obtain ⟨⟨ds, r'⟩, hds, heq⟩ := Option.map_eq_some_iff.mp h
    obtain ⟨rfl, digits, -⟩ := readDigits_sound hds
    simp only [Prod.mk.injEq] at heq
    obtain ⟨rfl, rfl⟩ := heq
    exact ⟨'.' :: ds, rfl, .digits digits⟩
  · simp only [Option.some.injEq, Prod.mk.injEq] at h
    obtain ⟨rfl, rfl⟩ := h
    exact ⟨[], rfl, .absent⟩

theorem isDigit_ne {c d : Char} (hc : c.isDigit = true) (hd : d.isDigit = false) : c ≠ d := by
  rintro rfl
  rw [hc] at hd
  cases hd

/-- A sign is taken off if there is one. -/
theorem exponentSign_cases (t : List Char) :
    (∃ r, t = '+' :: r ∧ exponentSign t = (false, r)) ∨ (∃ r, t = '-' :: r ∧ exponentSign t = (true, r)) ∨
      exponentSign t = (false, t) := by
  rw [exponentSign.eq_def]
  split
  · exact Or.inl ⟨_, rfl, rfl⟩
  · exact Or.inr (Or.inl ⟨_, rfl, rfl⟩)
  · exact Or.inr (Or.inr rfl)

theorem exponentSign_digits {ds r : List Char} (h : IsDigits ds) : exponentSign (ds ++ r) = (false, ds ++ r) := by
  cases ds with
  | nil => exact absurd rfl h.1
  | cons d ds =>
    have hd : d.isDigit = true := h.2 d (by simp)
    have notPlus : d ≠ '+' := isDigit_ne hd (by decide)
    have notMinus : d ≠ '-' := isDigit_ne hd (by decide)
    rw [List.cons_append, exponentSign.eq_def]
    split
    · rename_i heq
      exact absurd (List.cons.inj heq).1 notPlus
    · rename_i heq
      exact absurd (List.cons.inj heq).1 notMinus
    · rfl

theorem readExponent_append {e r : List Char} {exponent : Option Exponent} (h : SpellsExponent e exponent)
    (hr : EndsNumber r) : readExponent (e ++ r) = some (exponent, r) := by
  cases h with
  | absent =>
    cases r with
    | nil => rfl
    | cons c t =>
      have noMark : ¬ (c = 'e' ∨ c = 'E') := (hr c t rfl).2.2
      simp only [List.nil_append, readExponent, if_neg noMark]
  | unsigned mark digits =>
    simp only [IsExponentMark] at mark
    simp only [List.cons_append, readExponent, if_pos mark, exponentSign_digits digits,
      readDigits_append digits hr.endsDigits, Option.map_some]
  | plus mark digits =>
    simp only [IsExponentMark] at mark
    simp only [List.cons_append, readExponent, if_pos mark, exponentSign,
      readDigits_append digits hr.endsDigits, Option.map_some]
  | minus mark digits =>
    simp only [IsExponentMark] at mark
    simp only [List.cons_append, readExponent, if_pos mark, exponentSign,
      readDigits_append digits hr.endsDigits, Option.map_some]

theorem readExponent_sound {s r : List Char} {exponent : Option Exponent} (h : readExponent s = some (exponent, r)) :
    ∃ e, s = e ++ r ∧ SpellsExponent e exponent := by
  rw [readExponent.eq_def] at h
  split at h
  · simp only [Option.some.injEq, Prod.mk.injEq] at h
    obtain ⟨rfl, rfl⟩ := h
    exact ⟨[], rfl, .absent⟩
  · rename_i c t
    split at h
    · rename_i mark
      generalize hsign : exponentSign t = signed at h
      obtain ⟨negative, u⟩ := signed
      obtain ⟨⟨ds, r'⟩, hds, heq⟩ := Option.map_eq_some_iff.mp h
      simp only [Prod.mk.injEq] at heq
      obtain ⟨rfl, rfl⟩ := heq
      obtain ⟨rfl, digits, -⟩ := readDigits_sound hds
      rcases exponentSign_cases t with ⟨v, rfl, sign⟩ | ⟨v, rfl, sign⟩ | sign
      · obtain ⟨rfl, rfl⟩ := Prod.mk.inj (sign.symm.trans hsign)
        exact ⟨c :: '+' :: ds, rfl, .plus mark digits⟩
      · obtain ⟨rfl, rfl⟩ := Prod.mk.inj (sign.symm.trans hsign)
        exact ⟨c :: '-' :: ds, rfl, .minus mark digits⟩
      · obtain ⟨rfl, rfl⟩ := Prod.mk.inj (sign.symm.trans hsign)
        exact ⟨c :: ds, rfl, .unsigned mark digits⟩
    · simp only [Option.some.injEq, Prod.mk.injEq] at h
      obtain ⟨rfl, rfl⟩ := h
      exact ⟨[], rfl, .absent⟩

/-! ### Whole literals -/

theorem SpellsLiteral.head {s : List Char} {l : Literal} (h : SpellsLiteral s l) :
    ∃ c t, s = c :: t ∧ (c = '-' ∨ c.isDigit = true) := by
  have whole : ∀ {w u : List Char}, IsWhole w → ∃ c t, w ++ u = c :: t ∧ (c = '-' ∨ c.isDigit = true) := by
    rintro w u (rfl | ⟨digits, -⟩)
    · exact ⟨'0', u, rfl, Or.inr (by decide)⟩
    · cases w with
      | nil => exact absurd rfl digits.1
      | cons c w => exact ⟨c, w ++ u, rfl, Or.inr (digits.2 c (by simp))⟩
  cases h with
  | positive hw hf he => exact whole hw
  | negative hw hf he => exact ⟨'-', _, rfl, Or.inl rfl⟩

/-- What follows the digits before the point is no digit. -/
theorem endsDigits_fraction {f e r : List Char} {fraction : Option (List Char)} {exponent : Option Exponent}
    (hf : SpellsFraction f fraction) (he : SpellsExponent e exponent) (hr : EndsNumber r) :
    EndsDigits (f ++ (e ++ r)) ∧ (EndsDigits (e ++ r) ∧ ∀ t, e ++ r ≠ '.' :: t) := by
  have behindFraction : EndsDigits (e ++ r) ∧ ∀ t, e ++ r ≠ '.' :: t := by
    have marked : ∀ {mark : Char} {u : List Char}, IsExponentMark mark →
        EndsDigits (mark :: u) ∧ ∀ t, mark :: u ≠ '.' :: t := by
      rintro mark u (rfl | rfl)
      · exact ⟨fun c t h => by cases h; decide, fun t h => by cases h⟩
      · exact ⟨fun c t h => by cases h; decide, fun t h => by cases h⟩
    cases he with
    | absent => exact ⟨hr.endsDigits, fun t h => (hr _ t h).2.1 rfl⟩
    | unsigned mark digits => exact marked mark
    | plus mark digits => exact marked mark
    | minus mark digits => exact marked mark
  refine ⟨?_, behindFraction⟩
  cases hf with
  | absent => exact behindFraction.1
  | digits hds =>
    intro c t h
    cases h
    decide

/-- Read the parts of a literal behind its sign. -/
def readParts (negative : Bool) (s : List Char) : Option (Literal × List Char) := do
  let (whole, r) ← readWhole s
  let (fraction, r) ← readFraction r
  let (exponent, r) ← readExponent r
  return (⟨negative, whole, fraction, exponent⟩, r)

theorem readLiteral_minus (s : List Char) : readLiteral ('-' :: s) = readParts true s := rfl

theorem readLiteral_plain {s : List Char} (h : ∀ t, s ≠ '-' :: t) : readLiteral s = readParts false s := by
  rw [readLiteral]
  · rfl
  · intro t ht
    exact h t ht

theorem readParts_append {w f e r : List Char} {fraction : Option (List Char)} {exponent : Option Exponent}
    (negative : Bool) (hw : IsWhole w) (hf : SpellsFraction f fraction) (he : SpellsExponent e exponent)
    (hr : EndsNumber r) :
    readParts negative (w ++ (f ++ (e ++ r))) = some (⟨negative, w, fraction, exponent⟩, r) := by
  obtain ⟨behindWhole, behindFraction, noPoint⟩ := endsDigits_fraction hf he hr
  simp only [readParts, readWhole_append hw behindWhole, readFraction_append hf behindFraction noPoint,
    readExponent_append he hr, Option.bind_eq_bind, Option.bind_some, Option.pure_def]

theorem readParts_sound {negative : Bool} {s r : List Char} {l : Literal} (h : readParts negative s = some (l, r)) :
    ∃ w f e fraction exponent, s = w ++ (f ++ e) ++ r ∧ l = ⟨negative, w, fraction, exponent⟩ ∧
      IsWhole w ∧ SpellsFraction f fraction ∧ SpellsExponent e exponent := by
  simp only [readParts, Option.bind_eq_bind, Option.bind_eq_some_iff, Option.pure_def, Option.some.injEq,
    Prod.mk.injEq, Prod.exists] at h
  obtain ⟨w, r₁, readW, fraction, r₂, readF, exponent, r₃, readE, rfl, rfl⟩ := h
  obtain ⟨rfl, hw⟩ := readWhole_sound readW
  obtain ⟨f, rfl, hf⟩ := readFraction_sound readF
  obtain ⟨e, rfl, he⟩ := readExponent_sound readE
  exact ⟨w, f, e, fraction, exponent, by simp only [List.append_assoc], rfl, hw, hf, he⟩

theorem readLiteral_append {s r : List Char} {l : Literal} (h : SpellsLiteral s l) (hr : EndsNumber r) :
    readLiteral (s ++ r) = some (l, r) := by
  cases h with
  | @positive w f e fraction exponent hw hf he =>
    rw [List.append_assoc, List.append_assoc, readLiteral_plain, readParts_append false hw hf he hr]
    intro t ht
    rcases hw with rfl | ⟨digits, -⟩
    · cases ht
    · cases w with
      | nil => exact digits.1 rfl
      | cons c w =>
        have hc : c.isDigit = true := digits.2 c (by simp)
        exact isDigit_ne hc (by decide) (List.cons.inj ht).1
  | @negative w f e fraction exponent hw hf he =>
    rw [List.cons_append, List.append_assoc, List.append_assoc, readLiteral_minus, readParts_append true hw hf he hr]

theorem readLiteral_sound {s r : List Char} {l : Literal} (h : readLiteral s = some (l, r)) :
    ∃ t, s = t ++ r ∧ SpellsLiteral t l := by
  by_cases minus : ∃ t, s = '-' :: t
  · obtain ⟨t, rfl⟩ := minus
    rw [readLiteral_minus] at h
    obtain ⟨w, f, e, fraction, exponent, rfl, rfl, hw, hf, he⟩ := readParts_sound h
    exact ⟨'-' :: (w ++ (f ++ e)), rfl, .negative hw hf he⟩
  · have plain : ∀ t, s ≠ '-' :: t := fun t ht => minus ⟨t, ht⟩
    rw [readLiteral_plain plain] at h
    obtain ⟨w, f, e, fraction, exponent, rfl, rfl, hw, hf, he⟩ := readParts_sound h
    exact ⟨w ++ (f ++ e), rfl, .positive hw hf he⟩

/-! ### Literals that stand for a number -/

namespace Number

/-- Division by powers of ten ends within the range. -/
theorem scale_isSome_of_neg (x : Float) {exponent : Int} (h : exponent < 0) : (scale x exponent).isSome := by
  induction x, exponent using scale.induct with
  | case1 x exponent nonneg _ => omega
  | case2 x exponent nonneg _ _ => omega
  | case3 x exponent nonneg _ _ _ _ => omega
  | case4 x exponent nonneg _ _ _ _ => omega
  | case5 x exponent neg near =>
    rw [scale, if_neg neg, if_pos near]
    rfl
  | case6 x exponent neg far zero =>
    rw [scale, if_neg neg, if_neg far, if_pos zero]
    rfl
  | case7 x exponent neg far nonzero ih =>
    rw [scale, if_neg neg, if_neg far, if_neg nonzero]
    apply ih
    simp only [greatestPower] at far ⊢
    omega

theorem scale_isSome_iff (x : Float) (exponent : Int) :
    (scale x exponent).isSome = true ↔ exponent < 0 ∨ (x == 0) = true ∨
      (exponent ≤ greatestPower ∧ (x * powerOfTen exponent.toNat).isInf = false) := by
  rcases Int.lt_or_le exponent 0 with neg | nonneg
  · simp only [scale_isSome_of_neg x neg, neg, true_or]
  · have notNeg : ¬ exponent < 0 := by omega
    rw [scale, if_pos nonneg]
    by_cases zero : (x == 0) = true
    · simp [zero]
    · rw [if_neg zero]
      by_cases above : greatestPower < exponent
      · have notBelow : ¬ exponent ≤ greatestPower := by omega
        simp [above, notNeg, zero, notBelow]
      · have below : exponent ≤ greatestPower := by omega
        rw [if_neg above]
        cases hinf : (x * powerOfTen exponent.toNat).isInf
        · simp [hinf, below]
        · simp [hinf, notNeg, zero]

/-- A literal stands for a number exactly if it is finite. -/
theorem ofLiteral_isSome_iff (l : Literal) : (ofLiteral l).isSome = true ↔ l.IsFinite := by
  rw [Literal.IsFinite, ofLiteral]
  cases hwhole : wholeOf l with
  | some n => simp
  | none =>
    simp only [Option.isSome_none, Bool.false_eq_true, false_or, realOf, Option.isSome_map]
    exact scale_isSome_iff _ _

theorem ofLiteral_eq_number {l : Literal} (h : l.IsFinite) : ofLiteral l = some l.number := by
  obtain ⟨n, hn⟩ := Option.isSome_iff_exists.mp ((ofLiteral_isSome_iff l).mpr h)
  rw [Literal.number, hn, Option.getD_some]

end Number

theorem readNumber_append {s r : List Char} {l : Literal} (h : SpellsLiteral s l) (finite : l.IsFinite)
    (hr : EndsNumber r) : readNumber (s ++ r) = some (l.number, r) := by
  simp only [readNumber, readLiteral_append h hr, Number.ofLiteral_eq_number finite, Option.bind_eq_bind,
    Option.bind_some, Option.pure_def]

theorem readNumber_sound {s r : List Char} {n : Number} (h : readNumber s = some (n, r)) :
    ∃ t l, s = t ++ r ∧ SpellsLiteral t l ∧ l.IsFinite ∧ l.number = n := by
  simp only [readNumber, Option.bind_eq_bind, Option.bind_eq_some_iff, Option.pure_def, Option.some.injEq,
    Prod.mk.injEq, Prod.exists] at h
  obtain ⟨l, r', hl, n', hn, rfl, rfl⟩ := h
  obtain ⟨t, rfl, spelled⟩ := readLiteral_sound hl
  refine ⟨t, l, rfl, spelled, ?_, ?_⟩
  · rw [← Number.ofLiteral_isSome_iff, hn]
    rfl
  · rw [Literal.number, hn, Option.getD_some]

end AdmissionGate.Json
