import Mathlib.Data.List.TakeWhile
import AdmissionGate.Text.Blank

/-!
# What is left of a trimmed text

A text is trimmed if no blank character stands at either of its ends.  Of every text one trimmed text is left once the blank
characters around it are gone, and trimming finds it; a trimmed text is left as it is.
-/

namespace AdmissionGate.Text

/-- Whether no blank character stands at either end of a text. -/
structure IsTrimmed (cs : List Char) : Prop where
  first : ∀ c, cs.head? = some c → isBlank c = false
  last : ∀ c, cs.getLast? = some c → isBlank c = false

/-- Whether a text is another one with blank characters around it, of which none is left at its ends. -/
structure Surrounds (cs trimmed : List Char) : Prop where
  around : ∃ before after, cs = before ++ trimmed ++ after ∧ (∀ c ∈ before, isBlank c = true) ∧
    ∀ c ∈ after, isBlank c = true
  trimmed : IsTrimmed trimmed

theorem IsTrimmed.reverse {cs : List Char} (h : IsTrimmed cs) : IsTrimmed cs.reverse where
  first c given := h.last c (by rwa [List.head?_reverse] at given)
  last c given := h.first c (by rwa [List.getLast?_reverse] at given)

/-! ### Blank characters in front -/

theorem head?_dropWhile {cs : List Char} {c : Char} (h : (cs.dropWhile isBlank).head? = some c) : isBlank c = false := by
  induction cs with
  | nil => cases h
  | cons d cs ih =>
    rw [List.dropWhile_cons] at h
    split at h
    · exact ih h
    · rename_i unblank
      cases h
      exact Bool.eq_false_iff.mpr unblank

theorem dropWhile_blank {before cs : List Char} (blank : ∀ c ∈ before, isBlank c = true)
    (first : ∀ c, cs.head? = some c → isBlank c = false) : (before ++ cs).dropWhile isBlank = cs := by
  rw [List.dropWhile_append_of_pos blank]
  cases cs with
  | nil => rfl
  | cons c cs => exact List.dropWhile_cons_of_neg (Bool.eq_false_iff.mp (first c rfl))

/-- What is left when the blank characters in front are gone ends as the text ends, unless nothing is left. -/
theorem getLast?_dropWhile {cs : List Char} {c : Char} (h : (cs.dropWhile isBlank).getLast? = some c) :
    cs.getLast? = some c := by
  have whole := List.takeWhile_append_dropWhile (p := isBlank) (l := cs)
  rw [← whole, List.getLast?_append, h]
  rfl

/-! ### Both ends -/

theorem surrounds_trimChars (cs : List Char) : Surrounds cs (trimChars cs) := by
  have front := List.takeWhile_append_dropWhile (p := isBlank) (l := cs)
  generalize rest : cs.dropWhile isBlank = kept at front
  have back := List.takeWhile_append_dropWhile (p := isBlank) (l := kept.reverse)
  have whole : kept = (kept.reverse.dropWhile isBlank).reverse ++ (kept.reverse.takeWhile isBlank).reverse := by
    rw [← List.reverse_append, back, List.reverse_reverse]
  rw [trimChars, rest]
  refine ⟨⟨cs.takeWhile isBlank, (kept.reverse.takeWhile isBlank).reverse, ?_, ?_, ?_⟩, ?_, ?_⟩
  · rw [List.append_assoc, ← whole, front]
  · exact fun c hc => List.mem_takeWhile_imp hc
  · exact fun c hc => List.mem_takeWhile_imp (List.mem_reverse.mp hc)
  · intro c first
    rw [List.head?_reverse] at first
    have begins := getLast?_dropWhile first
    rw [List.getLast?_reverse, ← rest] at begins
    exact head?_dropWhile begins
  · intro c last
    rw [List.getLast?_reverse] at last
    exact head?_dropWhile last

/-- Trimming finds the one trimmed text that a text surrounds. -/
theorem trimChars_eq_iff {cs trimmed : List Char} : trimChars cs = trimmed ↔ Surrounds cs trimmed := by
  constructor
  · rintro rfl
    exact surrounds_trimChars cs
  · rintro ⟨⟨before, after, rfl, blankBefore, blankAfter⟩, ends⟩
    rw [trimChars, List.append_assoc]
    cases trimmed with
    | nil =>
      have allBlank : ∀ c ∈ before ++ after, isBlank c = true := by
        intro c hc
        rcases List.mem_append.mp hc with hc | hc
        · exact blankBefore c hc
        · exact blankAfter c hc
      rw [List.nil_append, List.dropWhile_eq_nil_iff.mpr allBlank]
      rfl
    | cons c rest =>
      have first : ∀ d, (c :: rest ++ after).head? = some d → isBlank d = false := by
        intro d given
        exact ends.first d given
      have blankBehind : ∀ d ∈ after.reverse, isBlank d = true := fun d hd => blankAfter d (List.mem_reverse.mp hd)
      rw [dropWhile_blank blankBefore first, List.reverse_append, dropWhile_blank blankBehind ends.reverse.first,
        List.reverse_reverse]

theorem IsTrimmed.surrounds {cs : List Char} (h : IsTrimmed cs) : Surrounds cs cs :=
  ⟨⟨[], [], by simp, by simp, by simp⟩, h⟩

theorem IsTrimmed.trimChars_eq {cs : List Char} (h : IsTrimmed cs) : trimChars cs = cs :=
  trimChars_eq_iff.mpr h.surrounds

theorem trim_eq_iff {s trimmed : String} : trim s = trimmed ↔ Surrounds s.toList trimmed.toList := by
  rw [← trimChars_eq_iff, ← toList_trim, String.toList_inj]

theorem IsTrimmed.trim_eq {s : String} (h : IsTrimmed s.toList) : trim s = s :=
  trim_eq_iff.mpr h.surrounds

end AdmissionGate.Text
