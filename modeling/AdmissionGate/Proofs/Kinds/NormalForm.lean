import Mathlib
import AdmissionGate.Proofs.Decision.ListedKinds

/-!
# Normal forms of kind lists and kind sets

A list of kinds has a normal form as a text: the kinds one after another with a comma between two of them.  Splitting takes every
text to a list of plain kinds, and takes the normal form of such a list back to the list.  Both facts rest on one law, that a comma
between two texts cuts nothing but itself: the segments on its two sides are trimmed and dropped apart from each other.  The empty
list is its own case, since a text has a segment even if nothing is in it.

A set of kinds has the ascending list of its kinds as its normal form.  All that a set says of some names is which kinds they give,
so the order and the number of the names are lost, and a set that is read back from its kinds is the same set.
-/

namespace AdmissionGate

open Text (Surrounds IsTrimmed trimChars trimChars_eq_iff)

namespace Text

/-- A text as the list of its code points. -/
def codePoints (s : String) : List Nat :=
  s.toList.map Char.toNat

theorem map_toNat_lt_iff {first second : List Char} :
    first.map Char.toNat < second.map Char.toNat ↔ first < second := by
  induction first generalizing second with
  | nil => cases second <;> simp
  | cons c cs ih =>
    cases second with
    | nil => simp
    | cons d ds =>
      have heads : c.toNat = d.toNat ↔ c = d := Char.toNat_inj
      simp only [List.map_cons, List.cons_lt_cons_iff, ih, heads]
      rfl

/-- Texts are ordered by their code points. -/
theorem codePoints_lt_iff {first second : String} : codePoints first < codePoints second ↔ first < second := by
  rw [codePoints, codePoints, map_toNat_lt_iff, String.lt_iff_toList_lt]

end Text

/-! ### Lists of kinds as texts -/

namespace KindList

/-- Whether a kind stands in a list as it is written. -/
structure IsPlain (kind : String) : Prop where
  nonempty : kind ≠ ""
  uncut : ',' ∉ kind.toList
  trimmed : IsTrimmed kind.toList

theorem isPlain_of_mem_split {raw kind : String} (h : kind ∈ split raw) : IsPlain kind := by
  rw [mem_split_iff] at h
  exact ⟨h.1, h.uncut, h.isTrimmed⟩

theorem split_append (first second : String) : split (first ++ "," ++ second) = split first ++ split second := by
  have cut : (first ++ "," ++ second).toList = first.toList ++ ',' :: second.toList := by simp
  simp only [split, cut, segments_append, List.map_append, List.filter_append]

theorem IsPlain.split_eq {kind : String} (h : IsPlain kind) : split kind = [kind] := by
  have nonempty : kind.toList ≠ [] := by
    intro empty
    exact h.nonempty (String.toList_inj.mp empty)
  simp [split, segments_uncut h.uncut, h.trimmed.trimChars_eq, nonempty]

theorem split_intercalate {kinds : List String} (plain : ∀ kind ∈ kinds, IsPlain kind) :
    split (",".intercalate kinds) = kinds := by
  induction kinds with
  | nil =>
    -- the one segment of the empty text is dropped
    rw [String.intercalate_nil]
    rfl
  | cons kind others ih =>
    rw [List.forall_mem_cons] at plain
    obtain ⟨first, rest⟩ := plain
    rcases List.eq_nil_or_concat others with rfl | ⟨before, last, rfl⟩
    · rw [String.intercalate_singleton, first.split_eq]
    · rw [String.intercalate_cons_of_ne_nil (by simp), split_append, first.split_eq, ih rest]
      rfl

end KindList

/-! ### Sets of kinds as lists -/

namespace KindSet

/-- Whether a set is what some names come to: only the kinds that they give matter, and the set is read back from its kinds. -/
structure Normalizes (names : List String) (set : KindSet) : Prop where
  exempts : ∀ kind, set.exempts kind = true ↔ kind ≠ "" ∧ ∃ name ∈ names, Surrounds name.toList kind.toList
  ascending : set.kinds.Pairwise fun first second => Text.codePoints first < Text.codePoints second
  alike : ∀ others, (∀ name, name ∈ others ↔ name ∈ names) → ofList others = set
  again : ofList set.kinds = set
  joined : ∀ others kind, (ofList (names ++ others)).exempts kind = (set.exempts kind || (ofList others).exempts kind)

section Names

variable {names others : List String}

theorem exempts_ofList_iff {kind : String} :
    (ofList names).exempts kind = true ↔ kind ≠ "" ∧ ∃ name ∈ names, Surrounds name.toList kind.toList := by
  simp only [exempts_iff, mem_kinds_ofList, Text.trim_eq_iff]

theorem ofList_congr (same : ∀ name, name ∈ others ↔ name ∈ names) : ofList others = ofList names := by
  apply ext
  intro kind
  simp only [mem_kinds_ofList, same]

theorem exempts_ofList_append (kind : String) :
    (ofList (names ++ others)).exempts kind = ((ofList names).exempts kind || (ofList others).exempts kind) := by
  rw [Bool.eq_iff_iff, Bool.or_eq_true]
  simp only [exempts_ofList_iff, List.mem_append, or_and_right, exists_or, and_or_left]

/-- A set whose kinds are trimmed and not empty is read back from them. -/
theorem ofList_kinds {set : KindSet} (trimmed : ∀ kind ∈ set.kinds, kind ≠ "" ∧ IsTrimmed kind.toList) :
    ofList set.kinds = set := by
  apply ext
  intro kind
  rw [mem_kinds_ofList]
  constructor
  · rintro ⟨-, name, listed, rfl⟩
    rwa [(trimmed name listed).2.trim_eq]
  · intro listed
    obtain ⟨nonempty, ends⟩ := trimmed kind listed
    exact ⟨nonempty, kind, listed, ends.trim_eq⟩

theorem ofList_kinds_ofList : ofList (ofList names).kinds = ofList names := by
  apply ofList_kinds
  intro kind listed
  rw [← exempts_iff, exempts_ofList_iff] at listed
  obtain ⟨nonempty, name, -, surrounds⟩ := listed
  exact ⟨nonempty, surrounds.trimmed⟩

end Names

end KindSet

/-! ### Both together -/

/-- Texts with a comma between them list their kinds one after another; the kinds that a text lists are plain, and plain kinds are
listed by the text that joins them.  A set of kinds depends on nothing but the kinds that its names give. -/
theorem KindList.normal_form_law :
    (∀ first second : String, split (first ++ "," ++ second) = split first ++ split second) ∧
    (∀ raw : String, ∀ kind ∈ split raw, IsPlain kind) ∧
    (∀ kinds : List String, (∀ kind ∈ kinds, IsPlain kind) → split (",".intercalate kinds) = kinds) ∧
    ∀ names : List String, KindSet.Normalizes names (KindSet.ofList names) := by
  refine ⟨split_append, fun raw kind => isPlain_of_mem_split, fun kinds => split_intercalate, ?_⟩
  intro names
  have ascending := (KindSet.ofList names).ascending
  exact {
    exempts := fun kind => KindSet.exempts_ofList_iff
    ascending := ascending.imp Text.codePoints_lt_iff.mpr
    alike := fun others => KindSet.ofList_congr
    again := KindSet.ofList_kinds_ofList
    joined := fun others kind => KindSet.exempts_ofList_append kind }

/-- Plain kinds with a blank and a letter beyond ASCII in them, and names that are reordered and repeated. -/
theorem KindList.normal_form_law_blank :
    (∀ kind ∈ ["Pod set", "Ä\u200b"], IsPlain kind) ∧ split "Pod set,Ä\u200b" = ["Pod set", "Ä\u200b"] ∧
      (∀ name, name ∈ ["\u00a0Pod", "", "Event", ""] ↔ name ∈ ["Event", "", "\u00a0Pod"]) ∧
      KindSet.ofList ["\u00a0Pod", "", "Event", ""] = KindSet.ofList ["Event", "", "\u00a0Pod"] ∧
      (KindSet.ofList ["Event", "", "\u00a0Pod"]).kinds = ["Event", "Pod"] := by
  have plain : ∀ kind ∈ ["Pod set", "Ä\u200b"], IsPlain kind := by
    simp only [List.forall_mem_cons, List.not_mem_nil, false_imp_iff, implies_true, and_true]
    have first : trimChars "Pod set".toList = "Pod set".toList := by decide
    have second : trimChars "Ä\u200b".toList = "Ä\u200b".toList := by decide
    exact ⟨⟨by decide, by decide, (trimChars_eq_iff.mp first).trimmed⟩,
      ⟨by decide, by decide, (trimChars_eq_iff.mp second).trimmed⟩⟩
  have same : ∀ name, name ∈ ["\u00a0Pod", "", "Event", ""] ↔ name ∈ ["Event", "", "\u00a0Pod"] := by
    intro name
    simp only [List.mem_cons, List.not_mem_nil, or_false]
    tauto
  obtain ⟨-, -, joined, sets⟩ := KindList.normal_form_law
  exact ⟨plain, joined _ plain, same, (sets _).alike _ same, by decide⟩

end AdmissionGate
