import Mathlib
import AdmissionGate.KindList
import AdmissionGate.Proofs.Configuration.Loading
import AdmissionGate.Proofs.Decision.Dispatch

/-!
# From a list of kinds to decisions

The kinds that pass are written as one text in a setting.  A kind passes if and only if the text lists it: some part of the text
between commas is the kind with blank characters around it, and the kind is not empty.  Both the setting and the set of kinds
trim what they are given and leave out what is empty; doing so twice does no more than once.
-/

namespace AdmissionGate

open Text (Surrounds IsTrimmed isBlank trimChars trimChars_eq_iff)
open Review (Request Response)

namespace KindList

/-! ### Segments -/

/-- Whether a text is a segment of another: no comma is in it, and on each side of it is a comma or an end. -/
structure IsSegment (text segment : List Char) : Prop where
  uncut : ',' ∉ segment
  placed : ∃ before after, text = before ++ segment ++ after ∧ (before = [] ∨ ∃ cs, before = cs ++ [',']) ∧
    (after = [] ∨ ∃ cs, after = ',' :: cs)

theorem segments_uncut {cs : List Char} (h : ',' ∉ cs) : segments cs = [cs] := by
  induction cs with
  | nil => rfl
  | cons c cs ih =>
    rw [List.mem_cons, not_or] at h
    rw [segments, if_neg (Ne.symm h.1), ih h.2]

theorem segments_append (first second : List Char) :
    segments (first ++ ',' :: second) = segments first ++ segments second := by
  induction first with
  | nil => simp [segments]
  | cons c cs ih =>
    rw [List.cons_append, segments, segments, ih]
    split
    · rfl
    · obtain ⟨begun, others, split⟩ := List.exists_cons_of_ne_nil (segments_ne_nil cs)
      simp only [split, List.cons_append]

/-- A text without a comma is its only segment; else its segments are what is before the first comma and those after it. -/
theorem isSegment_of_mem_segments {text segment : List Char} (h : segment ∈ segments text) : IsSegment text segment := by
  induction length : text.length using Nat.strongRecOn generalizing text with
  | ind n ih =>
    by_cases cut : ',' ∈ text
    · obtain ⟨begun, rest, rfl, uncut⟩ := List.eq_append_cons_of_mem cut
      rw [segments_append, segments_uncut uncut, List.singleton_append, List.mem_cons] at h
      rcases h with rfl | later
      · exact ⟨uncut, [], ',' :: rest, by simp, .inl rfl, .inr ⟨rest, rfl⟩⟩
      · have shorter : rest.length < n := by
          rw [← length, List.length_append, List.length_cons]
          omega
        obtain ⟨uncut', before, after, rfl, left, right⟩ := ih rest.length shorter later rfl
        refine ⟨uncut', begun ++ ',' :: before, after, by simp, ?_, right⟩
        rcases left with rfl | ⟨cs, rfl⟩
        · exact .inr ⟨begun, rfl⟩
        · exact .inr ⟨begun ++ ',' :: cs, by simp⟩
    · rw [segments_uncut cut, List.mem_singleton] at h
      subst h
      exact ⟨cut, [], [], by simp, .inl rfl, .inl rfl⟩

theorem IsSegment.mem_segments {text segment : List Char} (h : IsSegment text segment) : segment ∈ segments text := by
  obtain ⟨uncut, before, after, rfl, left, right⟩ := h
  have alone : segment ∈ segments (before ++ segment) := by
    rcases left with rfl | ⟨cs, rfl⟩
    · rw [List.nil_append, segments_uncut uncut]
      exact List.mem_singleton.mpr rfl
    · rw [List.append_assoc, List.singleton_append, segments_append, segments_uncut uncut]
      exact List.mem_append_right _ (List.mem_singleton.mpr rfl)
  rcases right with rfl | ⟨cs, rfl⟩
  · rw [List.append_nil]
    exact alone
  · rw [segments_append]
    exact List.mem_append_left _ alone

theorem mem_segments_iff {text segment : List Char} : segment ∈ segments text ↔ IsSegment text segment :=
  ⟨isSegment_of_mem_segments, IsSegment.mem_segments⟩

/-! ### Listed kinds -/

/-- Whether a text lists a kind: some segment of it is the kind with blank characters around it, and the kind is not empty. -/
def Lists (raw kind : String) : Prop :=
  kind ≠ "" ∧ ∃ segment, IsSegment raw.toList segment ∧ Surrounds segment kind.toList

theorem mem_split_iff {raw kind : String} : kind ∈ split raw ↔ Lists raw kind := by
  simp only [split, List.mem_map, List.mem_filter, decide_eq_true_eq, mem_segments_iff]
  constructor
  · rintro ⟨_, ⟨⟨segment, placed, rfl⟩, nonempty⟩, rfl⟩
    refine ⟨fun empty => nonempty ?_, segment, placed, ?_⟩
    · rwa [← String.toList_inj, String.toList_ofList] at empty
    · rw [String.toList_ofList]
      exact Text.surrounds_trimChars segment
  · rintro ⟨nonempty, segment, placed, surrounds⟩
    refine ⟨kind.toList, ⟨⟨segment, placed, trimChars_eq_iff.mpr surrounds⟩, ?_⟩, String.ofList_toList⟩
    intro empty
    exact nonempty (String.toList_inj.mp empty)

theorem Lists.uncut {raw kind : String} (h : Lists raw kind) : ',' ∉ kind.toList := by
  obtain ⟨-, segment, placed, ⟨before, after, rfl, -⟩, -⟩ := h
  intro within
  exact placed.uncut (List.mem_append_left _ (List.mem_append_right _ within))

theorem Lists.isTrimmed {raw kind : String} (h : Lists raw kind) : IsTrimmed kind.toList := by
  obtain ⟨-, segment, -, surrounds⟩ := h
  exact surrounds.trimmed

end KindList

/-! ### Sets of kinds from their names -/

namespace KindSet

@[simp]
theorem kinds_empty : empty.kinds = [] := rfl

theorem mem_kinds_foldl {names : List String} {set : KindSet} {kind : String} :
    kind ∈ (names.foldl insert set).kinds ↔ kind ∈ names ∨ kind ∈ set.kinds := by
  induction names generalizing set with
  | nil => simp
  | cons name names ih =>
    rw [List.foldl_cons, ih, mem_kinds_insert, List.mem_cons]
    tauto

theorem mem_kinds_ofList {names : List String} {kind : String} :
    kind ∈ (ofList names).kinds ↔ kind ≠ "" ∧ ∃ name ∈ names, Text.trim name = kind := by
  rw [ofList, mem_kinds_foldl, kinds_empty, List.mem_filter, List.mem_map]
  simp only [List.not_mem_nil, or_false, decide_eq_true_eq]
  exact And.comm

/-- Names that a text lists are trimmed and not empty, so the set has just these. -/
theorem mem_kinds_ofList_split {raw kind : String} :
    kind ∈ (ofList (KindList.split raw)).kinds ↔ KindList.Lists raw kind := by
  rw [mem_kinds_ofList]
  constructor
  · rintro ⟨-, name, listed, rfl⟩
    rw [KindList.mem_split_iff] at listed
    rwa [listed.isTrimmed.trim_eq]
  · intro listed
    exact ⟨listed.1, kind, KindList.mem_split_iff.mpr listed, listed.isTrimmed.trim_eq⟩

theorem ext {first second : KindSet} (h : ∀ kind, kind ∈ first.kinds ↔ kind ∈ second.kinds) : first = second := by
  obtain ⟨kinds, ascending⟩ := first
  obtain ⟨others, ascending'⟩ := second
  have same : kinds = others := ascending.eq_of_mem_iff ascending' h
  subst same
  rfl

end KindSet

/-! ### Decisions -/

theorem Decider.Due.eq_exempt_iff {m : Type → Type} [Monad m] {decider : Decider m} {path : String} {request : Request}
    {outcome : Outcome} {verdict : m Verdict} (due : decider.Due path request outcome verdict) :
    outcome = .exempt ↔ request.kind.kind ∈ decider.kinds.kinds := by
  cases due with
  | exempt exempt => exact iff_of_true rfl exempt
  | unrouted looked _ | handled looked _ => exact iff_of_false (fun same => nomatch same) looked

namespace KindList

/-- Whether a text settles which requests pass when some kinds are exempt. -/
structure Settles (raw : String) (kinds : KindSet) : Prop where
  /-- A request comes to one outcome, and it is the one of exempt kinds just if the text lists its kind. -/
  decisions : ∀ {m : Type → Type} [Monad m] [LawfulMonad m] (decider : Decider m), decider.kinds = kinds →
    ∀ (path : String) (request : Request), ∃ outcome verdict, decider.Due path request outcome verdict ∧
      decider.decide path request = (fun v => (v.on request, outcome)) <$> verdict ∧
      (∀ note : Call → m Unit, (decider.withHandlers (decider.handlers.noting note)).decide path request =
        (forM (outcome.calls request) note >>= fun _ => decider.decide path request)) ∧
      (outcome = .exempt ↔ Lists raw request.kind.kind)
  /-- Only the kinds that are listed matter: not their order, nor how often they are listed, nor what is around them. -/
  alike : ∀ other, (∀ kind, Lists other kind ↔ Lists raw kind) → KindSet.ofList (split other) = kinds
  nonempty : ¬ Lists raw ""
  uncut : ∀ kind, Lists raw kind → ',' ∉ kind.toList
  trimmed : ∀ kind, Lists raw kind → IsTrimmed kind.toList

theorem settles_split (raw : String) : Settles raw (KindSet.ofList (split raw)) where
  decisions decider kinds path request := by
    obtain ⟨outcome, verdict, due⟩ := decider.exists_due path request
    refine ⟨outcome, verdict, due, due.decide_eq, due.decide_noting, ?_⟩
    rw [due.eq_exempt_iff, kinds, KindSet.mem_kinds_ofList_split]
  alike other same := KindSet.ext fun kind => by
    rw [KindSet.mem_kinds_ofList_split, KindSet.mem_kinds_ofList_split, same]
  nonempty listed := listed.1 rfl
  uncut _ listed := listed.uncut
  trimmed _ listed := listed.isTrimmed

end KindList

/-- Whatever text lists the kinds that pass, the configuration is loaded if its numbers are fine, and the text settles which
requests pass. -/
theorem Configuration.listed_kinds_pass (lookup : String → Option String) (raw : String)
    (given : lookup "WEBHOOK_FILTER_KINDS" = some raw)
    (valid : ∀ number ∈ Variable.numbers, Fits lookup number.1 number.2) :
    ∃ configuration, load lookup = .ok configuration ∧
      KindList.Settles raw (KindSet.ofList configuration.filterKinds) := by
  obtain ⟨configuration, loaded, kinds⟩ := exists_load valid
  refine ⟨configuration, loaded, ?_⟩
  rw [kinds, Variable.name, given]
  exact KindList.settles_split raw

/-- A list with an empty place, a repetition and a space that is not of ASCII, beside a port with a plus sign. -/
theorem Configuration.listed_kinds_pass_repeated :
    let raw := "Pod,, \u00a0Event\t,Pod"
    let lookup : String → Option String := fun name =>
      [("WEBHOOK_FILTER_KINDS", raw), ("WEBHOOK_PORT", " +08443")].lookup name
    (lookup "WEBHOOK_FILTER_KINDS" = some raw ∧ ∀ number ∈ Variable.numbers, Fits lookup number.1 number.2) ∧
      ∃ configuration, load lookup = .ok configuration ∧
        KindSet.ofList configuration.filterKinds = KindSet.ofList (KindList.split "Event,Pod") ∧
        (KindSet.ofList configuration.filterKinds).exempts "Event" = true := by
  intro raw lookup
  have valid : ∀ number ∈ Variable.numbers, Fits lookup number.1 number.2 := by
    have unset : ∀ (setting : Variable) (width : Nat), lookup setting.name = none → Fits lookup setting width := by
      intro setting width absent value held
      rw [absent] at held
      cases held
    simp only [Variable.numbers, List.forall_mem_cons, List.not_mem_nil, false_imp_iff, implies_true, and_true]
    refine ⟨?_, unset _ _ rfl, unset _ _ rfl, unset _ _ rfl, unset _ _ rfl, unset _ _ rfl⟩
    intro value held
    cases held
    exact ⟨['+', '0', '8', '4', '4', '3'], ['0', '8', '4', '4', '3'], Text.trimChars_eq_iff.mp (by decide), .inr rfl,
      List.cons_ne_nil _ _, List.all_eq_true.mp (by decide), by decide⟩
  obtain ⟨configuration, loaded, settles⟩ := Configuration.listed_kinds_pass lookup raw rfl valid
  have same : ∀ kind, KindList.Lists "Event,Pod" kind ↔ KindList.Lists raw kind := by
    intro kind
    have first : KindList.split "Event,Pod" = ["Event", "Pod"] := by decide
    have second : KindList.split raw = ["Pod", "Event", "Pod"] := by decide
    rw [← KindList.mem_split_iff, ← KindList.mem_split_iff, first, second]
    simp only [List.mem_cons, List.not_mem_nil, or_false]
    tauto
  have kinds := settles.alike "Event,Pod" same
  refine ⟨⟨rfl, valid⟩, configuration, loaded, kinds.symm, ?_⟩
  rw [← kinds]
  decide

end AdmissionGate
