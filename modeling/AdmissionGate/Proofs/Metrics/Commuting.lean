import Mathlib
import AdmissionGate.Metrics.Counters

/-!
# Counting in any order

What is counted later may as well be counted before: the counters come out the same, and so do the labels that they have, though
a label is there only from its first use on.  A histogram counts its values and sorts them into buckets, and that does not
depend on their order either.  Only the sum of its values may, since doubles are rounded as they are added.
-/

namespace AdmissionGate

/-! ### Members -/

namespace Json.Members

variable {α β : Type}

theorem insert_comm_of_lt {low high : String} (below : low < high) (x y : α) (members : Members α) :
    insert low x (insert high y members) = insert high y (insert low x members) := by
  have apart : ¬ high < low := lt_asymm below
  induction members with
  | nil => simp [insert, below, apart]
  | cons member rest ih =>
    obtain ⟨other, held⟩ := member
    rcases lt_trichotomy low other with before | rfl | after
    · -- the lower name comes first, wherever the higher one goes
      rcases lt_trichotomy high other with before' | rfl | after'
      · simp [insert, before, before', below, apart]
      · simp [insert, before, apart]
      · simp [insert, before, below, after', lt_asymm after', apart]
    · simp [insert, below, apart]
    · have after' : other < high := lt_trans after below
      simp [insert, after, after', lt_asymm after, lt_asymm after', ih]

theorem insert_comm {name other : String} (apart : name ≠ other) (x y : α) (members : Members α) :
    insert name x (insert other y members) = insert other y (insert name x members) := by
  rcases lt_or_gt_of_ne apart with below | above
  · exact insert_comm_of_lt below x y members
  · exact (insert_comm_of_lt above y x members).symm

theorem insert_insert (name : String) (x y : α) (members : Members α) :
    insert name x (insert name y members) = insert name x members := by
  induction members with
  | nil => simp [insert]
  | cons member rest ih =>
    obtain ⟨other, held⟩ := member
    rcases lt_trichotomy name other with before | rfl | after
    · simp [insert, before]
    · simp [insert]
    · simp [insert, after, lt_asymm after, ih]

theorem map_insert (f : α → β) (name : String) (x : α) (members : Members α) :
    (insert name x members).map (Prod.map id f) = insert name (f x) (members.map (Prod.map id f)) := by
  induction members with
  | nil => rfl
  | cons member rest ih =>
    obtain ⟨other, held⟩ := member
    rw [insert]
    split
    · rename_i before
      simp [insert, before]
    · rename_i notBefore
      split
      · rename_i after
        simp [insert, notBefore, after, ih]
      · rename_i notAfter
        simp [insert, notBefore, notAfter]

theorem find?_map (f : α → β) (name : String) (members : Members α) :
    find? name (members.map (Prod.map id f)) = (find? name members).map f := by
  induction members with
  | nil => rfl
  | cons member rest ih =>
    obtain ⟨other, held⟩ := member
    rw [List.map_cons, Prod.map_apply, id, find?_cons, find?_cons, ih]
    split <;> rfl

/-- Change what is held under a name. -/
def update (name : String) (change : Option α → α) (members : Members α) : Members α :=
  insert name (change (find? name members)) members

/-- Changes commute if the names differ, and else if the changes of one value do. -/
theorem update_comm {name other : String} (change change' : Option α → α)
    (same : name = other → ∀ held, change (some (change' held)) = change' (some (change held))) (members : Members α) :
    update name change (update other change' members) = update other change' (update name change members) := by
  rw [update, update, update, update, find?_insert, find?_insert]
  by_cases apart : name = other
  · subst apart
    rw [if_pos rfl, if_pos rfl, insert_insert, insert_insert, same rfl]
  · rw [if_neg apart, if_neg (Ne.symm apart), insert_comm apart]

theorem map_update (f : α → β) (change : Option α → α) (change' : Option β → β)
    (h : ∀ held, f (change held) = change' (held.map f)) (name : String) (members : Members α) :
    (update name change members).map (Prod.map id f) = update name change' (members.map (Prod.map id f)) := by
  rw [update, update, map_insert, find?_map, h]

end Json.Members

open Json (Members)

namespace Metrics

/-! ### Histograms without their sums -/

namespace Histogram

theorem place_comm (x y : Float) (bounds : List Float) (buckets : List Nat) :
    place x bounds (place y bounds buckets) = place y bounds (place x bounds buckets) := by
  induction bounds generalizing buckets with
  | nil => rfl
  | cons bound bounds ih =>
    cases buckets with
    | nil => rfl
    | cons n buckets => by_cases hx : x ≤ bound <;> by_cases hy : y ≤ bound <;> simp [place, hx, hy, ih]

/-- What a histogram has counted: how many values, and how many of them are in each bucket. -/
def counts (h : Histogram) : Nat × List Nat :=
  (h.count, h.buckets)

/-- Count one more value. -/
def tally (x : Float) (counts : Nat × List Nat) : Nat × List Nat :=
  (counts.1 + 1, place x (bounds ++ [greatest]) counts.2)

theorem counts_observe (h : Histogram) (x : Float) : (h.observe x).counts = tally x h.counts := rfl

theorem tally_comm (x y : Float) (counts : Nat × List Nat) : tally x (tally y counts) = tally y (tally x counts) := by
  rw [tally, tally, tally, tally, place_comm]

end Histogram

/-- What the histograms have counted, each under the text of its labels. -/
def durationCounts (metrics : Metrics) : Members (Nat × List Nat) :=
  metrics.durations.map (Prod.map id Histogram.counts)

/-- Whether metrics have the same counters under the same labels; only the sums of durations may differ. -/
structure CountsAlike (first second : Metrics) : Prop where
  requests : first.requests = second.requests
  exempt : first.exempt = second.exempt
  rejections : first.rejections = second.rejections
  durations : first.durationCounts = second.durationCounts

namespace CountsAlike

theorem refl (metrics : Metrics) : CountsAlike metrics metrics :=
  ⟨rfl, rfl, rfl, rfl⟩

theorem trans {first second third : Metrics} (h : CountsAlike first second) (h' : CountsAlike second third) :
    CountsAlike first third :=
  ⟨h.requests.trans h'.requests, h.exempt.trans h'.exempt, h.rejections.trans h'.rejections,
    h.durations.trans h'.durations⟩

end CountsAlike

/-! ### One record after another -/

theorem increment_comm (first second : String) (samples : Members Nat) :
    increment first (increment second samples) = increment second (increment first samples) :=
  Members.update_comm (fun held => held.getD 0 + 1) (fun held => held.getD 0 + 1) (fun _ _ => rfl) samples

/-- Count one more value under the text of its labels. -/
def tally (labels : String) (x : Float) (samples : Members (Nat × List Nat)) : Members (Nat × List Nat) :=
  samples.update labels fun held => Histogram.tally x (held.getD (Histogram.counts {}))

theorem counts_observe (labels : String) (x : Float) (samples : Members Histogram) :
    (observe labels x samples).map (Prod.map id Histogram.counts) =
      tally labels x (samples.map (Prod.map id Histogram.counts)) := by
  refine Members.map_update Histogram.counts (fun held => (held.getD {}).observe x) _ ?_ labels samples
  intro held
  cases held <;> exact Histogram.counts_observe _ x

theorem tally_comm (first second : String) (x y : Float) (samples : Members (Nat × List Nat)) :
    tally first x (tally second y samples) = tally second y (tally first x samples) :=
  Members.update_comm _ _ (fun _ held => Histogram.tally_comm x y (held.getD _)) samples

theorem exempt_admission (metrics : Metrics) (route : String) (allowed exempt : Bool) (seconds : Float) :
    (metrics.record (.admission route allowed exempt seconds)).exempt =
      if exempt then increment (routeLabels route) metrics.exempt else metrics.exempt := rfl

theorem durationCounts_admission (metrics : Metrics) (route : String) (allowed exempt : Bool) (seconds : Float) :
    (metrics.record (.admission route allowed exempt seconds)).durationCounts =
      tally (routeLabels route) seconds metrics.durationCounts :=
  counts_observe _ _ _

theorem durationCounts_rejection (metrics : Metrics) (status : Nat) :
    (metrics.record (.rejection status)).durationCounts = metrics.durationCounts := rfl

theorem CountsAlike.record {first second : Metrics} (h : CountsAlike first second) (record : Record) :
    CountsAlike (first.record record) (second.record record) := by
  cases record with
  | rejection status => exact ⟨h.requests, h.exempt, congrArg (increment _) h.rejections, h.durations⟩
  | admission route allowed exempt seconds =>
    refine ⟨congrArg (increment _) h.requests, ?_, h.rejections, ?_⟩
    · rw [exempt_admission, exempt_admission, h.exempt]
    · rw [durationCounts_admission, durationCounts_admission, h.durations]

theorem countsAlike_record_record (metrics : Metrics) (first second : Record) :
    CountsAlike ((metrics.record first).record second) ((metrics.record second).record first) := by
  cases first with
  | rejection status =>
    cases second with
    | rejection status' =>
      exact ⟨rfl, rfl, increment_comm (statusLabels status') (statusLabels status) metrics.rejections, rfl⟩
    | admission _ _ _ _ =>
      refine ⟨rfl, rfl, rfl, ?_⟩
      rw [durationCounts_rejection, durationCounts_admission, durationCounts_admission, durationCounts_rejection]
  | admission route allowed exempt seconds =>
    cases second with
    | rejection _ =>
      refine ⟨rfl, rfl, rfl, ?_⟩
      rw [durationCounts_rejection, durationCounts_admission, durationCounts_admission, durationCounts_rejection]
    | admission route' allowed' exempt' seconds' =>
      refine ⟨?_, ?_, rfl, ?_⟩
      · exact increment_comm (verdictLabels route' allowed') (verdictLabels route allowed) metrics.requests
      · rw [exempt_admission, exempt_admission, exempt_admission, exempt_admission]
        cases exempt <;> cases exempt' <;> simp only [if_true, Bool.false_eq_true, if_false]
        exact increment_comm _ _ _
      · rw [durationCounts_admission, durationCounts_admission, durationCounts_admission, durationCounts_admission,
          tally_comm]

end Metrics

end AdmissionGate
