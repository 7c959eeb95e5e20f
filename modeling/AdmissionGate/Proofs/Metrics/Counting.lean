import Mathlib
import AdmissionGate.Metrics.Counters

/-!
# Counting one more thing

What is counted adds to the counters that it concerns, once to each, and to no other.  The counters are told apart by the
texts of their labels, so this rests on different labels having different texts, whatever a route is called.
-/

namespace AdmissionGate

/-! ### What one thing adds to a counter -/

namespace Record

/-- What is added to the requests on a route with a verdict. -/
def toRequests (route : String) (allowed : Bool) : Record → Nat
  | .admission other verdict _ _ => if route = other ∧ allowed = verdict then 1 else 0
  | .rejection _ => 0

/-- What is added to the requests on a route that passed unseen. -/
def toExempt (route : String) : Record → Nat
  | .admission other _ exempt _ => if route = other ∧ exempt = true then 1 else 0
  | .rejection _ => 0

/-- What is added to the bodies refused with a status. -/
def toRejections (status : Nat) : Record → Nat
  | .admission _ _ _ _ => 0
  | .rejection other => if status = other then 1 else 0

/-- What is added to the durations on a route. -/
def toDurations (route : String) : Record → Nat
  | .admission other _ _ _ => if route = other then 1 else 0
  | .rejection _ => 0

end Record

namespace Metrics

/-! ### Labels have texts of their own -/

theorem labelText_inj {name first second : String} : labelText name first = labelText name second ↔ first = second := by
  rw [labelText, labelText, String.append_left_inj, String.append_right_inj]

theorem routeLabels_inj {first second : String} : routeLabels first = routeLabels second ↔ first = second :=
  labelText_inj

theorem statusLabels_inj {first second : Nat} : statusLabels first = statusLabels second ↔ first = second := by
  rw [statusLabels, statusLabels, labelText_inj, Nat.toString_eq_repr, Nat.toString_eq_repr, Nat.repr_inj]

theorem verdictLabels_inj {first second : String} {a b : Bool} :
    verdictLabels first a = verdictLabels second b ↔ first = second ∧ a = b := by
  constructor
  · intro same
    -- the texts of the two verdicts differ before their last letter
    have verdicts : a = b := by
      have ends := congrArg (fun s => s.toList.reverse) same
      cases a <;> cases b <;> simp [verdictLabels, labelText] at ends ⊢
    subst verdicts
    rw [verdictLabels, verdictLabels, String.append_left_inj, String.append_left_inj, labelText_inj] at same
    exact ⟨same, rfl⟩
  · rintro ⟨rfl, rfl⟩
    rfl

/-! ### Counters after one more thing -/

theorem requestCount_record (metrics : Metrics) (record : Record) (route : String) (allowed : Bool) :
    (metrics.record record).requestCount route allowed =
      metrics.requestCount route allowed + record.toRequests route allowed := by
  cases record with
  | admission other verdict exempt seconds =>
    simp only [requestCount, Metrics.record, find?_increment, verdictLabels_inj, Record.toRequests]
  | rejection status => rfl

theorem exemptCount_record (metrics : Metrics) (record : Record) (route : String) :
    (metrics.record record).exemptCount route = metrics.exemptCount route + record.toExempt route := by
  cases record with
  | admission other verdict exempt seconds =>
    cases exempt with
    | false => simp [exemptCount, Metrics.record, Record.toExempt]
    | true => simp [exemptCount, Metrics.record, find?_increment, routeLabels_inj, Record.toExempt]
  | rejection status => rfl

theorem rejectionCount_record (metrics : Metrics) (record : Record) (status : Nat) :
    (metrics.record record).rejectionCount status = metrics.rejectionCount status + record.toRejections status := by
  cases record with
  | admission other verdict exempt seconds => rfl
  | rejection other =>
    simp only [rejectionCount, Metrics.record, find?_increment, statusLabels_inj, Record.toRejections]

theorem durationCount_record (metrics : Metrics) (record : Record) (route : String) :
    (metrics.record record).durationCount route = metrics.durationCount route + record.toDurations route := by
  cases record with
  | admission other verdict exempt seconds =>
    simp only [durationCount, Metrics.record, observe, Json.Members.find?_insert, routeLabels_inj, Record.toDurations]
    by_cases h : route = other <;> simp [h, Histogram.observe]
  | rejection status => rfl

/-! ### One thing counted, and nothing else -/

/-- Whether the only thing counted in between is a body refused with a status. -/
structure CountsRejection (status : Nat) (before after : Metrics) : Prop where
  requests : ∀ route allowed, after.requestCount route allowed = before.requestCount route allowed
  exempt : ∀ route, after.exemptCount route = before.exemptCount route
  rejections : ∀ other, after.rejectionCount other = before.rejectionCount other + if other = status then 1 else 0
  durations : ∀ route, after.durationCount route = before.durationCount route

/-- Whether the only thing counted in between is an answered request. -/
structure CountsAdmission (route : String) (allowed exempt : Bool) (before after : Metrics) : Prop where
  requests : ∀ other verdict, after.requestCount other verdict =
    before.requestCount other verdict + if other = route ∧ verdict = allowed then 1 else 0
  exempt : ∀ other, after.exemptCount other = before.exemptCount other + if other = route ∧ exempt = true then 1 else 0
  rejections : ∀ status, after.rejectionCount status = before.rejectionCount status
  durations : ∀ other, after.durationCount other = before.durationCount other + if other = route then 1 else 0

/-- Whether the same has been counted, durations being told apart only by their routes. -/
structure SameCounts (first second : Metrics) : Prop where
  requests : ∀ route allowed, first.requestCount route allowed = second.requestCount route allowed
  exempt : ∀ route, first.exemptCount route = second.exemptCount route
  rejections : ∀ status, first.rejectionCount status = second.rejectionCount status
  durations : ∀ route, first.durationCount route = second.durationCount route

theorem SameCounts.refl (metrics : Metrics) : SameCounts metrics metrics :=
  ⟨fun _ _ => rfl, fun _ => rfl, fun _ => rfl, fun _ => rfl⟩

/-- How long an answered request took does not matter to the counts. -/
theorem sameCounts_record (metrics : Metrics) (route : String) (allowed exempt : Bool) (first second : Float) :
    SameCounts (metrics.record (.admission route allowed exempt first))
      (metrics.record (.admission route allowed exempt second)) where
  requests _ _ := by rw [requestCount_record, requestCount_record]; rfl
  exempt _ := by rw [exemptCount_record, exemptCount_record]; rfl
  rejections _ := by rw [rejectionCount_record, rejectionCount_record]; rfl
  durations _ := by rw [durationCount_record, durationCount_record]; rfl

theorem countsRejection_record (metrics : Metrics) (status : Nat) :
    CountsRejection status metrics (metrics.record (.rejection status)) where
  requests := requestCount_record metrics (.rejection status)
  exempt := exemptCount_record metrics (.rejection status)
  rejections := rejectionCount_record metrics (.rejection status)
  durations := durationCount_record metrics (.rejection status)

end Metrics

end AdmissionGate
