import AdmissionGate.Json.Members
import AdmissionGate.Metrics.Histogram

/-!
# Counters

What the gate counts: answered requests by route and verdict, those among them whose kind passed unseen, refused bodies by
status, and how long answers took.  The samples of a family are kept under the text of their labels, in its order.
-/

namespace AdmissionGate

open Json (Members)

/-- One thing to count. -/
inductive Record where
  /-- A request was answered. -/
  | admission (route : String) (allowed exempt : Bool) (seconds : Float)
  /-- A body was refused. -/
  | rejection (status : Nat)
deriving DecidableEq, Repr

/-- What has been counted. -/
structure Metrics where
  requests : Members Nat := []
  exempt : Members Nat := []
  rejections : Members Nat := []
  durations : Members Metrics.Histogram := []
deriving DecidableEq, Repr

namespace Metrics

def labelText (name value : String) : String :=
  name ++ "=\"" ++ value ++ "\""

def verdictLabels (route : String) (allowed : Bool) : String :=
  labelText "route" route ++ "," ++ labelText "allowed" (if allowed then "true" else "false")

def routeLabels (route : String) : String := labelText "route" route

def statusLabels (status : Nat) : String := labelText "status" (toString status)

def increment (labels : String) (samples : Members Nat) : Members Nat :=
  samples.insert labels ((samples.find? labels).getD 0 + 1)

def observe (labels : String) (x : Float) (samples : Members Histogram) : Members Histogram :=
  samples.insert labels (((samples.find? labels).getD {}).observe x)

def record (metrics : Metrics) : Record → Metrics
  | .admission route allowed exempt seconds =>
    { metrics with
      requests := increment (verdictLabels route allowed) metrics.requests
      exempt := if exempt then increment (routeLabels route) metrics.exempt else metrics.exempt
      durations := observe (routeLabels route) seconds metrics.durations }
  | .rejection status =>
    { metrics with rejections := increment (statusLabels status) metrics.rejections }

/-! ### The view: one number for each set of labels -/

/-- How many requests on a route have been answered with a verdict. -/
def requestCount (metrics : Metrics) (route : String) (allowed : Bool) : Nat :=
  (metrics.requests.find? (verdictLabels route allowed)).getD 0

/-- How many requests on a route have passed unseen. -/
def exemptCount (metrics : Metrics) (route : String) : Nat :=
  (metrics.exempt.find? (routeLabels route)).getD 0

/-- How many bodies have been refused with a status. -/
def rejectionCount (metrics : Metrics) (status : Nat) : Nat :=
  (metrics.rejections.find? (statusLabels status)).getD 0

/-- How many durations on a route have been seen. -/
def durationCount (metrics : Metrics) (route : String) : Nat :=
  ((metrics.durations.find? (routeLabels route)).getD {}).count

theorem find?_increment (labels x : String) (samples : Members Nat) :
    ((increment labels samples).find? x).getD 0 = (samples.find? x).getD 0 + if x = labels then 1 else 0 := by
  rw [increment, Members.find?_insert]
  by_cases h : x = labels <;> simp [h]

end Metrics

end AdmissionGate
