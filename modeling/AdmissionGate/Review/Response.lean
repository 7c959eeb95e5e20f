import AdmissionGate.Review.Request

/-!
# Admission responses

What the gate answers: whether the operation is allowed, why, and what should change in the object.

The status of a response follows the cluster's own form of a status.  Its parts are empty or zero when nothing is to be
said; only the details are told apart from absent ones when they are empty.
-/

namespace AdmissionGate.Review

open Json (Members)

/-- One cause among the details of a status. -/
structure StatusCause where
  reason : String := ""
  message : String := ""
  field : String := ""
deriving DecidableEq, Repr

/-- The details of a status. -/
structure StatusDetails where
  name : String := ""
  group : String := ""
  kind : String := ""
  uid : String := ""
  causes : List StatusCause := []
  retryAfterSeconds : UInt32 := 0
deriving DecidableEq, Repr

/-- A status in one word. -/
inductive StatusSummary where
  | success
  | failure
deriving DecidableEq, Repr

namespace StatusSummary

def wireName : StatusSummary → String
  | success => "Success"
  | failure => "Failure"

/-- The summary that a word on the wire stands for. -/
def ofWireName? (name : String) : Option StatusSummary :=
  [success, failure].find? fun summary => summary.wireName == name

end StatusSummary

/-- Why an operation is allowed or denied. -/
structure Status where
  summary : Option StatusSummary := none
  code : UInt16 := 0
  message : String := ""
  reason : String := ""
  details : Option StatusDetails := none
deriving DecidableEq, Repr

/-- How a patch is written. -/
inductive PatchType where
  | jsonPatch
deriving DecidableEq, Repr

namespace PatchType

def wireName : PatchType → String
  | jsonPatch => "JSONPatch"

end PatchType

/-- Remarks for the audit log, each under its name.  They have no order of their own: the ascending one stands for a map that
    keeps none, so that maps with the same remarks are equal. -/
structure Annotations where
  members : Members String
  ascending : Members.Ascending members
deriving DecidableEq

namespace Annotations

def empty : Annotations := ⟨[], List.Pairwise.nil⟩

/-- The remarks with one more, in place of the one that had its name. -/
def insert (annotations : Annotations) (name remark : String) : Annotations :=
  ⟨Members.insert name remark annotations.members, Members.ascending_insert annotations.ascending⟩

/-- The remarks that some pairs give; the last pair with a name wins. -/
def ofPairs (pairs : List (String × String)) : Annotations :=
  pairs.foldl (fun annotations pair => annotations.insert pair.1 pair.2) empty

end Annotations

/-- What the gate answers. -/
structure Response where
  /-- The type of the envelope that carries the response. -/
  types : TypeMeta
  /-- The request that is answered. -/
  uid : String
  allowed : Bool
  status : Status := {}
  patch : Option (List UInt8) := none
  patchType : Option PatchType := none
  annotations : Annotations := .empty
  /-- Remarks for the user; none is told apart from an empty list. -/
  warnings : Option (List String) := none
deriving DecidableEq

namespace Response

def ofRequest (request : Request) : Response where
  types := request.types
  uid := request.uid
  allowed := true

def deny (response : Response) (message : String) : Response :=
  { response with allowed := false, status := { response.status with message } }

/-- The answer when no request could be looked at. -/
def invalid (message : String) : Response where
  types := ⟨"admission.k8s.io/v1beta1", "AdmissionReview"⟩
  uid := ""
  allowed := false
  status := { summary := some .failure, message, reason := "InvalidRequest" }

/-- The response as the answer to a request, with the request's identity and envelope. -/
def addressedTo (response : Response) (request : Request) : Response :=
  { response with uid := request.uid, types := request.types }

end Response

end AdmissionGate.Review
