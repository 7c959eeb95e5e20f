import AdmissionGate.Review.Form
import AdmissionGate.Review.Response

/-!
# Reading a response

The other side of writing a review: what the API server makes of it.  A part that is left out reads as its empty or zero
default; absent details, patches, patch types and warnings are told apart from empty ones.
-/

namespace AdmissionGate.Review

namespace Form

def below (limit : Nat) : Form Nat
  | .number (.whole n) => if 0 ≤ n ∧ n < limit then some n.toNat else none
  | _ => none

def octet : Form UInt8 := fun v =>
  (below 0x100 v).map UInt8.ofNat

def statusCause : Form StatusCause
  | .object members => do
    return {
      reason := ← withDefault members "reason" "" text
      message := ← withDefault members "message" "" text
      field := ← withDefault members "field" "" text }
  | _ => none

def statusDetails : Form StatusDetails
  | .object members => do
    return {
      name := ← withDefault members "name" "" text
      group := ← withDefault members "group" "" text
      kind := ← withDefault members "kind" "" text
      uid := ← withDefault members "uid" "" text
      causes := ← withDefault members "causes" [] (listOf statusCause)
      retryAfterSeconds := UInt32.ofNat (← withDefault members "retryAfterSeconds" 0 (below 0x100000000)) }
  | _ => none

def statusSummary : Form StatusSummary := fun v =>
  (text v).bind StatusSummary.ofWireName?

def status : Form Status
  | .object members => do
    return {
      summary := ← optional members "status" statusSummary
      code := UInt16.ofNat (← withDefault members "code" 0 (below 0x10000))
      message := ← withDefault members "message" "" text
      reason := ← withDefault members "reason" "" text
      details := ← optional members "details" statusDetails }
  | _ => none

def patchType : Form PatchType := fun v =>
  (text v).bind fun name => if name = PatchType.jsonPatch.wireName then some .jsonPatch else none

def response (types : TypeMeta) : Form Response
  | .object members => do
    return {
      types
      uid := ← required members "uid" text
      allowed := ← required members "allowed" flag
      status := ← withDefault members "status" {} status
      patch := ← optional members "patch" (listOf octet)
      patchType := ← optional members "patchType" patchType
      annotations := Annotations.ofPairs (← withDefault members "auditAnnotations" [] (mapOf text))
      warnings := ← optional members "warnings" (listOf text) }
  | _ => none

end Form

def Response.ofReview? (review : Json) : Option Response :=
  match review with
  | .object members => do
    let apiVersion ← Form.required members "apiVersion" Form.text
    let kind ← Form.required members "kind" Form.text
    Form.required members "response" (Form.response ⟨apiVersion, kind⟩)
  | _ => none

end AdmissionGate.Review
