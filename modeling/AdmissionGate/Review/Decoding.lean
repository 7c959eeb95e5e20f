import AdmissionGate.Json.Reader
import AdmissionGate.Review.Request

/-!
# Reading a review

A body is checked in a fixed order, and the first failure decides: it must not be empty, its content type must be
`application/json` to the letter, and it must be a review with a request.
-/

namespace AdmissionGate.Review

/-- Why a body is refused. -/
inductive DecodeError where
  | emptyBody
  /-- With the content type that was declared, if one was. -/
  | unsupportedMediaType (contentType : Option String)
  /-- A value of JSON without a request. -/
  | missingRequest
  /-- Not JSON, or a request that is not well formed. -/
  | malformed
deriving DecidableEq, Repr

namespace DecodeError

def status : DecodeError → Nat
  | emptyBody => 400
  | unsupportedMediaType _ => 415
  | missingRequest | malformed => 417

def message : DecodeError → String
  | emptyBody => "empty body"
  | unsupportedMediaType _ => "invalid Content-Type, expect `application/json`"
  | missingRequest | malformed => "Can't decode body as AdmissionReview"

end DecodeError

/-- The only content type that is accepted. -/
def jsonContentType : String := "application/json"

/-- A text in an envelope; anything else there is empty. -/
def envelopeText (review : Json) (name : String) : String :=
  ((review.member? name).bind Json.text?).getD ""

def Request.ofReview (review : Json) : Except DecodeError Request :=
  match review.member? "request" with
  | some (.object members) =>
    let types : TypeMeta := ⟨envelopeText review "apiVersion", envelopeText review "kind"⟩
    match Request.ofMembers? types members with
    | some request => .ok request
    | none => .error .malformed
  | _ => .error .missingRequest

def decode (contentType : Option String) (body : List UInt8) : Except DecodeError Request :=
  if body = [] then .error .emptyBody
  else if contentType ≠ some jsonContentType then .error (.unsupportedMediaType contentType)
  else
    match Json.parse body with
    | some review => Request.ofReview review
    | none => .error .malformed

end AdmissionGate.Review
