import AdmissionGate.Http.Answer
import AdmissionGate.Json.Failure
import AdmissionGate.Json.Writer
import AdmissionGate.Review.Response

/-!
# Writing a review

A response goes out as a review: an envelope that says its type and holds the response.  The members of the envelope, of
the response and of the status stand in a fixed order.  Parts of a status that are empty or zero are left out, and so are
an absent patch, an absent patch type, absent warnings and the audit annotations if there are none.  A patch is written as
the list of its octets.
-/

namespace AdmissionGate.Review

def reviewContentType : String := "application/json; charset=utf-8"

/-- The API version of an envelope that names none. -/
def reviewApiVersion : String := "admission.k8s.io/v1"

def reviewKind : String := "AdmissionReview"

/-- The type of an envelope: an empty API version gives the standard type, an empty kind only the standard kind. -/
def TypeMeta.orStandard (types : TypeMeta) : TypeMeta :=
  if types.apiVersion = "" then ⟨reviewApiVersion, reviewKind⟩
  else if types.kind = "" then { types with kind := reviewKind }
  else types

/-! ### Members that may be left out -/

def textMember (name text : String) : List (String × Json) :=
  if text = "" then [] else [(name, .string text)]

def numberMember (name : String) (n : Nat) : List (String × Json) :=
  if n = 0 then [] else [(name, .ofNat n)]

def listMember (name : String) (items : List Json) : List (String × Json) :=
  if items = [] then [] else [(name, .array items)]

def optionalMember (name : String) : Option Json → List (String × Json)
  | none => []
  | some v => [(name, v)]

/-! ### The parts of a review -/

def StatusCause.toJson (cause : StatusCause) : Json :=
  .object (textMember "reason" cause.reason ++ textMember "message" cause.message ++ textMember "field" cause.field)

def StatusDetails.toJson (details : StatusDetails) : Json :=
  .object (textMember "name" details.name ++ textMember "group" details.group ++ textMember "kind" details.kind
    ++ textMember "uid" details.uid ++ listMember "causes" (details.causes.map StatusCause.toJson)
    ++ numberMember "retryAfterSeconds" details.retryAfterSeconds.toNat)

def Status.toJson (status : Status) : Json :=
  .object (optionalMember "status" (status.summary.map fun summary => .string summary.wireName)
    ++ numberMember "code" status.code.toNat ++ textMember "message" status.message
    ++ textMember "reason" status.reason ++ optionalMember "details" (status.details.map StatusDetails.toJson))

/-- Annotations as a member, unless there are none. -/
def annotationsMember (annotations : Annotations) : List (String × Json) :=
  if annotations.members = [] then []
  else [("auditAnnotations", .object (annotations.members.map fun member => (member.1, .string member.2)))]

def octetsToJson (octets : List UInt8) : Json :=
  .array (octets.map fun octet => .ofNat octet.toNat)

def Response.toJson (response : Response) : Json :=
  .object ([("uid", .string response.uid), ("allowed", .bool response.allowed), ("status", response.status.toJson)]
    ++ optionalMember "patch" (response.patch.map octetsToJson)
    ++ optionalMember "patchType" (response.patchType.map fun type => .string type.wireName)
    ++ annotationsMember response.annotations
    ++ optionalMember "warnings" (response.warnings.map fun warnings => .array (warnings.map .string)))

def Response.review (response : Response) : Json :=
  .object [("apiVersion", .string response.types.orStandard.apiVersion),
    ("kind", .string response.types.orStandard.kind),
    ("response", response.toJson)]

/-! ### Answers -/

/-- The answer with a value, or with the reason why it could not be written. -/
def answerWith : Except Json.Failure Json → Http.Answer
  | .ok v => Http.Answer.content 200 reviewContentType v.octets
  | .error failure => Http.Answer.text 500 ("Could not encode response: " ++ failure.message)

def encode (response : Response) : Http.Answer :=
  answerWith (.ok response.review)

end AdmissionGate.Review
