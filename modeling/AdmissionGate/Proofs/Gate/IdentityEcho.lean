import AdmissionGate.Proofs.Gate.Endings
import AdmissionGate.Proofs.Review.ResponseRoundTrip

/-!
# An answer echoes the identity of its request

Whatever a handler answers, a client that gets a review back finds in it the identity that its own request stated, and the
type that its own envelope stated, completed by the standard type.  Both are read off the texts on the wire here: the request
off the text of the body, where the last of several members with one name counts, and the answer off what its body denotes.
-/

namespace AdmissionGate

open Json (Members Written IsTextOf)
open Review (Request Response)

/-! ### What an envelope states -/

/-- A text that is not empty, the last one that some members state under a name. -/
def stated? (name : String) (members : List (String × Written)) : Option String :=
  match Members.last? name members with
  | some (.string s) => if s = "" then none else some s
  | _ => none

/-- The API version that an envelope asks to be answered in. -/
def askedApiVersion (members : List (String × Written)) : String :=
  (stated? "apiVersion" members).getD "admission.k8s.io/v1"

/-- The kind that an envelope asks to be answered in; without an API version it asks for none. -/
def askedKind (members : List (String × Written)) : String :=
  match stated? "apiVersion" members with
  | some _ => (stated? "kind" members).getD "AdmissionReview"
  | none => "AdmissionReview"

theorem stated?_ne_some_empty (name : String) (members : List (String × Written)) : stated? name members ≠ some "" := by
  intro h
  rw [stated?] at h
  split at h
  · split at h
    · cases h
    · rename_i nonempty
      exact nonempty (Option.some_inj.mp h)
  · cases h

theorem askedApiVersion_ne_empty (members : List (String × Written)) : askedApiVersion members ≠ "" := by
  rw [askedApiVersion]
  cases stated : stated? "apiVersion" members with
  | none => decide
  | some s =>
    rintro rfl
    exact stated?_ne_some_empty "apiVersion" members stated

theorem askedKind_ne_empty (members : List (String × Written)) : askedKind members ≠ "" := by
  rw [askedKind]
  cases stated? "apiVersion" members with
  | none => simp
  | some _ =>
    cases stated : stated? "kind" members with
    | none => simp
    | some s =>
      rintro rfl
      exact stated?_ne_some_empty "kind" members stated

/-- What an envelope states is its text there, unless that is empty. -/
theorem stated?_eq (name : String) (members : List (String × Written)) :
    stated? name members =
      if Review.envelopeText (Written.object members).value name = "" then none
      else some (Review.envelopeText (Written.object members).value name) := by
  rw [stated?, Review.envelopeText, Written.member?_value_object]
  cases Members.last? name members with
  | none => rfl
  | some w =>
    cases w with
    | null | bool _ | number _ | string _ | array _ | object _ => rfl

theorem orStandard_envelope (members : List (String × Written)) :
    Review.TypeMeta.orStandard ⟨Review.envelopeText (Written.object members).value "apiVersion",
      Review.envelopeText (Written.object members).value "kind"⟩ = ⟨askedApiVersion members, askedKind members⟩ := by
  rw [Review.TypeMeta.orStandard, askedApiVersion, askedKind, stated?_eq, stated?_eq]
  split
  · rfl
  · split <;> rfl

/-! ### The request in the text of a body -/

theorem Review.Holds.exists_written {body : List UInt8} {request : Request} (h : Review.Holds body request) :
    ∃ envelope members, IsTextOf body (.object envelope) ∧
      Members.last? "request" envelope = some (.object members) ∧
      Members.last? "uid" members = some (.string request.uid) ∧
      request.types.orStandard = ⟨askedApiVersion envelope, askedKind envelope⟩ := by
  obtain ⟨w, text, held⟩ := h
  obtain ⟨pairs, given, read⟩ := Review.Request.ofReview_eq_ok_iff.mp held
  obtain ⟨envelope, u, rfl, last, value⟩ := Written.exists_of_member?_value given
  obtain ⟨v, found, isText⟩ := Option.bind_eq_some_iff.mp read.uid
  rw [Review.Form.text_eq_some_iff] at isText
  have uid : u.value.member? "uid" = some (.string request.uid) := by
    rw [value, ← isText]
    exact found
  obtain ⟨members, t, rfl, lastUid, spelled⟩ := Written.exists_of_member?_value uid
  have isString : t = .string request.uid := by
    cases t <;> simp_all [Written.value, Json.ofPairs]
  rw [isString] at lastUid
  refine ⟨envelope, members, text, last, lastUid, ?_⟩
  rw [read.types, orStandard_envelope]

/-! ### The echo -/

/-- Whether one body is a review that answers the request in another: it carries the identity that is stated there, in an
    envelope of the type that is asked for there. -/
def Echoes (asked told : List UInt8) : Prop :=
  ∃ envelope request uid answer response,
    IsTextOf asked (.object envelope) ∧
    Members.last? "request" envelope = some (.object request) ∧
    Members.last? "uid" request = some (.string uid) ∧
    Json.parse told = some answer ∧
    answer.member? "response" = some response ∧
    response.member? "uid" = some (.string uid) ∧
    answer.member? "apiVersion" = some (.string (askedApiVersion envelope)) ∧
    answer.member? "kind" = some (.string (askedKind envelope)) ∧
    askedApiVersion envelope ≠ "" ∧ askedKind envelope ≠ ""

/-- A message that is answered with 200 is answered with a review that echoes its request, whatever the handler says. -/
theorem Gate.identity_echo (gate : Gate) (calls : List Call) (message : Http.Message)
    (notHead : message.method ≠ "HEAD") (notConnect : message.method ≠ "CONNECT")
    (answered : (gate.exchange calls message).answer.status = 200) :
    Echoes message.body.octets (gate.exchange calls message).answer.body := by
  rw [Exchange.answer, status_fitAnswer] at answered
  obtain ⟨route, request, outcome, response, ended⟩ := Ending.exists_of_status_answer answered
  obtain ⟨-, decoded, decision⟩ := of_ending_eq_decided ended
  obtain ⟨-, held⟩ := Review.decode_eq_ok_iff.mp decoded
  obtain ⟨envelope, members, text, last, uid, types⟩ := held.exists_written
  have addressed := Decider.decide_addressed (gate.decider calls) route request
  rw [decision] at addressed
  have told : (gate.exchange calls message).answer.body = (Review.encode response).body := by
    rw [Exchange.answer, ended]
    exact body_fitAnswer notHead notConnect _
  obtain ⟨apiVersion, kind, inner, identity⟩ := response.member?_review
  rw [addressed.2, types] at apiVersion kind
  rw [addressed.1] at identity
  refine ⟨envelope, members, request.uid, response.review.sorted, response.toJson.sorted, text, last, uid, ?_, inner,
    identity, apiVersion, kind, askedApiVersion_ne_empty envelope, askedKind_ne_empty envelope⟩
  rw [told, Review.parse_body_encode]

/-- A handler that answers for another request. -/
theorem Gate.identity_echo_foreign :
    let gate : Gate := ⟨.empty, fun _ => .ofRoutes fun _ _ => ⟨Response.invalid "no", some 0⟩, .standard⟩
    let message : Http.Message :=
      ⟨"POST", ⟨"/validate", none⟩, [⟨"content-type", Text.Utf8.encode "application/json".toList⟩],
        .ofOctets (Text.Utf8.encode
          "\x7b\"request\":\x7b\"uid\":\"u\",\"kind\":[\"\",\"v1\",\"Pod\"]\x7d\x7d".toList)⟩
    (message.method ≠ "HEAD" ∧ message.method ≠ "CONNECT" ∧ (gate.exchange [] message).answer.status = 200) ∧
      Echoes message.body.octets (gate.exchange [] message).answer.body := by
  intro gate message
  have notHead : message.method ≠ "HEAD" := by decide
  have notConnect : message.method ≠ "CONNECT" := by decide
  have answered : (gate.exchange [] message).answer.status = 200 := by decide +kernel
  exact ⟨⟨notHead, notConnect, answered⟩, Gate.identity_echo gate [] message notHead notConnect answered⟩

end AdmissionGate
