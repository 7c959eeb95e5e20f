import AdmissionGate.Proofs.Review.DecodingByValue

/-!
# Which request a body holds

A body holds a request if it is a text of JSON whose value is a review with a well-formed request.  It holds one request at
most.  Each outcome of decoding is what the content type and the request held, if there is one, make it.
-/

namespace AdmissionGate.Review

open Json (Members Written IsTextOf)

/-- Whether a body is the text of a review with a request. -/
def Holds (body : List UInt8) (request : Request) : Prop :=
  ∃ w, IsTextOf body w ∧ Request.ofReview w.value = .ok request

theorem Holds.unique {body : List UInt8} {first second : Request} (hfirst : Holds body first)
    (hsecond : Holds body second) : first = second := by
  obtain ⟨w, text, held⟩ := hfirst
  obtain ⟨u, text', held'⟩ := hsecond
  have parsed := Json.parse_eq_some_iff.mpr ⟨w, text, rfl⟩
  rw [Json.parse_eq_some_iff.mpr ⟨u, text', rfl⟩, Option.some_inj] at parsed
  rw [← parsed, held', Except.ok.injEq] at held
  exact held.symm

theorem decode_eq_ok_iff {contentType : Option String} {body : List UInt8} {request : Request} :
    decode contentType body = .ok request ↔ contentType = some "application/json" ∧ Holds body request := by
  constructor
  · intro decoded
    rw [decode] at decoded
    split at decoded
    · cases decoded
    · split at decoded
      · cases decoded
      · rename_i accepted
        split at decoded
        · rename_i review parsed
          obtain ⟨w, text, rfl⟩ := Json.parse_eq_some_iff.mp parsed
          exact ⟨Classical.not_not.mp accepted, w, text, decoded⟩
        · cases decoded
  · rintro ⟨rfl, w, text, held⟩
    rw [decode_of_isTextOf (isTextOf_ne_nil text) text, held]

theorem decode_nil (contentType : Option String) : decode contentType [] = .error .emptyBody := rfl

theorem Form.text_eq_some_iff {v : Json} {s : String} : Form.text v = some s ↔ v = .string s := by
  cases v <;> simp [Form.text]

/-- How a request is read off the members of an object, member by member. -/
structure Request.ReadFrom (types : TypeMeta) (members : Members Json) (request : Request) : Prop where
  types : request.types = types
  uid : Form.required members "uid" Form.text = some request.uid
  kind : Form.required members "kind" Form.kind = some request.kind
  resource : Form.withDefault members "resource" (standInResource members) Form.resource = some request.resource
  subResource : Form.optional members "subResource" Form.text = some request.subResource
  requestKind : Form.optional members "requestKind" Form.kind = some request.requestKind
  requestResource : Form.optional members "requestResource" Form.resource = some request.requestResource
  requestSubResource : Form.optional members "requestSubResource" Form.text = some request.requestSubResource
  name : Form.withDefault members "name" "" Form.text = some request.name
  inNamespace : Form.optional members "namespace" Form.text = some request.inNamespace
  operation : Form.withDefault members "operation" .create Form.operation = some request.operation
  userInfo : Form.withDefault members "userInfo" {} Form.userInfo = some request.userInfo
  object : Form.optional members "object" Form.object = some request.object
  oldObject : Form.optional members "oldObject" Form.object = some request.oldObject
  dryRun : Form.withDefault members "dryRun" false Form.flag = some request.dryRun
  options : Form.optional members "options" Form.any = some request.options

theorem Request.ofMembers?_eq_some_iff {types : TypeMeta} {members : Members Json} {request : Request} :
    ofMembers? types members = some request ↔ request.ReadFrom types members := by
  constructor
  · intro read
    rw [ofMembers?] at read
    obtain ⟨_, uid, read⟩ := Option.bind_eq_some_iff.mp read
    obtain ⟨_, kind, read⟩ := Option.bind_eq_some_iff.mp read
    obtain ⟨_, resource, read⟩ := Option.bind_eq_some_iff.mp read
    obtain ⟨_, subResource, read⟩ := Option.bind_eq_some_iff.mp read
    obtain ⟨_, requestKind, read⟩ := Option.bind_eq_some_iff.mp read
    obtain ⟨_, requestResource, read⟩ := Option.bind_eq_some_iff.mp read
    obtain ⟨_, requestSubResource, read⟩ := Option.bind_eq_some_iff.mp read
    obtain ⟨_, name, read⟩ := Option.bind_eq_some_iff.mp read
    obtain ⟨_, inNamespace, read⟩ := Option.bind_eq_some_iff.mp read
    obtain ⟨_, operation, read⟩ := Option.bind_eq_some_iff.mp read
    obtain ⟨_, userInfo, read⟩ := Option.bind_eq_some_iff.mp read
    obtain ⟨_, object, read⟩ := Option.bind_eq_some_iff.mp read
    obtain ⟨_, oldObject, read⟩ := Option.bind_eq_some_iff.mp read
    obtain ⟨_, dryRun, read⟩ := Option.bind_eq_some_iff.mp read
    obtain ⟨_, options, read⟩ := Option.bind_eq_some_iff.mp read
    cases read
    exact ⟨rfl, uid, kind, resource, subResource, requestKind, requestResource, requestSubResource, name, inNamespace,
      operation, userInfo, object, oldObject, dryRun, options⟩
  · rintro ⟨rfl, uid, kind, resource, subResource, requestKind, requestResource, requestSubResource, name, inNamespace,
      operation, userInfo, object, oldObject, dryRun, options⟩
    rw [ofMembers?, uid, kind, resource, subResource, requestKind, requestResource, requestSubResource, name,
      inNamespace, operation, userInfo, object, oldObject, dryRun, options]
    rfl

/-- A review holds a request as the members of its own member of that name. -/
theorem Request.ofReview_eq_ok_iff {review : Json} {request : Request} :
    ofReview review = .ok request ↔
      ∃ members, review.member? "request" = some (.object members) ∧
        request.ReadFrom ⟨envelopeText review "apiVersion", envelopeText review "kind"⟩ members := by
  rw [ofReview]
  constructor
  · intro read
    split at read
    · rename_i members given
      simp only at read
      split at read
      · rename_i held decoded
        cases read
        exact ⟨members, given, ofMembers?_eq_some_iff.mp decoded⟩
      · cases read
    · cases read
  · rintro ⟨members, given, read⟩
    rw [given]
    simp only [ofMembers?_eq_some_iff.mpr read]

end AdmissionGate.Review
