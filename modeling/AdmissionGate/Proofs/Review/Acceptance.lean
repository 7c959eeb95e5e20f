import AdmissionGate.Proofs.Review.DecodedRequest
import AdmissionGate.Proofs.Review.FormReading

/-!
# Which reviews are accepted

A text of JSON is accepted as a review by the value that it denotes: an object whose member `request` is an object, with an
identity and a kind, and all of whose other members are of their shapes if they are there.  The request then says what the
members say; for the absent ones it has defaults.
-/

namespace AdmissionGate.Review

open Json (Members Written IsTextOf)

/-- Whether a value may stand in some place, whatever it says there. -/
def Shape.Allows {α : Type} (shape : Shape α) (v : Json) : Prop :=
  ∃ a, shape v a

namespace Request

/-- Whether the members of a request are all well formed. -/
structure WellFormed (members : Members Json) : Prop where
  uid : ∃ s, Members.find? "uid" members = some (.string s)
  kind : ∃ v, Members.find? "kind" members = some v ∧ Shape.kind.Allows v
  resource : ∀ v, Members.find? "resource" members = some v → Shape.Allows Shape.Resource v
  operation : ∀ v, Members.find? "operation" members = some v → Shape.Allows Shape.IsOperation v
  userInfo : ∀ v, Members.find? "userInfo" members = some v → Shape.userInfo.Allows v
  name : ∀ v, Members.find? "name" members = some v → ∃ s, v = .string s
  dryRun : ∀ v, Members.find? "dryRun" members = some v → ∃ b, v = .bool b
  subResource : ∀ v, Members.find? "subResource" members = some v → v = .null ∨ ∃ s, v = .string s
  requestSubResource : ∀ v, Members.find? "requestSubResource" members = some v → v = .null ∨ ∃ s, v = .string s
  inNamespace : ∀ v, Members.find? "namespace" members = some v → v = .null ∨ ∃ s, v = .string s
  requestKind : ∀ v, Members.find? "requestKind" members = some v → v = .null ∨ Shape.kind.Allows v
  requestResource : ∀ v, Members.find? "requestResource" members = some v → v = .null ∨ Shape.Allows Shape.Resource v
  object : ∀ v, Members.find? "object" members = some v → v = .null ∨ Shape.object.Allows v
  oldObject : ∀ v, Members.find? "oldObject" members = some v → v = .null ∨ Shape.object.Allows v

/-- Whether a request says what its members say, with defaults for the absent ones.  Where a resource is absent, the group and
    the version that the members of the kind say stand in for it. -/
structure Says (members : Members Json) (request : Request) : Prop where
  uid : Shape.Has members "uid" Shape.text request.uid
  kind : Shape.Has members "kind" Shape.kind request.kind
  resource : ∀ v, Members.find? "resource" members = some v → Shape.Resource v request.resource
  unnamed : Members.find? "resource" members = none → request.resource.resource = "" ∧ request.resource.apiVersion = "" ∧
    ∀ parts, Members.find? "kind" members = some (.object parts) →
      request.resource.group = request.kind.group ∧ request.resource.version = request.kind.version
  operation : Shape.Given members "operation" .create Shape.IsOperation request.operation
  userInfo : Shape.Given members "userInfo" {} Shape.userInfo request.userInfo
  name : Shape.Given members "name" "" Shape.text request.name
  dryRun : Shape.Given members "dryRun" false Shape.flag request.dryRun
  subResource : Shape.Maybe members "subResource" Shape.text request.subResource
  requestSubResource : Shape.Maybe members "requestSubResource" Shape.text request.requestSubResource
  inNamespace : Shape.Maybe members "namespace" Shape.text request.inNamespace
  requestKind : Shape.Maybe members "requestKind" Shape.kind request.requestKind
  requestResource : Shape.Maybe members "requestResource" Shape.Resource request.requestResource
  object : Shape.Maybe members "object" Shape.object request.object
  oldObject : Shape.Maybe members "oldObject" Shape.object request.oldObject
  options : Shape.Maybe members "options" Shape.anything request.options

end Request

/-- Whether a value is a review with a well-formed request. -/
def IsReview (v : Json) : Prop :=
  ∃ fields members, v = .object fields ∧ Members.find? "request" fields = some (.object members) ∧
    Request.WellFormed members

/-- Whether a text is the one under a name of an envelope, or empty because there is no text under it. -/
def SaysText (fields : Members Json) (name s : String) : Prop :=
  Members.find? name fields = some (.string s) ∨ s = "" ∧ ∀ t, Members.find? name fields ≠ some (.string t)

/-- Whether a request says what a review says. -/
def Carries (v : Json) (request : Request) : Prop :=
  ∃ fields members, v = .object fields ∧ Members.find? "request" fields = some (.object members) ∧
    SaysText fields "apiVersion" request.types.apiVersion ∧ SaysText fields "kind" request.types.kind ∧
    request.Says members

/-! ### Members of the right shape can be read -/

namespace Form

variable {α : Type} {form : Form α} {shape : Shape α} {members : Members Json} {name : String}

theorem exists_withDefault (default : α) (h : form.Reads shape)
    (allowed : ∀ v, Members.find? name members = some v → shape.Allows v) :
    ∃ a, withDefault members name default form = some a := by
  cases held : Members.find? name members with
  | none => exact ⟨default, (withDefault_eq_some_iff h).mpr (.absent held)⟩
  | some v =>
    obtain ⟨a, shaped⟩ := allowed v held
    exact ⟨a, (withDefault_eq_some_iff h).mpr (.given held shaped)⟩

theorem exists_optional (h : form.Reads shape)
    (allowed : ∀ v, Members.find? name members = some v → v = .null ∨ shape.Allows v) :
    ∃ a, optional members name form = some a := by
  refine exists_withDefault none (reads_orNull h) fun v held => ?_
  by_cases absent : v = .null
  · subst absent
    exact ⟨none, .null⟩
  · obtain ⟨a, shaped⟩ := (allowed v held).resolve_left absent
    exact ⟨some a, .given absent shaped⟩

theorem allows_of_withDefault {default a : α} (h : form.Reads shape)
    (read : withDefault members name default form = some a) {v : Json} (held : Members.find? name members = some v) :
    shape v a := by
  rw [withDefault, held] at read
  exact h.mp read

theorem allows_of_optional {a : Option α} (h : form.Reads shape) (read : optional members name form = some a) {v : Json}
    (held : Members.find? name members = some v) : v = .null ∨ shape.Allows v := by
  have shaped := allows_of_withDefault (reads_orNull h) read held
  cases shaped with
  | null => exact .inl rfl
  | @given _ a _ shaped => exact .inr ⟨a, shaped⟩

end Form

/-! ### Requests -/

namespace Request

variable {types : TypeMeta} {members : Members Json} {request : Request}

theorem WellFormed.exists_readFrom (h : WellFormed members) (types : TypeMeta) :
    ∃ request : Request, request.ReadFrom types members := by
  obtain ⟨uid, hasUid⟩ := h.uid
  obtain ⟨v, hasKind, kind, isKind⟩ := h.kind
  obtain ⟨resource, hresource⟩ := Form.exists_withDefault (standInResource members) Form.reads_resource h.resource
  obtain ⟨subResource, hsub⟩ := Form.exists_optional Form.reads_text h.subResource
  obtain ⟨requestKind, hrequestKind⟩ := Form.exists_optional Form.reads_kind h.requestKind
  obtain ⟨requestResource, hrequestResource⟩ := Form.exists_optional Form.reads_resource h.requestResource
  obtain ⟨requestSub, hrequestSub⟩ := Form.exists_optional Form.reads_text h.requestSubResource
  obtain ⟨name, hname⟩ := Form.exists_withDefault "" Form.reads_text h.name
  obtain ⟨inNamespace, hnamespace⟩ := Form.exists_optional Form.reads_text h.inNamespace
  obtain ⟨operation, hoperation⟩ := Form.exists_withDefault .create Form.reads_operation h.operation
  obtain ⟨userInfo, huser⟩ := Form.exists_withDefault {} Form.reads_userInfo h.userInfo
  obtain ⟨object, hobject⟩ := Form.exists_optional Form.reads_object h.object
  obtain ⟨oldObject, holdObject⟩ := Form.exists_optional Form.reads_object h.oldObject
  obtain ⟨dryRun, hdryRun⟩ := Form.exists_withDefault false Form.reads_flag h.dryRun
  obtain ⟨options, hoptions⟩ := @Form.exists_optional _ _ _ members "options" Form.reads_any fun v _ => .inr ⟨v, rfl⟩
  exact ⟨⟨types, uid, kind, resource, subResource, requestKind, requestResource, requestSub, name, inNamespace, operation,
      userInfo, object, oldObject, dryRun, options⟩,
    rfl, (Form.required_eq_some_iff Form.reads_text).mpr ⟨_, hasUid, rfl⟩,
    (Form.required_eq_some_iff Form.reads_kind).mpr ⟨v, hasKind, isKind⟩, hresource, hsub, hrequestKind,
    hrequestResource, hrequestSub, hname, hnamespace, hoperation, huser, hobject, holdObject, hdryRun, hoptions⟩

theorem ReadFrom.wellFormed (h : request.ReadFrom types members) : WellFormed members where
  uid := by
    obtain ⟨v, held, rfl⟩ := (Form.required_eq_some_iff Form.reads_text).mp h.uid
    exact ⟨request.uid, held⟩
  kind := by
    obtain ⟨v, held, shaped⟩ := (Form.required_eq_some_iff Form.reads_kind).mp h.kind
    exact ⟨v, held, request.kind, shaped⟩
  resource _ held := ⟨_, Form.allows_of_withDefault Form.reads_resource h.resource held⟩
  operation _ held := ⟨_, Form.allows_of_withDefault Form.reads_operation h.operation held⟩
  userInfo _ held := ⟨_, Form.allows_of_withDefault Form.reads_userInfo h.userInfo held⟩
  name _ held := ⟨_, Form.allows_of_withDefault Form.reads_text h.name held⟩
  dryRun _ held := ⟨_, Form.allows_of_withDefault Form.reads_flag h.dryRun held⟩
  subResource _ held := Form.allows_of_optional Form.reads_text h.subResource held
  requestSubResource _ held := Form.allows_of_optional Form.reads_text h.requestSubResource held
  inNamespace _ held := Form.allows_of_optional Form.reads_text h.inNamespace held
  requestKind _ held := Form.allows_of_optional Form.reads_kind h.requestKind held
  requestResource _ held := Form.allows_of_optional Form.reads_resource h.requestResource held
  object _ held := Form.allows_of_optional Form.reads_object h.object held
  oldObject _ held := Form.allows_of_optional Form.reads_object h.oldObject held

theorem kindPart_eq {parts : Members Json} {part s : String} (written : Members.find? "kind" members = some (.object parts))
    (h : Shape.Has parts part Shape.text s) : kindPart members part = s := by
  obtain ⟨v, held, rfl⟩ := h
  rw [kindPart, written, Option.bind_some, Json.member?, held]
  rfl

theorem ReadFrom.unnamed (h : request.ReadFrom types members) (absent : Members.find? "resource" members = none) :
    request.resource.resource = "" ∧ request.resource.apiVersion = "" ∧
      ∀ parts, Members.find? "kind" members = some (.object parts) →
        request.resource.group = request.kind.group ∧ request.resource.version = request.kind.version := by
  have standsIn : standInResource members = request.resource := by
    have read := h.resource
    rw [Form.withDefault, absent] at read
    exact Option.some.inj read
  rw [← standsIn]
  refine ⟨rfl, rfl, fun parts written => ?_⟩
  obtain ⟨v, held, shaped⟩ := (Form.required_eq_some_iff Form.reads_kind).mp h.kind
  cases written.symm.trans held
  generalize request.kind = kind at shaped
  obtain ⟨group, version, last⟩ := kind
  cases shaped with
  | object a b _ => exact ⟨kindPart_eq written a, kindPart_eq written b⟩

theorem ReadFrom.says (h : request.ReadFrom types members) : request.Says members where
  uid := (Form.required_eq_some_iff Form.reads_text).mp h.uid
  kind := (Form.required_eq_some_iff Form.reads_kind).mp h.kind
  resource _ held := Form.allows_of_withDefault Form.reads_resource h.resource held
  unnamed := h.unnamed
  operation := (Form.withDefault_eq_some_iff Form.reads_operation).mp h.operation
  userInfo := (Form.withDefault_eq_some_iff Form.reads_userInfo).mp h.userInfo
  name := (Form.withDefault_eq_some_iff Form.reads_text).mp h.name
  dryRun := (Form.withDefault_eq_some_iff Form.reads_flag).mp h.dryRun
  subResource := (Form.optional_eq_some_iff Form.reads_text).mp h.subResource
  requestSubResource := (Form.optional_eq_some_iff Form.reads_text).mp h.requestSubResource
  inNamespace := (Form.optional_eq_some_iff Form.reads_text).mp h.inNamespace
  requestKind := (Form.optional_eq_some_iff Form.reads_kind).mp h.requestKind
  requestResource := (Form.optional_eq_some_iff Form.reads_resource).mp h.requestResource
  object := (Form.optional_eq_some_iff Form.reads_object).mp h.object
  oldObject := (Form.optional_eq_some_iff Form.reads_object).mp h.oldObject
  options := (Form.optional_eq_some_iff Form.reads_any).mp h.options

end Request

/-! ### Reviews -/

theorem member?_eq_some_iff {v u : Json} {name : String} :
    v.member? name = some u ↔ ∃ fields, v = .object fields ∧ Members.find? name fields = some u := by
  cases v with
  | object fields => simp [Json.member?]
  | null | bool _ | number _ | string _ | array _ => simp [Json.member?]

theorem saysText_envelopeText (fields : Members Json) (name : String) :
    SaysText fields name (envelopeText (.object fields) name) := by
  cases held : (Members.find? name fields).bind Json.text? with
  | none =>
    refine .inr ⟨?_, ?_⟩
    · rw [envelopeText, Json.member?, held]
      rfl
    · intro t written
      rw [written] at held
      cases held
  | some s =>
    obtain ⟨v, found, isText⟩ := Option.bind_eq_some_iff.mp held
    cases v with
    | string t =>
      cases isText
      refine .inl ?_
      rw [envelopeText, Json.member?, held]
      exact found
    | null | bool _ | number _ | array _ | object _ => cases isText

theorem exists_ofReview_iff {v : Json} : (∃ request, Request.ofReview v = .ok request) ↔ IsReview v := by
  constructor
  · rintro ⟨request, accepted⟩
    obtain ⟨members, given, read⟩ := Request.ofReview_eq_ok_iff.mp accepted
    obtain ⟨fields, isObject, held⟩ := member?_eq_some_iff.mp given
    exact ⟨fields, members, isObject, held, read.wellFormed⟩
  · rintro ⟨fields, members, isObject, held, wellFormed⟩
    have given := member?_eq_some_iff.mpr ⟨fields, isObject, held⟩
    obtain ⟨request, read⟩ := wellFormed.exists_readFrom ⟨envelopeText v "apiVersion", envelopeText v "kind"⟩
    exact ⟨request, Request.ofReview_eq_ok_iff.mpr ⟨members, given, read⟩⟩

theorem carries_of_ofReview {v : Json} {request : Request} (accepted : Request.ofReview v = .ok request) :
    Carries v request := by
  obtain ⟨members, given, read⟩ := Request.ofReview_eq_ok_iff.mp accepted
  obtain ⟨fields, rfl, held⟩ := member?_eq_some_iff.mp given
  refine ⟨fields, members, rfl, held, ?_, ?_, read.says⟩
  · rw [read.types]
    exact saysText_envelopeText fields "apiVersion"
  · rw [read.types]
    exact saysText_envelopeText fields "kind"

/-- A text of JSON is accepted if and only if it denotes a review, and then the request says what the review says. -/
theorem accepts_iff_isReview {body : List UInt8} {w : Written} (text : IsTextOf body w) :
    ((∃ request, decode (some "application/json") body = .ok request) ↔ IsReview w.value) ∧
      ∀ request, decode (some "application/json") body = .ok request → Carries w.value request := by
  rw [decode_of_isTextOf (isTextOf_ne_nil text) text]
  exact ⟨exists_ofReview_iff, fun _ => carries_of_ofReview⟩

/-- A kind may be written as an array, and everything but the identity and the kind may be absent. -/
theorem accepts_iff_isReview_array :
    let body := Text.Utf8.encode "\x7b\"request\":\x7b\"kind\":[\"g\",\"v\",\"k\"],\"uid\":\"u\"\x7d\x7d".toList
    (∃ w, IsTextOf body w) ∧ ∃ request, decode (some "application/json") body = .ok request ∧ request.uid = "u" := by
  intro body
  have parsed : Json.parse body = some (.object [("request",
      .object [("kind", .array [.string "g", .string "v", .string "k"]), ("uid", .string "u")])]) := by decide +kernel
  obtain ⟨w, text, value⟩ := Json.parse_eq_some_iff.mp parsed
  obtain ⟨accepted, carries⟩ := accepts_iff_isReview text
  have wellFormed : Request.WellFormed [("kind", .array [.string "g", .string "v", .string "k"]), ("uid", .string "u")] := by
    refine ⟨⟨"u", by decide⟩, ⟨_, rfl, ⟨"g", "v", "k"⟩, .array _ _ _⟩, ?_, ?_, ?_, ?_, ?_, ?_, ?_, ?_, ?_, ?_, ?_, ?_⟩
    -- none of the other members is there
    all_goals
      intro v held
      simp [Members.find?] at held
  obtain ⟨request, decoded⟩ := accepted.mpr ⟨_, _, value, rfl, wellFormed⟩
  refine ⟨⟨w, text⟩, request, decoded, ?_⟩
  obtain ⟨fields, members, isObject, held, -, -, said⟩ := carries request decoded
  cases value.symm.trans isObject
  cases held
  obtain ⟨v, found, rfl⟩ := said.uid
  simpa [Members.find?, eq_comm] using found

/-- A resource need not be of three texts, and three texts are not enough: an array may have a fourth, which is accepted; an
    object may have a member for it, which has to be a text. -/
theorem resource_not_triple :
    let four := Text.Utf8.encode
      "\x7b\"request\":\x7b\"uid\":\"u\",\"kind\":[\"g\",\"v\",\"k\"],\"resource\":[\"g\",\"v\",\"r\",\"x\"]\x7d\x7d".toList
    let numbered := Text.Utf8.encode
      ("\x7b\"request\":\x7b\"uid\":\"u\",\"kind\":[\"g\",\"v\",\"k\"],\"resource\":" ++
        "\x7b\"group\":\"g\",\"version\":\"v\",\"resource\":\"r\",\"api_version\":0\x7d\x7d\x7d").toList
    ((∃ w fields members v, IsTextOf four w ∧ w.value = .object fields ∧
        Members.find? "request" fields = some (.object members) ∧ Members.find? "resource" members = some v ∧
        ∀ a b c, ¬ Shape.Triple "resource" v a b c) ∧
      ∃ request, decode (some "application/json") four = .ok request) ∧
    (∃ w fields members v, IsTextOf numbered w ∧ w.value = .object fields ∧
        Members.find? "request" fields = some (.object members) ∧ Members.find? "resource" members = some v ∧
        Shape.Triple "resource" v "g" "v" "r") ∧
      ∀ request, decode (some "application/json") numbered ≠ .ok request := by
  intro four numbered
  have parsed : Json.parse four = some (.object [("request", .object [("kind", .array [.string "g", .string "v", .string "k"]),
      ("resource", .array [.string "g", .string "v", .string "r", .string "x"]), ("uid", .string "u")])]) := by
    decide +kernel
  have parsed' : Json.parse numbered = some (.object [("request",
      .object [("kind", .array [.string "g", .string "v", .string "k"]),
        ("resource", .object [("api_version", .number (.whole 0)), ("group", .string "g"), ("resource", .string "r"),
          ("version", .string "v")]), ("uid", .string "u")])]) := by
    decide +kernel
  obtain ⟨w, text, value⟩ := Json.parse_eq_some_iff.mp parsed
  obtain ⟨w', text', value'⟩ := Json.parse_eq_some_iff.mp parsed'
  refine ⟨⟨?_, ?_⟩, ?_, ?_⟩
  · exact ⟨w, _, _, _, text, value, rfl, rfl, fun a b c triple => nomatch triple⟩
  · rw [decode_of_isTextOf (isTextOf_ne_nil text) text, value]
    exact ⟨_, rfl⟩
  · exact ⟨w', _, _, _, text', value', rfl, rfl, .object ⟨_, rfl, rfl⟩ ⟨_, rfl, rfl⟩ ⟨_, rfl, rfl⟩⟩
  · have refused : Request.ofReview w'.value = .error .malformed := by
      rw [value']
      rfl
    rw [decode_of_isTextOf (isTextOf_ne_nil text') text', refused]
    exact fun _ decoded => nomatch decoded

end AdmissionGate.Review
