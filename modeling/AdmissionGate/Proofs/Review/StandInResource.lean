import AdmissionGate.Proofs.Review.Acceptance

/-!
# The resource that stands in for an absent one

A request that names no resource gets one with an empty name.  Its group and version are taken from the raw `kind`, before that
is read, and only from the members of an object: so they are those of the kind if it is written as an object, and empty if it is
written as an array.
-/

namespace AdmissionGate.Review

open Json (Members Written IsTextOf)

namespace Request

variable {types : TypeMeta} {members : Members Json} {request : Request}

/-- Whether the resource of a request has the group and the version of its kind. -/
structure FollowsKind (request : Request) : Prop where
  group : request.resource.group = request.kind.group
  version : request.resource.version = request.kind.version

theorem kindPart_of_array {items : List Json} (written : Members.find? "kind" members = some (.array items)) (part : String) :
    kindPart members part = "" := by
  rw [kindPart, written]
  rfl

theorem ReadFrom.resource_eq (h : request.ReadFrom types members) (absent : Members.find? "resource" members = none) :
    request.resource = standInResource members := by
  have read := h.resource
  rw [Form.withDefault, absent] at read
  exact (Option.some.inj read).symm

/-- An array of a kind leaves nothing for the resource. -/
theorem ReadFrom.unnamed_array (h : request.ReadFrom types members) (absent : Members.find? "resource" members = none)
    {items : List Json} (written : Members.find? "kind" members = some (.array items)) :
    request.resource = ⟨"", "", "", ""⟩ := by
  rw [h.resource_eq absent, standInResource, kindPart_of_array written, kindPart_of_array written]

theorem ReadFrom.kind_cases (h : request.ReadFrom types members) :
    (∃ parts, Members.find? "kind" members = some (.object parts)) ∨
      ∃ items, Members.find? "kind" members = some (.array items) := by
  obtain ⟨v, held, shaped⟩ := (Form.required_eq_some_iff Form.reads_kind).mp h.kind
  rw [held]
  generalize request.kind = kind at shaped
  obtain ⟨group, version, last⟩ := kind
  cases shaped with
  | object _ _ _ => exact .inl ⟨_, rfl⟩
  | array _ _ _ => exact .inr ⟨_, rfl⟩

theorem ReadFrom.followsKind_iff (h : request.ReadFrom types members)
    (absent : Members.find? "resource" members = none) :
    request.FollowsKind ↔ (∃ parts, Members.find? "kind" members = some (.object parts)) ∨
      request.kind.group = "" ∧ request.kind.version = "" := by
  obtain ⟨-, -, object⟩ := h.unnamed absent
  rcases h.kind_cases with ⟨parts, written⟩ | ⟨items, written⟩
  · have follows : request.FollowsKind := ⟨(object parts written).1, (object parts written).2⟩
    exact iff_of_true follows (.inl ⟨parts, written⟩)
  · have empty := h.unnamed_array absent written
    constructor
    · intro follows
      refine .inr ⟨?_, ?_⟩
      · rw [← follows.group, empty]
      · rw [← follows.version, empty]
    · rintro (⟨parts, other⟩ | ⟨group, version⟩)
      · cases written.symm.trans other
      · refine ⟨?_, ?_⟩
        · rw [empty, group]
        · rw [empty, version]

end Request

/-- The resource of a request that names none has an empty name, and the group and the version of the kind just if the kind is
    written as an object or has neither; if the kind is written as an array, they are empty. -/
theorem stand_in_follows_kind_iff {contentType : Option String} {body : List UInt8} {w : Written} {members : Members Json}
    {request : Request} (accepted : decode contentType body = .ok request) (text : IsTextOf body w)
    (held : w.value.member? "request" = some (.object members)) (absent : Members.find? "resource" members = none) :
    request.resource.resource = "" ∧
    (request.FollowsKind ↔ (∃ parts, Members.find? "kind" members = some (.object parts)) ∨
      request.kind.group = "" ∧ request.kind.version = "") ∧
    (∀ items, Members.find? "kind" members = some (.array items) →
      request.resource.group = "" ∧ request.resource.version = "") := by
  obtain ⟨rfl, -⟩ := decode_eq_ok_iff.mp accepted
  rw [decode_of_isTextOf (isTextOf_ne_nil text) text] at accepted
  obtain ⟨members', held', read⟩ := Request.ofReview_eq_ok_iff.mp accepted
  cases held.symm.trans held'
  refine ⟨(read.unnamed absent).1, read.followsKind_iff absent, ?_⟩
  intro items written
  rw [read.unnamed_array absent written]
  exact ⟨rfl, rfl⟩

/-- A kind that is written as an object. -/
theorem stand_in_follows_kind_object :
    let body := Text.Utf8.encode
      "\x7b\"request\":\x7b\"uid\":\"u\",\"kind\":\x7b\"group\":\"g\",\"version\":\"v\",\"kind\":\"k\"\x7d\x7d\x7d".toList
    ∃ w members request, (decode (some "application/json") body = .ok request ∧ IsTextOf body w ∧
      w.value.member? "request" = some (.object members) ∧ Members.find? "resource" members = none) ∧
      request.FollowsKind := by
  intro body
  have parsed : Json.parse body = some (.object [("request", .object [("kind", .object [("group", .string "g"),
      ("kind", .string "k"), ("version", .string "v")]), ("uid", .string "u")])]) := by
    decide +kernel
  obtain ⟨w, text, value⟩ := Json.parse_eq_some_iff.mp parsed
  have accepted : ∃ request, decode (some "application/json") body = .ok request := by
    rw [decode_of_isTextOf (isTextOf_ne_nil text) text, value]
    exact ⟨_, rfl⟩
  obtain ⟨request, accepted⟩ := accepted
  have held : w.value.member? "request" = some (.object [("kind", .object [("group", .string "g"),
      ("kind", .string "k"), ("version", .string "v")]), ("uid", .string "u")]) := by
    rw [value]
    rfl
  have follows := (stand_in_follows_kind_iff accepted text held rfl).2.1.mpr (.inl ⟨_, rfl⟩)
  exact ⟨w, _, request, ⟨accepted, text, held, rfl⟩, follows⟩

/-- The same kind written as an array is not followed. -/
theorem array_kind_not_followed :
    let body := Text.Utf8.encode "\x7b\"request\":\x7b\"uid\":\"u\",\"kind\":[\"g\",\"v\",\"k\"]\x7d\x7d".toList
    ∃ w members request, decode (some "application/json") body = .ok request ∧ IsTextOf body w ∧
      w.value.member? "request" = some (.object members) ∧ Members.find? "resource" members = none ∧
      request.kind = ⟨"g", "v", "k"⟩ ∧ ¬ request.FollowsKind := by
  intro body
  have parsed : Json.parse body = some (.object [("request",
      .object [("kind", .array [.string "g", .string "v", .string "k"]), ("uid", .string "u")])]) := by decide +kernel
  obtain ⟨w, text, value⟩ := Json.parse_eq_some_iff.mp parsed
  have held : w.value.member? "request" =
      some (.object [("kind", .array [.string "g", .string "v", .string "k"]), ("uid", .string "u")]) := by
    rw [value]
    rfl
  have accepted : ∃ request, decode (some "application/json") body = .ok request ∧ request.kind = ⟨"g", "v", "k"⟩ ∧
      request.resource.group = "" := by
    rw [decode_of_isTextOf (isTextOf_ne_nil text) text, value]
    exact ⟨_, rfl, rfl, rfl⟩
  obtain ⟨request, decoded, kind, empty⟩ := accepted
  refine ⟨w, _, request, decoded, text, held, rfl, kind, ?_⟩
  intro follows
  have same := follows.group
  rw [empty, kind] at same
  exact absurd same (by decide)

end AdmissionGate.Review
