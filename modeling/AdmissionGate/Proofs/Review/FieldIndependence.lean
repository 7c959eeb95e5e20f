import AdmissionGate.Proofs.Json.MemberEdits
import AdmissionGate.Proofs.Review.StandInResource

/-!
# Fields decode independently

Each field of a request is read from the member of its name alone; only the resource, when it is absent, also looks at the kind.
So an edit of an accepted review shows exactly in the fields whose members it touches: members of other names change nothing,
a member that is taken out leaves the default in its field, and `null` is not the same as taken out.

An edit is stated on the value of a review.  It says something about every text of the edited value, whichever way the text of
the review itself has been changed into it.
-/

namespace AdmissionGate.Review

open Json (Members Written IsTextOf)

variable {fields members edited : Members Json} {dropped : List String} {request : Request} {types : TypeMeta}

/-! ### The members of a request -/

/-- The members of an envelope that are looked at. -/
def envelopeNames : List String :=
  ["apiVersion", "kind", "request"]

namespace Request

/-- The members of a request that are looked at. -/
def memberNames : List String :=
  ["uid", "kind", "resource", "subResource", "requestKind", "requestResource", "requestSubResource", "name", "namespace",
    "operation", "userInfo", "object", "oldObject", "dryRun", "options"]

/-- The members that may not be null. -/
def neverNull : List String :=
  ["uid", "kind", "resource", "operation", "userInfo", "name", "dryRun"]

/-- A request with the fields of some names at their defaults, the one of the resource being given. -/
def without (dropped : List String) (standIn : GroupVersionResource) (request : Request) : Request where
  types := request.types
  uid := request.uid
  kind := request.kind
  resource := if "resource" ∈ dropped then standIn else request.resource
  subResource := if "subResource" ∈ dropped then none else request.subResource
  requestKind := if "requestKind" ∈ dropped then none else request.requestKind
  requestResource := if "requestResource" ∈ dropped then none else request.requestResource
  requestSubResource := if "requestSubResource" ∈ dropped then none else request.requestSubResource
  name := if "name" ∈ dropped then "" else request.name
  inNamespace := if "namespace" ∈ dropped then none else request.inNamespace
  operation := if "operation" ∈ dropped then .create else request.operation
  userInfo := if "userInfo" ∈ dropped then {} else request.userInfo
  object := if "object" ∈ dropped then none else request.object
  oldObject := if "oldObject" ∈ dropped then none else request.oldObject
  dryRun := if "dryRun" ∈ dropped then false else request.dryRun
  options := if "options" ∈ dropped then none else request.options

theorem without_nil (standIn : GroupVersionResource) (request : Request) : request.without [] standIn = request := by
  simp [without]

end Request

/-! ### Reading edited members -/

theorem Form.required_sameBut {α : Type} {form : Form α} {known : List String} {name : String}
    (same : Members.SameBut known dropped members edited) (listed : name ∈ known) (kept : name ∉ dropped) :
    required edited name form = required members name form := by
  rw [required, required, same.find?_eq listed kept]

theorem Form.withDefault_sameBut {α : Type} {form : Form α} {known : List String} {name : String} {default a : α}
    (same : Members.SameBut known dropped members edited) (listed : name ∈ known)
    (read : withDefault members name default form = some a) :
    withDefault edited name default form = some (if name ∈ dropped then default else a) := by
  rw [withDefault] at read ⊢
  rw [same name listed]
  by_cases out : name ∈ dropped
  · simp [out]
  · simpa [out] using read

theorem Form.required_null {α : Type} {form : Form α} {name : String} (held : Members.find? name members = some .null)
    (refuses : form .null = none) : required members name form = none := by
  rw [required, held, Option.bind_some, refuses]

theorem Form.withDefault_null {α : Type} {form : Form α} {name : String} {default : α}
    (held : Members.find? name members = some .null) (refuses : form .null = none) :
    withDefault members name default form = none := by
  rw [withDefault, held]
  exact refuses

namespace Request

theorem standInResource_congr (same : Members.find? "kind" edited = Members.find? "kind" members) :
    standInResource edited = standInResource members := by
  simp only [standInResource, kindPart, same]

theorem ReadFrom.sameBut (h : request.ReadFrom types members) (same : Members.SameBut memberNames dropped members edited)
    (uid : "uid" ∉ dropped) (kind : "kind" ∉ dropped) :
    (request.without dropped (standInResource members)).ReadFrom types edited where
  types := h.types
  uid := (Form.required_sameBut same (by decide) uid).trans h.uid
  kind := (Form.required_sameBut same (by decide) kind).trans h.kind
  resource := by
    rw [standInResource_congr (same.find?_eq (by decide) kind)]
    exact Form.withDefault_sameBut same (by decide) h.resource
  subResource := Form.withDefault_sameBut same (by decide) h.subResource
  requestKind := Form.withDefault_sameBut same (by decide) h.requestKind
  requestResource := Form.withDefault_sameBut same (by decide) h.requestResource
  requestSubResource := Form.withDefault_sameBut same (by decide) h.requestSubResource
  name := Form.withDefault_sameBut same (by decide) h.name
  inNamespace := Form.withDefault_sameBut same (by decide) h.inNamespace
  operation := Form.withDefault_sameBut same (by decide) h.operation
  userInfo := Form.withDefault_sameBut same (by decide) h.userInfo
  object := Form.withDefault_sameBut same (by decide) h.object
  oldObject := Form.withDefault_sameBut same (by decide) h.oldObject
  dryRun := Form.withDefault_sameBut same (by decide) h.dryRun
  options := Form.withDefault_sameBut same (by decide) h.options

theorem not_readFrom_of_absent (absent : Members.find? "uid" members = none ∨ Members.find? "kind" members = none) :
    ¬ request.ReadFrom types members := by
  intro read
  rcases absent with absent | absent
  · have given := read.uid
    simp [Form.required, absent] at given
  · have given := read.kind
    simp [Form.required, absent] at given

theorem not_readFrom_of_null {name : String} (listed : name ∈ neverNull) (held : Members.find? name members = some .null) :
    ¬ request.ReadFrom types members := by
  intro read
  simp only [neverNull, List.mem_cons, List.not_mem_nil, or_false] at listed
  rcases listed with rfl | rfl | rfl | rfl | rfl | rfl | rfl
  · cases (Form.required_null held rfl).symm.trans read.uid
  · cases (Form.required_null held rfl).symm.trans read.kind
  · cases (Form.withDefault_null held rfl).symm.trans read.resource
  · cases (Form.withDefault_null held rfl).symm.trans read.operation
  · cases (Form.withDefault_null held rfl).symm.trans read.userInfo
  · cases (Form.withDefault_null held rfl).symm.trans read.name
  · cases (Form.withDefault_null held rfl).symm.trans read.dryRun

/-- What stands in for an absent resource: the group and the version of a kind that is an object, nothing of an array. -/
theorem ReadFrom.standInResource_eq (h : request.ReadFrom types members) :
    ((∃ parts, Members.find? "kind" members = some (.object parts)) →
      standInResource members = ⟨request.kind.group, request.kind.version, "", ""⟩) ∧
    ((∃ items, Members.find? "kind" members = some (.array items)) → standInResource members = ⟨"", "", "", ""⟩) := by
  -- taking the resource out of the members puts its stand-in into the request
  have read := h.sameBut (Members.sameBut_without memberNames ["resource"] members) (by decide) (by decide)
  have absent : Members.find? "resource" (Members.without ["resource"] members) = none := by
    rw [Members.find?_without, if_pos (by decide)]
  have kind : Members.find? "kind" (Members.without ["resource"] members) = Members.find? "kind" members := by
    rw [Members.find?_without, if_neg (by decide)]
  constructor
  · rintro ⟨parts, written⟩
    rw [← kind] at written
    obtain ⟨-, -, follows⟩ := read.unnamed absent
    obtain ⟨group, version⟩ := follows parts written
    simp only [without, List.mem_singleton, if_true] at group version
    rw [← group, ← version]
    rfl
  · rintro ⟨items, written⟩
    simp only [standInResource, kindPart_of_array written]

end Request

/-! ### Edited reviews -/

/-- Whether a body is a text of a value. -/
def IsBodyOf (v : Json) (body : List UInt8) : Prop :=
  ∃ w, IsTextOf body w ∧ w.value = v

/-- An envelope with some members of a request in place of its own. -/
def reviewWith (fields members : Members Json) : Json :=
  .object (Members.insert "request" (.object members) fields)

/-- The type that an envelope has. -/
def envelopeTypes (fields : Members Json) : TypeMeta :=
  ⟨envelopeText (.object fields) "apiVersion", envelopeText (.object fields) "kind"⟩

theorem envelopeText_congr {name : String} (same : Members.find? name edited = Members.find? name fields) :
    envelopeText (.object edited) name = envelopeText (.object fields) name := by
  simp only [envelopeText, Json.member?, same]

theorem envelopeTypes_sameBut (same : Members.SameBut envelopeNames [] fields edited) :
    envelopeTypes edited = envelopeTypes fields := by
  have apiVersion := same.find?_eq (by decide : "apiVersion" ∈ envelopeNames) List.not_mem_nil
  have kind := same.find?_eq (by decide : "kind" ∈ envelopeNames) List.not_mem_nil
  rw [envelopeTypes, envelopeTypes, envelopeText_congr apiVersion, envelopeText_congr kind]

theorem ofReview_reviewWith (fields members : Members Json) :
    Request.ofReview (reviewWith fields members) =
      (Request.ofMembers? (envelopeTypes fields) members).elim (.error .malformed) .ok := by
  have held : (reviewWith fields members).member? "request" = some (.object members) := by
    rw [reviewWith, Json.member?, Members.find?_insert, if_pos rfl]
  have kept : ∀ name, name ≠ "request" →
      envelopeText (reviewWith fields members) name = envelopeText (.object fields) name := by
    intro name apart
    apply envelopeText_congr
    rw [Members.find?_insert, if_neg apart]
  have types : (⟨envelopeText (reviewWith fields members) "apiVersion", envelopeText (reviewWith fields members) "kind"⟩ :
      TypeMeta) = envelopeTypes fields := by
    rw [kept "apiVersion" (by decide), kept "kind" (by decide), envelopeTypes]
  rw [Request.ofReview, held]
  dsimp only
  rw [types]
  cases Request.ofMembers? (envelopeTypes fields) members with
  | none | some _ => rfl

theorem isBodyOf_iff {v : Json} {body : List UInt8} : IsBodyOf v body ↔ Json.parse body = some v :=
  Json.parse_eq_some_iff.symm

theorem decode_of_isBodyOf {v : Json} {body : List UInt8} (h : IsBodyOf v body) :
    decode (some "application/json") body = Request.ofReview v := by
  obtain ⟨w, text, rfl⟩ := h
  exact decode_of_isTextOf (isTextOf_ne_nil text) text

theorem decode_reviewWith {body : List UInt8} (h : IsBodyOf (reviewWith fields members) body)
    (read : request.ReadFrom (envelopeTypes fields) members) : decode (some "application/json") body = .ok request := by
  rw [decode_of_isBodyOf h, ofReview_reviewWith, Request.ofMembers?_eq_some_iff.mpr read, Option.elim_some]

theorem decode_reviewWith_malformed {body : List UInt8} (h : IsBodyOf (reviewWith fields members) body)
    (none : ∀ request : Request, ¬ request.ReadFrom (envelopeTypes fields) members) :
    decode (some "application/json") body = .error .malformed := by
  rw [decode_of_isBodyOf h, ofReview_reviewWith]
  cases read : Request.ofMembers? (envelopeTypes fields) members with
  | none => rfl
  | some request => exact absurd (Request.ofMembers?_eq_some_iff.mp read) (none request)

/-! ### Independence -/

/-- Whether each edit of an envelope and of the members of its request shows in the decoded request just where it should. -/
structure FieldsIndependent (fields members : Members Json) (request : Request) : Prop where
  -- members of other names change nothing
  additions : ∀ outer inner body, (∀ member ∈ outer, member.1 ∉ envelopeNames) →
    (∀ member ∈ inner, member.1 ∉ Request.memberNames) →
    IsBodyOf (reviewWith (Members.insertAll outer fields) (Members.insertAll inner members)) body →
    decode (some "application/json") body = .ok request
  -- taken out, a member leaves the default of its field, and no trace in the others
  deletions : ∀ dropped body, "uid" ∉ dropped → "kind" ∉ dropped →
    IsBodyOf (reviewWith fields (Members.without dropped members)) body →
    decode (some "application/json") body = .ok (request.without dropped (Request.standInResource members))
  standIn : ((∃ parts, Members.find? "kind" members = some (.object parts)) ∧
      Request.standInResource members = ⟨request.kind.group, request.kind.version, "", ""⟩) ∨
    ((∃ items, Members.find? "kind" members = some (.array items)) ∧ Request.standInResource members = ⟨"", "", "", ""⟩)
  required : ∀ dropped body, "uid" ∈ dropped ∨ "kind" ∈ dropped →
    IsBodyOf (reviewWith fields (Members.without dropped members)) body →
    decode (some "application/json") body = .error .malformed
  -- null is not the same as taken out
  nulls : ∀ name body, name ∈ Request.neverNull →
    IsBodyOf (reviewWith fields (Members.insert name .null members)) body →
    decode (some "application/json") body = .error .malformed

theorem Request.ReadFrom.fieldsIndependent (h : request.ReadFrom (envelopeTypes fields) members) :
    FieldsIndependent fields members request where
  additions := by
    intro outer inner body outerApart innerApart text
    apply decode_reviewWith text
    rw [envelopeTypes_sameBut (Members.sameBut_insertAll outerApart fields), ← request.without_nil (standInResource members)]
    exact h.sameBut (Members.sameBut_insertAll innerApart members) List.not_mem_nil List.not_mem_nil
  deletions := by
    intro dropped body uid kind text
    exact decode_reviewWith text (h.sameBut (Members.sameBut_without memberNames dropped members) uid kind)
  standIn := by
    rcases h.kind_cases with written | written
    · exact .inl ⟨written, h.standInResource_eq.1 written⟩
    · exact .inr ⟨written, h.standInResource_eq.2 written⟩
  required := by
    intro dropped body out text
    apply decode_reviewWith_malformed text
    intro request
    apply not_readFrom_of_absent
    rcases out with out | out
    · exact .inl (by rw [Members.find?_without, if_pos out])
    · exact .inr (by rw [Members.find?_without, if_pos out])
  nulls := by
    intro name body listed text
    apply decode_reviewWith_malformed text
    intro request
    exact not_readFrom_of_null listed (by rw [Members.find?_insert, if_pos rfl])

/-- The fields of every accepted review are independent of each other. -/
theorem fields_independent {body : List UInt8} {request : Request}
    (accepted : decode (some "application/json") body = .ok request) :
    ∃ fields members, IsBodyOf (.object fields) body ∧ Members.find? "request" fields = some (.object members) ∧
      FieldsIndependent fields members request := by
  obtain ⟨-, w, text, held⟩ := decode_eq_ok_iff.mp accepted
  obtain ⟨members, given, read⟩ := Request.ofReview_eq_ok_iff.mp held
  obtain ⟨fields, isObject, found⟩ := member?_eq_some_iff.mp given
  rw [isObject] at read
  exact ⟨fields, members, ⟨w, text, isObject⟩, found, read.fieldsIndependent⟩

/-- A name is read past members that are not known; taken out it is empty; `null` is refused. -/
theorem fields_independent_name :
    let named := Text.Utf8.encode "\x7b\"request\":\x7b\"uid\":\"u\",\"kind\":[\"g\",\"v\",\"k\"],\"name\":\"n\"\x7d\x7d".toList
    let extended := Text.Utf8.encode
      "\x7b\"Kind\":[0],\"request\":\x7b\"uid\":\"u\",\"kind\":[\"g\",\"v\",\"k\"],\"name\":\"n\",\"UID\":null\x7d\x7d".toList
    let unnamed := Text.Utf8.encode "\x7b\"request\":\x7b\"uid\":\"u\",\"kind\":[\"g\",\"v\",\"k\"]\x7d\x7d".toList
    let nulled := Text.Utf8.encode "\x7b\"request\":\x7b\"uid\":\"u\",\"kind\":[\"g\",\"v\",\"k\"],\"name\":null\x7d\x7d".toList
    ∃ request, decode (some "application/json") named = .ok request ∧ request.name = "n" ∧
      decode (some "application/json") extended = .ok request ∧
      decode (some "application/json") unnamed = .ok (request.without ["name"] ⟨"", "", "", ""⟩) ∧
      decode (some "application/json") nulled = .error .malformed := by
  intro named extended unnamed nulled
  have parsed : Json.parse named = some (.object [("request", .object [("kind", .array [.string "g", .string "v", .string "k"]),
      ("name", .string "n"), ("uid", .string "u")])]) := by decide +kernel
  have accepted : ∃ request, decode (some "application/json") named = .ok request ∧ request.name = "n" := by
    rw [decode_of_isBodyOf (isBodyOf_iff.mpr parsed)]
    exact ⟨_, rfl, rfl⟩
  obtain ⟨request, decoded, name⟩ := accepted
  obtain ⟨fields, members, text, held, independent⟩ := fields_independent decoded
  cases parsed.symm.trans (isBodyOf_iff.mp text)
  cases held
  refine ⟨request, decoded, name, ?_, ?_, ?_⟩
  · apply independent.additions [("Kind", .array [.ofNat 0])] [("UID", .null)] _ (by decide) (by decide)
    exact isBodyOf_iff.mpr (by decide +kernel)
  · exact independent.deletions ["name"] _ (by decide) (by decide) (isBodyOf_iff.mpr (by decide +kernel))
  · exact independent.nulls "name" _ (by decide) (isBodyOf_iff.mpr (by decide +kernel))

end AdmissionGate.Review
