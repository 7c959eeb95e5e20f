import AdmissionGate.Proofs.Review.MemberParts

/-!
# Writing a response loses nothing

The review that carries a response is read back as the response, in an envelope whose type is the standard one as far as the
response names none.  A part of a status that is left out is read as its default, and a part that is written never is; so
two responses with the same body are the same.
-/

namespace AdmissionGate.Review

open Json (Members)

/-! ### The parts of each object -/

namespace StatusCause

/-- The parts of a cause. -/
def parts (cause : StatusCause) : List (String × Option Json) :=
  [("reason", textPart cause.reason), ("message", textPart cause.message), ("field", textPart cause.field)]

theorem nodup_parts (cause : StatusCause) : (cause.parts.map Prod.fst).Nodup := by
  simp [parts]

theorem toJson_eq (cause : StatusCause) : cause.toJson = .object (partMembers cause.parts) := by
  simp [toJson, parts, partMembers, textMember_eq]

theorem fits_toJson (cause : StatusCause) : cause.toJson.Fits 1 := by
  rw [toJson_eq]
  apply fits_partMembers
  simp only [parts, List.forall_mem_cons]
  exact ⟨fits_textPart, fits_textPart, fits_textPart, by simp⟩

end StatusCause

namespace StatusDetails

/-- The parts of details. -/
def parts (details : StatusDetails) : List (String × Option Json) :=
  [("name", textPart details.name), ("group", textPart details.group), ("kind", textPart details.kind),
    ("uid", textPart details.uid), ("causes", listPart (details.causes.map StatusCause.toJson)),
    ("retryAfterSeconds", numberPart details.retryAfterSeconds.toNat)]

theorem nodup_parts (details : StatusDetails) : (details.parts.map Prod.fst).Nodup := by
  simp [parts]

theorem toJson_eq (details : StatusDetails) : details.toJson = .object (partMembers details.parts) := by
  simp [toJson, parts, partMembers, textMember_eq, numberMember_eq, listMember_eq]

theorem fits_toJson (details : StatusDetails) : details.toJson.Fits 3 := by
  have seconds : details.retryAfterSeconds.toNat < 0x10000000000000000 :=
    Nat.lt_trans details.retryAfterSeconds.toNat_lt (by decide)
  have causes : ∀ v ∈ details.causes.map StatusCause.toJson, v.Fits 1 := by
    intro v hv
    obtain ⟨cause, -, rfl⟩ := List.mem_map.mp hv
    exact cause.fits_toJson
  rw [toJson_eq]
  apply fits_partMembers
  simp only [parts, List.forall_mem_cons]
  exact ⟨fits_textPart, fits_textPart, fits_textPart, fits_textPart, fits_listPart causes, fits_numberPart seconds,
    by simp⟩

end StatusDetails

namespace Status

/-- The parts of a status. -/
def parts (status : Status) : List (String × Option Json) :=
  [("status", status.summary.map fun summary => .string summary.wireName), ("code", numberPart status.code.toNat),
    ("message", textPart status.message), ("reason", textPart status.reason),
    ("details", status.details.map StatusDetails.toJson)]

theorem nodup_parts (status : Status) : (status.parts.map Prod.fst).Nodup := by
  simp [parts]

theorem toJson_eq (status : Status) : status.toJson = .object (partMembers status.parts) := by
  simp [toJson, parts, partMembers, textMember_eq, numberMember_eq]

theorem fits_toJson (status : Status) : status.toJson.Fits 4 := by
  have code : status.code.toNat < 0x10000000000000000 := Nat.lt_trans status.code.toNat_lt (by decide)
  rw [toJson_eq]
  apply fits_partMembers
  simp only [parts, List.forall_mem_cons]
  refine ⟨fits_map fun _ => Json.fits_string 3 _, fits_numberPart code, fits_textPart, fits_textPart,
    fits_map StatusDetails.fits_toJson, by simp⟩

end Status

/-- Annotations, unless there are none. -/
def annotationsPart (annotations : Annotations) : Option Json :=
  if annotations.members = [] then none
  else some (.object (annotations.members.map fun member => (member.1, .string member.2)))

theorem annotationsMember_eq (annotations : Annotations) :
    annotationsMember annotations = optionalMember "auditAnnotations" (annotationsPart annotations) := by
  rw [annotationsMember, annotationsPart]
  split <;> rfl

theorem fits_annotationsPart (annotations : Annotations) : ∀ v ∈ annotationsPart annotations, v.Fits 1 := by
  intro v hv
  rw [annotationsPart] at hv
  split at hv
  · cases hv
  · cases hv
    apply Json.fits_object
    intro member hmem
    obtain ⟨remark, -, rfl⟩ := List.mem_map.mp hmem
    exact Json.fits_string 0 remark.2

theorem fits_octetsToJson (octets : List UInt8) : (octetsToJson octets).Fits 1 := by
  apply Json.fits_array
  intro v hv
  obtain ⟨octet, -, rfl⟩ := List.mem_map.mp hv
  exact Json.fits_ofNat (Nat.lt_trans octet.toNat_lt (by decide))

theorem fits_texts (texts : List String) : (Json.array (texts.map .string)).Fits 1 := by
  apply Json.fits_array
  intro v hv
  obtain ⟨text, -, rfl⟩ := List.mem_map.mp hv
  exact Json.fits_string 0 text

namespace Response

/-- The parts of a response. -/
def parts (response : Response) : List (String × Option Json) :=
  [("uid", some (.string response.uid)), ("allowed", some (.bool response.allowed)),
    ("status", some response.status.toJson), ("patch", response.patch.map octetsToJson),
    ("patchType", response.patchType.map fun type => .string type.wireName),
    ("auditAnnotations", annotationsPart response.annotations),
    ("warnings", response.warnings.map fun warnings => .array (warnings.map .string))]

/-- The parts of the envelope. -/
def envelopeParts (response : Response) : List (String × Option Json) :=
  [("apiVersion", some (.string response.types.orStandard.apiVersion)),
    ("kind", some (.string response.types.orStandard.kind)), ("response", some response.toJson)]

theorem nodup_parts (response : Response) : (response.parts.map Prod.fst).Nodup := by
  simp [parts]

theorem nodup_envelopeParts (response : Response) : (response.envelopeParts.map Prod.fst).Nodup := by
  simp [envelopeParts]

theorem toJson_eq (response : Response) : response.toJson = .object (partMembers response.parts) := by
  simp [toJson, parts, partMembers, annotationsMember_eq, optionalMember]

theorem review_eq (response : Response) : response.review = .object (partMembers response.envelopeParts) := by
  simp [review, envelopeParts, partMembers, optionalMember]

theorem fits_toJson (response : Response) : response.toJson.Fits 5 := by
  rw [toJson_eq]
  apply fits_partMembers
  simp only [parts, List.forall_mem_cons]
  refine ⟨fits_some (Json.fits_string 4 _), fits_some (Json.fits_bool 4 _), fits_some response.status.fits_toJson,
    fits_map fun octets => (fits_octetsToJson octets).mono (by decide), fits_map fun _ => Json.fits_string 4 _,
    fun v hv => (fits_annotationsPart response.annotations v hv).mono (by decide),
    fits_map fun texts => (fits_texts texts).mono (by decide), by simp⟩

theorem fits_review (response : Response) : response.review.Fits 6 := by
  rw [review_eq]
  apply fits_partMembers
  simp only [envelopeParts, List.forall_mem_cons]
  exact ⟨fits_some (Json.fits_string 5 _), fits_some (Json.fits_string 5 _), fits_some response.fits_toJson, by simp⟩

end Response

/-! ### Each object is read back -/

namespace Form

theorem statusCause_toJson (cause : StatusCause) : statusCause cause.toJson.sorted = some cause := by
  obtain ⟨members, read, held⟩ := exists_members cause.nodup_parts
  have reason : withDefault members "reason" "" text = some cause.reason :=
    withDefault_textPart (held (by simp [StatusCause.parts]))
  have message : withDefault members "message" "" text = some cause.message :=
    withDefault_textPart (held (by simp [StatusCause.parts]))
  have field : withDefault members "field" "" text = some cause.field :=
    withDefault_textPart (held (by simp [StatusCause.parts]))
  rw [cause.toJson_eq, read, statusCause, reason, message, field]
  rfl

theorem statusDetails_toJson (details : StatusDetails) : statusDetails details.toJson.sorted = some details := by
  obtain ⟨members, read, held⟩ := exists_members details.nodup_parts
  have name : withDefault members "name" "" text = some details.name :=
    withDefault_textPart (held (by simp [StatusDetails.parts]))
  have group : withDefault members "group" "" text = some details.group :=
    withDefault_textPart (held (by simp [StatusDetails.parts]))
  have kind : withDefault members "kind" "" text = some details.kind :=
    withDefault_textPart (held (by simp [StatusDetails.parts]))
  have uid : withDefault members "uid" "" text = some details.uid :=
    withDefault_textPart (held (by simp [StatusDetails.parts]))
  have causes : withDefault members "causes" [] (listOf statusCause) = some details.causes :=
    withDefault_listPart statusCause_toJson (held (by simp [StatusDetails.parts]))
  have seconds : withDefault members "retryAfterSeconds" 0 (below 0x100000000) =
      some details.retryAfterSeconds.toNat :=
    withDefault_numberPart details.retryAfterSeconds.toNat_lt (held (by simp [StatusDetails.parts]))
  rw [details.toJson_eq, read, statusDetails, name, group, kind, uid, causes, seconds]
  simp

theorem statusSummary_wireName (summary : StatusSummary) :
    statusSummary (Json.string summary.wireName).sorted = some summary := by
  cases summary <;> decide

theorem status_toJson (s : Status) : status s.toJson.sorted = some s := by
  obtain ⟨members, read, held⟩ := exists_members s.nodup_parts
  have summary : optional members "status" statusSummary = some s.summary :=
    optional_part rfl statusSummary_wireName (held (by simp [Status.parts]))
  have code : withDefault members "code" 0 (below 0x10000) = some s.code.toNat :=
    withDefault_numberPart s.code.toNat_lt (held (by simp [Status.parts]))
  have message : withDefault members "message" "" text = some s.message :=
    withDefault_textPart (held (by simp [Status.parts]))
  have reason : withDefault members "reason" "" text = some s.reason :=
    withDefault_textPart (held (by simp [Status.parts]))
  have details : optional members "details" statusDetails = some s.details :=
    optional_part rfl statusDetails_toJson (held (by simp [Status.parts]))
  rw [s.toJson_eq, read, status, summary, code, message, reason, details]
  simp

theorem patchType_wireName (type : PatchType) : patchType (Json.string type.wireName).sorted = some type := by
  cases type
  decide

theorem octets_octetsToJson (octets : List UInt8) : listOf octet (octetsToJson octets).sorted = some octets := by
  apply listOf_array
  intro b
  have read : below 0x100 (.ofNat b.toNat) = some b.toNat := below_ofNat b.toNat_lt
  rw [Json.ofNat, Json.sorted, ← Json.ofNat, octet, read, Option.map_some, UInt8.ofNat_toNat]

theorem texts_array (texts : List String) : listOf text (Json.array (texts.map .string)).sorted = some texts :=
  listOf_array (fun _ => rfl) texts

end Form

namespace Annotations

theorem members_foldl_insert (pairs : List (String × String)) (annotations : Annotations) :
    (pairs.foldl (fun annotations pair => annotations.insert pair.1 pair.2) annotations).members =
      pairs.foldl (fun members pair => Members.insert pair.1 pair.2 members) annotations.members := by
  induction pairs generalizing annotations with
  | nil => rfl
  | cons pair pairs ih => exact ih _

theorem ofPairs_members (annotations : Annotations) : ofPairs annotations.members = annotations := by
  have members : (ofPairs annotations.members).members = annotations.members :=
    (members_foldl_insert annotations.members empty).trans (Members.ofPairs_of_ascending annotations.ascending)
  cases given : ofPairs annotations.members
  cases annotations
  simp_all

/-- Annotations are kept in order, so they come back as they were. -/
theorem sorted_object (annotations : Annotations) :
    (Json.object (annotations.members.map fun member => (member.1, .string member.2))).sorted =
      .object (annotations.members.map fun member => (member.1, .string member.2)) := by
  have ascending : Members.Ascending (annotations.members.map fun member => (member.1, Json.string member.2)) :=
    List.pairwise_map.mpr annotations.ascending
  have same : Json.sortedMembers (annotations.members.map fun member => (member.1, .string member.2)) =
      annotations.members.map fun member => (member.1, .string member.2) := by
    rw [Json.sortedMembers_eq_map, List.map_map]
    rfl
  rw [Json.sorted, same, Json.ofPairs, Members.ofPairs_of_ascending ascending]

end Annotations

namespace Form

theorem mapOf_texts (members : Members String) :
    mapOf text (.object (members.map fun member => (member.1, .string member.2))) = some members := by
  rw [mapOf]
  induction members with
  | nil => rfl
  | cons member members ih =>
    rw [List.map_cons, List.mapM_cons, ih]
    rfl

theorem withDefault_annotationsPart {members : Members Json} {name : String} {annotations : Annotations}
    (held : Members.find? name members = (annotationsPart annotations).map Json.sorted) :
    withDefault members name [] (mapOf text) = some annotations.members := by
  by_cases empty : annotations.members = []
  · rw [annotationsPart, if_pos empty, Option.map_none] at held
    rw [withDefault, held, empty]
  · rw [annotationsPart, if_neg empty, Option.map_some, annotations.sorted_object] at held
    rw [withDefault, held]
    exact mapOf_texts annotations.members

theorem required_part {α : Type} {members : Members Json} {name : String} {form : Form α} {v : Json} {a : α}
    (held : Members.find? name members = (some v).map Json.sorted) (reads : form v.sorted = some a) :
    required members name form = some a := by
  rw [required, held]
  exact reads

theorem response_toJson (types : TypeMeta) (r : Response) :
    response types r.toJson.sorted = some { r with types } := by
  obtain ⟨members, read, held⟩ := exists_members r.nodup_parts
  have uid : required members "uid" text = some r.uid :=
    required_part (v := .string r.uid) (held (by simp [Response.parts])) rfl
  have allowed : required members "allowed" flag = some r.allowed :=
    required_part (v := .bool r.allowed) (held (by simp [Response.parts])) rfl
  have status : withDefault members "status" {} status = some r.status := by
    rw [withDefault, held (show ("status", some r.status.toJson) ∈ r.parts by simp [Response.parts])]
    exact status_toJson r.status
  have patch : optional members "patch" (listOf octet) = some r.patch :=
    optional_part rfl octets_octetsToJson (held (by simp [Response.parts]))
  have patchType : optional members "patchType" patchType = some r.patchType :=
    optional_part rfl patchType_wireName (held (by simp [Response.parts]))
  have annotations : withDefault members "auditAnnotations" [] (mapOf text) = some r.annotations.members :=
    withDefault_annotationsPart (held (by simp [Response.parts]))
  have warnings : optional members "warnings" (listOf text) = some r.warnings :=
    optional_part rfl texts_array (held (by simp [Response.parts]))
  rw [r.toJson_eq, read, response, uid, allowed, status, patch, patchType, annotations, warnings]
  simp [r.annotations.ofPairs_members]

end Form

/-- A response in the envelope that it goes out in: without an API version the envelope is the standard one, and without a
    kind alone it has the standard kind. -/
def Response.enveloped (r : Response) : Response :=
  { r with
    types :=
      if r.types.apiVersion = "" then ⟨"admission.k8s.io/v1", "AdmissionReview"⟩
      else if r.types.kind = "" then ⟨r.types.apiVersion, "AdmissionReview"⟩
      else r.types }

theorem Response.review_eq_enveloped (r : Response) :
    r.review = .object [("apiVersion", .string r.enveloped.types.apiVersion), ("kind", .string r.enveloped.types.kind),
      ("response", r.enveloped.toJson)] := rfl

/-- What a client finds in an answer: the type of the envelope, the response and the identity in it. -/
theorem Response.member?_review (r : Response) :
    r.review.sorted.member? "apiVersion" = some (.string r.types.orStandard.apiVersion) ∧
      r.review.sorted.member? "kind" = some (.string r.types.orStandard.kind) ∧
      r.review.sorted.member? "response" = some r.toJson.sorted ∧
      r.toJson.sorted.member? "uid" = some (.string r.uid) := by
  rw [review_eq, toJson_eq]
  refine ⟨?_, ?_, ?_, ?_⟩
  · exact member?_partMembers r.nodup_envelopeParts (.head _)
  · exact member?_partMembers r.nodup_envelopeParts (.tail _ (.head _))
  · exact r.toJson_eq ▸ member?_partMembers r.nodup_envelopeParts (.tail _ (.tail _ (.head _)))
  · exact member?_partMembers r.nodup_parts (.head _)

theorem Response.ofReview?_review (r : Response) : ofReview? r.review.sorted = some r.enveloped := by
  obtain ⟨members, read, held⟩ := exists_members r.nodup_envelopeParts
  have apiVersion : Form.required members "apiVersion" Form.text = some r.types.orStandard.apiVersion :=
    Form.required_part (v := .string r.types.orStandard.apiVersion) (held (by simp [Response.envelopeParts])) rfl
  have kind : Form.required members "kind" Form.text = some r.types.orStandard.kind :=
    Form.required_part (v := .string r.types.orStandard.kind) (held (by simp [Response.envelopeParts])) rfl
  have response : Form.required members "response" (Form.response r.types.orStandard) = some r.enveloped :=
    Form.required_part (held (by simp [Response.envelopeParts])) (Form.response_toJson _ r)
  rw [r.review_eq, read, ofReview?]
  simp only [apiVersion, kind, response, Option.bind_eq_bind, Option.bind_some]

theorem parse_body_encode (r : Response) : Json.parse (encode r).body = some r.review.sorted :=
  Json.parse_octets (r.fits_review.mono (by decide))

/-- Whether some octets are a review, and a client reads a response back from it in full, in its envelope. -/
def ReadsAs (octets : List UInt8) (r : Response) : Prop :=
  ∃ review, Json.parse octets = some review ∧ Response.ofReview? review = some r.enveloped

theorem readsAs_encode (r : Response) : ReadsAs (encode r).body r :=
  ⟨r.review.sorted, parse_body_encode r, r.ofReview?_review⟩

theorem body_encode_eq_iff (r s : Response) : (encode r).body = (encode s).body ↔ r.enveloped = s.enveloped := by
  constructor
  · intro same
    have read : some r.enveloped = some s.enveloped := by
      have parsed := parse_body_encode r
      rw [same, parse_body_encode s, Option.some_inj] at parsed
      rw [← r.ofReview?_review, ← s.ofReview?_review, parsed]
    exact Option.some_inj.mp read
  · intro same
    rw [encode, encode, r.review_eq_enveloped, s.review_eq_enveloped, same]

/-- What an answer carries is read back in full, so two responses share a body only if they are the same in their
    envelopes. -/
theorem encode_loses_nothing (r : Response) :
    (encode r).status = 200 ∧
    (encode r).headers = [("content-type", "application/json; charset=utf-8")] ∧
    (∃ review, Json.parse (encode r).body = some review ∧ Response.ofReview? review = some r.enveloped) ∧
    (∀ s : Response, (encode r).body = (encode s).body ↔ r.enveloped = s.enveloped) :=
  ⟨rfl, rfl, ⟨r.review.sorted, parse_body_encode r, r.ofReview?_review⟩, body_encode_eq_iff r⟩

end AdmissionGate.Review
