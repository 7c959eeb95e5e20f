import AdmissionGate.Proofs.Json.ReadingBack
import AdmissionGate.Proofs.Review.DecodedRequest
import AdmissionGate.Review.Encoding

/-!
# The writer and the reader agree

A review with the least that a request needs, and options of any value, is written and read back.  The request that comes out
has the identity, the kind and the options that went in, in whichever order the members were written.
-/

namespace AdmissionGate.Review

open Json (Members)

variable {uid group version kind : String} {options v : Json}

/-- Whether a value is a review of a request with an identity, a kind and options, its members in some order. -/
inductive ReviewOf (uid group version kind : String) (options : Json) : Json → Prop where
  | members {members parts : List (String × Json)} :
      members.Perm [("uid", .string uid), ("kind", .object parts), ("options", options)] →
      parts.Perm [("group", .string group), ("version", .string version), ("kind", .string kind)] →
      ReviewOf uid group version kind options (.object [("request", .object members)])

/-- The envelope and the request are the two levels that the options leave to the reader. -/
theorem ReviewOf.fits (h : ReviewOf uid group version kind options v) (fits : options.Fits 125) : v.Fits 127 := by
  obtain ⟨reordered, reorderedParts⟩ := h
  rename_i members parts
  have inner : (Json.object parts).Fits 125 := by
    apply (Json.fits_object_perm (n := 0) reorderedParts _).mono (by decide)
    simp [Json.fits_string]
  have request : (Json.object members).Fits 126 := by
    apply Json.fits_object_perm reordered
    simp [Json.fits_string, inner, fits]
  apply Json.fits_object
  simpa using request

theorem ReviewOf.sorted_eq (h : ReviewOf uid group version kind options v) :
    v.sorted = .object [("request", .object [
      ("kind", .object [("group", .string group), ("kind", .string kind), ("version", .string version)]),
      ("options", options.sorted), ("uid", .string uid)])] := by
  obtain ⟨reordered, reorderedParts⟩ := h
  rename_i members parts
  -- whatever the order in which the members were written, reading puts them in this one
  have requestOrder : ["kind", "options", "uid"].Pairwise (· < ·) := by decide +kernel
  have partsOrder : ["group", "kind", "version"].Pairwise (· < ·) := by decide +kernel
  have request : (Json.object members).sorted = .object [("kind", (Json.object parts).sorted), ("options", options.sorted),
      ("uid", .string uid)] :=
    Json.sorted_object_perm (reordered.trans (List.perm_append_singleton _ _).symm) requestOrder
  have inner : (Json.object parts).sorted =
      .object [("group", .string group), ("kind", .string kind), ("version", .string version)] :=
    Json.sorted_object_perm (reorderedParts.trans (.cons _ (.swap _ _ _))) partsOrder
  rw [Json.sorted_object_perm (.refl [("request", .object members)]) (List.pairwise_singleton _ _)]
  rw [Json.sortedMembers, request, inner]
  rfl

theorem ReviewOf.exists_ofReview (h : ReviewOf uid group version kind options v) :
    ∃ request, Request.ofReview v.sorted = .ok request ∧ request.uid = uid ∧ request.kind = ⟨group, version, kind⟩ ∧
      Form.orNull Form.any options.sorted = some request.options := by
  rw [h.sorted_eq]
  cases options.sorted with
  | null | bool _ | number _ | string _ | array _ | object _ => exact ⟨_, rfl, rfl, rfl, rfl⟩

theorem orNull_any_eq_some {read : Option Json} (h : Form.orNull Form.any options.sorted = some read) :
    (options = .null → read = none) ∧ (options ≠ .null → read = some options.sorted) := by
  cases options with
  | null =>
    cases h
    exact ⟨fun _ => rfl, fun other => absurd rfl other⟩
  | bool _ | number _ | string _ | array _ | object _ =>
    cases h
    exact ⟨nofun, fun _ => rfl⟩

/-! ### Writing and reading -/

/-- A review that is written is read as the request that was meant: its members may stand in any order, and its options may be any
    value whose numbers are whole and fit a word and that leaves room for two levels around it.  Options of `null` are none. -/
theorem written_review_is_read (review : ReviewOf uid group version kind options v) (fits : options.Fits 125) :
    ∃ request, decode (some "application/json") (answerWith (.ok v)).body = .ok request ∧
      request.uid = uid ∧ request.kind = ⟨group, version, kind⟩ ∧
      (options = .null → request.options = none) ∧
      (options ≠ .null → request.options = some options.sorted) ∧
      (options.IsSorted → request.options.getD .null = options) := by
  have whole : v.Fits 127 := review.fits fits
  have nonempty : v.octets ≠ [] := isTextOf_ne_nil (Json.isTextOf_octets whole)
  obtain ⟨request, read, uid, kind, given⟩ := review.exists_ofReview
  obtain ⟨absent, present⟩ := orNull_any_eq_some given
  have decoded : decode (some "application/json") v.octets = .ok request := by
    rw [decode_json nonempty, Json.parse_octets whole]
    exact read
  refine ⟨request, decoded, uid, kind, absent, present, ?_⟩
  intro sorted
  by_cases null : options = .null
  · rw [absent null, null]
    rfl
  · rw [present null, Option.getD_some, Json.sorted_eq_self options sorted]

/-- The extreme words, some nesting, and a text that has to be escaped. -/
theorem written_review_is_read_words :
    let options : Json := .object [("high", .number (.whole 0xffffffffffffffff)),
      ("low", .array [.number (.whole (-0x8000000000000000)), .array [.object []]])]
    let v : Json := .object [("request", .object [("uid", .string "\"ü\\"),
      ("kind", .object [("group", .string ""), ("version", .string "v1"), ("kind", .string "Pod")]), ("options", options)])]
    ∃ request, decode (some "application/json") (answerWith (.ok v)).body = .ok request ∧ request.uid = "\"ü\\" ∧
      request.options.getD .null = options := by
  intro options v
  have review : ReviewOf "\"ü\\" "" "v1" "Pod" options v := .members (.refl _) (.refl _)
  have fits : options.Fits 125 := by
    refine ⟨?_, by decide +kernel⟩
    simp [options, Json.HasWords, Json.MembersHaveWords, Json.ItemsHaveWords, Json.IsWord]
  have order : ["high", "low"].Pairwise (· < ·) := by decide +kernel
  have sorted : options.IsSorted := by
    refine ⟨List.pairwise_map.mp order, ?_⟩
    simp [Json.IsSorted, Json.MembersAreSorted, Json.ItemsAreSorted, Members.Ascending]
  obtain ⟨request, decoded, uid, -, -, -, same⟩ := written_review_is_read review fits
  exact ⟨request, decoded, uid, same sorted⟩

end AdmissionGate.Review
