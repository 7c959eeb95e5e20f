import AdmissionGate.Proofs.Gate.Endings
import AdmissionGate.Proofs.Json.MemberEdits
import AdmissionGate.Proofs.Review.FormReading

/-!
# Objects under review reach the handlers intact

A handler judges an object by what is left of it when the metadata and the type have been taken out.  That is every other member
with its value, and nothing else.  The metadata have a field of their own, and so has the type, if both of its parts are texts.

It is not true that the two members of the type never stay among the others: if `apiVersion` is there but is no text, the search
for the type ends with it, and `kind` stays where it was.
-/

namespace AdmissionGate

open Json (Members Written IsTextOf)

namespace Review

/-- Whether an object holds what some members say: all but three of them are its data, and no others, and the type is told from
    two of the three. -/
structure Object.Preserves (object : Object) (members : Members Json) : Prop where
  others : ∀ name, name ∉ ["apiVersion", "kind", "metadata"] →
    Members.find? name object.data = Members.find? name members
  drawn : object.data.Sublist members
  typed : ∀ types : TypeMeta, object.types = some types ↔
    Members.find? "apiVersion" members = some (.string types.apiVersion) ∧
      Members.find? "kind" members = some (.string types.kind)
  metadata : Members.find? "metadata" object.data = none
  apiVersion : Members.find? "apiVersion" object.data = none
  kindKept : ∀ v, Members.find? "apiVersion" members = some v → (∀ s, v ≠ .string s) →
    Members.find? "kind" object.data = Members.find? "kind" members
  kindTaken : (∀ v, Members.find? "apiVersion" members = some v → ∃ s, v = .string s) →
    Members.find? "kind" object.data = none

/-- Whether the objects of a request hold what is written for them. -/
structure Request.PreservesObjects (request : Request) (members : Members Json) : Prop where
  object : ∀ parts, Members.find? "object" members = some (.object parts) →
    ∃ object, request.object = some object ∧ object.Preserves parts
  oldObject : ∀ parts, Members.find? "oldObject" members = some (.object parts) →
    ∃ object, request.oldObject = some object ∧ object.Preserves parts

/-! ### Members that stay -/

section Objects

variable {members : Members Json} {object : Object}

theorem isNone_text?_iff {v : Json} : v.text?.isNone = true ↔ ∀ s, v ≠ .string s := by
  cases v <;> simp [Json.text?]

theorem stays_of_other {name : String} (other : name ∉ ["apiVersion", "kind", "metadata"]) : Shape.Stays members name := by
  simp only [List.mem_cons, List.not_mem_nil, or_false, not_or] at other
  obtain ⟨apiVersion, kind, metadata⟩ := other
  exact ⟨metadata, apiVersion, fun same => absurd same kind⟩

theorem stays_kind_iff :
    Shape.Stays members "kind" ↔ ∃ v, Members.find? "apiVersion" members = some v ∧ ∀ s, v ≠ .string s := by
  have apart : "kind" ≠ "metadata" ∧ "kind" ≠ "apiVersion" := by decide
  rw [Shape.Stays, Option.any_eq_true]
  simp only [isNone_text?_iff, apart, true_and, ne_eq, not_false_eq_true, forall_const]

theorem find?_data (h : Shape.ObjectMembers members object) (name : String) :
    Members.find? name object.data = if Shape.Stays members name then Members.find? name members else none := by
  rw [h.data, Members.find?_filter fun name => decide (Shape.Stays members name)]
  simp only [decide_eq_true_eq]

theorem typed_iff_find? {read : Option TypeMeta} (h : Shape.Typed members read) (types : TypeMeta) :
    read = some types ↔ Members.find? "apiVersion" members = some (.string types.apiVersion) ∧
      Members.find? "kind" members = some (.string types.kind) := by
  have spelled : ∀ name s, Shape.Has members name Shape.text s ↔ Members.find? name members = some (.string s) := by
    intro name s
    simp [Shape.Has, Shape.text]
  cases h with
  | @typed a k apiVersion kind =>
    rw [(spelled _ _).mp apiVersion, (spelled _ _).mp kind]
    obtain ⟨a', k'⟩ := types
    simp
  | untyped lacks =>
    constructor
    · intro same
      cases same
    · rintro ⟨apiVersion, kind⟩
      exact absurd ((spelled _ _).mpr kind) (lacks _ _ ((spelled _ _).mpr apiVersion))

theorem preserves_of_objectMembers (h : Shape.ObjectMembers members object) : object.Preserves members where
  others name other := by
    rw [find?_data h, if_pos (stays_of_other other)]
  drawn := by
    rw [h.data]
    exact List.filter_sublist
  typed := typed_iff_find? h.types
  metadata := by
    have taken : ¬ Shape.Stays members "metadata" := fun stays => stays.1 rfl
    rw [find?_data h, if_neg taken]
  apiVersion := by
    have taken : ¬ Shape.Stays members "apiVersion" := fun stays => stays.2.1 rfl
    rw [find?_data h, if_neg taken]
  kindKept v held unspelled := by
    rw [find?_data h, if_pos (stays_kind_iff.mpr ⟨v, held, unspelled⟩)]
  kindTaken spelled := by
    have taken : ¬ Shape.Stays members "kind" := by
      rw [stays_kind_iff]
      rintro ⟨v, held, unspelled⟩
      obtain ⟨s, rfl⟩ := spelled v held
      exact unspelled s rfl
    rw [find?_data h, if_neg taken]

theorem exists_preserves {name : String} {read : Option Object} {parts : Members Json}
    (h : Form.optional members name Form.object = some read) (held : Members.find? name members = some (.object parts)) :
    ∃ object, read = some object ∧ object.Preserves parts := by
  have shaped := (Form.optional_eq_some_iff Form.reads_object).mp h
  cases shaped with
  | absent absent => cases absent.symm.trans held
  | given held' shaped =>
    cases held'.symm.trans held
    cases shaped with
    | given _ shaped =>
      obtain ⟨_, same, objectMembers⟩ := shaped
      cases same
      exact ⟨_, rfl, preserves_of_objectMembers objectMembers⟩

end Objects

theorem Request.ReadFrom.preservesObjects {types : TypeMeta} {members : Members Json} {request : Request}
    (h : request.ReadFrom types members) : request.PreservesObjects members where
  object _ held := exists_preserves h.object held
  oldObject _ held := exists_preserves h.oldObject held

end Review

open Review (Request decode)

/-- The objects of an accepted request hold what the body says of them, and every handler that is called for the body gets that
    request. -/
theorem Gate.reviewed_objects_intact {contentType : Option String} {body : List UInt8} {w : Written} {request : Request}
    (accepted : decode contentType body = .ok request) (text : IsTextOf body w) :
    ∃ members, w.value.member? "request" = some (.object members) ∧ request.PreservesObjects members ∧
      ∀ (gate : Gate) (calls : List Call) (message : Http.Message) (call : Call), message.contentType = contentType →
        message.body.octets = body → (gate.exchange calls message).ending.call? = some call → call.request = request := by
  obtain ⟨rfl, -⟩ := Review.decode_eq_ok_iff.mp accepted
  have read := accepted
  rw [Review.decode_of_isTextOf (Review.isTextOf_ne_nil text) text] at read
  obtain ⟨members, given, read⟩ := Request.ofReview_eq_ok_iff.mp read
  refine ⟨members, given, read.preservesObjects, ?_⟩
  intro gate calls message call declares holds called
  -- the handler is called with what the body is decoded to, and that is one request only
  obtain ⟨-, decoded⟩ := of_call?_ending called
  rw [declares, holds, accepted] at decoded
  cases decoded
  rfl

/-- An object whose API version is a number keeps its kind among its members; the one before the update has a type. -/
theorem Gate.reviewed_objects_intact_untyped :
    let body := Text.Utf8.encode ("\x7b\"request\":\x7b\"uid\":\"u\",\"kind\":[\"\",\"v1\",\"Pod\"],"
      ++ "\"object\":\x7b\"apiVersion\":1,\"kind\":\"Pod\",\"spec\":[0]\x7d,"
      ++ "\"oldObject\":\x7b\"kind\":\"Pod\",\"spec\":null,\"metadata\":\x7b\x7d,\"apiVersion\":\"v1\"\x7d\x7d\x7d").toList
    ∃ w request, (decode (some "application/json") body = .ok request ∧ IsTextOf body w) ∧
      (∃ object, request.object = some object ∧ object.types = none ∧
        Members.find? "kind" object.data = some (.string "Pod") ∧
        Members.find? "spec" object.data = some (.array [.ofNat 0])) ∧
      ∃ object, request.oldObject = some object ∧ object.types = some ⟨"v1", "Pod"⟩ ∧
        Members.find? "kind" object.data = none ∧ Members.find? "spec" object.data = some .null := by
  intro body
  have parsed : Json.parse body = some (.object [("request", .object [
      ("kind", .array [.string "", .string "v1", .string "Pod"]),
      ("object", .object [("apiVersion", .ofNat 1), ("kind", .string "Pod"), ("spec", .array [.ofNat 0])]),
      ("oldObject", .object [("apiVersion", .string "v1"), ("kind", .string "Pod"), ("metadata", .object []),
        ("spec", .null)]),
      ("uid", .string "u")])]) := by decide +kernel
  obtain ⟨w, text, value⟩ := Json.parse_eq_some_iff.mp parsed
  have accepted : ∃ request, decode (some "application/json") body = .ok request := by
    rw [Review.decode_of_isTextOf (Review.isTextOf_ne_nil text) text, value]
    exact ⟨_, rfl⟩
  obtain ⟨request, accepted⟩ := accepted
  obtain ⟨members, given, preserves, -⟩ := Gate.reviewed_objects_intact accepted text
  rw [value] at given
  cases given
  obtain ⟨object, read, intact⟩ := preserves.object _ rfl
  obtain ⟨old, readOld, intactOld⟩ := preserves.oldObject _ rfl
  refine ⟨w, request, ⟨accepted, text⟩, ⟨object, read, ?_, ?_, ?_⟩, ⟨old, readOld, ?_, ?_, ?_⟩⟩
  · rw [Option.eq_none_iff_forall_ne_some]
    intro types typed
    cases ((intact.typed types).mp typed).1
  · exact intact.kindKept (.ofNat 1) rfl (fun s same => nomatch same)
  · exact intact.others "spec" (by decide)
  · exact (intactOld.typed ⟨"v1", "Pod"⟩).mpr ⟨rfl, rfl⟩
  · refine intactOld.kindTaken ?_
    intro v held
    cases held
    exact ⟨"v1", rfl⟩
  · exact intactOld.others "spec" (by decide)

end AdmissionGate
