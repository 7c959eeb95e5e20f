import AdmissionGate.Proofs.Review.Shapes

/-!
# Forms read shapes

Each form accepts just the values of its shape and reads them as what they say.
-/

namespace AdmissionGate.Review

open Json (Members)

namespace Form

variable {α : Type} {form : Form α} {shape : Shape α}

/-- Whether a form reads just the values of a shape, as what they say. -/
def Reads (form : Form α) (shape : Shape α) : Prop :=
  ∀ {v : Json} {a : α}, form v = some a ↔ shape v a

theorem reads_text : text.Reads Shape.text := by
  intro v s
  cases v <;> simp [text, Shape.text]

theorem reads_flag : flag.Reads Shape.flag := by
  intro v b
  cases v <;> simp [flag, Shape.flag]

theorem reads_any : any.Reads Shape.anything := by
  intro v x
  simp [any, Shape.anything]

theorem reads_signedWord : signedWord.Reads Shape.signedWord := by
  intro v n
  constructor
  · intro read
    unfold signedWord at read
    split at read
    · rename_i whole
      rw [Option.ite_none_right_eq_some] at read
      obtain ⟨⟨low, high⟩, same⟩ := read
      cases same
      exact ⟨rfl, by omega, by omega⟩
    · cases read
  · rintro ⟨rfl, low, high⟩
    have fits : -0x8000000000000000 ≤ n ∧ n < 0x8000000000000000 := ⟨by omega, by omega⟩
    rw [signedWord, if_pos fits]

theorem reads_timestamp : timestamp.Reads Shape.timestamp := by
  intro v t
  cases v <;> simp [timestamp, Shape.timestamp]

theorem reads_orNull (h : form.Reads shape) : (orNull form).Reads (Shape.OrNull shape) := by
  intro v a
  constructor
  · intro read
    by_cases absent : v = .null
    · subst absent
      cases read
      exact .null
    · have given : (form v).map some = some a := by
        cases v with
        | null => exact absurd rfl absent
        | bool _ | number _ | string _ | array _ | object _ => exact read
      obtain ⟨x, taken, rfl⟩ := Option.map_eq_some_iff.mp given
      exact .given absent (h.mp taken)
  · intro shaped
    cases shaped with
    | null => rfl
    | @given _ x present shaped =>
      have taken := h.mpr shaped
      cases v with
      | null => exact absurd rfl present
      | bool _ | number _ | string _ | array _ | object _ => exact Option.map_eq_some_iff.mpr ⟨x, taken, rfl⟩

theorem reads_textOrNull : (orNullAs "" text).Reads Shape.TextOrNull := by
  intro v s
  constructor
  · intro read
    cases v with
    | null =>
      cases read
      exact .null
    | string t =>
      cases read
      exact .given t
    | bool _ | number _ | array _ | object _ => cases read
  · intro shaped
    cases shaped <;> rfl

theorem mapM_eq_some_iff {β : Type} {f : α → Option β} {R : α → β → Prop} (h : ∀ {x y}, f x = some y ↔ R x y)
    {xs : List α} {ys : List β} : xs.mapM f = some ys ↔ List.Forall₂ R xs ys := by
  induction xs generalizing ys with
  | nil => simp [List.forall₂_nil_left_iff, eq_comm]
  | cons x xs ih =>
    rw [List.mapM_cons, List.forall₂_cons_left_iff]
    constructor
    · intro read
      obtain ⟨y, first, read⟩ := Option.bind_eq_some_iff.mp read
      obtain ⟨rest, others, read⟩ := Option.bind_eq_some_iff.mp read
      cases read
      exact ⟨y, rest, h.mp first, ih.mp others, rfl⟩
    · rintro ⟨y, rest, first, others, rfl⟩
      exact Option.bind_eq_some_iff.mpr ⟨y, h.mpr first, Option.bind_eq_some_iff.mpr ⟨rest, ih.mpr others, rfl⟩⟩

theorem reads_listOf (h : form.Reads shape) : (listOf form).Reads (Shape.listOf shape) := by
  intro v values
  cases v with
  | array items => simpa [listOf, Shape.listOf] using mapM_eq_some_iff h
  | null | bool _ | number _ | string _ | object _ => simp [listOf, Shape.listOf]

theorem reads_mapOf (h : form.Reads shape) : (mapOf form).Reads (Shape.mapOf shape) := by
  intro v values
  cases v with
  | object members =>
    have entry : ∀ {member : String × Json} {value : String × α},
        (form member.2).map (fun a => (member.1, a)) = some value ↔
          member.1 = value.1 ∧ shape member.2 value.2 := by
      intro member value
      rw [Option.map_eq_some_iff]
      constructor
      · rintro ⟨a, taken, rfl⟩
        exact ⟨rfl, h.mp taken⟩
      · rintro ⟨same, shaped⟩
        exact ⟨value.2, h.mpr shaped, Prod.ext same rfl⟩
    simpa [mapOf, Shape.mapOf] using mapM_eq_some_iff entry
  | null | bool _ | number _ | string _ | array _ => simp [mapOf, Shape.mapOf]

/-! ### Members -/

section Members

variable {members : Members Json} {name : String} {a : α}

theorem required_eq_some_iff (h : form.Reads shape) :
    required members name form = some a ↔ Shape.Has members name shape a := by
  rw [required, Option.bind_eq_some_iff]
  exact exists_congr fun v => and_congr_right fun _ => h

theorem withDefault_eq_some_iff {default : α} (h : form.Reads shape) :
    withDefault members name default form = some a ↔ Shape.Given members name default shape a := by
  rw [withDefault]
  cases held : Members.find? name members with
  | none =>
    constructor
    · intro read
      cases read
      exact .absent held
    · intro shaped
      cases shaped with
      | absent _ => rfl
      | given held' _ => cases held.symm.trans held'
  | some v =>
    constructor
    · intro read
      exact .given held (h.mp read)
    · intro shaped
      cases shaped with
      | absent held' => cases held.symm.trans held'
      | given held' shaped =>
        cases held.symm.trans held'
        exact h.mpr shaped

theorem optional_eq_some_iff {a : Option α} (h : form.Reads shape) :
    optional members name form = some a ↔ Shape.Maybe members name shape a :=
  withDefault_eq_some_iff (reads_orNull h)

end Members

/-! ### Kinds, resources and operations -/

theorem reads_kind : kind.Reads Shape.kind := by
  intro v k
  constructor
  · intro read
    unfold kind at read
    split at read
    · obtain ⟨a, group, read⟩ := Option.bind_eq_some_iff.mp read
      obtain ⟨b, version, read⟩ := Option.bind_eq_some_iff.mp read
      obtain ⟨c, last, read⟩ := Option.bind_eq_some_iff.mp read
      cases read
      exact .object ((required_eq_some_iff reads_text).mp group) ((required_eq_some_iff reads_text).mp version)
        ((required_eq_some_iff reads_text).mp last)
    · obtain ⟨a, first, read⟩ := Option.bind_eq_some_iff.mp read
      obtain ⟨b, second, read⟩ := Option.bind_eq_some_iff.mp read
      obtain ⟨c, third, read⟩ := Option.bind_eq_some_iff.mp read
      cases read
      rw [reads_text.mp first, reads_text.mp second, reads_text.mp third]
      exact .array a b c
    · cases read
  · intro shaped
    obtain ⟨group, version, last⟩ := k
    cases shaped with
    | object a b c =>
      rw [kind, (required_eq_some_iff reads_text).mpr a, (required_eq_some_iff reads_text).mpr b,
        (required_eq_some_iff reads_text).mpr c]
      rfl
    | array => rfl

theorem reads_resource : resource.Reads Shape.Resource := by
  intro v r
  constructor
  · intro read
    unfold resource at read
    split at read
    · obtain ⟨a, group, read⟩ := Option.bind_eq_some_iff.mp read
      obtain ⟨b, version, read⟩ := Option.bind_eq_some_iff.mp read
      obtain ⟨c, last, read⟩ := Option.bind_eq_some_iff.mp read
      obtain ⟨d, fourth, read⟩ := Option.bind_eq_some_iff.mp read
      cases read
      exact .object ((required_eq_some_iff reads_text).mp group) ((required_eq_some_iff reads_text).mp version)
        ((required_eq_some_iff reads_text).mp last) ((withDefault_eq_some_iff reads_text).mp fourth)
    · rename_i first second third rest
      -- the fourth text is read before the other three
      rcases rest with _ | ⟨fourth, _ | ⟨fifth, rest⟩⟩
      · obtain ⟨_, empty, read⟩ := Option.bind_eq_some_iff.mp read
        obtain ⟨a, isFirst, read⟩ := Option.bind_eq_some_iff.mp read
        obtain ⟨b, isSecond, read⟩ := Option.bind_eq_some_iff.mp read
        obtain ⟨c, isThird, read⟩ := Option.bind_eq_some_iff.mp read
        cases empty
        cases read
        rw [reads_text.mp isFirst, reads_text.mp isSecond, reads_text.mp isThird]
        exact .three a b c
      · obtain ⟨d, isFourth, read⟩ := Option.bind_eq_some_iff.mp read
        obtain ⟨a, isFirst, read⟩ := Option.bind_eq_some_iff.mp read
        obtain ⟨b, isSecond, read⟩ := Option.bind_eq_some_iff.mp read
        obtain ⟨c, isThird, read⟩ := Option.bind_eq_some_iff.mp read
        cases read
        rw [reads_text.mp isFirst, reads_text.mp isSecond, reads_text.mp isThird, reads_text.mp isFourth]
        exact .four a b c d
      · cases read
    · cases read
  · intro shaped
    obtain ⟨group, version, last, apiVersion⟩ := r
    cases shaped with
    | object a b c d =>
      rw [resource, (required_eq_some_iff reads_text).mpr a, (required_eq_some_iff reads_text).mpr b,
        (required_eq_some_iff reads_text).mpr c, (withDefault_eq_some_iff reads_text).mpr d]
      rfl
    | three | four => rfl

theorem ofWireName?_eq_some_iff {s : String} {o : Operation} : Operation.ofWireName? s = some o ↔ s = o.wireName := by
  constructor
  · intro named
    have same := List.find?_some named
    exact (beq_iff_eq.mp same).symm
  · rintro rfl
    cases o <;> rfl

theorem reads_operation : operation.Reads Shape.IsOperation := by
  intro v o
  constructor
  · intro read
    unfold operation at read
    split at read
    · rw [ofWireName?_eq_some_iff.mp read]
      exact .name o
    · rw [ofWireName?_eq_some_iff.mp read]
      exact .key o
    · cases read
  · intro shaped
    cases shaped with
    | name => exact ofWireName?_eq_some_iff.mpr rfl
    | key => exact ofWireName?_eq_some_iff.mpr rfl

/-! ### Users, metadata and objects -/

theorem reads_userInfo : userInfo.Reads Shape.userInfo := by
  intro v u
  constructor
  · intro read
    unfold userInfo at read
    split at read
    · rename_i members
      obtain ⟨_, username, read⟩ := Option.bind_eq_some_iff.mp read
      obtain ⟨_, uid, read⟩ := Option.bind_eq_some_iff.mp read
      obtain ⟨_, groups, read⟩ := Option.bind_eq_some_iff.mp read
      obtain ⟨_, extra, read⟩ := Option.bind_eq_some_iff.mp read
      cases read
      exact ⟨members, rfl, (optional_eq_some_iff reads_text).mp username, (optional_eq_some_iff reads_text).mp uid,
        (optional_eq_some_iff (reads_listOf reads_text)).mp groups,
        (optional_eq_some_iff (reads_mapOf (reads_listOf reads_text))).mp extra⟩
    · cases read
  · rintro ⟨members, rfl, h⟩
    rw [userInfo, (optional_eq_some_iff reads_text).mpr h.username, (optional_eq_some_iff reads_text).mpr h.uid,
      (optional_eq_some_iff (reads_listOf reads_text)).mpr h.groups,
      (optional_eq_some_iff (reads_mapOf (reads_listOf reads_text))).mpr h.extra]
    rfl

theorem reads_ownerReference : ownerReference.Reads Shape.ownerReference := by
  intro v r
  constructor
  · intro read
    unfold ownerReference at read
    split at read
    · rename_i members
      obtain ⟨_, apiVersion, read⟩ := Option.bind_eq_some_iff.mp read
      obtain ⟨_, kind, read⟩ := Option.bind_eq_some_iff.mp read
      obtain ⟨_, name, read⟩ := Option.bind_eq_some_iff.mp read
      obtain ⟨_, uid, read⟩ := Option.bind_eq_some_iff.mp read
      obtain ⟨_, controller, read⟩ := Option.bind_eq_some_iff.mp read
      obtain ⟨_, blockOwnerDeletion, read⟩ := Option.bind_eq_some_iff.mp read
      cases read
      exact ⟨members, rfl, (withDefault_eq_some_iff reads_textOrNull).mp apiVersion,
        (withDefault_eq_some_iff reads_textOrNull).mp kind, (withDefault_eq_some_iff reads_textOrNull).mp name,
        (withDefault_eq_some_iff reads_textOrNull).mp uid, (optional_eq_some_iff reads_flag).mp controller,
        (optional_eq_some_iff reads_flag).mp blockOwnerDeletion⟩
    · cases read
  · rintro ⟨members, rfl, h⟩
    simp only [ownerReference, (withDefault_eq_some_iff reads_textOrNull).mpr h.apiVersion,
      (withDefault_eq_some_iff reads_textOrNull).mpr h.kind, (withDefault_eq_some_iff reads_textOrNull).mpr h.name,
      (withDefault_eq_some_iff reads_textOrNull).mpr h.uid, (optional_eq_some_iff reads_flag).mpr h.controller,
      (optional_eq_some_iff reads_flag).mpr h.blockOwnerDeletion]
    rfl

theorem reads_managedFields : managedFields.Reads Shape.managedFields := by
  intro v m
  constructor
  · intro read
    unfold managedFields at read
    split at read
    · rename_i members
      obtain ⟨_, apiVersion, read⟩ := Option.bind_eq_some_iff.mp read
      obtain ⟨_, fieldsType, read⟩ := Option.bind_eq_some_iff.mp read
      obtain ⟨_, fields, read⟩ := Option.bind_eq_some_iff.mp read
      obtain ⟨_, manager, read⟩ := Option.bind_eq_some_iff.mp read
      obtain ⟨_, operation, read⟩ := Option.bind_eq_some_iff.mp read
      obtain ⟨_, subresource, read⟩ := Option.bind_eq_some_iff.mp read
      obtain ⟨_, time, read⟩ := Option.bind_eq_some_iff.mp read
      cases read
      exact ⟨members, rfl, (optional_eq_some_iff reads_text).mp apiVersion, (optional_eq_some_iff reads_text).mp fieldsType,
        (optional_eq_some_iff reads_any).mp fields, (optional_eq_some_iff reads_text).mp manager,
        (optional_eq_some_iff reads_text).mp operation, (optional_eq_some_iff reads_text).mp subresource,
        (optional_eq_some_iff reads_timestamp).mp time⟩
    · cases read
  · rintro ⟨members, rfl, h⟩
    rw [managedFields, (optional_eq_some_iff reads_text).mpr h.apiVersion,
      (optional_eq_some_iff reads_text).mpr h.fieldsType, (optional_eq_some_iff reads_any).mpr h.fields,
      (optional_eq_some_iff reads_text).mpr h.manager, (optional_eq_some_iff reads_text).mpr h.operation,
      (optional_eq_some_iff reads_text).mpr h.subresource, (optional_eq_some_iff reads_timestamp).mpr h.time]
    rfl

theorem reads_metadata : metadata.Reads Shape.metadata := by
  intro v m
  constructor
  · intro read
    unfold metadata at read
    split at read
    · rename_i members
      obtain ⟨_, name, read⟩ := Option.bind_eq_some_iff.mp read
      obtain ⟨_, inNamespace, read⟩ := Option.bind_eq_some_iff.mp read
      obtain ⟨_, uid, read⟩ := Option.bind_eq_some_iff.mp read
      obtain ⟨_, generateName, read⟩ := Option.bind_eq_some_iff.mp read
      obtain ⟨_, resourceVersion, read⟩ := Option.bind_eq_some_iff.mp read
      obtain ⟨_, selfLink, read⟩ := Option.bind_eq_some_iff.mp read
      obtain ⟨_, generation, read⟩ := Option.bind_eq_some_iff.mp read
      obtain ⟨_, deletionGracePeriodSeconds, read⟩ := Option.bind_eq_some_iff.mp read
      obtain ⟨_, creationTimestamp, read⟩ := Option.bind_eq_some_iff.mp read
      obtain ⟨_, deletionTimestamp, read⟩ := Option.bind_eq_some_iff.mp read
      obtain ⟨_, labels, read⟩ := Option.bind_eq_some_iff.mp read
      obtain ⟨_, annotations, read⟩ := Option.bind_eq_some_iff.mp read
      obtain ⟨_, finalizers, read⟩ := Option.bind_eq_some_iff.mp read
      obtain ⟨_, ownerReferences, read⟩ := Option.bind_eq_some_iff.mp read
      obtain ⟨_, managedFields, read⟩ := Option.bind_eq_some_iff.mp read
      cases read
      exact ⟨members, rfl, {
        name := (optional_eq_some_iff reads_text).mp name
        inNamespace := (optional_eq_some_iff reads_text).mp inNamespace
        uid := (optional_eq_some_iff reads_text).mp uid
        generateName := (optional_eq_some_iff reads_text).mp generateName
        resourceVersion := (optional_eq_some_iff reads_text).mp resourceVersion
        selfLink := (optional_eq_some_iff reads_text).mp selfLink
        generation := (optional_eq_some_iff reads_signedWord).mp generation
        deletionGracePeriodSeconds := (optional_eq_some_iff reads_signedWord).mp deletionGracePeriodSeconds
        creationTimestamp := (optional_eq_some_iff reads_timestamp).mp creationTimestamp
        deletionTimestamp := (optional_eq_some_iff reads_timestamp).mp deletionTimestamp
        labels := (optional_eq_some_iff (reads_mapOf reads_text)).mp labels
        annotations := (optional_eq_some_iff (reads_mapOf reads_text)).mp annotations
        finalizers := (optional_eq_some_iff (reads_listOf reads_text)).mp finalizers
        ownerReferences := (optional_eq_some_iff (reads_listOf reads_ownerReference)).mp ownerReferences
        managedFields := (optional_eq_some_iff (reads_listOf reads_managedFields)).mp managedFields }⟩
    · cases read
  · rintro ⟨members, rfl, h⟩
    rw [metadata, (optional_eq_some_iff reads_text).mpr h.name, (optional_eq_some_iff reads_text).mpr h.inNamespace,
      (optional_eq_some_iff reads_text).mpr h.uid, (optional_eq_some_iff reads_text).mpr h.generateName,
      (optional_eq_some_iff reads_text).mpr h.resourceVersion, (optional_eq_some_iff reads_text).mpr h.selfLink,
      (optional_eq_some_iff reads_signedWord).mpr h.generation,
      (optional_eq_some_iff reads_signedWord).mpr h.deletionGracePeriodSeconds,
      (optional_eq_some_iff reads_timestamp).mpr h.creationTimestamp,
      (optional_eq_some_iff reads_timestamp).mpr h.deletionTimestamp,
      (optional_eq_some_iff (reads_mapOf reads_text)).mpr h.labels,
      (optional_eq_some_iff (reads_mapOf reads_text)).mpr h.annotations,
      (optional_eq_some_iff (reads_listOf reads_text)).mpr h.finalizers,
      (optional_eq_some_iff (reads_listOf reads_ownerReference)).mpr h.ownerReferences,
      (optional_eq_some_iff (reads_listOf reads_managedFields)).mpr h.managedFields]
    rfl

theorem has_text_iff {members : Members Json} {name s : String} :
    Shape.Has members name Shape.text s ↔ (Members.find? name members).bind Json.text? = some s := by
  rw [Shape.Has, Option.bind_eq_some_iff]
  refine exists_congr fun v => and_congr_right fun _ => ?_
  cases v <;> simp [Shape.text, Json.text?]

theorem typed_iff {members : Members Json} {types : Option TypeMeta} :
    Shape.Typed members types ↔ Object.typesOf members = types := by
  rw [Object.typesOf]
  constructor
  · intro typed
    cases typed with
    | typed apiVersion kind =>
      rw [has_text_iff.mp apiVersion, has_text_iff.mp kind]
      rfl
    | untyped lacks =>
      rw [Option.eq_none_iff_forall_ne_some]
      intro t read
      obtain ⟨a, apiVersion, read⟩ := Option.bind_eq_some_iff.mp read
      obtain ⟨k, kind, -⟩ := Option.bind_eq_some_iff.mp read
      exact lacks a k (has_text_iff.mpr apiVersion) (has_text_iff.mpr kind)
  · rintro rfl
    cases apiVersion : (Members.find? "apiVersion" members).bind Json.text? with
    | none =>
      refine .untyped fun a k has _ => ?_
      cases apiVersion.symm.trans (has_text_iff.mp has)
    | some a =>
      cases kind : (Members.find? "kind" members).bind Json.text? with
      | none =>
        refine .untyped fun _ k _ has => ?_
        cases kind.symm.trans (has_text_iff.mp has)
      | some k => exact .typed (has_text_iff.mpr apiVersion) (has_text_iff.mpr kind)

/-- What is left when the type and the metadata are taken out are the members that stay. -/
theorem erase_withoutTypes (members : Members Json) :
    Members.erase "metadata" (Object.withoutTypes members) =
      members.filter fun member => Shape.Stays members member.1 := by
  have split : Object.withoutTypes members =
      members.filter fun member => member.1 ≠ "apiVersion" ∧
        (member.1 = "kind" → (Members.find? "apiVersion" members).any (fun v => v.text?.isNone) = true) := by
    rw [Object.withoutTypes]
    cases held : Members.find? "apiVersion" members with
    | none => simp [Members.erase, List.filter_filter, Bool.and_comm]
    | some v => cases v <;> simp [Members.erase, List.filter_filter, Json.text?, Bool.and_comm]
  rw [split, Members.erase, List.filter_filter]
  refine List.filter_congr fun member _ => ?_
  refine Bool.eq_iff_iff.mpr (Iff.trans ?_ decide_eq_true_iff.symm)
  simp [Shape.Stays, imp_iff_not_or]

theorem reads_object : object.Reads Shape.object := by
  intro v o
  constructor
  · intro read
    unfold object at read
    split at read
    · rename_i members
      obtain ⟨m, given, read⟩ := Option.bind_eq_some_iff.mp read
      cases read
      exact ⟨members, rfl, typed_iff.mpr rfl, (withDefault_eq_some_iff reads_metadata).mp given,
        erase_withoutTypes members⟩
    · cases read
  · rintro ⟨members, rfl, h⟩
    rw [object, (withDefault_eq_some_iff reads_metadata).mpr h.metadata]
    refine congrArg some ?_
    obtain ⟨types, m, data⟩ := o
    rw [typed_iff.mp h.types, erase_withoutTypes, ← h.data]

end Form

end AdmissionGate.Review
