import Mathlib
import AdmissionGate.Review.Request

/-!
# Shapes of values

A shape relates the values that may stand in some place to what they say there.  The shapes of the parts of a request are
given by their cases, without a word on how they are read.
-/

namespace AdmissionGate.Review

open Json (Members)

/-- Which values may stand in some place, and what they say there. -/
abbrev Shape (α : Type) := Json → α → Prop

namespace Shape

variable {α : Type}

/-! ### Plain values, lists and maps -/

def text : Shape String := fun v s => v = .string s

def flag : Shape Bool := fun v b => v = .bool b

/-- A whole number that fits a signed word of 64 bits. -/
def signedWord : Shape Int := fun v n => v = .number (.whole n) ∧ -2 ^ 63 ≤ n ∧ n < 2 ^ 63

def anything : Shape Json := fun v x => v = x

/-- A text that spells a point in time. -/
def timestamp : Shape Timestamp := fun v t => ∃ s, v = .string s ∧ Timestamp.parse s = some t

inductive OrNull (shape : Shape α) : Json → Option α → Prop where
  | null : OrNull shape .null none
  | given {v : Json} {a : α} : v ≠ .null → shape v a → OrNull shape v (some a)

/-- A text, or `null` for the empty one. -/
inductive TextOrNull : Json → String → Prop where
  | null : TextOrNull .null ""
  | given (s : String) : TextOrNull (.string s) s

def listOf (shape : Shape α) : Shape (List α) := fun v values =>
  ∃ items, v = .array items ∧ List.Forall₂ shape items values

/-- An object each of whose members has the same shape. -/
def mapOf (shape : Shape α) : Shape (Members α) := fun v values =>
  ∃ members, v = .object members ∧
    List.Forall₂ (fun member value => member.1 = value.1 ∧ shape member.2 value.2) members values

/-! ### Members -/

/-- A member that has to be there. -/
def Has (members : Members Json) (name : String) (shape : Shape α) (a : α) : Prop :=
  ∃ v, Members.find? name members = some v ∧ shape v a

/-- A member with a default for when it is absent. -/
inductive Given (members : Members Json) (name : String) (default : α) (shape : Shape α) : α → Prop where
  | absent : Members.find? name members = none → Given members name default shape default
  | given {v : Json} {a : α} : Members.find? name members = some v → shape v a → Given members name default shape a

/-- A member that may be absent or `null`. -/
def Maybe (members : Members Json) (name : String) (shape : Shape α) (a : Option α) : Prop :=
  Given members name none (OrNull shape) a

/-! ### Kinds, resources and operations -/

/-- Three texts: as members, the last of which has a name of its own, or in an array. -/
inductive Triple (last : String) : Json → String → String → String → Prop where
  | object {members : Members Json} {a b c : String} :
      Has members "group" text a → Has members "version" text b → Has members last text c →
      Triple last (.object members) a b c
  | array (a b c : String) : Triple last (.array [.string a, .string b, .string c]) a b c

def kind : Shape GroupVersionKind := fun v k => Triple "kind" v k.group k.version k.kind

/-- A resource.  Its fourth text may be left out. -/
inductive Resource : Json → GroupVersionResource → Prop where
  | object {members : Members Json} {r : GroupVersionResource} :
      Has members "group" text r.group → Has members "version" text r.version → Has members "resource" text r.resource →
      Given members "api_version" "" text r.apiVersion → Resource (.object members) r
  | three (a b c : String) : Resource (.array [.string a, .string b, .string c]) ⟨a, b, c, ""⟩
  | four (a b c d : String) : Resource (.array [.string a, .string b, .string c, .string d]) ⟨a, b, c, d⟩

inductive IsOperation : Json → Operation → Prop where
  | name (o : Operation) : IsOperation (.string o.wireName) o
  | key (o : Operation) : IsOperation (.object [(o.wireName, .null)]) o

/-! ### Users -/

structure UserInfoMembers (members : Members Json) (u : UserInfo) : Prop where
  username : Maybe members "username" text u.username
  uid : Maybe members "uid" text u.uid
  groups : Maybe members "groups" (listOf text) u.groups
  extra : Maybe members "extra" (mapOf (listOf text)) u.extra

def userInfo : Shape UserInfo := fun v u => ∃ members, v = .object members ∧ UserInfoMembers members u

/-! ### Metadata -/

structure OwnerReferenceMembers (members : Members Json) (r : OwnerReference) : Prop where
  apiVersion : Given members "apiVersion" "" TextOrNull r.apiVersion
  kind : Given members "kind" "" TextOrNull r.kind
  name : Given members "name" "" TextOrNull r.name
  uid : Given members "uid" "" TextOrNull r.uid
  controller : Maybe members "controller" flag r.controller
  blockOwnerDeletion : Maybe members "blockOwnerDeletion" flag r.blockOwnerDeletion

def ownerReference : Shape OwnerReference := fun v r => ∃ members, v = .object members ∧ OwnerReferenceMembers members r

structure ManagedFieldsMembers (members : Members Json) (m : ManagedFields) : Prop where
  apiVersion : Maybe members "apiVersion" text m.apiVersion
  fieldsType : Maybe members "fieldsType" text m.fieldsType
  fields : Maybe members "fieldsV1" anything m.fields
  manager : Maybe members "manager" text m.manager
  operation : Maybe members "operation" text m.operation
  subresource : Maybe members "subresource" text m.subresource
  time : Maybe members "time" timestamp m.time

def managedFields : Shape ManagedFields := fun v m => ∃ members, v = .object members ∧ ManagedFieldsMembers members m

structure MetadataMembers (members : Members Json) (m : Metadata) : Prop where
  name : Maybe members "name" text m.name
  inNamespace : Maybe members "namespace" text m.inNamespace
  uid : Maybe members "uid" text m.uid
  generateName : Maybe members "generateName" text m.generateName
  resourceVersion : Maybe members "resourceVersion" text m.resourceVersion
  selfLink : Maybe members "selfLink" text m.selfLink
  generation : Maybe members "generation" signedWord m.generation
  deletionGracePeriodSeconds : Maybe members "deletionGracePeriodSeconds" signedWord m.deletionGracePeriodSeconds
  creationTimestamp : Maybe members "creationTimestamp" timestamp m.creationTimestamp
  deletionTimestamp : Maybe members "deletionTimestamp" timestamp m.deletionTimestamp
  labels : Maybe members "labels" (mapOf text) m.labels
  annotations : Maybe members "annotations" (mapOf text) m.annotations
  finalizers : Maybe members "finalizers" (listOf text) m.finalizers
  ownerReferences : Maybe members "ownerReferences" (listOf ownerReference) m.ownerReferences
  managedFields : Maybe members "managedFields" (listOf managedFields) m.managedFields

def metadata : Shape Metadata := fun v m => ∃ members, v = .object members ∧ MetadataMembers members m

/-! ### Objects -/

/-- The type of an object: there if both of its parts are texts. -/
inductive Typed (members : Members Json) : Option TypeMeta → Prop where
  | typed {a k : String} : Has members "apiVersion" text a → Has members "kind" text k → Typed members (some ⟨a, k⟩)
  | untyped : (∀ a k, Has members "apiVersion" text a → ¬ Has members "kind" text k) → Typed members none

/-- Whether a member stays among the other members of an object.  Metadata and the type do not; but if `apiVersion` is there and
    is no text, `kind` stays. -/
def Stays (members : Members Json) (name : String) : Prop :=
  name ≠ "metadata" ∧ name ≠ "apiVersion" ∧
    (name = "kind" → (Members.find? "apiVersion" members).any (fun v => v.text?.isNone) = true)

instance (members : Members Json) (name : String) : Decidable (Stays members name) :=
  inferInstanceAs (Decidable (_ ∧ _ ∧ (_ → _)))

structure ObjectMembers (members : Members Json) (o : Object) : Prop where
  types : Typed members o.types
  metadata : Given members "metadata" {} metadata o.metadata
  data : o.data = members.filter fun member => Stays members member.1

def object : Shape Object := fun v o => ∃ members, v = .object members ∧ ObjectMembers members o

end Shape

end AdmissionGate.Review
