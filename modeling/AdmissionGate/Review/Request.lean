import AdmissionGate.Review.Object

/-!
# Admission requests

What the API server asks: may this user do this operation on this object?
-/

namespace AdmissionGate.Review

open Json (Members)

/-- What is to be done with the object. -/
inductive Operation where
  | create
  | update
  | delete
  | connect
deriving DecidableEq, Repr

namespace Operation

def all : List Operation := [create, update, delete, connect]

def wireName : Operation → String
  | create => "CREATE"
  | update => "UPDATE"
  | delete => "DELETE"
  | connect => "CONNECT"

def name : Operation → String
  | create => "Create"
  | update => "Update"
  | delete => "Delete"
  | connect => "Connect"

/-- The operation that a name on the wire stands for. -/
def ofWireName? (name : String) : Option Operation :=
  all.find? fun operation => operation.wireName == name

end Operation

/-- Who asks. -/
structure UserInfo where
  username : Option String := none
  uid : Option String := none
  groups : Option (List String) := none
  extra : Option (Members (List String)) := none
deriving DecidableEq, Repr

/-- What the API server asks. -/
structure Request where
  /-- The type of the envelope; a part that is absent there is empty here. -/
  types : TypeMeta
  uid : String
  kind : GroupVersionKind
  resource : GroupVersionResource
  subResource : Option String
  requestKind : Option GroupVersionKind
  requestResource : Option GroupVersionResource
  requestSubResource : Option String
  name : String
  inNamespace : Option String
  operation : Operation
  userInfo : UserInfo
  object : Option Object
  oldObject : Option Object
  dryRun : Bool
  options : Option Json
deriving DecidableEq, Repr

namespace Form

/-- A kind: an object of three texts, or an array of them. -/
def kind : Form GroupVersionKind
  | .object members => do
    return ⟨← required members "group" text, ← required members "version" text, ← required members "kind" text⟩
  | .array [a, b, c] => do
    return ⟨← text a, ← text b, ← text c⟩
  | _ => none

/-- A resource, with a fourth text that may be left out. -/
def resource : Form GroupVersionResource
  | .object members => do
    return ⟨← required members "group" text, ← required members "version" text, ← required members "resource" text,
      ← withDefault members "api_version" "" text⟩
  | .array (a :: b :: c :: rest) => do
    let fourth ←
      match rest with
      | [] => some ""
      | [d] => text d
      | _ => none
    return ⟨← text a, ← text b, ← text c, fourth⟩
  | _ => none

/-- An operation: its name, or an object with its name as the only member and `null` as the value. -/
def operation : Form Operation
  | .string s => Operation.ofWireName? s
  | .object [(name, .null)] => Operation.ofWireName? name
  | _ => none

def userInfo : Form UserInfo
  | .object members => do
    return {
      username := ← optional members "username" text
      uid := ← optional members "uid" text
      groups := ← optional members "groups" (listOf text)
      extra := ← optional members "extra" (mapOf (listOf text)) }
  | _ => none

end Form

namespace Request

/-- The part of a raw `kind` that a member names, empty unless the kind is an object with that text. -/
def kindPart (members : Members Json) (part : String) : String :=
  (((Members.find? "kind" members).bind (Json.member? part)).bind Json.text?).getD ""

/-- The resource of a request that names none: the group and version written in its `kind` object. -/
def standInResource (members : Members Json) : GroupVersionResource :=
  ⟨kindPart members "group", kindPart members "version", "", ""⟩

/-- The request that some members spell, in an envelope of some type. -/
def ofMembers? (types : TypeMeta) (members : Members Json) : Option Request := do
  return {
    types
    uid := ← Form.required members "uid" Form.text
    kind := ← Form.required members "kind" Form.kind
    resource := ← Form.withDefault members "resource" (standInResource members) Form.resource
    subResource := ← Form.optional members "subResource" Form.text
    requestKind := ← Form.optional members "requestKind" Form.kind
    requestResource := ← Form.optional members "requestResource" Form.resource
    requestSubResource := ← Form.optional members "requestSubResource" Form.text
    name := ← Form.withDefault members "name" "" Form.text
    inNamespace := ← Form.optional members "namespace" Form.text
    operation := ← Form.withDefault members "operation" .create Form.operation
    userInfo := ← Form.withDefault members "userInfo" {} Form.userInfo
    object := ← Form.optional members "object" Form.object
    oldObject := ← Form.optional members "oldObject" Form.object
    dryRun := ← Form.withDefault members "dryRun" false Form.flag
    options := ← Form.optional members "options" Form.any }

end Request

end AdmissionGate.Review
