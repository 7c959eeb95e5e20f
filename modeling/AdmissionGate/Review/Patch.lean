import AdmissionGate.Json.Writer
import AdmissionGate.Review.Response

/-!
# Patches

What a response may change in the object: a list of operations, each at a place that a path points to.
-/

namespace AdmissionGate.Review

/-- One change in an object. -/
inductive PatchOperation where
  | add (path : String) (value : Json)
  | remove (path : String)
  | replace (path : String) (value : Json)
  | move (source path : String)
  | copy (source path : String)
  | test (path : String) (value : Json)
deriving DecidableEq, Repr

namespace PatchOperation

/-- An operation as a value, with its members in the usual order. -/
def toJson : PatchOperation → Json
  | add path value => .object [("op", .string "add"), ("path", .string path), ("value", value)]
  | remove path => .object [("op", .string "remove"), ("path", .string path)]
  | replace path value => .object [("op", .string "replace"), ("path", .string path), ("value", value)]
  | move source path => .object [("op", .string "move"), ("from", .string source), ("path", .string path)]
  | copy source path => .object [("op", .string "copy"), ("from", .string source), ("path", .string path)]
  | test path value => .object [("op", .string "test"), ("path", .string path), ("value", value)]

end PatchOperation

/-- The response with a patch of some operations. -/
def Response.withPatch (response : Response) (operations : List PatchOperation) : Response :=
  { response with
    patch := some (Json.octets (.array (operations.map PatchOperation.toJson)))
    patchType := some .jsonPatch }

end AdmissionGate.Review
