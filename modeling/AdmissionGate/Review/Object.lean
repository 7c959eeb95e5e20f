import AdmissionGate.Review.Coordinates
import AdmissionGate.Review.Metadata

/-!
# Objects under review

An object of any kind: its type, its metadata, and all its other members as they came.

The type is taken out of the members `apiVersion` and `kind`, in this order.  The first of them that is no text is taken
out as well but ends the search, and then the object has no type.  So when `apiVersion` is no text, `kind` stays among the
other members.
-/

namespace AdmissionGate.Review

open Json (Members)

/-- An object of any kind. -/
structure Object where
  types : Option TypeMeta
  metadata : Metadata
  /-- The members that are neither metadata nor taken out for the type. -/
  data : Members Json
deriving DecidableEq, Repr

namespace Object

/-- The type that an object's members give, if both parts are texts. -/
def typesOf (members : Members Json) : Option TypeMeta := do
  let apiVersion ← (Members.find? "apiVersion" members).bind Json.text?
  let kind ← (Members.find? "kind" members).bind Json.text?
  return ⟨apiVersion, kind⟩

/-- The members that stay when the type has been taken out. -/
def withoutTypes (members : Members Json) : Members Json :=
  let rest := Members.erase "apiVersion" members
  match Members.find? "apiVersion" members with
  | none | some (.string _) => Members.erase "kind" rest
  | some _ => rest

end Object

namespace Form

/-- An object of any kind; without metadata it has empty metadata. -/
def object : Form Object
  | .object members => do
    let metadata ← withDefault members "metadata" {} metadata
    return {
      types := Object.typesOf members
      metadata
      data := Members.erase "metadata" (Object.withoutTypes members) }
  | _ => none

end Form

end AdmissionGate.Review
