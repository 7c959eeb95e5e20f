import AdmissionGate.Review.Form
import AdmissionGate.Review.Timestamp

/-!
# Metadata of an object

What every object of the cluster says about itself: its name and place, its labels and owners, who manages which of its
fields.  Every field may be absent, and `null` counts as absent; fields that are not known are passed over.
-/

namespace AdmissionGate.Review

open Json (Members)

/-- An object that another one depends on. -/
structure OwnerReference where
  apiVersion : String
  kind : String
  name : String
  uid : String
  controller : Option Bool
  blockOwnerDeletion : Option Bool
deriving DecidableEq, Repr

/-- The fields of an object that one manager has set. -/
structure ManagedFields where
  apiVersion : Option String
  fieldsType : Option String
  fields : Option Json
  manager : Option String
  operation : Option String
  subresource : Option String
  time : Option Timestamp
deriving DecidableEq, Repr

/-- What an object says about itself. -/
structure Metadata where
  name : Option String := none
  inNamespace : Option String := none
  uid : Option String := none
  generateName : Option String := none
  resourceVersion : Option String := none
  selfLink : Option String := none
  generation : Option Int := none
  deletionGracePeriodSeconds : Option Int := none
  creationTimestamp : Option Timestamp := none
  deletionTimestamp : Option Timestamp := none
  labels : Option (Members String) := none
  annotations : Option (Members String) := none
  finalizers : Option (List String) := none
  ownerReferences : Option (List OwnerReference) := none
  managedFields : Option (List ManagedFields) := none
deriving DecidableEq, Repr

namespace Form

def timestamp : Form Timestamp
  | .string s => Timestamp.parse s
  | _ => none

/-- A reference to an owner.  A text that is absent or `null` is empty. -/
def ownerReference : Form OwnerReference
  | .object members => do
    let textOrEmpty (name : String) := withDefault members name "" (orNullAs "" text)
    return {
      apiVersion := ← textOrEmpty "apiVersion"
      kind := ← textOrEmpty "kind"
      name := ← textOrEmpty "name"
      uid := ← textOrEmpty "uid"
      controller := ← optional members "controller" flag
      blockOwnerDeletion := ← optional members "blockOwnerDeletion" flag }
  | _ => none

def managedFields : Form ManagedFields
  | .object members => do
    return {
      apiVersion := ← optional members "apiVersion" text
      fieldsType := ← optional members "fieldsType" text
      fields := ← optional members "fieldsV1" any
      manager := ← optional members "manager" text
      operation := ← optional members "operation" text
      subresource := ← optional members "subresource" text
      time := ← optional members "time" timestamp }
  | _ => none

/-- Metadata. -/
def metadata : Form Metadata
  | .object members => do
    return {
      name := ← optional members "name" text
      inNamespace := ← optional members "namespace" text
      uid := ← optional members "uid" text
      generateName := ← optional members "generateName" text
      resourceVersion := ← optional members "resourceVersion" text
      selfLink := ← optional members "selfLink" text
      generation := ← optional members "generation" signedWord
      deletionGracePeriodSeconds := ← optional members "deletionGracePeriodSeconds" signedWord
      creationTimestamp := ← optional members "creationTimestamp" timestamp
      deletionTimestamp := ← optional members "deletionTimestamp" timestamp
      labels := ← optional members "labels" (mapOf text)
      annotations := ← optional members "annotations" (mapOf text)
      finalizers := ← optional members "finalizers" (listOf text)
      ownerReferences := ← optional members "ownerReferences" (listOf ownerReference)
      managedFields := ← optional members "managedFields" (listOf managedFields) }
  | _ => none

end Form

end AdmissionGate.Review
