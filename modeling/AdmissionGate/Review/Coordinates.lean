/-!
# Names of kinds and resources

Every object of the cluster has a type, written on it as an API version and a kind, and is addressed by a group, a version
and a kind or a resource.
-/

namespace AdmissionGate.Review

/-- The type written on an object or an envelope. -/
structure TypeMeta where
  apiVersion : String
  kind : String
deriving DecidableEq, Repr

/-- The kind of an object. -/
structure GroupVersionKind where
  group : String
  version : String
  kind : String
deriving DecidableEq, Repr

/-- The resource that an object is served as. -/
structure GroupVersionResource where
  group : String
  version : String
  resource : String
  /-- The group and version once more, as one text; empty unless the request spells it out. -/
  apiVersion : String := ""
deriving DecidableEq, Repr

end AdmissionGate.Review
