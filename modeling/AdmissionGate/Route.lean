/-!
# Routes

The gate serves three paths, one for each kind of webhook.  A path names a route only if it is equal to the route's path,
character for character.
-/

namespace AdmissionGate

/-- The webhooks that the gate serves. -/
inductive Route where
  | mutation
  | validation
  | policyValidation
deriving DecidableEq, Repr

namespace Route

def all : List Route := [mutation, validation, policyValidation]

def path : Route → String
  | mutation => "/mutate"
  | validation => "/validate"
  | policyValidation => "/policyvalidate"

/-- The route's name in the log and in the metrics. -/
def label : Route → String
  | mutation => "mutation"
  | validation => "validation"
  | policyValidation => "policy-validation"

def ofPath? (path : String) : Option Route :=
  all.find? fun route => route.path == path

theorem ofPath?_path (route : Route) : ofPath? route.path = some route := by
  cases route <;> decide

theorem path_of_ofPath? {path : String} {route : Route} (h : ofPath? path = some route) : route.path = path := by
  simpa using List.find?_some h

end Route

end AdmissionGate
