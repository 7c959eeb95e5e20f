import AdmissionGate.KindSet
import AdmissionGate.Route
import AdmissionGate.Review.Response

/-!
# Decisions

A request goes to the handler of its path, unless its kind is exempt; the kind is looked at first.  A request that no
handler sees is allowed.  Whatever a handler answers, the answer carries the identity and the envelope type of the
request.

Handlers may do what the monad offers: count their calls, take time, fail.
-/

namespace AdmissionGate

open Review (Request Response)

abbrev Handler (m : Type → Type) := Request → m Response

/-- One handler for each route. -/
structure Handlers (m : Type → Type) where
  mutation : Handler m
  validation : Handler m
  policyValidation : Handler m

def Handlers.get {m : Type → Type} (handlers : Handlers m) : Route → Handler m
  | .mutation => handlers.mutation
  | .validation => handlers.validation
  | .policyValidation => handlers.policyValidation

/-- The handlers that a function of the route gives. -/
def Handlers.ofRoutes {m : Type → Type} (handler : Route → Handler m) : Handlers m :=
  ⟨handler .mutation, handler .validation, handler .policyValidation⟩

def allowAll {m : Type → Type} [Pure m] : Handler m := fun request => pure (Response.ofRequest request)

/-- What became of a request. -/
inductive Outcome where
  /-- Its kind passes without being looked at. -/
  | exempt
  /-- The handler of a route has decided it. -/
  | handled (route : Route)
  /-- Its path has no handler. -/
  | unrouted
deriving DecidableEq, Repr

/-- Who decides requests. -/
structure Decider (m : Type → Type) where
  /-- The kinds that are exempt. -/
  kinds : KindSet
  handlers : Handlers m

def Decider.decide {m : Type → Type} [Monad m] (decider : Decider m) (path : String) (request : Request) :
    m (Response × Outcome) :=
  if decider.kinds.exempts request.kind.kind then
    pure (Response.ofRequest request, .exempt)
  else
    match Route.ofPath? path with
    | some route => do
      let response ← decider.handlers.get route request
      return (response.addressedTo request, .handled route)
    | none => pure (Response.ofRequest request, .unrouted)

end AdmissionGate
