import AdmissionGate.Gate.Exchange

/-!
# Runs

A gate serves one message after another.  It remembers the calls of its handlers and, if it keeps metrics, what it has
counted.
-/

namespace AdmissionGate.Gate

/-- What a gate remembers. -/
structure State where
  /-- The calls of its handlers, the latest first. -/
  calls : List Call := []
  /-- What it has counted, if it keeps metrics. -/
  metrics : Option Metrics := none

namespace State

/-- A gate that has served nothing, with or without metrics. -/
def fresh (metered : Bool) : State where
  metrics := if metered then some {} else none

def after (state : State) (exchange : Exchange) : State where
  calls := exchange.ending.call?.toList ++ state.calls
  metrics := state.metrics.map fun metrics =>
    match exchange.record? with
    | none => metrics
    | some record => metrics.record record

/-- How often the handler of a route has been called. -/
def callCount (state : State) (route : Route) : Nat :=
  state.calls.countP fun call => call.route == route

end State

def serve (gate : Gate) (state : State) (message : Http.Message) : State × Exchange :=
  let exchange := gate.exchange state.calls message
  (state.after exchange, exchange)

/-- Serve messages one after another: the state at the end and every exchange. -/
def run (gate : Gate) (state : State) : List Http.Message → State × List Exchange
  | [] => (state, [])
  | message :: rest =>
    let (next, exchange) := gate.serve state message
    let (last, exchanges) := gate.run next rest
    (last, exchange :: exchanges)

end AdmissionGate.Gate
