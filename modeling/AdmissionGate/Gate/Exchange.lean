import AdmissionGate.Gate.Ending
import AdmissionGate.Settings
import AdmissionGate.Timed

/-!
# Exchanges

The gate takes a message in, and if it holds a request on a route, has it decided.  Taking a message in has a fixed order:
the declared length, the path, the body against the size limit and the read timeout, then the review.  Over all of it runs
the write timeout: what would happen when it goes off, or later, does not happen.
-/

namespace AdmissionGate

open Review (Request Response)

/-- The gate in front of the handlers. -/
structure Gate where
  kinds : KindSet
  /-- The handlers as they answer after some calls, the latest call first. -/
  handlers : List Call → Handlers Timed
  settings : Settings

/-- A message, how the exchange that it began ended, and when. -/
structure Exchange where
  message : Http.Message
  ending : Ending
  /-- In milliseconds since it began. -/
  elapsed : Nat
deriving DecidableEq

namespace Gate

/-- How many octets the body of a message may have, if its declared length is within the limit. -/
def bodyLimit (gate : Gate) (message : Http.Message) : Nat :=
  match message.declaredLength with
  | none => gate.settings.maxBodyBytes
  | some length => min gate.settings.maxBodyBytes length

/-- Whether the declared length of a message is over the limit. -/
def isOversized (gate : Gate) (message : Http.Message) : Bool :=
  match message.declaredLength with
  | none => false
  | some length => decide (gate.settings.maxBodyBytes < length)

/-- The request in a message that came on a route, or how the exchange ends without one; and when that is clear. -/
def receive (gate : Gate) (message : Http.Message) : Nat × Except Ending (Route × Request) :=
  if gate.isOversized message then (0, .error .oversized)
  else
    match Route.ofPath? message.target.path with
    | none => (0, .error .unknownPath)
    | some route =>
      match message.body.read (gate.bodyLimit message) gate.settings.readTimeout with
      | (time, .error failure) => (time, .error (.unreadable failure))
      | (time, .ok octets) =>
        match Review.decode message.contentType octets with
        | .error error => (time, .error (.rejected error))
        | .ok request => (time, .ok (route, request))

/-- The decider after some calls. -/
def decider (gate : Gate) (calls : List Call) : Decider Timed :=
  ⟨gate.kinds, gate.handlers calls⟩

/-- How an exchange ends once a request on a route is there, and when. -/
def conclude (gate : Gate) (calls : List Call) (time : Nat) (route : Route) (request : Request) : Ending × Nat :=
  let decision := (gate.decider calls).decide route.path request
  let ending := Ending.decided route request decision.value.2 decision.value.1
  match decision.delay with
  | some delay =>
    if time + delay < gate.settings.writeTimeout then (ending, time + delay)
    else (.overdue ending.call?, gate.settings.writeTimeout)
  | none => (.overdue ending.call?, gate.settings.writeTimeout)

/-- How the exchange ends that a message begins after some calls, and when. -/
def ending (gate : Gate) (calls : List Call) (message : Http.Message) : Ending × Nat :=
  match gate.receive message with
  | (time, result) =>
    if gate.settings.writeTimeout ≤ time then (.overdue none, gate.settings.writeTimeout)
    else
      match result with
      | .error ending => (ending, time)
      | .ok (route, request) => gate.conclude calls time route request

/-- The exchange that a message begins after some calls. -/
def exchange (gate : Gate) (calls : List Call) (message : Http.Message) : Exchange :=
  let ending := gate.ending calls message
  { message, ending := ending.1, elapsed := ending.2 }

end Gate

/-- The answer to the message that began an exchange. -/
def Exchange.answer (exchange : Exchange) : Http.Answer :=
  fitAnswer exchange.message exchange.ending.answer

def Exchange.record? (exchange : Exchange) : Option Record :=
  exchange.ending.record? exchange.elapsed

end AdmissionGate
