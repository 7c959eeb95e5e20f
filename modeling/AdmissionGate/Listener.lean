import AdmissionGate.Http.Answer

/-!
# The life of a listener

A listener is started once and stopped once.  Its task accepts connections as soon as it listens, which may be before the
listener is said to run.  To stop it, it is first said to stop and then closed, and between the two connections are accepted
as before.  From when it is closed on it waits for the connections that are open to end, but only for a grace period.  If all
of them end before that is over the stop is graceful; otherwise those that are left are cut off, and the listener waits at
most one more second for them to close.

A connection on which nothing goes on is closed at once, so only those are kept here that would hold a stop up: a request is
worked on, or a handshake or the head of a request has not come in whole.  How long that takes and what it comes to is given
with the connection.

Time goes on in milliseconds.  A connection that would end just when the grace period does is cut off.
-/

namespace AdmissionGate

/-- The phases that a listener goes through. -/
inductive Phase where
  | unstarted
  | running
  | stopping
  | stopped
deriving DecidableEq, Repr

def Phase.name : Phase → String
  | unstarted => "Unstarted"
  | running => "Running"
  | stopping => "Stopping"
  | stopped => "Stopped"

/-- How a stop came out. -/
inductive StopOutcome where
  /-- All connections ended within the grace period. -/
  | graceful
  /-- Some were cut off. -/
  | forced
deriving DecidableEq, Repr

def StopOutcome.name : StopOutcome → String
  | graceful => "Graceful"
  | forced => "Forced"

/-- A connection on which something goes on. -/
structure Connection where
  number : Nat
  /-- The time until that ends, in milliseconds, `none` for ever. -/
  remaining : Option Nat
  /-- The answer that it ends with, `none` if there is no request on the connection. -/
  answer? : Option Http.Answer
deriving DecidableEq, Repr

/-- The answer that a connection ends with, under its number. -/
def Connection.reply? (connection : Connection) : Option (Nat × Http.Answer) :=
  connection.answer?.map fun answer => (connection.number, answer)

/-- A listener. -/
structure Listener where
  phase : Phase := .unstarted
  /-- The phases that could be observed so far, the latest first. -/
  observed : List Phase := [.unstarted]
  /-- Whether its task accepts connections. -/
  accepting : Bool := false
  connections : List Connection := []
  /-- The numbers of the connections whose requests have been answered, with the answers, the latest first. -/
  answered : List (Nat × Http.Answer) := []
  /-- How long a stop still waits, in milliseconds. -/
  patience : Nat := 0
  outcome : Option StopOutcome := none
  /-- How long connections take to close when they are cut off, in milliseconds. -/
  closing : Nat := 0
deriving DecidableEq, Repr

namespace Listener

/-- The longest wait for connections that are cut off, in milliseconds. -/
def closingLimit : Nat := 1000

/-- What can happen to a listener. -/
inductive Event where
  /-- Its task takes up work. -/
  | listen
  /-- It is said to run. -/
  | start
  /-- Something begins on a connection. -/
  | arrive (connection : Connection)
  /-- It is said to stop. -/
  | stop
  /-- Its task is told to accept no more, with a grace period in milliseconds for what is open. -/
  | close (grace : Nat)
  /-- A millisecond passes. -/
  | tick
deriving DecidableEq, Repr

def enter (listener : Listener) (phase : Phase) : Listener :=
  { listener with phase, observed := phase :: listener.observed }

/-- Let the connections go that have ended, with the answers to their requests. -/
def deliver (listener : Listener) : Listener :=
  { listener with
    connections := listener.connections.filter fun connection => connection.remaining ≠ some 0
    answered :=
      ((listener.connections.filter fun connection => connection.remaining = some 0).filterMap
        Connection.reply?).reverse ++ listener.answered }

/-- Let a millisecond of work pass. -/
def work (listener : Listener) : Listener :=
  deliver { listener with
    connections := listener.connections.map fun connection =>
      { connection with remaining := connection.remaining.map (· - 1) } }

/-- End a stop that has waited long enough for what was cut off. -/
def release (listener : Listener) : Listener :=
  if listener.patience = 0 then listener.enter .stopped else listener

/-- Cut off what is open. -/
def cutOff (listener : Listener) : Listener :=
  release { listener with
    connections := []
    outcome := some .forced
    patience := min listener.closing closingLimit }

/-- See whether a stop can end or has to. -/
def settle (listener : Listener) : Listener :=
  if listener.connections = [] then { listener with outcome := some .graceful }.enter .stopped
  else if listener.patience = 0 then listener.cutOff
  else listener

/-- One event in the life of a listener; an event that does not fit its state changes nothing. -/
def step (listener : Listener) : Event → Listener
  | .listen => if listener.phase = .unstarted then { listener with accepting := true } else listener
  | .start => if listener.phase = .unstarted ∧ listener.accepting then listener.enter .running else listener
  | .arrive connection =>
    if listener.accepting then deliver { listener with connections := listener.connections ++ [connection] } else listener
  | .stop => if listener.phase = .running then listener.enter .stopping else listener
  | .close grace =>
    if listener.phase = .stopping ∧ listener.accepting then settle { listener with accepting := false, patience := grace }
    else listener
  | .tick =>
    if listener.accepting then listener.work
    else
      match listener.phase, listener.outcome with
      | .stopping, none =>
        let waited := { listener with patience := listener.patience - 1 }
        if waited.patience = 0 then waited.settle else waited.work.settle
      | .stopping, some _ => release { listener with patience := listener.patience - 1 }
      | _, _ => listener

/-- Let time pass until the listener has stopped, but not longer than some milliseconds. -/
def wait : Nat → Listener → Listener
  | 0, listener => listener
  | n + 1, listener => if listener.phase = .stopped then listener else wait n (listener.step .tick)

/-- Close a listener that is said to stop, and wait until it has stopped. -/
def drain (listener : Listener) (grace : Nat) : Listener :=
  wait (grace + closingLimit) (listener.step (.close grace))

/-- Stop a listener, with nothing in between, and wait until it has stopped. -/
def shutDown (listener : Listener) (grace : Nat) : Listener :=
  (listener.step .stop).drain grace

/-- The answer to the request on a connection, if it has been answered. -/
def answerTo? (listener : Listener) (number : Nat) : Option Http.Answer :=
  listener.answered.lookup number

/-- The connections with a request that has not been answered yet. -/
def inFlight (listener : Listener) : List Connection :=
  listener.connections.filter fun connection => connection.answer?.isSome

end Listener

end AdmissionGate
