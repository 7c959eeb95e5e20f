import AdmissionGate.Health
import AdmissionGate.Program.Log
import AdmissionGate.Program.Startup

/-!
# A run of the program

The program loads its configuration and identity, starts the listener for probes and the webhook listener, announces that
it is ready, and waits.  A signal or the end of the listener for probes ends the wait; then the program takes back its
announcement, stops the webhook listener and ends.  If the webhook listener fails, the program ends at once.

The wait looks for both of its causes, for either one first, and goes by the first that it finds.  It looks for a signal by
listening for signals, and from then on they are heard for as long as the process lives.  Before that nobody hears them, and
then a signal kills the process: in the time up to the wait, and also behind it, if the wait looked at the listener for probes
first and found it gone.

A run is driven by events: the program goes on, the wait looks, time passes, and the world does something.  An event that
means nothing to the program at its stage changes nothing.
-/

namespace AdmissionGate.Program

/-- Why the program leaves. -/
inductive Cause where
  | signal
  /-- The listener for probes is gone. -/
  | health (error : HealthError)
deriving DecidableEq, Repr

/-- What the wait looks for. -/
inductive Concern where
  | signal
  /-- That the listener for probes is gone. -/
  | health
deriving DecidableEq, Repr

/-- How a process ends. -/
inductive Exit where
  | success
  /-- With a report on the error, if there is one. -/
  | failure (report : Option String)
  /-- By a signal that nobody heard. -/
  | killed
deriving DecidableEq, Repr

namespace Exit

/-- The code that the process returns; one that is killed returns none. -/
def code? : Exit → Option Nat
  | success => some 0
  | failure _ => some 1
  | killed => none

def report : Exit → String
  | success | failure none | killed => ""
  | failure (some report) => "Error: " ++ report

end Exit

/-- How far a run has come. -/
inductive Stage where
  | loading
  /-- Configuration and identity are there. -/
  | starting (startup : Startup)
  /-- The webhook listener listens, but is not said to run yet. -/
  | opening (startup : Startup)
  /-- The webhook listener runs. -/
  | announcing (startup : Startup)
  | waiting (startup : Startup)
  /-- The wait is over. -/
  | leaving (startup : Startup) (cause : Cause)
  /-- The announcement has been taken back, but the webhook listener has not been told to stop yet. -/
  | withdrawn (startup : Startup) (cause : Cause)
  /-- The webhook listener is said to stop, but still accepts connections. -/
  | closing (startup : Startup) (cause : Cause)
  /-- The webhook listener stops. -/
  | draining (cause : Cause)
  | ended (exit : Exit)

/-- The state of a run. -/
structure State where
  stage : Stage := .loading
  health : Health := {}
  /-- Why the listener for probes is gone, if it is. -/
  healthEnd : Option HealthError := none
  /-- Whether signals are heard. -/
  hears : Bool := false
  /-- Whether a signal has been heard. -/
  heard : Bool := false
  listener : Listener := {}
  /-- The grace periods that the webhook listener has been stopped with. -/
  stops : List Nat := []
  /-- The log, the latest entry first. -/
  log : List Entry := [.starting]

/-- What can happen in a run. -/
inductive Event where
  /-- The program goes on, if it can. -/
  | proceed
  /-- The wait looks what has happened, for one of its concerns first. -/
  | look (first : Concern)
  /-- A signal to terminate arrives. -/
  | signal
  /-- The listener for probes ends. -/
  | healthEnds (task : String) (ending : TaskEnd)
  /-- The webhook listener fails. -/
  | listenerFails (cause : String)
  /-- Something begins on a connection to the webhook listener. -/
  | arrive (connection : Connection)
  /-- A millisecond passes. -/
  | tick

namespace State

def note (state : State) (entries : List Entry) : State :=
  { state with log := entries.reverse ++ state.log }

/-- Whether the listener for probes has been started. -/
def probed (state : State) : Bool :=
  match state.stage with
  | .loading | .ended _ => false
  | _ => true

/-- Set whether the gate is ready. -/
def setReady (state : State) (ready : Bool) : State :=
  { state with health := { state.health with ready } }

def load (surroundings : Surroundings) (state : State) : State :=
  match Startup.load surroundings with
  | .error error => { state with stage := .ended (.failure (some error.record)) }
  | .ok startup => { state with stage := .starting startup }.note [.identityLoaded, .healthStarting]

/-- Let the webhook listener listen. -/
def openUp (state : State) (startup : Startup) : State :=
  { state with stage := .opening startup, listener := state.listener.step .listen }.note
    (if startup.kinds.isEmpty then [] else [.kindsPass startup.kinds.kinds])

/-- Say that the webhook listener runs. -/
def start (state : State) (startup : Startup) : State :=
  { state with stage := .announcing startup, listener := state.listener.step .start }.note [.listenerStarted]

/-- End the wait. -/
def leave (state : State) (startup : Startup) (cause : Cause) : State :=
  { state with stage := .leaving startup cause }.note
    (match cause with
      | .signal => [.signalReceived]
      | .health _ => [])

/-- What has happened so far that ends the wait, as it is found by looking for one of its concerns first. -/
def cause? (state : State) (first : Concern) : Option Cause :=
  let signal := if state.heard then some Cause.signal else none
  let health := state.healthEnd.map .health
  match first with
  | .signal => signal <|> health
  | .health => health <|> signal

/-- Whether signals are heard once the wait has looked.  It does not come to listen for them if it finds the other cause
    first. -/
def listens (state : State) (first : Concern) : Bool :=
  state.hears || first == .signal || state.healthEnd.isNone

/-- Look what has happened. -/
def look (state : State) (startup : Startup) (first : Concern) : State :=
  let looked := { state with hears := state.listens first }
  match state.cause? first with
  | none => looked
  | some cause => looked.leave startup cause

/-- Take back the announcement. -/
def withdraw (state : State) (startup : Startup) (cause : Cause) : State :=
  ({ state with stage := .withdrawn startup cause }.setReady false).note [.notReady]

/-- Say that the webhook listener stops. -/
def stop (state : State) (startup : Startup) (cause : Cause) : State :=
  { state with
    stage := .closing startup cause
    listener := state.listener.step .stop
    stops := startup.grace :: state.stops }.note [.listenerStopping]

/-- Let the webhook listener accept no more. -/
def close (state : State) (startup : Startup) (cause : Cause) : State :=
  { state with stage := .draining cause, listener := state.listener.step (.close startup.grace) }

/-- End the process if the stop has returned. -/
def finish (state : State) (cause : Cause) : State :=
  match state.listener.phase, state.listener.outcome with
  | .stopped, some outcome =>
    let expired := if outcome = .forced then [Entry.graceExpired] else []
    let state := state.note (expired ++ [.listenerStopped outcome, .stopped outcome])
    match cause with
    | .signal => { state with stage := .ended .success }
    | .health error =>
      { state with stage := .ended (.failure (some error.record)) }.note [.leavingAfterHealth error.message]
  | _, _ => state

def proceed (surroundings : Surroundings) (state : State) : State :=
  match state.stage with
  | .loading => state.load surroundings
  | .starting startup => state.openUp startup
  | .opening startup => state.start startup
  | .announcing startup => { state with stage := .waiting startup }.setReady true
  | .leaving startup cause => state.withdraw startup cause
  | .withdrawn startup cause => state.stop startup cause
  | .closing startup cause => state.close startup cause
  | .draining cause => state.finish cause
  | .waiting _ | .ended _ => state

/-- A signal is heard, or it kills the process. -/
def signal (state : State) : State :=
  match state.stage with
  | .ended _ => state
  | _ => if state.hears then { state with heard := true } else { state with stage := .ended .killed }

/-- The webhook listener fails, which ends the process. -/
def failListener (state : State) (cause : String) : State :=
  match state.stage with
  | .ended _ => state
  | _ =>
    if state.listener.accepting ∨ state.listener.phase = .stopping then
      { state with stage := .ended (.failure none) }.note [.listenerFailed cause]
    else state

/-- Something happens to the webhook listener, as long as the process lives. -/
def onListener (state : State) (event : Listener.Event) : State :=
  match state.stage with
  | .ended _ => state
  | _ => { state with listener := state.listener.step event }

def step (surroundings : Surroundings) (state : State) : Event → State
  | .proceed => state.proceed surroundings
  | .look first =>
    match state.stage with
    | .waiting startup => state.look startup first
    | _ => state
  | .signal => state.signal
  | .healthEnds task ending =>
    if state.probed ∧ state.healthEnd = none then
      { state with healthEnd := some (HealthError.ofTaskEnd task ending) }
    else state
  | .listenerFails cause => state.failListener cause
  | .arrive connection => state.onListener (.arrive connection)
  | .tick => state.onListener .tick

def exit? (state : State) : Option Exit :=
  match state.stage with
  | .ended exit => some exit
  | _ => none

def lines (state : State) : List String :=
  (state.log.map Entry.line).reverse

end State

/-- The state after some events, where connections that are cut off take some time to close, in milliseconds. -/
def run (surroundings : Surroundings) (events : List Event) (closing : Nat := 0) : State :=
  events.foldl (State.step surroundings) { listener := { closing } }

end AdmissionGate.Program
