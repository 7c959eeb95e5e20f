import AdmissionGate.KindSet
import AdmissionGate.Listener
import AdmissionGate.Text.Quoted

/-!
# What the program logs

Each entry has a level, a message and perhaps one field.
-/

namespace AdmissionGate.Program

/-- How grave an entry is. -/
inductive Level where
  | info
  | warn
  | error
deriving DecidableEq, Repr

def Level.name : Level → String
  | info => "INFO"
  | warn => "WARN"
  | error => "ERROR"

/-- One entry of the log. -/
inductive Entry where
  | starting
  | identityLoaded
  | healthStarting
  | kindsPass (kinds : List String)
  | listenerStarted
  | signalReceived
  | notReady
  | listenerStopping
  | graceExpired
  | listenerStopped (outcome : StopOutcome)
  | stopped (outcome : StopOutcome)
  | listenerFailed (cause : String)
  | leavingAfterHealth (cause : String)
deriving DecidableEq, Repr

namespace Entry

def level : Entry → Level
  | graceExpired => .warn
  | listenerFailed _ | leavingAfterHealth _ => .error
  | _ => .info

def message : Entry → String
  | starting => "Starting policy-webhook"
  | identityLoaded => "Loaded webhook TLS identity"
  | healthStarting => "Starting health server"
  | kindsPass _ => "Admission requests for these kinds are allowed without processing"
  | listenerStarted => "Started webhook server"
  | signalReceived => "Received shutdown signal, initiating graceful shutdown..."
  | notReady => "Marked webhook as not ready"
  | listenerStopping => "Stopping webhook server"
  | graceExpired => "Grace period expired, closing open connections"
  | listenerStopped _ => "Webhook server stopped"
  | stopped _ => "policy-webhook stopped"
  | listenerFailed _ => "Webhook listener failed"
  | leavingAfterHealth _ => "Exiting after health server failure"

def field? : Entry → Option (String × String)
  | kindsPass kinds => some ("kinds", Text.quotedList kinds)
  | listenerStopped outcome | stopped outcome => some ("outcome", outcome.name)
  | listenerFailed cause => some ("error", "Webhook server error: " ++ cause)
  | leavingAfterHealth cause => some ("error", cause)
  | _ => none

def line (entry : Entry) : String :=
  let head := entry.level.name ++ " " ++ entry.message
  match entry.field? with
  | none => head
  | some (name, value) => head ++ " " ++ name ++ "=" ++ value

end Entry

end AdmissionGate.Program
