import AdmissionGate.Http.Answer
import AdmissionGate.Http.Target
import AdmissionGate.IoError
import AdmissionGate.Metrics.Exposition

/-!
# Probes

Beside the gate stands a listener for probes.  It says that the process is alive, whether the gate takes requests, and what
has been counted.  Only `GET` and `HEAD` are served.
-/

namespace AdmissionGate

/-- What the probes tell. -/
structure Health where
  ready : Bool := false
  metrics : Metrics := {}
deriving DecidableEq, Repr

namespace Health

def metricsContentType : String := "text/plain; version=0.0.4; charset=utf-8"

def page? (health : Health) (path : String) : Option Http.Answer :=
  if path = "/healthz" then some (.text 200 "ok")
  else if path = "/readyz" then
    some (if health.ready then .text 200 "ready" else .text 503 "not ready")
  else if path = "/metrics" then
    some (.content 200 metricsContentType (Text.Utf8.encode health.metrics.exposition.toList))
  else none

/-- The answer to a probe.  Where nothing is found below the root, no length is announced. -/
def answer (health : Health) (method : String) (target : Http.Target) : Http.Answer :=
  match health.page? target.path with
  | none => if target.isRooted then .bare 404 else (Http.Answer.bare 404).withLength
  | some page =>
    if method = "GET" then page.withLength
    else if method = "HEAD" then page.withLength.withoutBody
    else (Http.Answer.bare 405).withHeader "allow" "GET,HEAD" |>.withLength

end Health

/-! ### The end of the listener for probes -/

/-- How the task of a listener ended. -/
inductive TaskEnd where
  | returned
  | failed (cause : IoError)
  | cancelled
  /-- With the message of the panic. -/
  | panicked (message : String)
deriving DecidableEq, Repr

/-- Why the listener for probes is gone. -/
inductive HealthError where
  | exited
  | failed (cause : IoError)
  | panicked (report : String)
deriving DecidableEq, Repr

namespace HealthError

/-- The error that an end of the task amounts to; the listener never returns by itself.  `task` is the task's number. -/
def ofTaskEnd (task : String) : TaskEnd → HealthError
  | .returned => exited
  | .failed cause => failed cause
  | .cancelled => panicked ("task " ++ task ++ " was cancelled")
  | .panicked message => panicked ("task " ++ task ++ " panicked with message " ++ Text.quoted message)

def message : HealthError → String
  | exited => "health server exited unexpectedly"
  | failed cause => "health server failed: " ++ cause.message
  | panicked report => "health server task panicked: " ++ report

def record : HealthError → String
  | exited => "Exited"
  | failed cause => "Io(" ++ cause.record ++ ")"
  | panicked report => "Panicked(" ++ Text.quoted report ++ ")"

end HealthError

end AdmissionGate
