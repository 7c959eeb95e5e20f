import AdmissionGate.Configuration
import AdmissionGate.KindSet
import AdmissionGate.Settings
import AdmissionGate.Tls.Identity

/-!
# Startup

Before anything is served the configuration is read from the variables and the identity from its files, in this order.
-/

namespace AdmissionGate

/-- What the program finds when it starts. -/
structure Surroundings where
  /-- The value of a variable, if it is set. -/
  lookup : String → Option String
  contentOf : String → Except IoError (List UInt8)

/-- Why the program does not start. -/
inductive StartupError where
  | configuration (error : ConfigurationError)
  | identity (error : Tls.IdentityError)
deriving DecidableEq, Repr

namespace StartupError

def message : StartupError → String
  | configuration error => error.message
  | identity error => error.message

def record : StartupError → String
  | configuration error => error.record
  | identity error => error.record

end StartupError

/-- What the program has when it has started. -/
structure Startup where
  configuration : Configuration
  identity : Tls.Identity

namespace Startup

def load (surroundings : Surroundings) : Except StartupError Startup :=
  match Configuration.load surroundings.lookup with
  | .error error => .error (.configuration error)
  | .ok configuration =>
    match Tls.Identity.ofFiles surroundings.contentOf configuration.certificatePath configuration.keyPath with
    | .error error => .error (.identity error)
    | .ok identity => .ok { configuration, identity }

/-- The kinds that pass without being looked at. -/
def kinds (startup : Startup) : KindSet :=
  KindSet.ofList startup.configuration.filterKinds

/-- The grace period of a stop, in milliseconds. -/
def grace (startup : Startup) : Nat :=
  startup.configuration.shutdownGrace * 1000

end Startup

end AdmissionGate
