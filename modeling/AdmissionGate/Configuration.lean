import AdmissionGate.Text.Blank
import AdmissionGate.Text.Quoted
import AdmissionGate.Numeral
import AdmissionGate.KindList

/-!
# Configuration

Nine named variables set up the gate.  A variable that is not set leaves its default.  Paths are taken as they are, the
kind list is split, and numbers are read from the trimmed text; ports have 16 bits, the other numbers 64.  The variables
with numbers are read in a fixed order, and the first one that cannot be read is blamed, with its text as it was set.
-/

namespace AdmissionGate

/-- The variables that set up the gate. -/
inductive Variable where
  | certificatePath
  | keyPath
  | port
  | filterKinds
  | readTimeout
  | writeTimeout
  | shutdownGrace
  | maxBodyBytes
  | healthPort
deriving DecidableEq, Repr

namespace Variable

def all : List Variable :=
  [certificatePath, keyPath, port, filterKinds, readTimeout, writeTimeout, shutdownGrace, maxBodyBytes, healthPort]

def name : Variable → String
  | certificatePath => "WEBHOOK_CERT_PATH"
  | keyPath => "WEBHOOK_KEY_PATH"
  | port => "WEBHOOK_PORT"
  | filterKinds => "WEBHOOK_FILTER_KINDS"
  | readTimeout => "WEBHOOK_READ_TIMEOUT_SECS"
  | writeTimeout => "WEBHOOK_WRITE_TIMEOUT_SECS"
  | shutdownGrace => "WEBHOOK_SHUTDOWN_GRACE_SECS"
  | maxBodyBytes => "WEBHOOK_MAX_BODY_BYTES"
  | healthPort => "HEALTH_PORT"

end Variable

/-- A variable whose text is no number of its width. -/
structure ConfigurationError where
  blamed : Variable
  /-- The text as it was set, not trimmed. -/
  value : String
  reason : NumeralError
deriving DecidableEq, Repr

namespace ConfigurationError

def message (e : ConfigurationError) : String :=
  "invalid value for " ++ e.blamed.name ++ ": " ++ Text.quoted e.value ++ " (" ++ e.reason.message ++ ")"

def record (e : ConfigurationError) : String :=
  "InvalidValue \x7b name: " ++ Text.quoted e.blamed.name ++ ", value: " ++ Text.quoted e.value
    ++ ", reason: " ++ Text.quoted e.reason.message ++ " \x7d"

end ConfigurationError

/-- How the gate is set up.  Times are in seconds. -/
structure Configuration where
  certificatePath : String := "/etc/webhook/certs/tls.crt"
  keyPath : String := "/etc/webhook/certs/tls.key"
  port : Nat := 443
  /-- The kinds that pass without being looked at, as listed. -/
  filterKinds : List String := []
  readTimeout : Nat := 15
  writeTimeout : Nat := 15
  shutdownGrace : Nat := 5
  maxBodyBytes : Nat := 3 * 1024 * 1024
  healthPort : Nat := 8080
deriving DecidableEq, Repr

namespace Configuration

def standard : Configuration := {}

/-- Read a variable that holds a number of some width. -/
def readNumber (lookup : String → Option String) (setting : Variable) (width standard : Nat) :
    Except ConfigurationError Nat :=
  match lookup setting.name with
  | none => .ok standard
  | some value =>
    match Numeral.parse width (Text.trimChars value.toList) with
    | .ok n => .ok n
    | .error reason => .error ⟨setting, value, reason⟩

def load (lookup : String → Option String) : Except ConfigurationError Configuration := do
  let port ← readNumber lookup .port 16 standard.port
  let readTimeout ← readNumber lookup .readTimeout 64 standard.readTimeout
  let writeTimeout ← readNumber lookup .writeTimeout 64 standard.writeTimeout
  let shutdownGrace ← readNumber lookup .shutdownGrace 64 standard.shutdownGrace
  let maxBodyBytes ← readNumber lookup .maxBodyBytes 64 standard.maxBodyBytes
  let healthPort ← readNumber lookup .healthPort 16 standard.healthPort
  return {
    certificatePath := (lookup Variable.certificatePath.name).getD standard.certificatePath
    keyPath := (lookup Variable.keyPath.name).getD standard.keyPath
    port
    filterKinds := ((lookup Variable.filterKinds.name).map KindList.split).getD []
    readTimeout
    writeTimeout
    shutdownGrace
    maxBodyBytes
    healthPort }

end Configuration

end AdmissionGate
