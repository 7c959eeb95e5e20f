import AdmissionGate.Configuration

/-!
# Settings of the webhook listener

The part of the configuration that the listener itself needs.  Times are in milliseconds from here on.
-/

namespace AdmissionGate

/-- What the webhook listener needs to know. -/
structure Settings where
  port : Nat
  /-- The longest wait for the next part of a body, in milliseconds. -/
  readTimeout : Nat
  /-- The longest time from the start of a request to its answer, in milliseconds. -/
  writeTimeout : Nat
  maxBodyBytes : Nat
deriving DecidableEq, Repr

namespace Settings

def ofConfiguration (configuration : Configuration) : Settings where
  port := configuration.port
  readTimeout := configuration.readTimeout * 1000
  writeTimeout := configuration.writeTimeout * 1000
  maxBodyBytes := configuration.maxBodyBytes

def standard : Settings := ofConfiguration Configuration.standard

/-- The address that the listener binds: the port on every interface. -/
def address (settings : Settings) : String :=
  "0.0.0.0:" ++ toString settings.port

end Settings

end AdmissionGate
