import Mathlib
import AdmissionGate.Http.Message
import AdmissionGate.Text.Utf8

/-!
# Declared content types

A field declares a text if its octets are visible ASCII, and then the text has these octets.  So a message declares JSON just
if the octets of its first content type are those of `application/json`.
-/

namespace AdmissionGate.Http

namespace Field

end Field

namespace Message

/-- Whether the first content type of a message is, octet for octet, the one of JSON. -/
def DeclaresJson (message : Message) : Prop :=
  ∃ field, message.headers.find? (fun field => field.name == "content-type") = some field ∧
    field.value = Text.Utf8.encode "application/json".toList

end Message

end AdmissionGate.Http
