import AdmissionGate.Http.Body
import AdmissionGate.Http.Target
import AdmissionGate.Numeral

/-!
# Messages

What a client sends: a method, a target, header fields and a body.  A message is well formed if the method and the names of
the fields are tokens, the target can be read and no value of a field holds a control character other than a tab.
-/

namespace AdmissionGate.Http

/-- A header field: its name in lower case and its value. -/
structure Field where
  name : String
  value : List UInt8
deriving DecidableEq, Repr

/-- What a client sends. -/
structure Message where
  method : String
  target : Target
  headers : List Field
  body : Body
deriving DecidableEq, Repr

def isTokenChar (c : Char) : Bool :=
  c.isAlphanum || "!#$%&'*+-.^_\x60|~".toList.contains c

def isToken (s : String) : Bool :=
  !s.isEmpty && s.toList.all isTokenChar

/-- Whether an octet may stand in the value of a header field. -/
def isValueOctet (b : UInt8) : Bool :=
  (32 ≤ b && b != 127) || b == 9

namespace Field

def nameLimit : Nat := 65535

/-- The header field with a name in any case, if both of its parts are well formed. -/
def of? (name : String) (value : List UInt8) : Option Field :=
  if isToken name && decide (name.length ≤ nameLimit) && value.all isValueOctet then some ⟨name.toLower, value⟩
  else none

/-- The value as a text, if it has only visible ASCII characters, spaces and tabs. -/
def text? (field : Field) : Option String :=
  if field.value.all fun b => (32 ≤ b && b < 127) || b == 9 then
    some (String.ofList (field.value.map fun b => Char.ofNat b.toNat))
  else none

end Field

namespace Message

/-- The message that some parts give, if they are well formed. -/
def ofParts? (method target : String) (headers : List (String × List UInt8)) (body : Body) : Option Message := do
  if !isToken method then none
  let target ← Target.parse target
  let headers ← headers.mapM fun header => Field.of? header.1 header.2
  return { method, target, headers, body }

def header? (message : Message) (name : String) : Option Field :=
  message.headers.find? fun field => field.name == name

/-- The content type that the first field of that name declares in plain ASCII. -/
def contentType (message : Message) : Option String :=
  (message.header? "content-type").bind Field.text?

/-- The length that the first field of that name declares, if it spells a number of 64 bits. -/
def declaredLength (message : Message) : Option Nat := do
  let field ← message.header? "content-length"
  let text ← field.text?
  (Numeral.parse 64 text.toList).toOption

end Message

end AdmissionGate.Http
