import AdmissionGate.Text.Utf8

/-!
# Answers

What goes back to the client of an exchange: a status, header fields and a body.
-/

namespace AdmissionGate.Http

/-- What goes back to the client. -/
structure Answer where
  status : Nat
  /-- Header fields with their names in lower case, in the order in which they were set. -/
  headers : List (String × String) := []
  body : List UInt8 := []
deriving DecidableEq, Repr

def plainText : String := "text/plain; charset=utf-8"

namespace Answer

def bare (status : Nat) : Answer where
  status

def content (status : Nat) (contentType : String) (body : List UInt8) : Answer where
  status
  headers := [("content-type", contentType)]
  body

def text (status : Nat) (message : String) : Answer :=
  content status plainText (Text.Utf8.encode message.toList)

def withHeader (answer : Answer) (name value : String) : Answer :=
  { answer with headers := answer.headers ++ [(name, value)] }

/-- The answer with the length of its body announced. -/
def withLength (answer : Answer) : Answer :=
  answer.withHeader "content-length" (toString answer.body.length)

def withoutBody (answer : Answer) : Answer :=
  { answer with body := [] }

def isSuccess (answer : Answer) : Bool :=
  200 ≤ answer.status && answer.status < 300

end Answer

end AdmissionGate.Http
