import AdmissionGate.Decision
import AdmissionGate.Http.Message
import AdmissionGate.Metrics.Counters
import AdmissionGate.Review.Decoding
import AdmissionGate.Review.Encoding

/-!
# How an exchange can end

Every exchange ends in one of six ways.  The ending decides the answer, what is counted and whether a handler was called;
the method only decides how much of the answer is shown.
-/

namespace AdmissionGate

open Review (Request Response DecodeError)

/-- A handler at work on a request. -/
structure Call where
  route : Route
  request : Request
deriving DecidableEq, Repr

/-- How an exchange ends. -/
inductive Ending where
  /-- The time for the whole exchange was up, perhaps while a handler was at work. -/
  | overdue (call : Option Call)
  /-- The declared length of the body is over the limit. -/
  | oversized
  | unknownPath
  /-- The body could not be read to its end. -/
  | unreadable (failure : Http.BodyFailure)
  /-- The body holds no review. -/
  | rejected (error : DecodeError)
  /-- A request that came on a route has been decided. -/
  | decided (route : Route) (request : Request) (outcome : Outcome) (response : Response)
deriving DecidableEq

namespace Ending

/-- The answer, before it is fitted to the method. -/
def answer : Ending → Http.Answer
  | overdue _ => .bare 408
  | oversized => .text 413 "length limit exceeded"
  | unknownPath => .bare 404
  | unreadable failure => .bare failure.status
  | rejected error => .text error.status error.message
  | decided _ _ _ response => Review.encode response

/-- What is counted, after some milliseconds. -/
def record? (elapsed : Nat) : Ending → Option Record
  | unreadable failure => some (.rejection failure.status)
  | rejected error => some (.rejection error.status)
  | decided route _ outcome response =>
    some (.admission route.label response.allowed (outcome = .exempt) (Float.ofNat elapsed / 1000))
  | _ => none

def call? : Ending → Option Call
  | overdue call => call
  | decided _ request (.handled route) _ => some ⟨route, request⟩
  | _ => none

end Ending

/-- Whether answers to a target are fitted to the method: all but those to a place below the root that is no route. -/
def isFitted (target : Http.Target) : Bool :=
  (Route.ofPath? target.path).isSome || !target.isRooted

/-- Fit an answer to the message that it answers.  The length of the whole body is announced, and a `HEAD` message gets no
body; a `CONNECT` message that succeeds gets neither.  An answer that is not to be fitted stays as it is. -/
def fitAnswer (message : Http.Message) (answer : Http.Answer) : Http.Answer :=
  if !isFitted message.target then answer
  else if message.method = "CONNECT" ∧ answer.isSuccess then answer.withoutBody
  else if message.method = "HEAD" then answer.withLength.withoutBody
  else answer.withLength

end AdmissionGate
