import AdmissionGate.Gate.Run
import AdmissionGate.Proofs.Decision.Dispatch
import AdmissionGate.Proofs.Review.DecodedRequest
import AdmissionGate.Proofs.Review.ResponseRoundTrip

/-!
# How exchanges end

What each ending says about the message and the handlers.  Only a request that has been decided is answered with 200, and
then its route is the one of the path and its body is the one that holds the request.
-/

namespace AdmissionGate

open Review (Request Response DecodeError)

/-! ### Decisions -/

namespace Decider

theorem decide_exempt (decider : Decider Timed) (route : Route) {request : Request}
    (exempt : request.kind.kind ∈ decider.kinds.kinds) :
    decider.decide route.path request = ⟨(Response.ofRequest request, .exempt), some 0⟩ :=
  decide_of_exempt decider route.path exempt

theorem decide_handled (decider : Decider Timed) (route : Route) {request : Request}
    (looked : request.kind.kind ∉ decider.kinds.kinds) :
    decider.decide route.path request =
      ⟨((decider.handlers.get route request).value.addressedTo request, .handled route),
        (decider.handlers.get route request).delay⟩ := by
  have delay : Timed.addDelay (decider.handlers.get route request).delay (some 0) =
      (decider.handlers.get route request).delay := by
    cases (decider.handlers.get route request).delay <;> rfl
  rw [decide_of_handled decider route looked]
  exact congrArg (Timed.mk _) delay

/-- Every decision carries the identity and the envelope of its request. -/
theorem decide_addressed (decider : Decider Timed) (route : Route) (request : Request) :
    (decider.decide route.path request).value.1.uid = request.uid ∧
      (decider.decide route.path request).value.1.types = request.types := by
  by_cases exempt : request.kind.kind ∈ decider.kinds.kinds
  · rw [decide_exempt decider route exempt]
    exact ⟨rfl, rfl⟩
  · rw [decide_handled decider route exempt]
    exact ⟨rfl, rfl⟩

end Decider

/-! ### Fitting an answer to its message -/

theorem status_fitAnswer (message : Http.Message) (answer : Http.Answer) :
    (fitAnswer message answer).status = answer.status := by
  rw [fitAnswer]
  split
  · rfl
  · split
    · rfl
    · split <;> rfl

theorem body_fitAnswer {message : Http.Message} (notHead : message.method ≠ "HEAD")
    (notConnect : message.method ≠ "CONNECT") (answer : Http.Answer) : (fitAnswer message answer).body = answer.body := by
  have notSilenced : ¬ (message.method = "CONNECT" ∧ answer.isSuccess = true) := fun h => notConnect h.1
  rw [fitAnswer, if_neg notSilenced, if_neg notHead]
  split <;> rfl

/-! ### Endings -/

theorem Ending.exists_of_status_answer {ending : Ending} (h : ending.answer.status = 200) :
    ∃ route request outcome response, ending = .decided route request outcome response := by
  cases ending with
  | overdue _ => cases h
  | oversized => cases h
  | unknownPath => cases h
  | unreadable failure => cases failure <;> cases h
  | rejected error => cases error <;> cases h
  | decided route request outcome response => exact ⟨route, request, outcome, response, rfl⟩

/-- Whether an exchange is answered with a response: by the status 200, and by a body that is read back as the response unless
    the method of the message leaves none. -/
structure Exchange.Tells (exchange : Exchange) (response : Response) : Prop where
  status : exchange.answer.status = 200
  body : exchange.message.method ≠ "HEAD" → exchange.message.method ≠ "CONNECT" →
    Review.ReadsAs exchange.answer.body response

theorem Exchange.tells_of_answer {exchange : Exchange} {response : Response}
    (given : exchange.answer = fitAnswer exchange.message (Review.encode response)) : exchange.Tells response where
  status := by
    rw [given, status_fitAnswer]
    rfl
  body notHead notConnect := by
    rw [given, body_fitAnswer notHead notConnect]
    exact Review.readsAs_encode response

theorem Ending.of_status_timeout {ending : Ending} (h : ending.answer.status = 408) :
    (∃ call, ending = .overdue call) ∨ ending = .unreadable .timedOut := by
  cases ending with
  | overdue call => exact .inl ⟨call, rfl⟩
  | unreadable failure => cases failure <;> first | exact .inr rfl | cases h
  | rejected error => cases error <;> cases h
  | oversized | unknownPath | decided _ _ _ _ => cases h

theorem Ending.of_status_size {ending : Ending} (h : ending.answer.status = 413) :
    ending = .oversized ∨ ending = .unreadable .tooLarge := by
  cases ending with
  | oversized => exact .inl rfl
  | unreadable failure => cases failure <;> first | exact .inr rfl | cases h
  | rejected error => cases error <;> cases h
  | overdue _ | unknownPath | decided _ _ _ _ => cases h

namespace Gate

/-- Taking a message in, with what has been found on the way: one case for each outcome. -/
inductive Receives (gate : Gate) (message : Http.Message) : Nat × Except Ending (Route × Request) → Prop where
  | oversized : gate.isOversized message = true → Receives gate message (0, .error .oversized)
  | unknownPath :
      gate.isOversized message = false → (∀ route : Route, message.target.path ≠ route.path) →
      Receives gate message (0, .error .unknownPath)
  | unreadable {route : Route} {time : Nat} {failure : Http.BodyFailure} :
      gate.isOversized message = false → message.target.path = route.path →
      message.body.read (gate.bodyLimit message) gate.settings.readTimeout = (time, .error failure) →
      Receives gate message (time, .error (.unreadable failure))
  | rejected {route : Route} {time : Nat} {e : DecodeError} :
      gate.isOversized message = false → message.target.path = route.path →
      message.body.read (gate.bodyLimit message) gate.settings.readTimeout = (time, .ok message.body.octets) →
      Review.decode message.contentType message.body.octets = .error e →
      Receives gate message (time, .error (.rejected e))
  | admitted {route : Route} {time : Nat} {request : Request} :
      gate.isOversized message = false → message.target.path = route.path →
      message.body.read (gate.bodyLimit message) gate.settings.readTimeout = (time, .ok message.body.octets) →
      Review.decode message.contentType message.body.octets = .ok request →
      Receives gate message (time, .ok (route, request))

theorem octets_of_read_eq_ok {body : Http.Body} {limit timeout time : Nat} {octets : List UInt8}
    (h : body.read limit timeout = (time, .ok octets)) : octets = body.octets := by
  unfold Http.Body.read at h
  split at h
  · cases h
    rfl
  · cases h

theorem receives (gate : Gate) (message : Http.Message) : Receives gate message (gate.receive message) := by
  unfold receive
  split
  · rename_i declared
    exact .oversized declared
  · rename_i declared
    have within : gate.isOversized message = false := Bool.eq_false_iff.mpr declared
    split
    · rename_i unnamed
      exact .unknownPath within (Route.ofPath?_eq_none_iff.mp unnamed)
    · rename_i route named
      have path := Route.ofPath?_eq_some_iff.mp named
      split
      · rename_i time failure read
        exact .unreadable within path read
      · rename_i time octets read
        have whole := octets_of_read_eq_ok read
        subst whole
        split
        · rename_i e decoded
          exact .rejected within path read decoded
        · rename_i request decoded
          exact .admitted within path read decoded

/-- How an exchange ends, and when, with what has been found on the way. -/
inductive Ends (gate : Gate) (calls : List Call) (message : Http.Message) : Ending × Nat → Prop where
  | overdue {time : Nat} {result : Except Ending (Route × Request)} :
      Receives gate message (time, result) → gate.settings.writeTimeout ≤ time →
      Ends gate calls message (.overdue none, gate.settings.writeTimeout)
  | refused {time : Nat} {e : Ending} :
      Receives gate message (time, .error e) → time < gate.settings.writeTimeout → Ends gate calls message (e, time)
  | decided {route : Route} {time : Nat} {request : Request} {response : Response} {outcome : Outcome} {delay : Nat} :
      Receives gate message (time, .ok (route, request)) →
      (gate.decider calls).decide route.path request = ⟨(response, outcome), some delay⟩ →
      time + delay < gate.settings.writeTimeout →
      Ends gate calls message (.decided route request outcome response, time + delay)
  | abandoned {route : Route} {time : Nat} {request : Request} {decision : Timed (Response × Outcome)} :
      Receives gate message (time, .ok (route, request)) → time < gate.settings.writeTimeout →
      (gate.decider calls).decide route.path request = decision →
      (∀ delay, decision.delay = some delay → gate.settings.writeTimeout ≤ time + delay) →
      Ends gate calls message
        (.overdue (Ending.decided route request decision.value.2 decision.value.1).call?, gate.settings.writeTimeout)

theorem ends (gate : Gate) (calls : List Call) (message : Http.Message) :
    Ends gate calls message (gate.ending calls message) := by
  have received := receives gate message
  unfold ending
  generalize gate.receive message = taken at received
  obtain ⟨time, result⟩ := taken
  simp only
  split
  · rename_i late
    exact .overdue received late
  · rename_i early
    have inTime : time < gate.settings.writeTimeout := Nat.lt_of_not_le early
    cases result with
    | error e => exact .refused received inTime
    | ok admitted =>
      obtain ⟨route, request⟩ := admitted
      simp only [conclude]
      split
      · rename_i delay takes
        split
        · rename_i answered
          exact .decided received (congrArg (Timed.mk _) takes) answered
        · rename_i late
          refine .abandoned received inTime rfl ?_
          intro other takes'
          rw [takes, Option.some_inj] at takes'
          omega
      · rename_i never
        refine .abandoned received inTime rfl ?_
        intro delay takes
        rw [never] at takes
        cases takes

theorem of_ending_eq_decided {gate : Gate} {calls : List Call} {message : Http.Message} {route : Route}
    {request : Request} {outcome : Outcome} {response : Response}
    (h : (gate.ending calls message).1 = .decided route request outcome response) :
    message.target.path = route.path ∧ Review.decode message.contentType message.body.octets = .ok request ∧
      ((gate.decider calls).decide route.path request).value = (response, outcome) := by
  have ended := ends gate calls message
  generalize gate.ending calls message = result at h ended
  cases ended with
  | overdue _ _ => cases h
  | refused received _ => cases received <;> cases h
  | decided received decision _ =>
    cases h
    cases received with
    | admitted _ path _ decoded => exact ⟨path, decoded, congrArg Timed.value decision⟩
  | abandoned _ _ _ _ => cases h

theorem of_ending_eq_oversized {gate : Gate} {calls : List Call} {message : Http.Message}
    (h : (gate.ending calls message).1 = .oversized) : gate.isOversized message = true := by
  have ended := ends gate calls message
  generalize gate.ending calls message = result at h ended
  cases ended with
  | refused received _ =>
    cases received with
    | oversized declared => exact declared
    | _ => cases h
  | _ => cases h

theorem of_ending_eq_unreadable {gate : Gate} {calls : List Call} {message : Http.Message} {failure : Http.BodyFailure}
    (h : (gate.ending calls message).1 = .unreadable failure) :
    gate.isOversized message = false ∧ ∃ time, time < gate.settings.writeTimeout ∧
      message.body.read (gate.bodyLimit message) gate.settings.readTimeout = (time, .error failure) := by
  have ended := ends gate calls message
  generalize gate.ending calls message = result at h ended
  cases ended with
  | @refused time _ received early =>
    cases received with
    | unreadable within _ read =>
      cases h
      exact ⟨within, time, early, read⟩
    | _ => cases h
  | _ => cases h

/-- A handler is at work when the time is up only if the body had come in before and holds a request that is looked at. -/
theorem of_ending_eq_overdue {gate : Gate} {calls : List Call} {message : Http.Message} {call : Option Call}
    (h : (gate.ending calls message).1 = .overdue call) :
    (call = none ∧
      gate.settings.writeTimeout ≤ (message.body.read (gate.bodyLimit message) gate.settings.readTimeout).1) ∨
    ∃ route request time, call = some ⟨route, request⟩ ∧ message.target.path = route.path ∧
      message.body.read (gate.bodyLimit message) gate.settings.readTimeout = (time, .ok message.body.octets) ∧
      time < gate.settings.writeTimeout ∧ Review.decode message.contentType message.body.octets = .ok request ∧
      request.kind.kind ∉ gate.kinds.kinds := by
  have ended := ends gate calls message
  generalize gate.ending calls message = result at h ended
  cases ended with
  | overdue received late =>
    cases h
    left
    refine ⟨rfl, ?_⟩
    cases received with
    | oversized _ | unknownPath _ _ => exact Nat.le_trans late (Nat.zero_le _)
    | unreadable _ _ read | rejected _ _ read _ | admitted _ _ read _ =>
      rw [read]
      exact late
  | refused received _ => cases received <;> cases h
  | decided _ _ _ => cases h
  | @abandoned route time request decision received early decided late =>
    right
    cases received with
    | admitted _ path read decoded =>
      subst decided
      by_cases exempt : request.kind.kind ∈ gate.kinds.kinds
      · -- a request that is not looked at is decided at once
        have atOnce := congrArg Timed.delay (Decider.decide_exempt (gate.decider calls) route exempt)
        exact absurd (late 0 atOnce) (Nat.not_le_of_lt early)
      · have handled := Decider.decide_handled (gate.decider calls) route exempt
        rw [handled] at h
        cases h
        exact ⟨route, request, time, rfl, path, read, early, decoded, exempt⟩

/-- A handler is called only by its own path, and gets the request that the body holds. -/
theorem of_call?_ending {gate : Gate} {calls : List Call} {message : Http.Message} {call : Call}
    (h : (gate.ending calls message).1.call? = some call) :
    message.target.path = call.route.path ∧
      Review.decode message.contentType message.body.octets = .ok call.request := by
  cases ended : (gate.ending calls message).1 with
  | overdue called =>
    rw [ended] at h
    cases h
    rcases of_ending_eq_overdue ended with ⟨none, -⟩ | ⟨route, request, time, same, path, -, -, decoded, -⟩
    · cases none
    · cases same
      exact ⟨path, decoded⟩
  | decided route request outcome response =>
    obtain ⟨path, decoded, decision⟩ := of_ending_eq_decided ended
    rw [ended] at h
    by_cases exempt : request.kind.kind ∈ gate.kinds.kinds
    · -- then there is no call
      rw [Decider.decide_exempt (gate.decider calls) route exempt] at decision
      cases decision
      cases h
    · rw [Decider.decide_handled (gate.decider calls) route exempt] at decision
      cases decision
      cases h
      exact ⟨path, decoded⟩
  | oversized | unknownPath | unreadable _ | rejected _ =>
    rw [ended] at h
    cases h

theorem status_exchange {gate : Gate} {calls : List Call} {message : Http.Message} :
    (gate.exchange calls message).answer.status = (gate.ending calls message).1.answer.status :=
  status_fitAnswer _ _

end Gate

end AdmissionGate
