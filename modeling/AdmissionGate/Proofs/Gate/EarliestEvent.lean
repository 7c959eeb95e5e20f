import AdmissionGate.Proofs.Gate.DecisionLaw
import AdmissionGate.Proofs.Http.BodyEvents

/-!
# The earliest event decides

On a path that is served, an exchange waits for the first thing that ends the reading of the body, and then perhaps for a
handler; over all of it runs the write timer.  Whichever comes first decides.  A body that is complete in time is answered as
if it had been there at once, unless its handler is still at work when the write timer goes off.
-/

namespace AdmissionGate

open Http (Message)
open Review (Request Response)

/-- The message with the whole body there at once. -/
def Http.Message.prompt (message : Message) : Message :=
  { message with body := .ofOctets message.body.octets }

theorem Http.Message.octets_prompt (message : Message) : message.prompt.body.octets = message.body.octets :=
  Http.Body.octets_ofOctets message.body.octets

namespace Gate

/-- Whether serving a message gives an answer, makes some calls and changes what is counted in some way. -/
structure Yields (gate : Gate) (state : State) (message : Message) (given : Http.Answer) (made : List Call)
    (Counts : Metrics → Metrics → Prop) : Prop where
  answer : (gate.serve state message).2.answer = fitAnswer message given
  status : (gate.serve state message).2.answer.status = given.status
  calls : (gate.serve state message).1.calls = made ++ state.calls
  metrics : Option.Rel Counts state.metrics (gate.serve state message).1.metrics

/-- Whether two messages get the same answer, make the same calls and are counted alike. -/
structure ServesAlike (gate : Gate) (state : State) (message other : Message) : Prop where
  answer : (gate.serve state message).2.answer = (gate.serve state other).2.answer
  calls : (gate.serve state message).1.calls = (gate.serve state other).1.calls
  metrics : Option.Rel Metrics.SameCounts (gate.serve state message).1.metrics (gate.serve state other).1.metrics

/-- Whether the body of a message, once it is there, holds a request that a handler has to look at. -/
def Consults (gate : Gate) (message : Message) (request : Request) : Prop :=
  Review.decode message.contentType message.body.octets = .ok request ∧ request.kind.kind ∉ gate.kinds.kinds

/-- How long the handler of a route takes for a request after some calls, `none` for ever. -/
def handlerDelay (gate : Gate) (calls : List Call) (route : Route) (request : Request) : Option Nat :=
  ((gate.handlers calls).get route request).delay

/-- Whether an event of the body at some time decides the exchange that a message on a route begins. -/
structure DecidedBy (gate : Gate) (state : State) (message : Message) (route : Route) (event : Http.Event)
    (time : Nat) : Prop where
  late : gate.settings.writeTimeout < time → gate.Yields state message (.bare 408) [] (· = ·)
  gap : event = .gap → time < gate.settings.writeTimeout →
    gate.Yields state message (.bare 408) [] (Metrics.CountsRejection 408)
  excess : event = .excess → time < gate.settings.writeTimeout →
    gate.Yields state message (.bare 413) [] (Metrics.CountsRejection 413)
  broken : event = .broken → time < gate.settings.writeTimeout →
    gate.Yields state message (.bare 400) [] (Metrics.CountsRejection 400)
  /-- Nobody has to look at the body. -/
  settled : event = .complete → time < gate.settings.writeTimeout → (∀ request, ¬ gate.Consults message request) →
    gate.ServesAlike state message message.prompt
  /-- A request that passes without being looked at is told that it is allowed. -/
  exempt : event = .complete → time < gate.settings.writeTimeout → ∀ request,
    Review.decode message.contentType message.body.octets = .ok request → request.kind.kind ∈ gate.kinds.kinds →
      (gate.serve state message).2.Tells (Response.ofRequest request)
  /-- The handler answers in time. -/
  answered : event = .complete → time < gate.settings.writeTimeout → ∀ request, gate.Consults message request →
    ∀ delay, gate.handlerDelay state.calls route request = some delay → time + delay < gate.settings.writeTimeout →
    gate.ServesAlike state message message.prompt
  /-- Then the request is told what the handler says, addressed to it. -/
  told : event = .complete → time < gate.settings.writeTimeout → ∀ request, gate.Consults message request →
    ∀ delay, gate.handlerDelay state.calls route request = some delay → time + delay < gate.settings.writeTimeout →
      (gate.serve state message).2.Tells (Row.verdict gate state.calls route request)
  /-- The handler is still at work when the write timer goes off. -/
  abandoned : event = .complete → time < gate.settings.writeTimeout → ∀ request, gate.Consults message request →
    (∀ delay, gate.handlerDelay state.calls route request = some delay → gate.settings.writeTimeout < time + delay) →
    gate.Yields state message (.bare 408) [⟨route, request⟩] (· = ·)

/-! ### From endings to what is seen of them -/

section Seen

variable {gate : Gate} {state : State} {message : Message}

theorem yields_of_ending {ending : Ending} {elapsed : Nat} {Counts : Metrics → Metrics → Prop}
    (h : gate.ending state.calls message = (ending, elapsed))
    (counted : ∀ before : Metrics, Counts before
      (match ending.record? elapsed with
        | none => before
        | some record => before.record record)) :
    gate.Yields state message ending.answer ending.call?.toList Counts := by
  refine ⟨?_, ?_, ?_, ?_⟩
  · rw [serve, exchange_of_ending h, Exchange.answer]
  · rw [serve, exchange_of_ending h, Exchange.answer, status_fitAnswer]
  · rw [serve, exchange_of_ending h, State.after]
  · rw [serve, exchange_of_ending h, State.after]
    cases state.metrics with
    | none => exact .none
    | some before => exact .some (counted before)

theorem tells_of_ending {route : Route} {request : Request} {outcome : Outcome} {response : Response} {elapsed : Nat}
    (h : gate.ending state.calls message = (.decided route request outcome response, elapsed)) :
    (gate.serve state message).2.Tells response := by
  refine Exchange.tells_of_answer ?_
  rw [serve, exchange_of_ending h]
  rfl

theorem sameCounts_of_ending (metrics : Metrics) (ending : Ending) (first second : Nat) :
    Metrics.SameCounts
      (match ending.record? first with
        | none => metrics
        | some record => metrics.record record)
      (match ending.record? second with
        | none => metrics
        | some record => metrics.record record) := by
  -- only answered requests are recorded with a time
  cases ending with
  | decided route request outcome response => exact Metrics.sameCounts_record metrics _ _ _ _ _
  | overdue _ | oversized | unknownPath | unreadable _ | rejected _ => exact .refl _

theorem servesAlike_of_ending {ending : Ending} {first second : Nat}
    (h : gate.ending state.calls message = (ending, first))
    (h' : gate.ending state.calls message.prompt = (ending, second)) :
    gate.ServesAlike state message message.prompt := by
  refine ⟨?_, ?_, ?_⟩
  · rw [serve, serve, exchange_of_ending h, exchange_of_ending h']
    rfl
  · rw [serve, serve, exchange_of_ending h, exchange_of_ending h']
    rfl
  · rw [serve, serve, exchange_of_ending h, exchange_of_ending h', State.after, State.after]
    cases state.metrics with
    | none => exact .none
    | some before => exact .some (sameCounts_of_ending before ending first second)

end Seen

/-! ### What the reading of the body leads to -/

section Reading

variable {gate : Gate} {calls : List Call} {message : Message} {route : Route} {time : Nat}

theorem time_receive (declared : gate.DeclaresWithin message) (path : message.target.path = route.path)
    {result : Except Http.BodyFailure (List UInt8)}
    (read : message.body.read (gate.bodyLimit message) gate.settings.readTimeout = (time, result)) :
    (gate.receive message).1 = time := by
  cases result with
  | error failure => rw [receive_of_read_error declared (isServed_iff.mpr ⟨route, path⟩) read]
  | ok octets => rw [receive_of_read_ok declared path read]

theorem ending_of_late (late : gate.settings.writeTimeout ≤ (gate.receive message).1) :
    gate.ending calls message = (.overdue none, gate.settings.writeTimeout) := by
  rw [ending]
  simp only [if_pos late]

/-- Whether the body of a message on a route has been read to its end by some time. -/
structure Reads (gate : Gate) (message : Message) (route : Route) (time : Nat) : Prop where
  declared : gate.DeclaresWithin message
  path : message.target.path = route.path
  read : message.body.read (gate.bodyLimit message) gate.settings.readTimeout = (time, .ok message.body.octets)
  early : time < gate.settings.writeTimeout

namespace Reads

theorem ending_of_error (h : gate.Reads message route time) {e : Review.DecodeError}
    (decoded : Review.decode message.contentType message.body.octets = .error e) :
    gate.ending calls message = (.rejected e, time) := by
  refine ending_of_receive_error h.early ?_
  rw [receive_of_read_ok h.declared h.path h.read, decoded]

theorem receive_of_ok (h : gate.Reads message route time) {request : Request}
    (decoded : Review.decode message.contentType message.body.octets = .ok request) :
    gate.receive message = (time, .ok (route, request)) := by
  rw [receive_of_read_ok h.declared h.path h.read, decoded]

theorem ending_of_exempt (h : gate.Reads message route time) {request : Request}
    (decoded : Review.decode message.contentType message.body.octets = .ok request)
    (exempt : request.kind.kind ∈ gate.kinds.kinds) :
    gate.ending calls message = (.decided route request .exempt (Response.ofRequest request), time) :=
  ending_of_receive_ok (h.receive_of_ok decoded) (Decider.decide_exempt (gate.decider calls) route exempt) h.early

theorem decide_of_consults {request : Request} (consults : gate.Consults message request) :
    (gate.decider calls).decide route.path request =
      ⟨(Row.verdict gate calls route request, .handled route), gate.handlerDelay calls route request⟩ :=
  Decider.decide_handled (gate.decider calls) route consults.2

theorem ending_of_answered (h : gate.Reads message route time) {request : Request}
    (consults : gate.Consults message request) {delay : Nat}
    (takes : gate.handlerDelay calls route request = some delay) (inTime : time + delay < gate.settings.writeTimeout) :
    gate.ending calls message =
      (.decided route request (.handled route) (Row.verdict gate calls route request), time + delay) :=
  ending_of_receive_ok (h.receive_of_ok consults.1)
    ((decide_of_consults consults).trans (congrArg (Timed.mk _) takes)) inTime

theorem ending_of_abandoned (h : gate.Reads message route time) {request : Request}
    (consults : gate.Consults message request)
    (late : ∀ delay, gate.handlerDelay calls route request = some delay → gate.settings.writeTimeout < time + delay) :
    gate.ending calls message = (.overdue (some ⟨route, request⟩), gate.settings.writeTimeout) := by
  have started : ¬ gate.settings.writeTimeout ≤ time := Nat.not_le_of_lt h.early
  rw [ending, h.receive_of_ok consults.1]
  simp only [if_neg started, conclude, decide_of_consults consults]
  cases takes : gate.handlerDelay calls route request with
  | none => rfl
  | some delay =>
    have unanswered : ¬ time + delay < gate.settings.writeTimeout := Nat.not_lt_of_lt (late delay takes)
    simp only [if_neg unanswered]
    rfl

theorem prompt (h : gate.Reads message route time) (positive : 0 < gate.settings.readTimeout) :
    gate.Reads message.prompt route 0 where
  declared := h.declared
  path := h.path
  read := by
    rw [Http.Message.octets_prompt]
    exact Http.Body.read_ofOctets positive (Http.Body.length_le_of_read h.read)
  early := Nat.zero_lt_of_lt h.early

theorem servesAlike_of_settled {state : State} (h : gate.Reads message route time)
    (positive : 0 < gate.settings.readTimeout) (settled : ∀ request, ¬ gate.Consults message request) :
    gate.ServesAlike state message message.prompt := by
  have atOnce := h.prompt positive
  cases decoded : Review.decode message.contentType message.body.octets with
  | error e =>
    exact servesAlike_of_ending (h.ending_of_error decoded)
      (atOnce.ending_of_error ((congrArg (Review.decode message.contentType) message.octets_prompt).trans decoded))
  | ok request =>
    have exempt : request.kind.kind ∈ gate.kinds.kinds := by
      by_contra looked
      exact settled request ⟨decoded, looked⟩
    exact servesAlike_of_ending (h.ending_of_exempt decoded exempt) (atOnce.ending_of_exempt
      ((congrArg (Review.decode message.contentType) message.octets_prompt).trans decoded) exempt)

theorem servesAlike_of_answered {state : State} (h : gate.Reads message route time)
    (positive : 0 < gate.settings.readTimeout) {request : Request} (consults : gate.Consults message request)
    {delay : Nat} (takes : gate.handlerDelay state.calls route request = some delay)
    (inTime : time + delay < gate.settings.writeTimeout) : gate.ServesAlike state message message.prompt := by
  have atOnce := h.prompt positive
  have consults' : gate.Consults message.prompt request := by
    rw [Consults, Http.Message.octets_prompt]
    exact consults
  exact servesAlike_of_ending (h.ending_of_answered consults takes inTime)
    (atOnce.ending_of_answered consults' takes (by omega))

end Reads

end Reading

/-! ### The first event of the body -/

section FirstEvent

variable {gate : Gate} {state : State} {message : Message} {route : Route} {event : Http.Event} {time : Nat}

theorem yields_of_failure (declared : gate.DeclaresWithin message) (path : message.target.path = route.path)
    {failure : Http.BodyFailure}
    (read : message.body.read (gate.bodyLimit message) gate.settings.readTimeout = (time, .error failure))
    (early : time < gate.settings.writeTimeout) :
    gate.Yields state message (.bare failure.status) [] (Metrics.CountsRejection failure.status) :=
  yields_of_ending
    (ending_of_receive_error early (receive_of_read_error declared (isServed_iff.mpr ⟨route, path⟩) read))
    fun before => Metrics.countsRejection_record before failure.status

theorem decidedBy_of_read (declared : gate.DeclaresWithin message) (path : message.target.path = route.path)
    (positive : 0 < gate.settings.readTimeout)
    (read : message.body.read (gate.bodyLimit message) gate.settings.readTimeout = (time, message.body.outcome event)) :
    gate.DecidedBy state message route event time where
  late late := by
    rw [← time_receive declared path read] at late
    exact yields_of_ending (ending_of_late (Nat.le_of_lt late)) fun _ => rfl
  gap is early := by
    subst is
    exact yields_of_failure declared path read early
  excess is early := by
    subst is
    exact yields_of_failure declared path read early
  broken is early := by
    subst is
    exact yields_of_failure declared path read early
  settled is early settled := by
    subst is
    exact Reads.servesAlike_of_settled ⟨declared, path, read, early⟩ positive settled
  exempt is early request decoded exempt := by
    subst is
    have reads : gate.Reads message route time := ⟨declared, path, read, early⟩
    exact tells_of_ending (reads.ending_of_exempt decoded exempt)
  answered is early request consults delay takes inTime := by
    subst is
    exact Reads.servesAlike_of_answered ⟨declared, path, read, early⟩ positive consults takes inTime
  told is early request consults delay takes inTime := by
    subst is
    have reads : gate.Reads message route time := ⟨declared, path, read, early⟩
    exact tells_of_ending (reads.ending_of_answered consults takes inTime)
  abandoned is early request consults late := by
    subst is
    have reads : gate.Reads message route time := ⟨declared, path, read, early⟩
    exact yields_of_ending (reads.ending_of_abandoned consults late) fun _ => rfl

end FirstEvent

/-- On a path that is served the body has one first event, and it decides the exchange unless the write timer goes off before
    it; then a handler that has been called decides it, unless the write timer goes off before that. -/
theorem earliest_event_decides (gate : Gate) (state : State) (message : Message) (route : Route)
    (path : message.target.path = route.path) (declared : gate.DeclaresWithin message)
    (positive : 0 < gate.settings.readTimeout)
    (apart : ∀ chunk ∈ message.body.chunks, chunk.delay ≠ gate.settings.readTimeout) :
    ∃ event time, Http.Body.First (gate.bodyLimit message) gate.settings.readTimeout message.body event time ∧
      (∀ other time', Http.Body.First (gate.bodyLimit message) gate.settings.readTimeout message.body other time' →
        other = event ∧ time' = time) ∧
      gate.DecidedBy state message route event time := by
  obtain ⟨event, time, first, only, read⟩ := Http.Body.exists_first_read (gate.bodyLimit message) positive apart
  exact ⟨event, time, first, only, decidedBy_of_read declared path positive read⟩

/-- The second chunk of a body comes too late, and later still it would have gone over the limit.  Had it come in time and been
    the end of a review, that would have been answered with what the handler says. -/
theorem earliest_event_decides_gap_and_end :
    let denying : Handlers Timed := .ofRoutes fun _ request => ⟨(Response.ofRequest request).deny "no", some 3⟩
    let narrow : Gate :=
      ⟨.empty, fun _ => denying, { Settings.standard with readTimeout := 5, writeTimeout := 20, maxBodyBytes := 3 }⟩
    let wide : Gate := ⟨.empty, fun _ => denying, { Settings.standard with readTimeout := 5, writeTimeout := 20 }⟩
    let late : Message :=
      ⟨"POST", ⟨"/validate", none⟩, [], ⟨[⟨2, [0x7b]⟩, ⟨10, [0x20, 0x20, 0x7d]⟩], .complete⟩⟩
    let review : Message :=
      ⟨"POST", ⟨"/validate", none⟩, [⟨"content-type", Text.Utf8.encode "application/json".toList⟩],
        ⟨[⟨2, Text.Utf8.encode "\x7b\"request\":\x7b\"uid\":\"u\",".toList⟩,
          ⟨4, Text.Utf8.encode "\"kind\":[\"\",\"v1\",\"Pod\"]\x7d\x7d".toList⟩], .complete⟩⟩
    let denial : Response := { types := ⟨"", ""⟩, uid := "u", allowed := false, status := { message := "no" } }
    ((late.target.path = Route.validation.path ∧ narrow.DeclaresWithin late ∧ 0 < narrow.settings.readTimeout ∧
        ∀ chunk ∈ late.body.chunks, chunk.delay ≠ narrow.settings.readTimeout) ∧
      review.target.path = Route.validation.path ∧ wide.DeclaresWithin review ∧ 0 < wide.settings.readTimeout ∧
        ∀ chunk ∈ review.body.chunks, chunk.delay ≠ wide.settings.readTimeout) ∧
    narrow.Yields (.fresh true) late (.bare 408) [] (Metrics.CountsRejection 408) ∧
      (wide.serve (.fresh true) review).2.Tells denial := by
  intro denying narrow wide late review denial
  have declared : narrow.DeclaresWithin late := declaresWithin_of_undeclared (by decide)
  have apart : ∀ chunk ∈ late.body.chunks, chunk.delay ≠ narrow.settings.readTimeout := by decide
  have declared' : wide.DeclaresWithin review := declaresWithin_of_undeclared (by decide)
  have apart' : ∀ chunk ∈ review.body.chunks, chunk.delay ≠ wide.settings.readTimeout := by decide
  refine ⟨⟨⟨rfl, declared, by decide, apart⟩, rfl, declared', by decide, apart'⟩, ?_, ?_⟩
  · obtain ⟨event, time, -, only, decided⟩ :=
      earliest_event_decides narrow (.fresh true) late .validation rfl declared (by decide) apart
    have first : Http.Body.First (narrow.bodyLimit late) narrow.settings.readTimeout late.body .gap (2 + 5) :=
      ⟨1, (Http.Body.isFirst_gap (by decide)).cons (by decide) (by decide)⟩
    obtain ⟨rfl, rfl⟩ := only .gap (2 + 5) first
    exact decided.gap rfl (by decide)
  · obtain ⟨event, time, -, only, decided⟩ :=
      earliest_event_decides wide (.fresh true) review .validation rfl declared' (by decide) apart'
    have first : Http.Body.First (wide.bodyLimit review) wide.settings.readTimeout review.body .complete (2 + (4 + 0)) :=
      ⟨2, ((Http.Body.isFirst_nil (.complete rfl)).cons (by decide) (by decide)).cons (by decide) (by decide)⟩
    obtain ⟨rfl, rfl⟩ := only .complete (2 + (4 + 0)) first
    have read : (Review.decode review.contentType review.body.octets).map
        (fun request => (request.uid, request.types)) = .ok ("u", ⟨"", ""⟩) := by
      decide +kernel
    obtain ⟨request, decoded, identity⟩ := exists_of_map_eq_ok read
    have verdict : Row.verdict wide [] .validation request = denial := Row.verdict_eq identity
    rw [← verdict]
    exact decided.told rfl (by decide) request ⟨decoded, List.not_mem_nil⟩ 3 rfl (by decide)

end Gate

end AdmissionGate
