import AdmissionGate.Proofs.Gate.Endings
import AdmissionGate.Proofs.Metrics.Counting

/-!
# The metrics account for every answer

After any run of a gate that keeps metrics, each counter is the number of exchanges of some sort: answered requests by route and
verdict, those among them whose kind is exempt, refused bodies by status.  The calls that a handler did not get to answer are
the exchanges that the write timer ended while it was at work.

The sorts are told from the message and the answer of an exchange.  An exchange is recorded just when it is answered, so one
more exchange keeps the accounts, and with it a whole run.
-/

namespace AdmissionGate

open Http (Message)
open Review (Request Response)

/-! ### Sorts of exchanges -/

/-- The request that the body of a message holds. -/
def Http.Message.request? (message : Message) : Option Request :=
  (Review.decode message.contentType message.body.octets).toOption

theorem Http.Message.request?_eq_some_iff {message : Message} {request : Request} :
    message.request? = some request ↔ Review.decode message.contentType message.body.octets = .ok request := by
  rw [request?]
  cases Review.decode message.contentType message.body.octets with
  | ok held => simp [Except.toOption]
  | error e => simp [Except.toOption]

/-- The response that was sent, if a request was decided. -/
def Exchange.response? (exchange : Exchange) : Option Response :=
  match exchange.ending with
  | .decided _ _ _ response => some response
  | _ => none

namespace Gate

/-- Whether the read timer goes off, and before the write timer. -/
def isStalled (gate : Gate) (message : Message) : Bool :=
  match message.body.read (gate.bodyLimit message) gate.settings.readTimeout with
  | (time, .error .timedOut) => time < gate.settings.writeTimeout
  | _ => false

/-- Whether a body is read to its end before the write timer goes off. -/
def isTakenIn (gate : Gate) (message : Message) : Bool :=
  match message.body.read (gate.bodyLimit message) gate.settings.readTimeout with
  | (time, .ok _) => time < gate.settings.writeTimeout
  | _ => false

theorem isStalled_iff {gate : Gate} {message : Message} :
    gate.isStalled message = true ↔ ∃ time, time < gate.settings.writeTimeout ∧
      message.body.read (gate.bodyLimit message) gate.settings.readTimeout = (time, .error .timedOut) := by
  rw [isStalled]
  split
  · rename_i time read
    simp [read]
  · rename_i other
    simp only [Bool.false_eq_true, false_iff]
    rintro ⟨time, -, read⟩
    exact other time read

theorem isTakenIn_iff {gate : Gate} {message : Message} :
    gate.isTakenIn message = true ↔ ∃ time octets, time < gate.settings.writeTimeout ∧
      message.body.read (gate.bodyLimit message) gate.settings.readTimeout = (time, .ok octets) := by
  rw [isTakenIn]
  split
  · rename_i time octets read
    simp [read]
  · rename_i other
    simp only [Bool.false_eq_true, false_iff]
    rintro ⟨time, octets, -, read⟩
    exact other time octets read

/-- A request on a route got an answer with a verdict. -/
def Answers (route : Route) (allowed : Bool) (exchange : Exchange) : Prop :=
  exchange.answer.status = 200 ∧ exchange.message.target.path = route.path ∧
    exchange.response?.map Response.allowed = some allowed

/-- A request on a route got an answer, and its kind is exempt. -/
def Passes (gate : Gate) (route : Route) (exchange : Exchange) : Prop :=
  exchange.answer.status = 200 ∧ exchange.message.target.path = route.path ∧
    (exchange.message.request?.any fun request => gate.kinds.exempts request.kind.kind) = true

/-- A body was refused for its size, and not up front for the length that it declares. -/
def Overflows (gate : Gate) (exchange : Exchange) : Prop :=
  exchange.answer.status = 413 ∧ gate.isOversized exchange.message = false

/-- The read timer put an end to a body. -/
def Stalls (gate : Gate) (exchange : Exchange) : Prop :=
  exchange.answer.status = 408 ∧ gate.isStalled exchange.message = true

/-- The write timer went off while the handler of a route was at work. -/
def Abandons (gate : Gate) (route : Route) (exchange : Exchange) : Prop :=
  exchange.answer.status = 408 ∧ exchange.message.target.path = route.path ∧ gate.isTakenIn exchange.message = true ∧
    (exchange.message.request?.any fun request => !gate.kinds.exempts request.kind.kind) = true

instance (route : Route) (allowed : Bool) : DecidablePred (Answers route allowed) :=
  fun _ => inferInstanceAs (Decidable (_ ∧ _ ∧ _))

instance (gate : Gate) (route : Route) : DecidablePred (gate.Passes route) :=
  fun _ => inferInstanceAs (Decidable (_ ∧ _ ∧ _))

instance (gate : Gate) : DecidablePred gate.Overflows :=
  fun _ => inferInstanceAs (Decidable (_ ∧ _))

instance (gate : Gate) : DecidablePred gate.Stalls :=
  fun _ => inferInstanceAs (Decidable (_ ∧ _))

instance (gate : Gate) (route : Route) : DecidablePred (gate.Abandons route) :=
  fun _ => inferInstanceAs (Decidable (_ ∧ _ ∧ _ ∧ _))

/-! ### How the exchanges of a sort end -/

section Sorts

variable {gate : Gate} {calls : List Call} {message : Message}

theorem answers_iff {route : Route} {allowed : Bool} :
    Answers route allowed (gate.exchange calls message) ↔ ∃ request outcome response,
      (gate.ending calls message).1 = .decided route request outcome response ∧ response.allowed = allowed := by
  rw [Answers, status_exchange]
  constructor
  · rintro ⟨answered, path, allows⟩
    obtain ⟨other, request, outcome, response, ended⟩ := Ending.exists_of_status_answer answered
    have same : other = route := Route.path_injective ((of_ending_eq_decided ended).1.symm.trans path)
    subst same
    have sent : (gate.exchange calls message).response? = some response := by
      rw [exchange, Exchange.response?, ended]
    rw [sent, Option.map_some, Option.some_inj] at allows
    exact ⟨request, outcome, response, ended, allows⟩
  · rintro ⟨request, outcome, response, ended, rfl⟩
    have sent : (gate.exchange calls message).response? = some response := by
      rw [exchange, Exchange.response?, ended]
    rw [sent, ended]
    exact ⟨rfl, (of_ending_eq_decided ended).1, rfl⟩

theorem passes_iff {route : Route} :
    gate.Passes route (gate.exchange calls message) ↔ ∃ request response,
      (gate.ending calls message).1 = .decided route request .exempt response := by
  rw [Passes, status_exchange]
  constructor
  · rintro ⟨answered, path, exempt⟩
    obtain ⟨other, request, outcome, response, ended⟩ := Ending.exists_of_status_answer answered
    obtain ⟨path', decoded, decision⟩ := of_ending_eq_decided ended
    have same : other = route := Route.path_injective (path'.symm.trans path)
    subst same
    rw [exchange, Message.request?_eq_some_iff.mpr decoded, Option.any_some, KindSet.exempts_iff] at exempt
    rw [Decider.decide_exempt (gate.decider calls) other exempt] at decision
    cases decision
    exact ⟨request, _, ended⟩
  · rintro ⟨request, response, ended⟩
    obtain ⟨path, decoded, decision⟩ := of_ending_eq_decided ended
    rw [ended]
    refine ⟨rfl, path, ?_⟩
    rw [exchange, Message.request?_eq_some_iff.mpr decoded, Option.any_some, KindSet.exempts_iff]
    by_contra looked
    rw [Decider.decide_handled (gate.decider calls) route looked] at decision
    cases decision

theorem overflows_iff :
    gate.Overflows (gate.exchange calls message) ↔ (gate.ending calls message).1 = .unreadable .tooLarge := by
  rw [Overflows, status_exchange, exchange]
  constructor
  · rintro ⟨refused, within⟩
    rcases Ending.of_status_size refused with ended | ended
    · rw [of_ending_eq_oversized ended] at within
      cases within
    · exact ended
  · intro ended
    rw [ended]
    exact ⟨rfl, (of_ending_eq_unreadable ended).1⟩

theorem stalls_iff :
    gate.Stalls (gate.exchange calls message) ↔ (gate.ending calls message).1 = .unreadable .timedOut := by
  rw [Stalls, status_exchange, exchange, isStalled_iff]
  constructor
  · rintro ⟨refused, time, early, read⟩
    rcases Ending.of_status_timeout refused with ⟨call, ended⟩ | ended
    · rcases of_ending_eq_overdue ended with ⟨-, late⟩ | ⟨_, _, _, -, -, read', -⟩
      · rw [read] at late
        exact absurd early (Nat.not_lt_of_le late)
      · rw [read] at read'
        cases read'
    · exact ended
  · intro ended
    rw [ended]
    exact ⟨rfl, (of_ending_eq_unreadable ended).2⟩

theorem abandons_iff {route : Route} :
    gate.Abandons route (gate.exchange calls message) ↔ ∃ request,
      (gate.ending calls message).1 = .overdue (some ⟨route, request⟩) := by
  rw [Abandons, status_exchange, exchange, isTakenIn_iff]
  constructor
  · rintro ⟨refused, path, ⟨time, octets, early, read⟩, -⟩
    rcases Ending.of_status_timeout refused with ⟨call, ended⟩ | ended
    · rcases of_ending_eq_overdue ended with ⟨-, late⟩ | ⟨other, request, _, rfl, path', -⟩
      · rw [read] at late
        exact absurd early (Nat.not_lt_of_le late)
      · rw [Route.path_injective (path'.symm.trans path)] at ended
        exact ⟨request, ended⟩
    · obtain ⟨-, _, -, read'⟩ := of_ending_eq_unreadable ended
      rw [read] at read'
      cases read'
  · rintro ⟨request, ended⟩
    rcases of_ending_eq_overdue ended with ⟨none, -⟩ | ⟨_, _, time, same, path, read, early, decoded, looked⟩
    · cases none
    · cases same
      rw [ended, Message.request?_eq_some_iff.mpr decoded]
      refine ⟨rfl, path, ⟨time, _, early, read⟩, ?_⟩
      rw [Option.any_some, Bool.not_eq_true', ← Bool.not_eq_true, KindSet.exempts_iff]
      exact looked

end Sorts

end Gate

/-! ### What one more exchange adds -/

theorem Route.label_inj {first second : Route} : first.label = second.label ↔ first = second := by
  constructor
  · cases first <;> cases second <;> simp [label]
  · rintro rfl
    rfl

namespace Exchange

/-- What an exchange adds to a counter, if its record adds some part. -/
def adds (exchange : Exchange) (part : Record → Nat) : Nat :=
  (exchange.record?.map part).getD 0

theorem adds_durations (exchange : Exchange) (route : String) :
    exchange.adds (Record.toDurations route) =
      exchange.adds (Record.toRequests route true) + exchange.adds (Record.toRequests route false) := by
  rw [adds, adds, adds]
  cases exchange.record? with
  | none => rfl
  | some record =>
    cases record with
    | rejection status => rfl
    | admission other allowed exempt seconds =>
      by_cases same : route = other
      · cases allowed <;> simp [Record.toDurations, Record.toRequests, same]
      · simp [Record.toDurations, Record.toRequests, same]

end Exchange

namespace Gate

section Adds

variable {gate : Gate} {calls : List Call} {message : Message}

theorem record?_exchange :
    (gate.exchange calls message).record? =
      (gate.ending calls message).1.record? (gate.ending calls message).2 :=
  rfl

theorem adds_requests (route : Route) (allowed : Bool) :
    (gate.exchange calls message).adds (Record.toRequests route.label allowed) =
      if Answers route allowed (gate.exchange calls message) then 1 else 0 := by
  -- how the exchange ended is said by an existential, which has no decision of its own
  classical
  rw [Exchange.adds, record?_exchange]
  simp only [answers_iff]
  cases (gate.ending calls message).1 with
  | decided other request outcome response =>
    simp [Ending.record?, Record.toRequests, Route.label_inj, eq_comm]
  | overdue _ | oversized | unknownPath => simp [Ending.record?]
  | unreadable _ | rejected _ => simp [Ending.record?, Record.toRequests]

theorem adds_exempt (route : Route) :
    (gate.exchange calls message).adds (Record.toExempt route.label) =
      if gate.Passes route (gate.exchange calls message) then 1 else 0 := by
  classical
  rw [Exchange.adds, record?_exchange]
  simp only [passes_iff]
  cases (gate.ending calls message).1 with
  | decided other request outcome response =>
    simp [Ending.record?, Record.toExempt, Route.label_inj, eq_comm]
  | overdue _ | oversized | unknownPath => simp [Ending.record?]
  | unreadable _ | rejected _ => simp [Ending.record?, Record.toExempt]

theorem adds_rejections_status {status : Nat} (counted : status ∈ [400, 415, 417]) :
    (gate.exchange calls message).adds (Record.toRejections status) =
      if (gate.exchange calls message).answer.status = status then 1 else 0 := by
  rw [Exchange.adds, record?_exchange, status_exchange]
  simp only [List.mem_cons, List.not_mem_nil, or_false] at counted
  cases (gate.ending calls message).1 with
  | overdue _ | oversized | unknownPath | decided _ _ _ _ =>
    rcases counted with rfl | rfl | rfl <;> rfl
  | unreadable failure =>
    rcases counted with rfl | rfl | rfl <;> cases failure <;> rfl
  | rejected e =>
    rcases counted with rfl | rfl | rfl <;> cases e <;> rfl

theorem adds_rejections_size :
    (gate.exchange calls message).adds (Record.toRejections 413) =
      if gate.Overflows (gate.exchange calls message) then 1 else 0 := by
  rw [Exchange.adds, record?_exchange]
  simp only [overflows_iff]
  cases (gate.ending calls message).1 with
  | overdue _ | oversized | unknownPath | decided _ _ _ _ => simp [Ending.record?, Record.toRejections]
  | unreadable failure => cases failure <;> simp [Ending.record?, Record.toRejections, Http.BodyFailure.status]
  | rejected e => cases e <;> simp [Ending.record?, Record.toRejections, Review.DecodeError.status]

theorem adds_rejections_timeout :
    (gate.exchange calls message).adds (Record.toRejections 408) =
      if gate.Stalls (gate.exchange calls message) then 1 else 0 := by
  rw [Exchange.adds, record?_exchange]
  simp only [stalls_iff]
  cases (gate.ending calls message).1 with
  | overdue _ | oversized | unknownPath | decided _ _ _ _ => simp [Ending.record?, Record.toRejections]
  | unreadable failure => cases failure <;> simp [Ending.record?, Record.toRejections, Http.BodyFailure.status]
  | rejected e => cases e <;> simp [Ending.record?, Record.toRejections, Review.DecodeError.status]

theorem adds_rejections_other {status : Nat} (uncounted : status ∉ [400, 408, 413, 415, 417]) :
    (gate.exchange calls message).adds (Record.toRejections status) = 0 := by
  rw [Exchange.adds, record?_exchange]
  simp only [List.mem_cons, List.not_mem_nil, or_false, not_or] at uncounted
  cases (gate.ending calls message).1 with
  | overdue _ | oversized | unknownPath | decided _ _ _ _ => simp [Ending.record?, Record.toRejections]
  | unreadable failure =>
    cases failure <;> simp [Ending.record?, Record.toRejections, Http.BodyFailure.status, uncounted]
  | rejected e => cases e <;> simp [Ending.record?, Record.toRejections, Review.DecodeError.status, uncounted]

/-- A request that came on a route is exempt and allowed, or the handler of that route has decided it. -/
theorem decided_cases {route : Route} {request : Request} {outcome : Outcome} {response : Response}
    (h : (gate.ending calls message).1 = .decided route request outcome response) :
    (outcome = .exempt ∧ response.allowed = true) ∨ outcome = .handled route := by
  obtain ⟨-, -, decision⟩ := of_ending_eq_decided h
  by_cases exempt : request.kind.kind ∈ gate.kinds.kinds
  · rw [Decider.decide_exempt (gate.decider calls) route exempt] at decision
    cases decision
    exact .inl ⟨rfl, rfl⟩
  · rw [Decider.decide_handled (gate.decider calls) route exempt] at decision
    cases decision
    exact .inr rfl

theorem Passes.answers {route : Route} (h : gate.Passes route (gate.exchange calls message)) :
    Answers route true (gate.exchange calls message) := by
  obtain ⟨request, response, ended⟩ := passes_iff.mp h
  rcases decided_cases ended with ⟨-, allowed⟩ | handled
  · exact answers_iff.mpr ⟨request, .exempt, response, ended, allowed⟩
  · cases handled

/-- A call of a handler is answered, unless the time is up while it lasts; an answer without a call passed unseen. -/
theorem calls_balance (route : Route) :
    ((gate.exchange calls message).ending.call?.toList.countP fun call => call.route == route) +
        (if gate.Passes route (gate.exchange calls message) then 1 else 0) =
      (if Answers route true (gate.exchange calls message) then 1 else 0) +
        (if Answers route false (gate.exchange calls message) then 1 else 0) +
        (if gate.Abandons route (gate.exchange calls message) then 1 else 0) := by
  classical
  have ended : (gate.exchange calls message).ending = (gate.ending calls message).1 := rfl
  rw [ended]
  simp only [passes_iff, answers_iff, abandons_iff]
  cases shape : (gate.ending calls message).1 with
  | overdue call =>
    cases call with
    | none => simp [Ending.call?]
    | some call =>
      obtain ⟨other, request⟩ := call
      by_cases same : other = route <;> simp [Ending.call?, same]
  | oversized | unknownPath | unreadable _ | rejected _ => simp [Ending.call?]
  | decided other request outcome response =>
    rcases decided_cases shape with ⟨rfl, allowed⟩ | rfl
    · by_cases same : other = route <;> simp [Ending.call?, same, allowed]
    · by_cases same : other = route
      · cases allowed : response.allowed <;> simp [Ending.call?, same, allowed]
      · simp [Ending.call?, same]

end Adds

/-! ### The accounts -/

/-- What the metrics of a gate, and the calls of its handlers, say about the exchanges so far. -/
structure Accounts (gate : Gate) (exchanges : List Exchange) (state : State) (metrics : Metrics) : Prop where
  kept : state.metrics = some metrics
  requests : ∀ route allowed, metrics.requestCount route.label allowed = exchanges.countP (Answers route allowed ·)
  durations : ∀ route : Route, metrics.durationCount route.label =
    metrics.requestCount route.label true + metrics.requestCount route.label false
  exempt : ∀ route, metrics.exemptCount route.label = exchanges.countP (gate.Passes route ·)
  exempt_le : ∀ route : Route, metrics.exemptCount route.label ≤ metrics.requestCount route.label true
  refused : ∀ status ∈ [400, 415, 417], metrics.rejectionCount status = exchanges.countP (·.answer.status = status)
  tooLarge : metrics.rejectionCount 413 = exchanges.countP (gate.Overflows ·)
  timedOut : metrics.rejectionCount 408 = exchanges.countP (gate.Stalls ·)
  uncounted : ∀ status ∉ [400, 408, 413, 415, 417], metrics.rejectionCount status = 0
  /-- The calls of a handler, less those that were answered. -/
  calls : ∀ route, (state.callCount route : Int) -
      (metrics.requestCount route.label true + metrics.requestCount route.label false -
        metrics.exemptCount route.label) =
    exchanges.countP (gate.Abandons route ·)
  /-- An answer with 200 is the response that it is counted for, and is read back as that. -/
  sent : ∀ exchange ∈ exchanges, exchange.answer.status = 200 → ∃ response, exchange.response? = some response ∧
    exchange.answer = fitAnswer exchange.message (Review.encode response) ∧ exchange.Tells response

theorem accounts_fresh (gate : Gate) : gate.Accounts [] (.fresh true) {} where
  kept := rfl
  requests _ _ := rfl
  durations _ := rfl
  exempt _ := rfl
  exempt_le _ := Nat.le_refl 0
  refused _ _ := rfl
  tooLarge := rfl
  timedOut := rfl
  uncounted _ _ := rfl
  calls _ := rfl
  sent _ listed := absurd listed List.not_mem_nil

/-- Whether the counters grow from some metrics to others by what an exchange adds. -/
structure Grows (exchange : Exchange) (before after : Metrics) : Prop where
  requests : ∀ route allowed, after.requestCount route allowed =
    before.requestCount route allowed + exchange.adds (Record.toRequests route allowed)
  exempt : ∀ route, after.exemptCount route = before.exemptCount route + exchange.adds (Record.toExempt route)
  rejections : ∀ status, after.rejectionCount status =
    before.rejectionCount status + exchange.adds (Record.toRejections status)
  durations : ∀ route, after.durationCount route =
    before.durationCount route + exchange.adds (Record.toDurations route)

theorem State.exists_grows {state : State} {metrics : Metrics} (kept : state.metrics = some metrics)
    (exchange : Exchange) : ∃ next, (state.after exchange).metrics = some next ∧ Grows exchange metrics next := by
  rw [State.after, kept]
  cases recorded : exchange.record? with
  | none =>
    have nothing : ∀ part, exchange.adds part = 0 := by
      intro part
      rw [Exchange.adds, recorded]
      rfl
    refine ⟨metrics, rfl, ?_, ?_, ?_, ?_⟩ <;> intros <;> rw [nothing] <;> rfl
  | some record =>
    have adds : ∀ part, exchange.adds part = part record := by
      intro part
      rw [Exchange.adds, recorded]
      rfl
    refine ⟨metrics.record record, rfl, ?_, ?_, ?_, ?_⟩
    · intro route allowed
      rw [adds, Metrics.requestCount_record]
    · intro route
      rw [adds, Metrics.exemptCount_record]
    · intro status
      rw [adds, Metrics.rejectionCount_record]
    · intro route
      rw [adds, Metrics.durationCount_record]

theorem State.callCount_after (state : State) (exchange : Exchange) (route : Route) :
    (state.after exchange).callCount route =
      (exchange.ending.call?.toList.countP fun call => call.route == route) + state.callCount route := by
  rw [callCount, callCount, State.after, List.countP_append]

theorem countP_snoc (sort : Exchange → Prop) [DecidablePred sort] (exchanges : List Exchange) (exchange : Exchange) :
    (exchanges ++ [exchange]).countP (sort ·) = exchanges.countP (sort ·) + if sort exchange then 1 else 0 := by
  simp [List.countP_append, List.countP_cons]

/-- One more exchange keeps the accounts. -/
theorem Accounts.serve {gate : Gate} {exchanges : List Exchange} {state : State} {metrics : Metrics}
    (h : gate.Accounts exchanges state metrics) (message : Message) :
    ∃ next, gate.Accounts (exchanges ++ [(gate.serve state message).2]) (gate.serve state message).1 next := by
  obtain ⟨next, kept, grows⟩ := State.exists_grows h.kept (gate.exchange state.calls message)
  refine ⟨next, ?_⟩
  show gate.Accounts (exchanges ++ [gate.exchange state.calls message])
    (state.after (gate.exchange state.calls message)) next
  -- what the exchange adds to a counter is one just if it is of the sort that is counted there
  refine ⟨kept, ?_, ?_, ?_, ?_, ?_, ?_, ?_, ?_, ?_, ?_⟩
  · intro route allowed
    rw [grows.requests, adds_requests, h.requests, countP_snoc]
  · intro route
    rw [grows.durations, grows.requests, grows.requests, h.durations, Exchange.adds_durations]
    omega
  · intro route
    rw [grows.exempt, adds_exempt, h.exempt, countP_snoc]
  · intro route
    have before := h.exempt_le route
    rw [grows.exempt, grows.requests, adds_exempt, adds_requests]
    by_cases passes : gate.Passes route (gate.exchange state.calls message)
    · rw [if_pos passes, if_pos passes.answers]
      omega
    · rw [if_neg passes]
      omega
  · intro status listed
    rw [grows.rejections, adds_rejections_status listed, h.refused status listed, countP_snoc]
  · rw [grows.rejections, adds_rejections_size, h.tooLarge, countP_snoc]
  · rw [grows.rejections, adds_rejections_timeout, h.timedOut, countP_snoc]
  · intro status unlisted
    rw [grows.rejections, adds_rejections_other unlisted, h.uncounted status unlisted]
  · intro route
    have before := h.calls route
    have balance := @calls_balance gate state.calls message route
    rw [State.callCount_after, grows.requests, grows.requests, grows.exempt, adds_requests, adds_requests, adds_exempt,
      countP_snoc]
    omega
  · intro exchange listed answered
    rcases List.mem_append.mp listed with earlier | last
    · exact h.sent exchange earlier answered
    · rw [List.mem_singleton.mp last] at answered ⊢
      rw [status_exchange] at answered
      obtain ⟨route, request, outcome, response, ended⟩ := Ending.exists_of_status_answer answered
      have given : (gate.exchange state.calls message).answer = fitAnswer message (Review.encode response) := by
        rw [Gate.exchange, Exchange.answer, ended]
        rfl
      refine ⟨response, ?_, given, Exchange.tells_of_answer given⟩
      rw [Gate.exchange, Exchange.response?, ended]

/-- So do any number of exchanges. -/
theorem Accounts.run {gate : Gate} (messages : List Message) {exchanges : List Exchange} {state : State}
    {metrics : Metrics} (h : gate.Accounts exchanges state metrics) :
    ∃ last, gate.Accounts (exchanges ++ (gate.run state messages).2) (gate.run state messages).1 last := by
  induction messages generalizing exchanges state metrics with
  | nil =>
    rw [Gate.run, List.append_nil]
    exact ⟨metrics, h⟩
  | cons message rest ih =>
    obtain ⟨next, served⟩ := h.serve message
    obtain ⟨last, ran⟩ := ih served
    rw [List.append_assoc] at ran
    exact ⟨last, ran⟩

/-- Whatever messages a gate with metrics has served, its metrics account for every exchange. -/
theorem metrics_account (gate : Gate) (messages : List Message) :
    ∃ metrics, gate.Accounts (gate.run (.fresh true) messages).2 (gate.run (.fresh true) messages).1 metrics :=
  Accounts.run messages gate.accounts_fresh

end Gate

end AdmissionGate
