import AdmissionGate.Proofs.Gate.Endings
import AdmissionGate.Proofs.Gate.Independence

/-!
# Serving in order

The exchange that a message begins is told at once, and what is remembered is told from the exchange.  In the order in which things
happen, the path of a message is looked up anew at each of three places: on the way in, for the handler and for the label of the
decision; and things are counted on the way out, before the answer is sent.  It comes to the same, because a path that gets past the
first place is the path of a route.
-/

namespace AdmissionGate

open Http (Message)
open Review (Request Response)

namespace Route

/-- The label under which a decision on a path is counted. -/
def labelOn (path : String) : String :=
  ((ofPath? path).map label).getD "unknown"

theorem labelOn_path (route : Route) : labelOn route.path = route.label := by
  rw [labelOn, ofPath?_path]
  rfl

end Route

theorem Decider.outcome_decide (decider : Decider Timed) (route : Route) (request : Request) :
    (decider.decide route.path request).value.2 = .exempt ∨
      (decider.decide route.path request).value.2 = .handled route := by
  by_cases exempt : request.kind.kind ∈ decider.kinds.kinds
  · rw [decide_exempt decider route exempt]
    exact .inl rfl
  · rw [decide_handled decider route exempt]
    exact .inr rfl

namespace Gate

/-- Count something, if metrics are kept. -/
def State.count (record : Record) (state : State) : State :=
  { state with metrics := state.metrics.map fun metrics => metrics.record record }

/-- Remember a call of a handler. -/
def State.note (call : Call) (state : State) : State :=
  { state with calls := call :: state.calls }

/-- Wait for a decision on a request that has come in at some time, and count it before it is sent.  When the time is up before,
    nothing is counted any more. -/
def awaitInOrder (gate : Gate) (message : Message) (time : Nat) (route : Route) (request : Request)
    (decision : Timed (Response × Outcome)) : StateM State Exchange := do
  let (response, outcome) := decision.value
  let call? := (Ending.decided route request outcome response).call?
  if let some call := call? then
    modify (State.note call)
  match decision.delay with
  | none => return ⟨message, .overdue call?, gate.settings.writeTimeout⟩
  | some delay =>
    let elapsed := time + delay
    if elapsed < gate.settings.writeTimeout then
      let label := Route.labelOn message.target.path
      modify (State.count (.admission label response.allowed (outcome = .exempt) (Float.ofNat elapsed / 1000)))
      return ⟨message, .decided route request outcome response, elapsed⟩
    else return ⟨message, .overdue call?, gate.settings.writeTimeout⟩

/-- Serve a message in the order in which things happen.  Besides a decision there are two ways out on which something is counted: a
    body that cannot be read, and one that holds no review. -/
def serveInOrder (gate : Gate) (message : Message) : StateM State Exchange := do
  let (time, result) := gate.receive message
  if gate.settings.writeTimeout ≤ time then
    return ⟨message, .overdue none, gate.settings.writeTimeout⟩
  else
    match result with
    | .error (.unreadable failure) =>
      modify (State.count (.rejection failure.status))
      return ⟨message, .unreadable failure, time⟩
    | .error (.rejected error) =>
      modify (State.count (.rejection error.status))
      return ⟨message, .rejected error, time⟩
    | .error ending => return ⟨message, ending, time⟩
    | .ok (route, request) =>
      let state ← get
      gate.awaitInOrder message time route request ((gate.decider state.calls).decide message.target.path request)

section InOrder

variable {message : Message} {route : Route}

/-- What is remembered after an exchange is its call and then its record. -/
theorem after_eq (state : State) (exchange : Exchange) :
    state.after exchange = exchange.record?.elim id State.count (exchange.ending.call?.elim id State.note state) := by
  cases recorded : exchange.record? with
  | none => cases called : exchange.ending.call? <;> simp [State.after, State.note, recorded, called]
  | some record => cases called : exchange.ending.call? <;> simp [State.after, State.note, State.count, recorded, called]

theorem run_awaitInOrder (gate : Gate) (named : message.target.path = route.path) (time : Nat) (request : Request)
    (state : State) :
    (gate.awaitInOrder message time route request ((gate.decider state.calls).decide route.path request)).run state =
      (⟨message, (gate.conclude state.calls time route request).1, (gate.conclude state.calls time route request).2⟩,
        state.after ⟨message, (gate.conclude state.calls time route request).1,
          (gate.conclude state.calls time route request).2⟩) := by
  have outcomes := Decider.outcome_decide (gate.decider state.calls) route request
  have label : Route.labelOn message.target.path = route.label := by rw [named, Route.labelOn_path]
  rw [after_eq]
  unfold conclude awaitInOrder
  generalize (gate.decider state.calls).decide route.path request = decision at outcomes
  obtain ⟨⟨response, outcome⟩, delay⟩ := decision
  simp only at outcomes ⊢
  rw [label]
  -- once it is known whether a handler was called and whether the time was up, both sides compute
  cases delay with
  | none => rcases outcomes with rfl | rfl <;> rfl
  | some delay =>
    by_cases early : time + delay < gate.settings.writeTimeout
    · simp only [if_pos early]
      rcases outcomes with rfl | rfl <;> rfl
    · simp only [if_neg early]
      rcases outcomes with rfl | rfl <;> rfl

theorem run_serveInOrder (gate : Gate) (message : Message) (state : State) :
    (gate.serveInOrder message).run state = ((gate.serve state message).2, (gate.serve state message).1) := by
  have received := receives gate message
  unfold serveInOrder serve exchange ending
  generalize gate.receive message = taken at received
  simp only [after_eq]
  split
  · rfl
  · cases received with
    | oversized _ | unknownPath _ _ | unreadable _ _ _ | rejected _ _ _ _ => rfl
    | @admitted route time request _ named _ _ =>
      -- the path that is looked up anew is that of the route found before
      have decided := run_awaitInOrder gate named time request state
      rw [after_eq, ← named] at decided
      exact decided

theorem run_mapM_serveInOrder (gate : Gate) (messages : List Message) (state : State) :
    (messages.mapM gate.serveInOrder).run state = ((gate.run state messages).2, (gate.run state messages).1) := by
  induction messages generalizing state with
  | nil => rfl
  | cons message rest ih =>
    rw [List.mapM_cons, StateT.run_bind, run_serveInOrder]
    simp only [StateT.run_bind, ih, run]
    rfl

end InOrder

end Gate

end AdmissionGate
