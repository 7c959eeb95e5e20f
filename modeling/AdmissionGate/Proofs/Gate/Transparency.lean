import AdmissionGate.Proofs.Gate.InOrder

/-!
# Metrics are transparent

Counting happens on the way out, between the decision about an answer and its sending.  It changes nothing but the metrics, and
nothing on the way in looks at them.  So a gate that keeps metrics gives the answers of one that does not, and what it has counted
could be told from the exchanges of the other.
-/

namespace AdmissionGate.Gate

open Http (Message)

section Runs

variable (gate : Gate)

/-! ### The same calls before -/

theorem serve_congr_of_calls (message : Message) {first second : State} (same : first.calls = second.calls) :
    (gate.serve first message).2 = (gate.serve second message).2 ∧
      (gate.serve first message).1.calls = (gate.serve second message).1.calls := by
  simp only [serve, State.after, same, and_self]

/-- What a run does depends on the calls before it, not on what has been counted. -/
theorem run_congr_of_calls (messages : List Message) {first second : State} (same : first.calls = second.calls) :
    (gate.run first messages).2 = (gate.run second messages).2 ∧
      (gate.run first messages).1.calls = (gate.run second messages).1.calls := by
  induction messages generalizing first second with
  | nil => exact ⟨rfl, same⟩
  | cons message rest ih =>
    obtain ⟨exchanged, called⟩ := gate.serve_congr_of_calls message same
    obtain ⟨exchanges, calls⟩ := ih called
    refine ⟨?_, calls⟩
    simp only [run]
    rw [exchanged, exchanges]

/-! ### What is counted on the way -/

/-- What a run counts is told from its exchanges, one after another. -/
theorem metrics_run (messages : List Message) (state : State) :
    (gate.run state messages).1.metrics =
      state.metrics.map (((gate.run state messages).2.filterMap Exchange.record?).foldl Metrics.record) := by
  induction messages generalizing state with
  | nil => simp [run]
  | cons message rest ih =>
    simp only [run]
    rw [ih, serve, State.metrics_after, Option.map_map]
    -- the exchange is recorded in front of those that follow, or leaves no record
    cases recorded : (gate.exchange state.calls message).record? with
    | none =>
      rw [List.filterMap_cons_none recorded]
      rfl
    | some record =>
      rw [List.filterMap_cons_some recorded]
      rfl

/-! ### With metrics and without -/

/-- Whether keeping metrics shows in nothing but the metrics, after a gate has served some messages. -/
structure Transparent (messages : List Message) : Prop where
  /-- Every message gets the same answer after the same time. -/
  exchanges : (gate.run (.fresh true) messages).2 = (gate.run (.fresh false) messages).2
  calls : (gate.run (.fresh true) messages).1.calls = (gate.run (.fresh false) messages).1.calls
  callCount : ∀ route, (gate.run (.fresh true) messages).1.callCount route =
    (gate.run (.fresh false) messages).1.callCount route
  metered : (gate.run (.fresh true) messages).1.metrics =
    some (((gate.run (.fresh false) messages).2.filterMap Exchange.record?).foldl Metrics.record {})
  unmetered : (gate.run (.fresh false) messages).1.metrics = none
  /-- Either run counts on its ways out. -/
  inOrder : ∀ metered, (messages.mapM gate.serveInOrder).run (.fresh metered) =
    ((gate.run (.fresh metered) messages).2, (gate.run (.fresh metered) messages).1)

theorem metrics_transparent (messages : List Message) : gate.Transparent messages := by
  have same : (State.fresh true).calls = (State.fresh false).calls := rfl
  obtain ⟨exchanges, calls⟩ := gate.run_congr_of_calls messages same
  refine ⟨exchanges, calls, ?_, ?_, ?_, ?_⟩
  · intro route
    rw [State.callCount, State.callCount, calls]
  · rw [metrics_run, exchanges]
    rfl
  · rw [metrics_run]
    rfl
  · intro metered
    exact gate.run_mapM_serveInOrder messages (.fresh metered)

end Runs

end AdmissionGate.Gate
