import AdmissionGate.Gate.Run
import AdmissionGate.Proofs.Metrics.Commuting

/-!
# Messages do not influence each other

If the handlers look at nothing but the request, a message is answered as if it were the first one, whatever has been served
before.  What a gate remembers then depends on its exchanges alone, and but for the order of the calls and the sums of
durations, not on their order: two exchanges next to each other may change places.
-/

namespace AdmissionGate

open Http (Message)

/-! ### Metrics that may be kept -/

namespace Metrics

variable {first second third : Option Metrics}

theorem rel_refl (metrics : Option Metrics) : Option.Rel CountsAlike metrics metrics := by
  cases metrics with
  | none => exact .none
  | some metrics => exact .some (.refl metrics)

theorem rel_trans (h : Option.Rel CountsAlike first second) (h' : Option.Rel CountsAlike second third) :
    Option.Rel CountsAlike first third := by
  cases h with
  | none => exact h'
  | some before =>
    cases h' with
    | some after => exact .some (before.trans after)

theorem rel_map {f : Metrics → Metrics}
    (keeps : ∀ {metrics other}, CountsAlike metrics other → CountsAlike (f metrics) (f other))
    (h : Option.Rel CountsAlike first second) : Option.Rel CountsAlike (first.map f) (second.map f) := by
  cases h with
  | none => exact .none
  | some alike => exact .some (keeps alike)

end Metrics

namespace Gate

/-! ### States up to the order of what happened -/

/-- Whether two states remember the same calls and have counted the same. -/
structure State.Alike (first second : State) : Prop where
  calls : first.calls.Perm second.calls
  metrics : Option.Rel Metrics.CountsAlike first.metrics second.metrics

namespace State

theorem Alike.refl (state : State) : Alike state state :=
  ⟨.refl _, Metrics.rel_refl _⟩

theorem Alike.trans {first second third : State} (h : Alike first second) (h' : Alike second third) :
    Alike first third :=
  ⟨h.calls.trans h'.calls, Metrics.rel_trans h.metrics h'.metrics⟩

theorem Alike.callCount_eq {first second : State} (h : Alike first second) (route : Route) :
    first.callCount route = second.callCount route :=
  h.calls.countP_eq _

theorem metrics_after (state : State) (exchange : Exchange) :
    (state.after exchange).metrics =
      state.metrics.map fun metrics => (exchange.record?.map metrics.record).getD metrics := by
  rw [after]
  cases exchange.record? <;> rfl

theorem Alike.after {first second : State} (h : Alike first second) (exchange : Exchange) :
    Alike (first.after exchange) (second.after exchange) where
  calls := h.calls.append_left _
  metrics := by
    rw [metrics_after, metrics_after]
    refine Metrics.rel_map ?_ h.metrics
    intro metrics other counted
    cases exchange.record? with
    | none => exact counted
    | some record => exact counted.record record

theorem alike_after_after (state : State) (first second : Exchange) :
    Alike ((state.after first).after second) ((state.after second).after first) where
  calls := by
    simp only [State.after]
    rw [← List.append_assoc, ← List.append_assoc]
    exact List.perm_append_comm.append_right _
  metrics := by
    simp only [metrics_after, Option.map_map]
    cases state.metrics with
    | none => exact .none
    | some metrics =>
      apply Option.Rel.some
      simp only [Function.comp_apply]
      cases first.record? with
      | none => exact .refl _
      | some record =>
        cases second.record? with
        | none => exact .refl _
        | some record' => exact Metrics.countsAlike_record_record metrics record record'

/-- So any exchanges may change places. -/
theorem Alike.foldl {exchanges others : List Exchange} (reordered : exchanges.Perm others) {first second : State}
    (h : Alike first second) : Alike (exchanges.foldl State.after first) (others.foldl State.after second) := by
  have same : ∀ (exchanges : List Exchange) {first second : State}, Alike first second →
      Alike (exchanges.foldl State.after first) (exchanges.foldl State.after second) := by
    intro exchanges
    induction exchanges with
    | nil => exact id
    | cons exchange exchanges ih => exact fun h => ih (h.after exchange)
  induction reordered generalizing first second with
  | nil => exact h
  | cons exchange _ ih => exact ih (h.after exchange)
  | swap exchange other exchanges =>
    apply same exchanges
    exact (alike_after_after first other exchange).trans ((h.after exchange).after other)
  | trans _ _ ih ih' => exact (ih h).trans (ih' (.refl second))

end State

/-! ### Handlers that look at the request alone -/

/-- Whether the handlers answer in the same way whatever calls there have been before. -/
def IsSteady (gate : Gate) : Prop :=
  ∃ handlers : Handlers Timed, ∀ calls, gate.handlers calls = handlers

namespace IsSteady

variable {gate : Gate}

theorem exchange_eq (steady : gate.IsSteady) (calls : List Call) (message : Message) :
    gate.exchange calls message = gate.exchange [] message := by
  obtain ⟨handlers, same⟩ := steady
  have decider_eq : gate.decider calls = gate.decider [] := by
    rw [decider, decider, same, same]
  have conclude_eq : gate.conclude calls = gate.conclude [] := by
    funext time route request
    rw [conclude, conclude, decider_eq]
  rw [exchange, exchange, ending, ending, conclude_eq]

theorem run_eq (steady : gate.IsSteady) (messages : List Message) (state : State) :
    gate.run state messages =
      ((messages.map (gate.exchange [])).foldl State.after state, messages.map (gate.exchange [])) := by
  induction messages generalizing state with
  | nil => rfl
  | cons message messages ih =>
    simp only [run, serve]
    rw [steady.exchange_eq, ih, List.map_cons, List.foldl_cons]

end IsSteady

/-! ### Messages in another order -/

/-- Whether serving messages in one order and in another comes to the same. -/
structure Interchanges (gate : Gate) (metered : Bool) (messages others : List Message) : Prop where
  /-- Every message is answered as by a gate that has served nothing. -/
  answers : (gate.run (.fresh metered) messages).2 = messages.map fun message => (gate.serve (.fresh metered) message).2
  answers' : (gate.run (.fresh metered) others).2 = others.map fun message => (gate.serve (.fresh metered) message).2
  calls : ∀ route, (gate.run (.fresh metered) messages).1.callCount route =
    (gate.run (.fresh metered) others).1.callCount route
  metrics : Option.Rel Metrics.CountsAlike (gate.run (.fresh metered) messages).1.metrics
    (gate.run (.fresh metered) others).1.metrics

/-- With handlers that look at the request alone, messages do not influence each other. -/
theorem messages_interchange (gate : Gate) (steady : gate.IsSteady) (metered : Bool) {messages others : List Message}
    (reordered : messages.Perm others) : gate.Interchanges metered messages others := by
  have alike : State.Alike (gate.run (.fresh metered) messages).1 (gate.run (.fresh metered) others).1 := by
    rw [steady.run_eq, steady.run_eq]
    exact (State.Alike.refl _).foldl (reordered.map _)
  refine ⟨?_, ?_, alike.callCount_eq, alike.metrics⟩
  · rw [steady.run_eq]
    rfl
  · rw [steady.run_eq]
    rfl

/-- An empty body and one of a foreign type are refused in either order, each with a label of its own. -/
theorem messages_interchange_refused :
    let gate : Gate := ⟨.empty, fun _ => .ofRoutes fun _ => allowAll, .standard⟩
    let empty : Message := ⟨"POST", ⟨"/mutate", none⟩, [], .ofOctets []⟩
    let foreign : Message := ⟨"POST", ⟨"/validate", some "timeout=5s"⟩, [], .ofOctets [0]⟩
    (gate.IsSteady ∧ [empty, foreign].Perm [foreign, empty]) ∧
      gate.Interchanges true [empty, foreign] [foreign, empty] := by
  intro gate empty foreign
  have steady : gate.IsSteady := ⟨.ofRoutes fun _ => allowAll, fun _ => rfl⟩
  have reordered : [empty, foreign].Perm [foreign, empty] := .swap _ _ _
  exact ⟨⟨steady, reordered⟩, messages_interchange gate steady true reordered⟩

end Gate

end AdmissionGate
