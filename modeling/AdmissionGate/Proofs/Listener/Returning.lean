import AdmissionGate.Proofs.Listener.Life

/-!
# A stop returns

Whatever grace period a listener is closed with, even none at all, and whatever happens to it afterwards, it has stopped when
the grace period and the longest wait for connections that are cut off are over.  What carries the proof is a bound on the time
that is left: it is taken over from the patience of the listener, and every millisecond takes one from both.
-/

namespace AdmissionGate.Listener

/-- Whether a listener that has been closed has stopped, and knows how, when at most some time has passed. -/
inductive StopsWithin (listener : Listener) (time : Nat) : Prop
  | stopped {outcome : StopOutcome} (shut : listener.accepting = false) (phase : listener.phase = .stopped)
      (decided : listener.outcome = some outcome)
  | waiting (shut : listener.accepting = false) (phase : listener.phase = .stopping) (undecided : listener.outcome = none)
      (positive : 0 < listener.patience) (bounded : listener.patience + closingLimit ≤ time)
  | closing {outcome : StopOutcome} (shut : listener.accepting = false) (phase : listener.phase = .stopping)
      (decided : listener.outcome = some outcome) (positive : 0 < listener.patience) (bounded : listener.patience ≤ time)

section Returning

variable {listener : Listener} {time later grace : Nat}

namespace StopsWithin

theorem isClosed (h : listener.StopsWithin time) : listener.IsClosed := by
  cases h with
  | stopped shut phase _ => exact ⟨.inr phase, shut⟩
  | waiting shut phase _ _ _ | closing shut phase _ _ _ => exact ⟨.inl phase, shut⟩

theorem mono (h : listener.StopsWithin time) (le : time ≤ later) : listener.StopsWithin later := by
  cases h with
  | stopped shut phase decided => exact .stopped shut phase decided
  | waiting shut phase undecided positive bounded => exact .waiting shut phase undecided positive (bounded.trans le)
  | closing shut phase decided positive bounded => exact .closing shut phase decided positive (bounded.trans le)

/-- When no time is left, the stop has returned. -/
theorem exists_outcome (h : listener.StopsWithin 0) :
    ∃ outcome, listener.phase = .stopped ∧ listener.outcome = some outcome := by
  cases h with
  | stopped _ phase decided => exact ⟨_, phase, decided⟩
  | waiting _ _ _ positive bounded => omega
  | closing _ _ _ positive bounded => omega

theorem release {outcome : StopOutcome} (shut : listener.accepting = false) (stopping : listener.phase = .stopping)
    (decided : listener.outcome = some outcome) (bounded : listener.patience ≤ time) :
    listener.release.StopsWithin time := by
  rw [Listener.release]
  split
  · exact .stopped shut rfl decided
  · rename_i patient
    exact .closing shut stopping decided (Nat.pos_of_ne_zero patient) bounded

theorem settle (shut : listener.accepting = false) (stopping : listener.phase = .stopping)
    (bounded : listener.patience + closingLimit ≤ time) : listener.settle.StopsWithin time := by
  rw [Listener.settle]
  split
  · exact .stopped shut rfl rfl
  · split
    · have short : min listener.closing closingLimit ≤ time := by omega
      exact .release shut stopping rfl short
    · rename_i patient
      have positive := Nat.pos_of_ne_zero patient
      cases decided : listener.outcome with
      | none => exact .waiting shut stopping decided positive bounded
      | some outcome => exact .closing shut stopping decided positive (by omega)

theorem tick (h : listener.StopsWithin time) : (listener.step .tick).StopsWithin (time - 1) := by
  cases h with
  | stopped shut phase decided =>
    rw [step_tick_of_ne_stopping shut (phase ▸ nofun)]
    exact .stopped shut phase decided
  | waiting shut phase undecided positive bounded =>
    have less : listener.patience - 1 + closingLimit ≤ time - 1 := by omega
    rw [step_tick_of_undecided shut phase undecided]
    split
    · exact .settle shut phase less
    · exact .settle shut phase less
  | closing shut phase decided positive bounded =>
    rw [step_tick_of_decided shut phase decided]
    exact .release shut phase decided (Nat.sub_le_sub_right bounded 1)

theorem step (h : listener.StopsWithin time) (event : Event) : (listener.step event).StopsWithin time := by
  by_cases passes : event = .tick
  · subst passes
    exact h.tick.mono (Nat.sub_le _ _)
  · rw [h.isClosed.step_eq passes]
    exact h

theorem after (h : listener.StopsWithin time) (events : List Event) :
    (listener.after events).StopsWithin (time - events.count .tick) := by
  induction events generalizing listener time with
  | nil => exact h
  | cons event events ih =>
    rw [after_cons]
    by_cases passes : event = .tick
    · subst passes
      rw [List.count_cons_self, Nat.add_comm, ← Nat.sub_sub]
      exact ih h.tick
    · rw [h.isClosed.step_eq passes, List.count_cons_of_ne passes]
      exact ih h

end StopsWithin

theorem stopsWithin_close (told : listener.IsToldToStop) (grace : Nat) :
    (listener.step (.close grace)).StopsWithin (grace + closingLimit) := by
  rw [step, if_pos ⟨told.phase, told.accepting⟩]
  exact .settle rfl told.phase (Nat.le_refl _)

/-- A listener that is said to stop and closed has stopped when the grace period and the longest wait for what is cut off are
    over. -/
theorem exists_outcome_after_close (told : listener.IsToldToStop) {events : List Event}
    (enough : grace + closingLimit ≤ events.count .tick) :
    ∃ outcome, ((listener.step (.close grace)).after events).phase = .stopped ∧
      ((listener.step (.close grace)).after events).outcome = some outcome := by
  have within := (stopsWithin_close told grace).after events
  rw [Nat.sub_eq_zero_of_le enough] at within
  exact within.exists_outcome

end Returning

end AdmissionGate.Listener
