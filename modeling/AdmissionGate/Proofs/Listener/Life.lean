import Mathlib.Data.List.Infix
import AdmissionGate.Listener

/-!
# The course of a listener's life

A listener goes through its phases in their order, each at most once, and never back, whatever happens to it.  As long as it
accepts connections, none is open that has ended, and nothing is said of how a stop came out.  Being said to stop changes
nothing of that; only when the listener is closed, time alone changes it.
-/

namespace AdmissionGate

/-! ### Phases -/

namespace Phase

/-- The phases in the order in which a listener goes through them. -/
def course : List Phase := [unstarted, running, stopping, stopped]

/-- The phases up to one, the latest first. -/
def past : Phase → List Phase
  | unstarted => [unstarted]
  | running => [running, unstarted]
  | stopping => [stopping, running, unstarted]
  | stopped => [stopped, stopping, running, unstarted]

theorem reverse_past_prefix (phase : Phase) : phase.past.reverse <+: course := by
  cases phase <;> decide

theorem head?_past (phase : Phase) : phase.past.head? = some phase := by
  cases phase <;> rfl

/-- Whether a listener in this phase is said to stop or to have stopped. -/
def isHalted (phase : Phase) : Prop :=
  phase = stopping ∨ phase = stopped

end Phase

namespace Listener

/-- A listener that has not been started, whose connections take some time to close. -/
def fresh (closing : Nat) : Listener := { closing }

/-! ### One event after another -/

/-- The listener when some events have happened. -/
def after (listener : Listener) (events : List Event) : Listener :=
  events.foldl step listener

theorem after_cons (listener : Listener) (event : Event) (events : List Event) :
    listener.after (event :: events) = (listener.step event).after events := rfl

theorem after_append (listener : Listener) (events later : List Event) :
    listener.after (events ++ later) = (listener.after events).after later :=
  List.foldl_append

/-! ### What settling leaves unchanged -/

@[simp]
theorem accepting_release (listener : Listener) : listener.release.accepting = listener.accepting := by
  rw [release]
  split <;> rfl

@[simp]
theorem accepting_settle (listener : Listener) : listener.settle.accepting = listener.accepting := by
  rw [settle]
  split
  · rfl
  · split
    · exact accepting_release _
    · rfl

/-! ### Time -/

section Time

variable {listener : Listener}

theorem step_tick_of_accepting (accepting : listener.accepting = true) : listener.step .tick = listener.work := by
  rw [step, if_pos accepting]

theorem step_tick_of_undecided (shut : listener.accepting = false) (stopping : listener.phase = .stopping)
    (undecided : listener.outcome = none) :
    listener.step .tick =
      if listener.patience - 1 = 0 then settle { listener with patience := listener.patience - 1 }
      else (work { listener with patience := listener.patience - 1 }).settle := by
  simp [step, shut, stopping, undecided]

theorem step_tick_of_decided {outcome : StopOutcome} (shut : listener.accepting = false)
    (stopping : listener.phase = .stopping) (decided : listener.outcome = some outcome) :
    listener.step .tick = release { listener with patience := listener.patience - 1 } := by
  simp [step, shut, stopping, decided]

theorem step_tick_of_ne_stopping (shut : listener.accepting = false) (settled : listener.phase ≠ .stopping) :
    listener.step .tick = listener := by
  cases phase : listener.phase with
  | stopping => exact absurd phase settled
  | unstarted | running | stopped => simp [step, shut, phase]

end Time

/-! ### The phases that could be observed -/

/-- Whether the phases that could be observed are those up to the present one. -/
def IsOnCourse (listener : Listener) : Prop :=
  listener.observed = listener.phase.past

/-- Whether a listener has gone on from an earlier state: it remembers the phases that could be observed, and has not left the
    course. -/
structure GoesOn (before after : Listener) : Prop where
  kept : before.observed <:+ after.observed
  onCourse : before.IsOnCourse → after.IsOnCourse

namespace GoesOn

theorem refl (listener : Listener) : GoesOn listener listener :=
  ⟨List.suffix_refl _, id⟩

theorem trans {first second third : Listener} (h : GoesOn first second) (h' : GoesOn second third) :
    GoesOn first third :=
  ⟨h.kept.trans h'.kept, fun onCourse => h'.onCourse (h.onCourse onCourse)⟩

theorem enter {listener : Listener} {next : Phase} (follows : next.past = next :: listener.phase.past) :
    GoesOn listener (listener.enter next) where
  kept := List.suffix_cons _ _
  onCourse h := by
    rw [IsOnCourse] at h
    rw [IsOnCourse, Listener.enter, h]
    exact follows.symm

end GoesOn

section Course

variable {listener : Listener}

theorem goesOn_release (stopping : listener.phase = .stopping) : GoesOn listener listener.release := by
  rw [release]
  split
  · exact .enter (by rw [stopping]; rfl)
  · exact .refl _

theorem goesOn_cutOff (stopping : listener.phase = .stopping) : GoesOn listener listener.cutOff := by
  have cleared : GoesOn listener
      { listener with connections := [], outcome := some .forced, patience := min listener.closing closingLimit } :=
    ⟨List.suffix_refl _, id⟩
  exact cleared.trans (goesOn_release stopping)

theorem goesOn_settle (stopping : listener.phase = .stopping) : GoesOn listener listener.settle := by
  rw [settle]
  split
  · exact ⟨List.suffix_cons _ _, (GoesOn.enter (by rw [stopping]; rfl)).onCourse⟩
  · split
    · exact goesOn_cutOff stopping
    · exact .refl _

theorem goesOn_tick (listener : Listener) : GoesOn listener (listener.step .tick) := by
  cases accepting : listener.accepting with
  | true =>
    rw [step_tick_of_accepting accepting]
    exact ⟨List.suffix_refl _, id⟩
  | false =>
    by_cases stopping : listener.phase = .stopping
    · have waited : GoesOn listener { listener with patience := listener.patience - 1 } := ⟨List.suffix_refl _, id⟩
      cases decided : listener.outcome with
      | none =>
        rw [step_tick_of_undecided accepting stopping decided]
        split
        · exact waited.trans (goesOn_settle stopping)
        · have worked : GoesOn listener (work { listener with patience := listener.patience - 1 }) :=
            ⟨List.suffix_refl _, id⟩
          exact worked.trans (goesOn_settle stopping)
      | some outcome =>
        rw [step_tick_of_decided accepting stopping decided]
        exact waited.trans (goesOn_release stopping)
    · rw [step_tick_of_ne_stopping accepting stopping]
      exact .refl _

theorem goesOn_step (listener : Listener) (event : Event) : GoesOn listener (listener.step event) := by
  cases event with
  | listen | arrive connection =>
    rw [step]
    split
    · exact ⟨List.suffix_refl _, id⟩
    · exact .refl _
  | start =>
    rw [step]
    split
    · rename_i ready
      exact .enter (by rw [ready.1]; rfl)
    · exact .refl _
  | stop =>
    rw [step]
    split
    · rename_i running
      exact .enter (by rw [running]; rfl)
    · exact .refl _
  | close grace =>
    rw [step]
    split
    · rename_i open_
      have closed : GoesOn listener { listener with accepting := false, patience := grace } := ⟨List.suffix_refl _, id⟩
      exact closed.trans (goesOn_settle open_.1)
    · exact .refl _
  | tick => exact goesOn_tick listener

theorem goesOn_after (listener : Listener) (events : List Event) : GoesOn listener (listener.after events) := by
  induction events generalizing listener with
  | nil => exact .refl _
  | cons event events ih => exact (goesOn_step listener event).trans (ih _)

theorem isOnCourse_after_fresh (closing : Nat) (events : List Event) : ((fresh closing).after events).IsOnCourse :=
  (goesOn_after _ events).onCourse rfl

end Course

/-- Whether the phases that can be observed come in their order, each at most once, and are never taken back. -/
structure GoesForward (listener : Listener) : Prop where
  ordered : ∀ events, (listener.after events).observed.reverse <+: Phase.course
  current : ∀ events, (listener.after events).observed.head? = some (listener.after events).phase
  kept : ∀ events later, (listener.after events).observed <:+ (listener.after (events ++ later)).observed

theorem goesForward_fresh (closing : Nat) : (fresh closing).GoesForward where
  ordered events := by
    rw [isOnCourse_after_fresh closing events]
    exact Phase.reverse_past_prefix _
  current events := by
    rw [isOnCourse_after_fresh closing events]
    exact Phase.head?_past _
  kept events later := by
    rw [after_append]
    exact (goesOn_after _ later).kept

/-! ### Said to stop -/

section Halted

variable {listener : Listener}

theorem isHalted_release (h : listener.phase.isHalted) : listener.release.phase.isHalted := by
  rw [release]
  split
  · exact .inr rfl
  · exact h

theorem isHalted_settle (h : listener.phase.isHalted) : listener.settle.phase.isHalted := by
  rw [settle]
  split
  · exact .inr rfl
  · split
    · exact isHalted_release h
    · exact h

theorem isHalted_tick (h : listener.phase.isHalted) : (listener.step .tick).phase.isHalted := by
  cases accepting : listener.accepting with
  | true =>
    rw [step_tick_of_accepting accepting]
    exact h
  | false =>
    rcases h with stopping | stopped
    · cases decided : listener.outcome with
      | none =>
        rw [step_tick_of_undecided accepting stopping decided]
        split <;> exact isHalted_settle (.inl stopping)
      | some outcome =>
        rw [step_tick_of_decided accepting stopping decided]
        exact isHalted_release (.inl stopping)
    · rw [step_tick_of_ne_stopping accepting (stopped ▸ nofun)]
      exact .inr stopped

theorem isHalted_step (h : listener.phase.isHalted) (event : Event) : (listener.step event).phase.isHalted := by
  cases event with
  | listen | start | stop => rcases h with phase | phase <;> simp [step, phase, Phase.isHalted]
  | arrive connection =>
    rw [step]
    split <;> exact h
  | close grace =>
    rw [step]
    split
    · exact isHalted_settle h
    · exact h
  | tick => exact isHalted_tick h

theorem isHalted_after (h : listener.phase.isHalted) (events : List Event) : (listener.after events).phase.isHalted := by
  induction events generalizing listener with
  | nil => exact h
  | cons event events ih => exact ih (isHalted_step h event)

end Halted

/-! ### Closed -/

/-- Whether a listener has been closed. -/
structure IsClosed (listener : Listener) : Prop where
  halted : listener.phase.isHalted
  shut : listener.accepting = false

namespace IsClosed

variable {listener : Listener}

/-- Time alone changes what has been closed: nothing is taken in any more. -/
theorem step_eq (h : listener.IsClosed) {event : Event} (other : event ≠ .tick) : listener.step event = listener := by
  cases event with
  | tick => exact absurd rfl other
  | listen | start | stop => rcases h.halted with phase | phase <;> simp [Listener.step, phase]
  | arrive connection | close grace => simp [Listener.step, h.shut]

theorem tick (h : listener.IsClosed) : (listener.step .tick).IsClosed where
  halted := isHalted_tick h.halted
  shut := by
    rcases h.halted with stopping | stopped
    · cases decided : listener.outcome with
      | none =>
        rw [step_tick_of_undecided h.shut stopping decided]
        split <;> exact (accepting_settle _).trans h.shut
      | some outcome =>
        rw [step_tick_of_decided h.shut stopping decided]
        exact (accepting_release _).trans h.shut
    · rw [step_tick_of_ne_stopping h.shut (stopped ▸ nofun)]
      exact h.shut

theorem step (h : listener.IsClosed) (event : Event) : (listener.step event).IsClosed := by
  by_cases passes : event = .tick
  · subst passes
    exact h.tick
  · rw [h.step_eq passes]
    exact h

theorem after_eq_replicate (h : listener.IsClosed) (later : List Event) :
    listener.after later = listener.after (List.replicate (later.count .tick) .tick) := by
  induction later generalizing listener with
  | nil => rfl
  | cons event later ih =>
    rw [after_cons]
    by_cases passes : event = .tick
    · subst passes
      rw [List.count_cons_self, List.replicate_succ, after_cons]
      exact ih h.tick
    · rw [h.step_eq passes, List.count_cons_of_ne passes]
      exact ih h

/-- What has stopped does not change any more. -/
theorem step_of_stopped (h : listener.IsClosed) (stopped : listener.phase = .stopped) (event : Event) :
    listener.step event = listener := by
  by_cases passes : event = .tick
  · subst passes
    exact step_tick_of_ne_stopping h.shut (stopped ▸ nofun)
  · exact h.step_eq passes

theorem after_of_stopped (h : listener.IsClosed) (stopped : listener.phase = .stopped) (events : List Event) :
    listener.after events = listener := by
  induction events with
  | nil => rfl
  | cons event events ih => rw [after_cons, h.step_of_stopped stopped, ih]

/-- To wait is to let time pass. -/
theorem wait_eq_after (h : listener.IsClosed) (n : Nat) : wait n listener = listener.after (List.replicate n .tick) := by
  induction n generalizing listener with
  | zero => rfl
  | succ n ih =>
    rw [wait, List.replicate_succ]
    split
    · rename_i stopped
      exact (h.after_of_stopped stopped _).symm
    · rw [after_cons, ih h.tick]

end IsClosed

/-! ### Open -/

/-- Connections that arrive and time that passes leave a listener in its phase, and accepting or not, unless it has been closed
    and is stopping. -/
theorem phase_step_of_open {listener : Listener} (open_ : listener.accepting = true ∨ listener.phase ≠ .stopping)
    {event : Event} (served : event = .tick ∨ ∃ connection, event = .arrive connection) :
    (listener.step event).phase = listener.phase ∧ (listener.step event).accepting = listener.accepting := by
  rcases served with rfl | ⟨connection, rfl⟩
  · cases accepting : listener.accepting with
    | true =>
      rw [step_tick_of_accepting accepting]
      exact ⟨rfl, accepting⟩
    | false =>
      have settled : listener.phase ≠ .stopping := open_.resolve_left (by simp [accepting])
      rw [step_tick_of_ne_stopping accepting settled]
      exact ⟨rfl, accepting⟩
  · rw [step]
    split <;> exact ⟨rfl, rfl⟩

/-- Whether a listener is said to stop and has not been closed yet. -/
structure IsToldToStop (listener : Listener) : Prop where
  phase : listener.phase = .stopping
  accepting : listener.accepting = true

theorem isToldToStop_stop {listener : Listener} (running : listener.phase = .running)
    (accepting : listener.accepting = true) : (listener.step .stop).IsToldToStop := by
  rw [step, if_pos running]
  exact ⟨rfl, accepting⟩

namespace IsToldToStop

variable {listener : Listener}

theorem step (h : listener.IsToldToStop) {event : Event} (unclosed : ∀ grace, event ≠ .close grace) :
    (listener.step event).IsToldToStop := by
  have serve : ∀ {event}, (event = .tick ∨ ∃ connection, event = .arrive connection) →
      (listener.step event).IsToldToStop := by
    intro event served
    have kept := phase_step_of_open (.inl h.accepting) served
    exact ⟨kept.1.trans h.phase, kept.2.trans h.accepting⟩
  cases event with
  | listen | start | stop =>
    rw [Listener.step]
    simpa [h.phase] using h
  | arrive connection => exact serve (.inr ⟨connection, rfl⟩)
  | close grace => exact absurd rfl (unclosed grace)
  | tick => exact serve (.inl rfl)

/-- Until it is closed, such a listener goes on accepting. -/
theorem after (h : listener.IsToldToStop) {events : List Event} (unclosed : ∀ grace, .close grace ∉ events) :
    (listener.after events).IsToldToStop := by
  induction events generalizing listener with
  | nil => exact h
  | cons event events ih =>
    rw [after_cons]
    refine ih (h.step ?_) fun grace listed => unclosed grace (List.mem_cons_of_mem _ listed)
    rintro grace rfl
    exact unclosed grace List.mem_cons_self

end IsToldToStop

/-- Whether a listener that has not been closed accepts connections while it runs, has let those go that have ended, and says
    nothing of how a stop came out. -/
structure IsPrompt (listener : Listener) : Prop where
  running : listener.phase = .running → listener.accepting = true
  pending : listener.accepting = true ∨ listener.phase = .unstarted →
    ∀ connection ∈ listener.connections, connection.remaining ≠ some 0
  undecided : listener.accepting = true ∨ listener.phase = .unstarted → listener.outcome = none

theorem remaining_ne_of_mem_deliver {listener : Listener} {connection : Connection}
    (h : connection ∈ listener.deliver.connections) : connection.remaining ≠ some 0 := by
  rw [deliver, List.mem_filter] at h
  exact of_decide_eq_true h.2

namespace IsPrompt

variable {listener : Listener}

theorem of_isClosed (h : listener.IsClosed) : listener.IsPrompt := by
  have shut := h.shut
  refine ⟨?_, ?_, ?_⟩ <;> rcases h.halted with phase | phase <;> simp [shut, phase]

theorem work (h : listener.IsPrompt) : listener.work.IsPrompt :=
  ⟨h.running, fun _ _ listed => remaining_ne_of_mem_deliver listed, h.undecided⟩

theorem step (h : listener.IsPrompt) (event : Event) : (listener.step event).IsPrompt := by
  cases event with
  | listen =>
    rw [Listener.step]
    split
    · rename_i unstarted
      exact ⟨fun _ => rfl, fun _ => h.pending (.inr unstarted), fun _ => h.undecided (.inr unstarted)⟩
    · exact h
  | start =>
    rw [Listener.step]
    split
    · rename_i ready
      exact ⟨fun _ => ready.2, fun _ => h.pending (.inl ready.2), fun _ => h.undecided (.inl ready.2)⟩
    · exact h
  | stop =>
    rw [Listener.step]
    split
    · rename_i running
      have accepting := h.running running
      exact ⟨nofun, fun _ => h.pending (.inl accepting), fun _ => h.undecided (.inl accepting)⟩
    · exact h
  | arrive connection =>
    rw [Listener.step]
    split
    · exact ⟨h.running, fun _ _ listed => remaining_ne_of_mem_deliver listed, h.undecided⟩
    · exact h
  | close grace =>
    rw [Listener.step]
    split
    · rename_i accepting
      exact of_isClosed ⟨isHalted_settle (.inl accepting.1), accepting_settle _⟩
    · exact h
  | tick =>
    cases accepting : listener.accepting with
    | true =>
      rw [step_tick_of_accepting accepting]
      exact h.work
    | false =>
      by_cases stopping : listener.phase = .stopping
      · exact of_isClosed (IsClosed.tick ⟨.inl stopping, accepting⟩)
      · rw [step_tick_of_ne_stopping accepting stopping]
        exact h

theorem after (h : listener.IsPrompt) (events : List Event) : (listener.after events).IsPrompt := by
  induction events generalizing listener with
  | nil => exact h
  | cons event events ih => exact ih (h.step event)

end IsPrompt

theorem isPrompt_fresh (closing : Nat) : (fresh closing).IsPrompt :=
  ⟨nofun, fun _ => List.forall_mem_nil _, fun _ => rfl⟩

end Listener

end AdmissionGate
