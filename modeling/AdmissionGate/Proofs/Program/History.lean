import Mathlib.Data.List.Induction
import AdmissionGate.Proofs.Program.Steps

/-!
# What happens in a run

Whether something happens in a run depends on the event and on the events before it.  Of the webhook listener, of the listener
for probes, of signals and of the wait it is told here from the events what becomes of them, and shown where a run keeps it.
-/

namespace AdmissionGate.Program

section Runs

variable (surroundings : Surroundings) (closing : Nat) (events later : List Event) (event : Event)

theorem run_snoc :
    run surroundings (events ++ [event]) closing = (run surroundings events closing).step surroundings event :=
  List.foldl_append

theorem exists_listener_run_append :
    ∃ inner, (run surroundings (events ++ later) closing).listener =
      (run surroundings events closing).listener.after inner := by
  induction later using List.reverseRecOn with
  | nil => exact ⟨[], by rw [List.append_nil]; rfl⟩
  | append_singleton later event ih =>
    obtain ⟨before, first⟩ := ih
    obtain ⟨inner, next⟩ := exists_listener_step surroundings (run surroundings (events ++ later) closing) event
    rw [← List.append_assoc, run_snoc, next, first, ← Listener.after_append]
    exact ⟨_, rfl⟩

end Runs

/-! ### Events and those before them -/

/-- Whether an event comes that is of some kind, given the events before it. -/
def Happens (Comes : List Event → Event → Prop) (events : List Event) : Prop :=
  ∃ before event later, events = before ++ event :: later ∧ Comes before event

section Happens

variable {Comes : List Event → Event → Prop} {events : List Event} {event : Event}

theorem not_happens_nil : ¬ Happens Comes [] := by
  rintro ⟨before, event, later, split, -⟩
  simp at split

theorem Happens.append (h : Happens Comes events) (later : List Event) : Happens Comes (events ++ later) := by
  obtain ⟨before, event, rest, rfl, comes⟩ := h
  exact ⟨before, event, rest ++ later, by simp, comes⟩

theorem happens_snoc : Happens Comes (events ++ [event]) ↔ Happens Comes events ∨ Comes events event := by
  constructor
  · rintro ⟨before, other, later, split, comes⟩
    rcases List.eq_nil_or_concat later with rfl | ⟨rest, last, rfl⟩
    · obtain ⟨rfl, same⟩ := List.append_inj' split rfl
      cases same
      exact .inr comes
    · have longer : events ++ [event] = (before ++ other :: rest) ++ [last] := by simpa using split
      obtain ⟨rfl, -⟩ := List.append_inj' longer rfl
      exact .inl ⟨before, other, rest, rfl, comes⟩
  · rintro (h | comes)
    · exact h.append [event]
    · exact ⟨events, event, [], rfl, comes⟩

end Happens

section History

variable (surroundings : Surroundings) (closing : Nat)

/-! ### What becomes of the listeners, of signals and of the wait -/

/-- Whether the webhook listener fails in a run, while it serves. -/
def ListenerFails (events : List Event) : Prop :=
  Happens (fun before event => (run surroundings before closing).IsServing ∧ ∃ cause, event = .listenerFails cause) events

/-- Whether the listener for probes is gone after some events, and why: it has been started, and its task has ended for the
    first time. -/
def ProbesEnd (events : List Event) (error : HealthError) : Prop :=
  Happens (fun before event =>
    ((run surroundings before closing).probed ∧ (run surroundings before closing).healthEnd = none) ∧
      ∃ task ending, event = .healthEnds task ending ∧ error = .ofTaskEnd task ending) events

/-- Whether the program waits after some events. -/
def IsWaiting (events : List Event) : Prop :=
  ∃ startup, (run surroundings events closing).stage = .waiting startup

/-- Whether signals are heard after some events: the wait has looked and come to listen for them, which it does not if it looks
    at the listener for probes first and finds it gone. -/
def IsHearing (events : List Event) : Prop :=
  Happens (fun before event => IsWaiting surroundings closing before ∧
    ∃ first, event = .look first ∧ (first = .signal ∨ ∀ error, ¬ ProbesEnd surroundings closing before error)) events

/-- Whether a signal arrives in a run that is heard. -/
def IsSignalled (events : List Event) : Prop :=
  Happens (fun before event => ((run surroundings before closing).IsAlive ∧ IsHearing surroundings closing before) ∧
    event = .signal) events

/-- Whether a signal arrives in a run that nobody hears. -/
def IsKilled (events : List Event) : Prop :=
  Happens (fun before event => ((run surroundings before closing).IsAlive ∧ ¬ IsHearing surroundings closing before) ∧
    event = .signal) events

/-- Whether an event ends the wait, and for which cause: the wait looks and finds that a signal has arrived or that the listener
    for probes is gone; where both is so, it goes by what it looks for first. -/
inductive EndsWait (before : List Event) : Event → Cause → Prop
  | signal {first : Concern} (waiting : IsWaiting surroundings closing before)
      (signalled : IsSignalled surroundings closing before)
      (early : first = .signal ∨ ∀ error, ¬ ProbesEnd surroundings closing before error) :
      EndsWait before (.look first) .signal
  | health {first : Concern} {error : HealthError} (waiting : IsWaiting surroundings closing before)
      (gone : ProbesEnd surroundings closing before error)
      (early : first = .health ∨ ¬ IsSignalled surroundings closing before) :
      EndsWait before (.look first) (.health error)

/-- Whether the wait of a run ends, and for which cause. -/
def WaitEnds (events : List Event) (cause : Cause) : Prop :=
  Happens (fun before event => EndsWait surroundings closing before event cause) events

variable {surroundings closing} {state : State} {events : List Event}

/-- What holds in a run from some event on holds just if that event has come. -/
theorem holds_run_iff (Holds : State → Prop) {Comes : List Event → Event → Prop}
    (initially : ¬ Holds (run surroundings [] closing))
    (step : ∀ events event, Holds ((run surroundings events closing).step surroundings event) ↔
      Holds (run surroundings events closing) ∨ Comes events event) (events : List Event) :
    Holds (run surroundings events closing) ↔ Happens Comes events := by
  induction events using List.reverseRecOn with
  | nil => exact iff_of_false initially not_happens_nil
  | append_singleton events event ih =>
    rw [run_snoc, step, ih]
    exact happens_snoc.symm

/-! ### Where a run keeps it -/

theorem healthEnd_step (event : Event) {error : HealthError} :
    (state.step surroundings event).healthEnd = some error ↔ state.healthEnd = some error ∨
      (state.probed ∧ state.healthEnd = none) ∧
        ∃ task ending, event = .healthEnds task ending ∧ error = .ofTaskEnd task ending := by
  have moves := moves_step surroundings state event
  generalize state.step surroundings event = after at moves
  by_cases comes : (state.probed ∧ state.healthEnd = none) ∧ ∃ task ending, event = .healthEnds task ending
  · obtain ⟨⟨probed, first⟩, task, ending, rfl⟩ := comes
    cases moves with
    | probesEnd _ _ => simp [probed, first, eq_comm]
    | serve _ served => cases served
    | idle ignored => exact absurd ⟨probed, first⟩ ignored
  · have kept : after.healthEnd = state.healthEnd := by
      cases moves with
      | probesEnd probed first => exact absurd ⟨⟨probed, first⟩, _, _, rfl⟩ comes
      | finish _ => exact (State.keeps_finish _ _).healthEnd
      | load _ _ | refuse _ _ | openUp _ | start _ | announce _ | overlook _ _ | find _ _ | withdraw _ | stop _ | close _
      | hear _ _ | kill _ | fail _ | serve _ _ | idle _ => rfl
    rw [kept]
    refine (or_iff_left ?_).symm
    rintro ⟨first, task, ending, same, -⟩
    exact comes ⟨first, task, ending, same⟩

theorem healthEnd_run_iff {error : HealthError} :
    (run surroundings events closing).healthEnd = some error ↔ ProbesEnd surroundings closing events error :=
  holds_run_iff (fun state => state.healthEnd = some error) nofun (fun _ event => healthEnd_step event) events

theorem healthEnd_run_eq_none_iff :
    (run surroundings events closing).healthEnd = none ↔ ∀ error, ¬ ProbesEnd surroundings closing events error := by
  rw [Option.eq_none_iff_forall_ne_some]
  exact forall_congr' fun error => not_congr healthEnd_run_iff

theorem listens_iff {first : Concern} :
    state.listens first = true ↔ state.hears = true ∨ first = .signal ∨ state.healthEnd = none := by
  simp [State.listens, or_assoc]

theorem hears_step (event : Event) :
    (state.step surroundings event).hears = true ↔ state.hears = true ∨
      (∃ startup, state.stage = .waiting startup) ∧
        ∃ first, event = .look first ∧ (first = .signal ∨ state.healthEnd = none) := by
  have moves := moves_step surroundings state event
  generalize state.step surroundings event = after at moves
  by_cases looks : (∃ startup, state.stage = .waiting startup) ∧ ∃ first, event = .look first
  · obtain ⟨⟨startup, stage⟩, first, rfl⟩ := looks
    cases moves with
    | overlook _ nothing => exact iff_of_true rfl (.inr ⟨⟨startup, stage⟩, first, rfl, .inr nothing.2⟩)
    | find _ _ =>
      refine listens_iff.trans (or_congr_right ?_)
      simp [stage]
    | serve _ served => cases served
    | idle ignored => exact absurd stage (ignored startup)
  · have kept : after.hears = state.hears := by
      cases moves with
      | overlook stage _ | find stage _ => exact absurd ⟨⟨_, stage⟩, _, rfl⟩ looks
      | finish _ => exact (State.keeps_finish _ _).hears
      | load _ _ | refuse _ _ | openUp _ | start _ | announce _ | withdraw _ | stop _ | close _ | hear _ _ | kill _ | fail _
      | probesEnd _ _ | serve _ _ | idle _ => rfl
    rw [kept]
    refine (or_iff_left ?_).symm
    rintro ⟨waiting, first, same, -⟩
    exact looks ⟨waiting, first, same⟩

theorem hears_run_iff : (run surroundings events closing).hears = true ↔ IsHearing surroundings closing events := by
  refine holds_run_iff (fun state => state.hears = true) nofun (fun before event => ?_) events
  rw [← healthEnd_run_eq_none_iff]
  exact hears_step event

theorem heard_step (event : Event) :
    (state.step surroundings event).heard = true ↔
      state.heard = true ∨ (state.IsAlive ∧ state.hears = true) ∧ event = .signal := by
  have moves := moves_step surroundings state event
  generalize state.step surroundings event = after at moves
  by_cases comes : (state.IsAlive ∧ state.hears = true) ∧ event = .signal
  · obtain ⟨⟨alive, hears⟩, rfl⟩ := comes
    cases moves with
    | hear _ _ => exact iff_of_true rfl (.inr ⟨⟨alive, hears⟩, rfl⟩)
    | kill deaf =>
      rw [deaf.2] at hears
      cases hears
    | serve _ served => cases served
    | idle ignored =>
      obtain ⟨exit, ended⟩ := ignored
      exact absurd ended (alive exit)
  · rw [or_iff_left comes]
    cases moves with
    | hear alive hears => exact absurd ⟨⟨alive, hears⟩, rfl⟩ comes
    | finish _ => rw [(State.keeps_finish _ _).heard]
    | load _ _ | refuse _ _ | openUp _ | start _ | announce _ | overlook _ _ | find _ _ | withdraw _ | stop _ | close _
    | kill _ | fail _ | probesEnd _ _ | serve _ _ | idle _ => exact Iff.rfl

theorem heard_run_iff : (run surroundings events closing).heard = true ↔ IsSignalled surroundings closing events := by
  refine holds_run_iff (fun state => state.heard = true) nofun (fun before event => ?_) events
  rw [← hears_run_iff]
  exact heard_step event

/-! ### How a process can break off -/

/-- Whether an event breaks a run off, and how the process ends then. -/
inductive BreaksOff (state : State) : Event → Exit → Prop
  | fail {cause : String} (serving : state.IsServing) : BreaksOff state (.listenerFails cause) (.failure none)
  | kill (deaf : state.IsDeaf) : BreaksOff state .signal .killed

theorem breaksOff_failure_iff {event : Event} :
    BreaksOff state event (.failure none) ↔ state.IsServing ∧ ∃ cause, event = .listenerFails cause := by
  constructor
  · intro breaks
    cases breaks with
    | fail serving => exact ⟨serving, _, rfl⟩
  · rintro ⟨serving, cause, rfl⟩
    exact .fail serving

theorem breaksOff_killed_iff {event : Event} : BreaksOff state event .killed ↔ state.IsDeaf ∧ event = .signal := by
  constructor
  · intro breaks
    cases breaks with
    | kill deaf => exact ⟨deaf, rfl⟩
  · rintro ⟨deaf, rfl⟩
    exact .kill deaf

/-- A process ends without a report and without success only when it is broken off. -/
theorem broken_step_iff {exit : Exit} (broken : exit = .failure none ∨ exit = .killed) (event : Event) :
    (state.step surroundings event).stage = .ended exit ↔ state.stage = .ended exit ∨ BreaksOff state event exit := by
  have moves := moves_step surroundings state event
  generalize state.step surroundings event = after at moves
  by_cases breaks : BreaksOff state event exit
  · refine iff_of_true ?_ (.inr breaks)
    cases breaks with
    | fail serving =>
      cases moves with
      | fail _ => rfl
      | serve _ served => cases served
      | idle ignored => exact absurd serving ignored
    | kill deaf =>
      cases moves with
      | kill _ => rfl
      | hear _ hears =>
        rw [deaf.2] at hears
        cases hears
      | serve _ served => cases served
      | idle ignored =>
        obtain ⟨exit, ended⟩ := ignored
        exact absurd ended (deaf.1 exit)
  · rw [or_iff_left breaks]
    cases moves with
    | fail serving =>
      refine iff_of_false (fun same => breaks ?_) (serving.1 exit)
      cases same
      exact .fail serving
    | kill deaf =>
      refine iff_of_false (fun same => breaks ?_) (deaf.1 exit)
      cases same
      exact .kill deaf
    | refuse stage _ => exact iff_of_false (by rcases broken with rfl | rfl <;> nofun) (by simp [stage])
    | @finish cause stage =>
      have alive : state.stage ≠ .ended exit := by simp [stage]
      refine iff_of_false ?_ alive
      rcases state.finish_cases cause with ⟨ended, -⟩ | ⟨same, -⟩
      · rw [ended]
        rcases broken with rfl | rfl <;> cases cause <;> nofun
      · rwa [same]
    | load stage _ | openUp stage | start stage | announce stage | find stage _ | withdraw stage | stop stage
    | close stage => exact iff_of_false nofun (by simp [stage])
    | overlook _ _ | hear _ _ | probesEnd _ _ | serve _ _ | idle _ => exact Iff.rfl

/-- A failure of the webhook listener alone ends the process without a report. -/
theorem failed_run_iff :
    (run surroundings events closing).stage = .ended (.failure none) ↔ ListenerFails surroundings closing events := by
  refine holds_run_iff (fun state => state.stage = .ended (.failure none)) nofun (fun before event => ?_) events
  rw [← breaksOff_failure_iff]
  exact broken_step_iff (.inl rfl) event

theorem isDeaf_run_iff : (run surroundings events closing).IsDeaf ↔
    (run surroundings events closing).IsAlive ∧ ¬ IsHearing surroundings closing events := by
  rw [State.IsDeaf, ← hears_run_iff, Bool.not_eq_true]

/-- A signal that nobody hears alone kills the process. -/
theorem killed_run_iff :
    (run surroundings events closing).stage = .ended .killed ↔ IsKilled surroundings closing events := by
  refine holds_run_iff (fun state => state.stage = .ended .killed) nofun (fun before event => ?_) events
  rw [← isDeaf_run_iff, ← breaksOff_killed_iff]
  exact broken_step_iff (.inr rfl) event

/-! ### Runs that are not broken off -/

variable (surroundings closing) in
/-- Whether a run is not broken off: the webhook listener does not fail, and no signal arrives that nobody hears. -/
structure Survives (events : List Event) : Prop where
  serves : ¬ ListenerFails surroundings closing events
  lives : ¬ IsKilled surroundings closing events

theorem Survives.of_snoc {event : Event} (h : Survives surroundings closing (events ++ [event])) :
    Survives surroundings closing events ∧ ∀ exit, ¬ BreaksOff (run surroundings events closing) event exit := by
  obtain ⟨served, serves⟩ := not_or.mp (mt happens_snoc.mpr h.serves)
  obtain ⟨lived, lives⟩ := not_or.mp (mt happens_snoc.mpr h.lives)
  refine ⟨⟨served, lived⟩, fun exit breaks => ?_⟩
  cases breaks with
  | fail serving => exact serves ⟨serving, _, rfl⟩
  | kill deaf => exact lives ⟨isDeaf_run_iff.mp deaf, rfl⟩

/-! ### What ends the wait -/

theorem EndsWait.exists_look {event : Event} {cause : Cause} (h : EndsWait surroundings closing events event cause) :
    IsWaiting surroundings closing events ∧ ∃ first, event = .look first := by
  cases h with
  | signal waiting _ _ | health waiting _ _ => exact ⟨waiting, _, rfl⟩

theorem finds_run_iff {first : Concern} {cause : Cause} (waiting : IsWaiting surroundings closing events) :
    Finds (run surroundings events closing) first cause ↔ EndsWait surroundings closing events (.look first) cause := by
  constructor
  · intro found
    cases found with
    | signal heard early =>
      exact .signal waiting (heard_run_iff.mp heard) (early.imp_right healthEnd_run_eq_none_iff.mp)
    | health gone early =>
      refine .health waiting (healthEnd_run_iff.mp gone) (early.imp_right fun unheard signalled => ?_)
      rw [heard_run_iff.mpr signalled] at unheard
      cases unheard
  · intro ends
    cases ends with
    | signal _ signalled early =>
      exact .signal (heard_run_iff.mpr signalled) (early.imp_right healthEnd_run_eq_none_iff.mpr)
    | health _ gone early =>
      exact .health (healthEnd_run_iff.mpr gone) (early.imp_right fun unsignalled =>
        Bool.not_eq_true _ ▸ mt heard_run_iff.mp unsignalled)

theorem WaitEnds.isHearing (h : WaitEnds surroundings closing events .signal) : IsHearing surroundings closing events := by
  obtain ⟨before, event, later, rfl, ends⟩ := h
  cases ends with
  | signal _ signalled _ =>
    obtain ⟨earlier, event, between, rfl, ⟨-, hearing⟩, -⟩ := signalled
    exact (hearing.append _).append _

end History

end AdmissionGate.Program
