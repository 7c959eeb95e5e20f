import AdmissionGate.Program.Run
import AdmissionGate.Proofs.Listener.Life

/-!
# The steps of a run

What one event can do to a run is said once, guards included, and all that holds of runs is derived from that.
-/

namespace AdmissionGate.Program

/-- How a run ends that has left for a cause. -/
def Cause.exit : Cause → Exit
  | signal => .success
  | health error => .failure (some error.record)

/-! ### What is left unchanged -/

namespace State

@[simp]
theorem stops_note (state : State) (entries : List Entry) : (state.note entries).stops = state.stops := rfl

@[simp]
theorem stage_leave (state : State) (startup : Startup) (cause : Cause) :
    (state.leave startup cause).stage = .leaving startup cause := rfl

/-- Whether two states may differ in their stages and logs only. -/
structure Keeps (before after : State) : Prop where
  health : after.health = before.health
  healthEnd : after.healthEnd = before.healthEnd
  hears : after.hears = before.hears
  heard : after.heard = before.heard
  listener : after.listener = before.listener
  stops : after.stops = before.stops

theorem keeps_finish (state : State) (cause : Cause) : state.Keeps (state.finish cause) := by
  rw [finish]
  split
  · cases cause <;> exact ⟨rfl, rfl, rfl, rfl, rfl, rfl⟩
  · exact ⟨rfl, rfl, rfl, rfl, rfl, rfl⟩

/-- The process ends as soon as the stop has returned, and not earlier. -/
theorem finish_cases (state : State) (cause : Cause) :
    (state.finish cause).stage = .ended cause.exit ∧ state.listener.phase = .stopped ∨
      state.finish cause = state ∧
        ∀ outcome, state.listener.phase = .stopped → state.listener.outcome ≠ some outcome := by
  rw [finish]
  split
  · rename_i stopped _
    refine .inl ⟨?_, stopped⟩
    cases cause <;> rfl
  · rename_i pending
    exact .inr ⟨rfl, fun outcome stopped decided => pending outcome stopped decided⟩

/-! ### Guards -/

/-- Whether the process lives. -/
def IsAlive (state : State) : Prop :=
  ∀ exit, state.stage ≠ .ended exit

/-- Whether a failure of the webhook listener would end the process: the process lives, and the listener listens or is
    stopping. -/
def IsServing (state : State) : Prop :=
  state.IsAlive ∧ (state.listener.accepting = true ∨ state.listener.phase = .stopping)

/-- Whether a signal would kill the process. -/
def IsDeaf (state : State) : Prop :=
  state.IsAlive ∧ state.hears = false

theorem exit?_eq_some_iff {state : State} {exit : Exit} : state.exit? = some exit ↔ state.stage = .ended exit := by
  rw [exit?]
  cases state.stage <;> simp

end State

/-! ### What the wait finds -/

/-- Whether the wait, looking for one of its concerns first, finds a cause in a state to leave. -/
inductive Finds (state : State) : Concern → Cause → Prop
  | signal {first : Concern} (heard : state.heard = true) (early : first = .signal ∨ state.healthEnd = none) :
      Finds state first .signal
  | health {first : Concern} {error : HealthError} (gone : state.healthEnd = some error)
      (early : first = .health ∨ state.heard = false) :
      Finds state first (.health error)

theorem State.cause?_eq_some_iff {state : State} {first : Concern} {cause : Cause} :
    state.cause? first = some cause ↔ Finds state first cause := by
  constructor
  · intro found
    cases first <;> cases heard : state.heard <;> cases gone : state.healthEnd <;> simp [State.cause?, heard, gone] at found
    all_goals subst found
    all_goals first | exact .signal heard (by simp [gone]) | exact .health gone (by simp [heard])
  · intro finds
    cases finds with
    | signal heard early => cases first <;> simp_all [State.cause?]
    | health gone early => cases first <;> simp_all [State.cause?]

/-! ### One event -/

/-- What an event is to the webhook listener. -/
def Event.inner? : Event → Option Listener.Event
  | arrive connection => some (.arrive connection)
  | tick => some .tick
  | proceed | look _ | signal | healthEnds _ _ | listenerFails _ => none

theorem Event.phase_step_inner {event : Event} {inner : Listener.Event} (served : event.inner? = some inner)
    {listener : Listener} (open_ : listener.accepting = true ∨ listener.phase ≠ .stopping) :
    (listener.step inner).phase = listener.phase ∧ (listener.step inner).accepting = listener.accepting := by
  cases event with
  | arrive connection =>
    cases served
    exact Listener.phase_step_of_open open_ (.inr ⟨connection, rfl⟩)
  | tick =>
    cases served
    exact Listener.phase_step_of_open open_ (.inl rfl)
  | proceed | look first | signal | healthEnds task ending | listenerFails cause => cases served

/-- Whether an event means nothing to a state. -/
def State.Ignores (state : State) : Event → Prop
  | .proceed => (∃ exit, state.stage = .ended exit) ∨ ∃ startup, state.stage = .waiting startup
  | .look _ => ∀ startup, state.stage ≠ .waiting startup
  | .healthEnds _ _ => ¬ (state.probed ∧ state.healthEnd = none)
  | .listenerFails _ => ¬ state.IsServing
  | .signal | .arrive _ | .tick => ∃ exit, state.stage = .ended exit

/-- What an event can do to a state. -/
inductive Moves (surroundings : Surroundings) (state : State) : Event → State → Prop
  | load {startup : Startup} (stage : state.stage = .loading) (loaded : Startup.load surroundings = .ok startup) :
      Moves surroundings state .proceed ({ state with stage := .starting startup }.note [.identityLoaded, .healthStarting])
  | refuse {error : StartupError} (stage : state.stage = .loading) (refused : Startup.load surroundings = .error error) :
      Moves surroundings state .proceed { state with stage := .ended (.failure (some error.record)) }
  | openUp {startup : Startup} (stage : state.stage = .starting startup) :
      Moves surroundings state .proceed (state.openUp startup)
  | start {startup : Startup} (stage : state.stage = .opening startup) :
      Moves surroundings state .proceed (state.start startup)
  | announce {startup : Startup} (stage : state.stage = .announcing startup) :
      Moves surroundings state .proceed ({ state with stage := .waiting startup }.setReady true)
  | overlook {startup : Startup} {first : Concern} (stage : state.stage = .waiting startup)
      (nothing : state.heard = false ∧ state.healthEnd = none) :
      Moves surroundings state (.look first) { state with hears := true }
  | find {startup : Startup} {first : Concern} {cause : Cause} (stage : state.stage = .waiting startup)
      (found : Finds state first cause) :
      Moves surroundings state (.look first) ({ state with hears := state.listens first }.leave startup cause)
  | withdraw {startup : Startup} {cause : Cause} (stage : state.stage = .leaving startup cause) :
      Moves surroundings state .proceed (state.withdraw startup cause)
  | stop {startup : Startup} {cause : Cause} (stage : state.stage = .withdrawn startup cause) :
      Moves surroundings state .proceed (state.stop startup cause)
  | close {startup : Startup} {cause : Cause} (stage : state.stage = .closing startup cause) :
      Moves surroundings state .proceed (state.close startup cause)
  | finish {cause : Cause} (stage : state.stage = .draining cause) : Moves surroundings state .proceed (state.finish cause)
  | hear (alive : state.IsAlive) (hears : state.hears = true) : Moves surroundings state .signal { state with heard := true }
  | kill (deaf : state.IsDeaf) : Moves surroundings state .signal { state with stage := .ended .killed }
  | fail {cause : String} (serving : state.IsServing) :
      Moves surroundings state (.listenerFails cause)
        ({ state with stage := .ended (.failure none) }.note [.listenerFailed cause])
  | probesEnd {task : String} {ending : TaskEnd} (probed : state.probed) (first : state.healthEnd = none) :
      Moves surroundings state (.healthEnds task ending)
        { state with healthEnd := some (HealthError.ofTaskEnd task ending) }
  | serve {event : Event} {inner : Listener.Event} (alive : state.IsAlive) (served : event.inner? = some inner) :
      Moves surroundings state event { state with listener := state.listener.step inner }
  | idle {event : Event} (ignored : state.Ignores event) : Moves surroundings state event state

section Steps

variable (surroundings : Surroundings) (state : State)

theorem moves_proceed : Moves surroundings state .proceed (state.proceed surroundings) := by
  rw [State.proceed]
  split
  · rename_i stage
    rw [State.load]
    split
    · rename_i refused
      exact .refuse stage refused
    · rename_i loaded
      exact .load stage loaded
  · rename_i stage
    exact .openUp stage
  · rename_i stage
    exact .start stage
  · rename_i stage
    exact .announce stage
  · rename_i stage
    exact .withdraw stage
  · rename_i stage
    exact .stop stage
  · rename_i stage
    exact .close stage
  · rename_i stage
    exact .finish stage
  · rename_i stage
    exact .idle (.inr ⟨_, stage⟩)
  · rename_i stage
    exact .idle (.inl ⟨_, stage⟩)

variable {state} in
theorem moves_look {startup : Startup} (stage : state.stage = .waiting startup) (first : Concern) :
    Moves surroundings state (.look first) (state.look startup first) := by
  rw [State.look]
  split
  · rename_i unfound
    have unheard : state.heard = false := by
      cases heard : state.heard with
      | false => rfl
      | true => cases first <;> cases gone : state.healthEnd <;> simp [State.cause?, heard, gone] at unfound
    have present : state.healthEnd = none := by
      cases gone : state.healthEnd with
      | none => rfl
      | some error => cases first <;> simp [State.cause?, unheard, gone] at unfound
    have listens : state.listens first = true := by simp [State.listens, present]
    rw [listens]
    exact .overlook stage ⟨unheard, present⟩
  · rename_i cause found
    exact .find stage (State.cause?_eq_some_iff.mp found)

variable {state} in
theorem step_look_of_finds {startup : Startup} {first : Concern} {cause : Cause} (stage : state.stage = .waiting startup)
    (found : Finds state first cause) :
    state.step surroundings (.look first) = { state with hears := state.listens first }.leave startup cause := by
  have goesBy := State.cause?_eq_some_iff.mpr found
  simp only [State.step, State.look, stage, goesBy]

theorem moves_signal : Moves surroundings state .signal state.signal := by
  rw [State.signal]
  split
  · rename_i stage
    exact .idle ⟨_, stage⟩
  · rename_i alive
    split
    · rename_i hears
      exact .hear alive hears
    · rename_i deaf
      exact .kill ⟨alive, Bool.not_eq_true _ ▸ deaf⟩

theorem moves_listenerFails (cause : String) :
    Moves surroundings state (.listenerFails cause) (state.failListener cause) := by
  rw [State.failListener]
  split
  · rename_i stage
    exact .idle fun serving => serving.1 _ stage
  · rename_i alive
    split
    · rename_i up
      exact .fail ⟨alive, up⟩
    · rename_i down
      exact .idle fun serving => down serving.2

theorem moves_onListener {event : Event} {inner : Listener.Event} (served : event.inner? = some inner) :
    Moves surroundings state event (state.onListener inner) := by
  rw [State.onListener]
  split
  · rename_i stage
    cases event with
    | arrive connection | tick => exact .idle ⟨_, stage⟩
    | proceed | look first | signal | healthEnds task ending | listenerFails cause => cases served
  · rename_i alive
    exact .serve alive served

theorem moves_step (event : Event) : Moves surroundings state event (state.step surroundings event) := by
  cases event with
  | proceed => exact moves_proceed surroundings state
  | look first =>
    rw [State.step]
    split
    · rename_i stage
      exact moves_look surroundings stage first
    · rename_i elsewhere
      exact .idle elsewhere
  | signal => exact moves_signal surroundings state
  | healthEnds task ending =>
    rw [State.step]
    split
    · rename_i first
      exact .probesEnd first.1 first.2
    · rename_i later
      exact .idle later
  | listenerFails cause => exact moves_listenerFails surroundings state cause
  | arrive connection => exact moves_onListener surroundings state rfl
  | tick => exact moves_onListener surroundings state rfl

variable {state} in
theorem step_signal_of_isDeaf (deaf : state.IsDeaf) :
    state.step surroundings .signal = { state with stage := .ended .killed } := by
  obtain ⟨alive, unheard⟩ := deaf
  rw [State.step, State.signal]
  split
  · rename_i ended
    exact absurd ended (alive _)
  · rw [if_neg (by simp [unheard])]

variable {state} in
/-- When the process has ended, nothing happens any more. -/
theorem step_of_ended {exit : Exit} (ended : state.stage = .ended exit) (event : Event) :
    state.step surroundings event = state := by
  cases event with
  | proceed => simp only [State.step, State.proceed, ended]
  | look first => simp only [State.step, ended]
  | signal => simp only [State.step, State.signal, ended]
  | healthEnds task ending => simp [State.step, State.probed, ended]
  | listenerFails cause => simp only [State.step, State.failListener, ended]
  | arrive connection | tick => simp only [State.step, State.onListener, ended]

/-- Whatever happens in a run, the webhook listener just lives on. -/
theorem exists_listener_step (event : Event) :
    ∃ inner, (state.step surroundings event).listener = state.listener.after inner := by
  have moves := moves_step surroundings state event
  generalize state.step surroundings event = after at moves
  cases moves with
  | openUp _ => exact ⟨[.listen], rfl⟩
  | start _ => exact ⟨[.start], rfl⟩
  | stop _ => exact ⟨[.stop], rfl⟩
  | @close startup _ _ => exact ⟨[.close startup.grace], rfl⟩
  | finish _ => exact ⟨[], (State.keeps_finish _ _).listener⟩
  | @serve _ inner _ _ => exact ⟨[inner], rfl⟩
  | load _ _ | refuse _ _ | announce _ | overlook _ _ | find _ _ | withdraw _ | hear _ _ | kill _ | fail _
  | probesEnd _ _ | idle _ => exact ⟨[], rfl⟩

end Steps

end AdmissionGate.Program
