import AdmissionGate.Proofs.Listener.Returning
import AdmissionGate.Proofs.Program.History

/-!
# Readiness

Whether the gate is ready and how far the webhook listener has come are kept apart, and what relates them is the stage of the
run.  So what holds at each stage is said in one table, and every event takes a run from one line of it to another.
-/

namespace AdmissionGate

/-! ### The readiness probe -/

/-- A readiness probe is answered by the status 200 just if the gate is ready and the probe has one of the methods served. -/
theorem Health.status_answer_readyz_iff (health : Health) (method : String) {target : Http.Target}
    (asked : target.path = "/readyz") :
    (health.answer method target).status = 200 ↔ (method = "GET" ∨ method = "HEAD") ∧ health.ready = true := by
  have page : health.page? target.path = some (if health.ready then .text 200 "ready" else .text 503 "not ready") := by
    rw [asked, page?, if_neg (by decide), if_pos rfl]
  have status : (if health.ready then Http.Answer.text 200 "ready" else .text 503 "not ready").status = 200 ↔
      health.ready = true := by
    cases health.ready <;> decide
  simp only [answer, page]
  split
  · rename_i get
    exact status.trans (iff_and_self.mpr fun _ => .inl get)
  · rename_i other
    split
    · rename_i head
      exact status.trans (iff_and_self.mpr fun _ => .inr head)
    · rename_i another
      exact iff_of_false (by decide) fun served => served.1.elim other another

namespace Program

/-! ### What holds at each stage -/

/-- What a state shows: whether the gate is ready, the phase of the webhook listener and whether it accepts connections, and how
    it has been told to stop. -/
structure State.Shows (state : State) (ready : Bool) (phase : Phase) (accepting : Bool) (stops : List Nat) : Prop where
  ready : state.health.ready = ready
  phase : state.listener.phase = phase
  accepting : state.listener.accepting = accepting
  stops : state.stops = stops

/-- What holds of a state at every stage. -/
structure State.IsSound (surroundings : Surroundings) (state : State) : Prop where
  running : state.health.ready = true → state.listener.phase = .running
  once : state.stops.length ≤ 1
  loaded : state.listener.accepting = true ∨ state.listener.phase ≠ .unstarted →
    ∃ startup, Startup.load surroundings = .ok startup

/-- Whether one state comes from another by an event that leaves the stage as it is: at most the webhook listener lives on. -/
structure State.Carries (before after : State) : Prop where
  health : after.health.ready = before.health.ready
  stops : after.stops = before.stops
  hears : after.hears = before.hears
  settled : before.listener.accepting = true ∨ before.listener.phase ≠ .stopping →
    after.listener.phase = before.listener.phase ∧ after.listener.accepting = before.listener.accepting
  within : ∀ {time}, before.listener.StopsWithin time → after.listener.StopsWithin time

theorem State.carries_of_listener_eq {before after : State} (health : after.health.ready = before.health.ready)
    (stops : after.stops = before.stops) (hears : after.hears = before.hears) (lives : after.listener = before.listener) :
    before.Carries after := by
  refine ⟨health, stops, hears, fun _ => by rw [lives]; exact ⟨rfl, rfl⟩, fun within => ?_⟩
  rwa [lives]

section Sound

variable {surroundings : Surroundings} {state after : State} {ready accepting : Bool} {phase : Phase} {stops : List Nat}

theorem State.Shows.isSound (h : state.Shows ready phase accepting stops) (running : ready = true → phase = .running)
    (once : stops.length ≤ 1)
    (loaded : accepting = true ∨ phase ≠ .unstarted → ∃ startup, Startup.load surroundings = .ok startup) :
    state.IsSound surroundings := by
  obtain ⟨rfl, rfl, rfl, rfl⟩ := h
  exact ⟨running, once, loaded⟩

theorem State.Shows.carry (h : state.Shows ready phase accepting stops) (carries : state.Carries after)
    (open_ : accepting = true ∨ phase ≠ .stopping) : after.Shows ready phase accepting stops := by
  obtain ⟨rfl, rfl, rfl, rfl⟩ := h
  obtain ⟨phase, accepting⟩ := carries.settled open_
  exact ⟨carries.health, phase, accepting, carries.stops⟩

theorem State.IsSound.carry (h : state.IsSound surroundings) (carries : state.Carries after) :
    after.IsSound surroundings := by
  refine ⟨fun isReady => ?_, by rw [carries.stops]; exact h.once, fun up => h.loaded ?_⟩
  · have running := h.running (carries.health.symm.trans isReady)
    rw [(carries.settled (.inr (running ▸ nofun))).1, running]
  · by_cases open_ : state.listener.accepting = true ∨ state.listener.phase ≠ .stopping
    · obtain ⟨phase, accepting⟩ := carries.settled open_
      rwa [phase, accepting] at up
    · have stopping := not_not.mp (not_or.mp open_).2
      exact .inr (stopping ▸ nofun)

end Sound

/-- What holds of the state after some events, at each stage. -/
inductive Stands (surroundings : Surroundings) (closing : Nat) (events : List Event) (state : State) : Stage → Prop
  | loading (shows : state.Shows false .unstarted false []) : Stands surroundings closing events state .loading
  | starting {startup : Startup} (loaded : Startup.load surroundings = .ok startup)
      (shows : state.Shows false .unstarted false []) : Stands surroundings closing events state (.starting startup)
  | opening {startup : Startup} (loaded : Startup.load surroundings = .ok startup)
      (shows : state.Shows false .unstarted true []) : Stands surroundings closing events state (.opening startup)
  | announcing {startup : Startup} (loaded : Startup.load surroundings = .ok startup)
      (shows : state.Shows false .running true []) : Stands surroundings closing events state (.announcing startup)
  | waiting {startup : Startup} (loaded : Startup.load surroundings = .ok startup)
      (shows : state.Shows true .running true []) : Stands surroundings closing events state (.waiting startup)
  | leaving {startup : Startup} {cause : Cause} (loaded : Startup.load surroundings = .ok startup)
      (waited : WaitEnds surroundings closing events cause) (shows : state.Shows true .running true []) :
      Stands surroundings closing events state (.leaving startup cause)
  | withdrawn {startup : Startup} {cause : Cause} (loaded : Startup.load surroundings = .ok startup)
      (waited : WaitEnds surroundings closing events cause) (shows : state.Shows false .running true []) :
      Stands surroundings closing events state (.withdrawn startup cause)
  | closing {startup : Startup} {cause : Cause} (loaded : Startup.load surroundings = .ok startup)
      (waited : WaitEnds surroundings closing events cause) (shows : state.Shows false .stopping true [startup.grace]) :
      Stands surroundings closing events state (.closing startup cause)
  | draining {startup : Startup} {cause : Cause} (loaded : Startup.load surroundings = .ok startup)
      (waited : WaitEnds surroundings closing events cause) (unready : state.health.ready = false)
      (within : state.listener.StopsWithin (startup.grace + Listener.closingLimit)) (stops : state.stops = [startup.grace]) :
      Stands surroundings closing events state (.draining cause)
  | finished {startup : Startup} {cause : Cause} {exit : Exit} (comes : exit = cause.exit)
      (loaded : Startup.load surroundings = .ok startup) (waited : WaitEnds surroundings closing events cause)
      (shows : state.Shows false .stopped false [startup.grace]) : Stands surroundings closing events state (.ended exit)
  | refused {error : StartupError} {exit : Exit} (comes : exit = .failure (some error.record))
      (refused : Startup.load surroundings = .error error) (shows : state.Shows false .unstarted false []) :
      Stands surroundings closing events state (.ended exit)
  | failed {startup : Startup} {exit : Exit} (comes : exit = .failure none)
      (loaded : Startup.load surroundings = .ok startup) (sound : state.IsSound surroundings) :
      Stands surroundings closing events state (.ended exit)
  | killed {exit : Exit} (comes : exit = .killed) (deaf : state.hears = false) (sound : state.IsSound surroundings) :
      Stands surroundings closing events state (.ended exit)

namespace Stands

variable {surroundings : Surroundings} {closing : Nat} {events : List Event} {state after : State} {stage : Stage}

theorem isSound (h : Stands surroundings closing events state stage) : state.IsSound surroundings := by
  cases h with
  | loading shows | starting _ shows | refused _ _ shows => exact shows.isSound nofun (by simp) (by simp)
  | opening loaded shows | announcing loaded shows | waiting loaded shows | leaving loaded _ shows | withdrawn loaded _ shows
  | closing loaded _ shows | finished _ loaded _ shows => exact shows.isSound (by simp) (by simp) fun _ => ⟨_, loaded⟩
  | draining loaded _ unready _ stops =>
    refine ⟨fun ready => ?_, by simp [stops], fun _ => ⟨_, loaded⟩⟩
    rw [unready] at ready
    cases ready
  | failed _ _ sound | killed _ _ sound => exact sound

theorem stage_of_refused (h : Stands surroundings closing events state stage) {error : StartupError}
    (refused : Startup.load surroundings = .error error) :
    stage = .loading ∨ stage = .ended (.failure (some error.record)) ∨ stage = .ended .killed := by
  cases h with
  | loading _ => exact .inl rfl
  | refused comes refused' _ =>
    cases refused.symm.trans refused'
    exact .inr (.inl (congrArg Stage.ended comes))
  | killed comes _ _ => exact .inr (.inr (congrArg Stage.ended comes))
  | starting loaded _ | opening loaded _ | announcing loaded _ | waiting loaded _ | leaving loaded _ _ | withdrawn loaded _ _
  | closing loaded _ _ | draining loaded _ _ _ _ | finished _ loaded _ _ | failed _ loaded _ =>
    rw [refused] at loaded
    cases loaded

/-- One more event that does not move the stage leaves what holds as it is. -/
theorem carry (h : Stands surroundings closing events state stage) (event : Event) (carries : state.Carries after) :
    Stands surroundings closing (events ++ [event]) after stage := by
  cases h with
  | loading shows => exact .loading (shows.carry carries (by simp))
  | starting loaded shows => exact .starting loaded (shows.carry carries (by simp))
  | opening loaded shows => exact .opening loaded (shows.carry carries (by simp))
  | announcing loaded shows => exact .announcing loaded (shows.carry carries (by simp))
  | waiting loaded shows => exact .waiting loaded (shows.carry carries (by simp))
  | leaving loaded waited shows => exact .leaving loaded (waited.append [event]) (shows.carry carries (by simp))
  | withdrawn loaded waited shows => exact .withdrawn loaded (waited.append [event]) (shows.carry carries (by simp))
  | closing loaded waited shows => exact .closing loaded (waited.append [event]) (shows.carry carries (by simp))
  | draining loaded waited unready within told =>
    exact .draining loaded (waited.append [event]) (carries.health.trans unready) (carries.within within)
      (carries.stops.trans told)
  | finished comes loaded waited shows =>
    exact .finished comes loaded (waited.append [event]) (shows.carry carries (by simp))
  | refused comes refused shows => exact .refused comes refused (shows.carry carries (by simp))
  | failed comes loaded sound => exact .failed comes loaded (sound.carry carries)
  | killed comes deaf sound => exact .killed comes (carries.hears.trans deaf) (sound.carry carries)

/-- A run that drains goes on draining or is finished. -/
theorem finish {cause : Cause} (stage : state.stage = .draining cause)
    (h : Stands surroundings closing events state (.draining cause)) :
    Stands surroundings closing events (state.finish cause) (state.finish cause).stage := by
  rcases state.finish_cases cause with ⟨ended, stopped⟩ | ⟨same, -⟩
  · rw [ended]
    have keeps := state.keeps_finish cause
    cases h with
    | draining loaded waited unready within told =>
      refine .finished rfl loaded waited ⟨?_, ?_, ?_, ?_⟩
      · rw [keeps.health, unready]
      · rw [keeps.listener, stopped]
      · rw [keeps.listener, within.isClosed.shut]
      · rw [keeps.stops, told]
  · rw [same, stage]
    exact h

end Stands

section Runs

variable (surroundings : Surroundings) (closing : Nat) (events : List Event)

theorem Stands.step (event : Event)
    (h : Stands surroundings closing events (run surroundings events closing) (run surroundings events closing).stage) :
    Stands surroundings closing (events ++ [event]) (run surroundings (events ++ [event]) closing)
      (run surroundings (events ++ [event]) closing).stage := by
  rw [run_snoc]
  have moves := moves_step surroundings (run surroundings events closing) event
  generalize (run surroundings events closing).step surroundings event = after at moves
  -- the stage that a move starts from tells the row of the table, except where the run breaks off or stays where it is
  cases moves with
  | load stage loaded =>
    rw [stage] at h
    cases h with
    | loading shows => exact .starting loaded ⟨shows.ready, shows.phase, shows.accepting, shows.stops⟩
  | refuse stage refused =>
    rw [stage] at h
    cases h with
    | loading shows => exact .refused rfl refused ⟨shows.ready, shows.phase, shows.accepting, shows.stops⟩
  | openUp stage =>
    rw [stage] at h
    cases h with
    | starting loaded shows =>
      have listens : (run surroundings events closing).listener.step .listen =
          { (run surroundings events closing).listener with accepting := true } := by
        rw [Listener.step, if_pos shows.phase]
      exact .opening loaded ⟨shows.ready, (congrArg Listener.phase listens).trans shows.phase,
        congrArg Listener.accepting listens, shows.stops⟩
  | start stage =>
    rw [stage] at h
    cases h with
    | opening loaded shows =>
      have runs : (run surroundings events closing).listener.step .start =
          (run surroundings events closing).listener.enter .running := by
        rw [Listener.step, if_pos ⟨shows.phase, shows.accepting⟩]
      exact .announcing loaded ⟨shows.ready, congrArg Listener.phase runs,
        (congrArg Listener.accepting runs).trans shows.accepting, shows.stops⟩
  | announce stage =>
    rw [stage] at h
    cases h with
    | announcing loaded shows => exact .waiting loaded ⟨rfl, shows.phase, shows.accepting, shows.stops⟩
  | overlook stage _ =>
    rw [stage] at h
    cases h with
    | waiting loaded shows =>
      exact stage ▸ .waiting loaded ⟨shows.ready, shows.phase, shows.accepting, shows.stops⟩
  | find stage found =>
    rw [stage] at h
    cases h with
    | waiting loaded shows =>
      have ends := (finds_run_iff ⟨_, stage⟩).mp found
      exact .leaving loaded (happens_snoc.mpr (.inr ends)) ⟨shows.ready, shows.phase, shows.accepting, shows.stops⟩
  | withdraw stage =>
    rw [stage] at h
    cases h with
    | leaving loaded waited shows =>
      exact .withdrawn loaded (waited.append _) ⟨rfl, shows.phase, shows.accepting, shows.stops⟩
  | @stop startup cause stage =>
    rw [stage] at h
    cases h with
    | withdrawn loaded waited shows =>
      have told : ((run surroundings events closing).stop startup cause).stops = [startup.grace] := by
        rw [State.stop, State.stops_note, shows.stops]
      have open_ := Listener.isToldToStop_stop shows.phase shows.accepting
      exact .closing loaded (waited.append _) ⟨shows.ready, open_.phase, open_.accepting, told⟩
  | @close startup cause stage =>
    rw [stage] at h
    cases h with
    | closing loaded waited shows =>
      have within := Listener.stopsWithin_close ⟨shows.phase, shows.accepting⟩ startup.grace
      exact .draining loaded (waited.append _) shows.ready within shows.stops
  | finish stage =>
    rw [stage] at h
    cases h with
    | draining loaded waited unready within told =>
      exact .finish stage (.draining loaded (waited.append _) unready within told)
  | kill deaf => exact .killed rfl deaf.2 ⟨h.isSound.running, h.isSound.once, h.isSound.loaded⟩
  | fail serving =>
    have up : (run surroundings events closing).listener.accepting = true ∨
        (run surroundings events closing).listener.phase ≠ .unstarted :=
      serving.2.imp_right fun stopping => by simp [stopping]
    obtain ⟨startup, loaded⟩ := h.isSound.loaded up
    exact .failed rfl loaded ⟨h.isSound.running, h.isSound.once, h.isSound.loaded⟩
  | hear _ _ | probesEnd _ _ | idle _ => exact h.carry _ (State.carries_of_listener_eq rfl rfl rfl rfl)
  | serve _ served =>
    exact h.carry _ ⟨rfl, rfl, rfl, Event.phase_step_inner served, fun within => within.step _⟩

/-- Every run stands in the table. -/
theorem stands_run :
    Stands surroundings closing events (run surroundings events closing) (run surroundings events closing).stage := by
  induction events using List.reverseRecOn with
  | nil => exact .loading ⟨rfl, rfl, rfl, rfl⟩
  | append_singleton events event ih => exact ih.step surroundings closing events event

theorem ready_of_isWaiting (waits : IsWaiting surroundings closing events) :
    (run surroundings events closing).health.ready = true := by
  obtain ⟨startup, stage⟩ := waits
  have stands := stands_run surroundings closing events
  rw [stage] at stands
  cases stands with
  | waiting _ shows => exact shows.ready

/-- A gate whose webhook listener has been told to stop is never ready again. -/
theorem unready_of_isHalted (told : (run surroundings events closing).listener.phase.isHalted) (later : List Event) :
    (run surroundings (events ++ later) closing).health.ready = false := by
  obtain ⟨inner, lives⟩ := exists_listener_run_append surroundings closing events later
  have still : (run surroundings (events ++ later) closing).listener.phase.isHalted := by
    rw [lives]
    exact Listener.isHalted_after told inner
  rw [← Bool.not_eq_true]
  intro ready
  rw [(stands_run surroundings closing (events ++ later)).isSound.running ready] at still
  exact still.elim nofun nofun

end Runs

end Program

end AdmissionGate
