import AdmissionGate.Proofs.Program.Readiness

/-!
# How a run ends

When its wait is over, a run only has to go on three times, to let the grace period and the longest wait for what is cut off
pass, and to go on once more; whatever else happens in between, it has ended then, unless it is broken off, and how it has ended
is settled by what ended the wait.  What is left to come is a list of events, and every event of the run takes its first element
away or nothing.
-/

namespace AdmissionGate.Program

/-! ### What is left to come -/

/-- A run that drains goes on when some time has passed. -/
def drainage (time : Nat) : List Event :=
  List.replicate time .tick ++ [.proceed]

/-- What a run whose wait is over still needs to come to its end: it takes back the announcement, says that the webhook listener
    stops, closes that, and goes on when it has stopped. -/
def departure (grace : Nat) : List Event :=
  .proceed :: .proceed :: .proceed :: drainage (grace + Listener.closingLimit)

theorem head?_drainage_ne {event : Event} (steady : event ≠ .proceed) (timeless : event ≠ .tick) (time : Nat) :
    (drainage time).head? ≠ some event := by
  cases time with
  | zero => simpa [drainage] using steady.symm
  | succ time => simpa [drainage, List.replicate_succ] using timeless.symm

theorem sublist_of_head?_ne {α : Type} {first : α} {needed more : List α} (h : needed.Sublist (first :: more))
    (apart : needed.head? ≠ some first) : needed.Sublist more := by
  cases h with
  | cons _ h => exact h
  | cons_cons _ h => exact absurd rfl apart

/-- Where a run stands that has left for a cause, with what is left to come. -/
inductive Departs (startup : Startup) (cause : Cause) (state : State) : Stage → List Event → Prop
  | leaving (running : state.listener.phase = .running) (accepting : state.listener.accepting = true) :
      Departs startup cause state (.leaving startup cause) (departure startup.grace)
  | withdrawn (running : state.listener.phase = .running) (accepting : state.listener.accepting = true) :
      Departs startup cause state (.withdrawn startup cause) (departure startup.grace).tail
  | closing (told : state.listener.IsToldToStop) :
      Departs startup cause state (.closing startup cause) (departure startup.grace).tail.tail
  | draining {time : Nat} (within : state.listener.StopsWithin time) :
      Departs startup cause state (.draining cause) (drainage time)
  | ended : Departs startup cause state (.ended cause.exit) []

/-- Whether a run that still needed some events to come to its end needs no more of them than what is left when others have
    passed. -/
def Nears (startup : Startup) (cause : Cause) (needed passed : List Event) (state : State) : Prop :=
  ∃ left, Departs startup cause state state.stage left ∧ ∀ more, needed.Sublist (passed ++ more) → left.Sublist more

namespace Departs

variable {surroundings : Surroundings} {closing : Nat} {startup : Startup} {cause : Cause} {state : State}
  {needed : List Event}

theorem finish {time : Nat} (stage : state.stage = .draining cause) (within : state.listener.StopsWithin time) :
    Nears startup cause (drainage time) [.proceed] (state.finish cause) := by
  rcases state.finish_cases cause with ⟨ended, -⟩ | ⟨same, pending⟩
  · exact ⟨[], ended ▸ .ended, fun more _ => List.nil_sublist more⟩
  · rw [same]
    refine ⟨_, stage ▸ .draining within, fun more sub => sublist_of_head?_ne sub ?_⟩
    cases time with
    | zero =>
      obtain ⟨outcome, stopped, decided⟩ := within.exists_outcome
      exact absurd decided (pending outcome stopped)
    | succ time => simp [drainage, List.replicate_succ]

theorem head?_ne {stage : Stage} (h : Departs startup cause state stage needed) {event : Event} (steady : event ≠ .proceed)
    (timeless : event ≠ .tick) : needed.head? ≠ some event := by
  cases h with
  | leaving _ _ | withdrawn _ _ | closing _ => simpa [departure] using steady.symm
  | draining _ => exact head?_drainage_ne steady timeless _
  | ended => nofun

/-- An event that is not for the webhook listener and is not waited for takes nothing away. -/
theorem stay {after : State} {event : Event} (h : Departs startup cause state state.stage needed)
    (stage : after.stage = state.stage) (lives : after.listener = state.listener) (apart : needed.head? ≠ some event) :
    Nears startup cause needed [event] after := by
  refine ⟨needed, ?_, fun more sub => sublist_of_head?_ne sub apart⟩
  rw [stage]
  generalize state.stage = stage at h
  cases h with
  | leaving running accepting => exact .leaving (lives ▸ running) (lives ▸ accepting)
  | withdrawn running accepting => exact .withdrawn (lives ▸ running) (lives ▸ accepting)
  | closing told => exact .closing (lives ▸ told)
  | draining within => exact .draining (lives ▸ within)
  | ended => exact .ended

/-- An event that means nothing takes nothing away: it is not waited for. -/
theorem idle {event : Event} (ignored : state.Ignores event) (h : Departs startup cause state state.stage needed) :
    Nears startup cause needed [event] state := by
  refine h.stay rfl rfl ?_
  have unneeded : (∃ exit, state.stage = .ended exit) → needed.head? ≠ some event := by
    rintro ⟨exit, stage⟩
    rw [stage] at h
    cases h
    nofun
  cases event with
  | proceed =>
    rcases ignored with ended | ⟨startup, stage⟩
    · exact unneeded ended
    · rw [stage] at h
      cases h
  | look first | signal | healthEnds task ending | listenerFails cause => exact h.head?_ne nofun nofun
  | arrive connection | tick => exact unneeded ignored

/-- An event for the webhook listener takes a millisecond away or nothing. -/
theorem serve {after : State} {event : Event} {inner : Listener.Event} (h : Departs startup cause state state.stage needed)
    (served : event.inner? = some inner) (stage : after.stage = state.stage)
    (lives : after.listener = state.listener.step inner) : Nears startup cause needed [event] after := by
  rw [Nears, stage]
  have steady : event ≠ .proceed := by
    rintro rfl
    cases served
  have apart : some Event.proceed ≠ some event := fun same => steady (Option.some.inj same).symm
  have kept : state.listener.accepting = true →
      after.listener.phase = state.listener.phase ∧ after.listener.accepting = state.listener.accepting :=
    fun accepting => lives ▸ Event.phase_step_inner served (.inl accepting)
  generalize state.stage = stage at h
  cases h with
  | leaving running accepting =>
    obtain ⟨phase, accepts⟩ := kept accepting
    exact ⟨_, .leaving (phase.trans running) (accepts.trans accepting), fun more sub => sublist_of_head?_ne sub apart⟩
  | withdrawn running accepting =>
    obtain ⟨phase, accepts⟩ := kept accepting
    exact ⟨_, .withdrawn (phase.trans running) (accepts.trans accepting), fun more sub => sublist_of_head?_ne sub apart⟩
  | closing told =>
    obtain ⟨phase, accepts⟩ := kept told.accepting
    exact ⟨_, .closing ⟨phase.trans told.phase, accepts.trans told.accepting⟩,
      fun more sub => sublist_of_head?_ne sub apart⟩
  | @draining time within =>
    by_cases passes : event = .tick
    · subst passes
      cases served
      refine ⟨_, .draining (lives ▸ within.tick), fun more sub => ?_⟩
      cases time with
      | zero => exact sublist_of_head?_ne sub nofun
      | succ time => exact List.cons_sublist_cons.mp sub
    · exact ⟨_, .draining (lives ▸ within.step inner), fun more sub =>
        sublist_of_head?_ne sub (head?_drainage_ne steady passes time)⟩
  | ended => exact ⟨[], .ended, fun more _ => List.nil_sublist more⟩

theorem step (event : Event) (survives : ∀ exit, ¬ BreaksOff state event exit)
    (h : Departs startup cause state state.stage needed) :
    Nears startup cause needed [event] (state.step surroundings event) := by
  have moves := moves_step surroundings state event
  generalize state.step surroundings event = after at moves
  cases moves with
  | load stage _ | refuse stage _ | openUp stage | start stage | announce stage | overlook stage _ | find stage _ =>
    rw [stage] at h
    cases h
  | withdraw stage =>
    rw [stage] at h
    cases h with
    | leaving running accepting =>
      exact ⟨_, .withdrawn running accepting, fun more sub => List.cons_sublist_cons.mp sub⟩
  | stop stage =>
    rw [stage] at h
    cases h with
    | withdrawn running accepting =>
      exact ⟨_, .closing (Listener.isToldToStop_stop running accepting), fun more sub => List.cons_sublist_cons.mp sub⟩
  | close stage =>
    rw [stage] at h
    cases h with
    | closing told =>
      exact ⟨_, .draining (Listener.stopsWithin_close told startup.grace), fun more sub => List.cons_sublist_cons.mp sub⟩
  | finish stage =>
    rw [stage] at h
    cases h with
    | draining within => exact finish stage within
  | kill deaf => exact absurd (.kill deaf) (survives .killed)
  | fail serving => exact absurd (.fail serving) (survives (.failure none))
  | hear _ _ | probesEnd _ _ => exact h.stay rfl rfl (h.head?_ne nofun nofun)
  | serve _ served => exact h.serve served rfl rfl
  | idle ignored => exact h.idle ignored

theorem stage_of_nil {stage : Stage} (h : Departs startup cause state stage needed) (nothing : needed = []) :
    stage = .ended cause.exit := by
  cases h with
  | leaving _ _ | withdrawn _ _ | closing _ => cases nothing
  | draining _ => simp [drainage] at nothing
  | ended => rfl

theorem exit_eq {exit : Exit} (h : Departs startup cause state (.ended exit) needed) : exit = cause.exit := by
  cases h
  rfl

/-- Once the run has gone on, the gate is not ready any more. -/
theorem unready {stage : Stage} {events : List Event} (h : Departs startup cause state stage needed)
    (stands : Stands surroundings closing events state stage) (short : needed.Sublist (departure startup.grace).tail) :
    state.health.ready = false := by
  cases h with
  | leaving _ _ => exact absurd short.length_le (by simp [departure])
  | withdrawn _ _ =>
    cases stands with
    | withdrawn _ _ shows => exact shows.ready
  | closing _ =>
    cases stands with
    | closing _ _ shows => exact shows.ready
  | draining _ =>
    cases stands with
    | draining _ _ unready _ _ => exact unready
  | ended =>
    cases stands with
    | finished _ _ _ shows | refused _ _ shows => exact shows.ready
    | failed comes _ _ | killed comes _ _ => cases cause <;> cases comes

end Departs

/-! ### After the wait -/

section Runs

variable {surroundings : Surroundings} {closing : Nat} {startup : Startup} {cause : Cause} {events needed : List Event}

theorem Departs.run
    (h : Departs startup cause (run surroundings events closing) (run surroundings events closing).stage needed)
    (later : List Event) (survives : Survives surroundings closing (events ++ later)) :
    Nears startup cause needed later (Program.run surroundings (events ++ later) closing) := by
  induction later using List.reverseRecOn with
  | nil =>
    rw [List.append_nil]
    exact ⟨needed, h, fun _ => id⟩
  | append_singleton later event ih =>
    rw [← List.append_assoc] at survives ⊢
    obtain ⟨before, now⟩ := survives.of_snoc
    obtain ⟨left, departs, shorter⟩ := ih before
    obtain ⟨left', departs', shorter'⟩ := departs.step event now
    rw [run_snoc]
    refine ⟨left', departs', fun more sub => shorter' more (shorter _ ?_)⟩
    rwa [List.append_assoc] at sub

/-- The event that ends the wait makes the run leave for its cause. -/
theorem EndsWait.departs {event : Event} (h : EndsWait surroundings closing events event cause) :
    ∃ startup, Startup.load surroundings = .ok startup ∧
      Departs startup cause (run surroundings (events ++ [event]) closing)
        (run surroundings (events ++ [event]) closing).stage (departure startup.grace) := by
  have stands := stands_run surroundings closing events
  rw [run_snoc]
  obtain ⟨waiting, first, rfl⟩ := h.exists_look
  have found := (finds_run_iff waiting).mpr h
  obtain ⟨startup, stage⟩ := waiting
  rw [stage] at stands
  cases stands with
  | waiting loaded shows =>
    rw [step_look_of_finds surroundings stage found]
    exact ⟨startup, loaded, .leaving shows.phase shows.accepting⟩

theorem WaitEnds.nears (h : WaitEnds surroundings closing events cause) :
    ∃ startup, Startup.load surroundings = .ok startup ∧
      ∀ later, Survives surroundings closing (events ++ later) →
        Nears startup cause (departure startup.grace) later (run surroundings (events ++ later) closing) := by
  obtain ⟨before, event, rest, rfl, ends⟩ := h
  obtain ⟨startup, loaded, departs⟩ := ends.departs
  refine ⟨startup, loaded, fun later survives => ?_⟩
  have regroup : before ++ event :: rest ++ later = before ++ [event] ++ (rest ++ later) := by simp
  rw [regroup] at survives ⊢
  obtain ⟨left, departs, shorter⟩ := departs.run (rest ++ later) survives
  refine ⟨left, departs, fun more sub => shorter more ?_⟩
  rw [List.append_assoc]
  exact sub.trans (List.sublist_append_right _ _)

/-- Once the wait is over and the run has gone on, the gate is not ready any more. -/
theorem WaitEnds.unready (h : WaitEnds surroundings closing events cause) {later : List Event} (goesOn : .proceed ∈ later)
    (survives : Survives surroundings closing (events ++ later)) :
    (run surroundings (events ++ later) closing).health.ready = false := by
  obtain ⟨startup, -, nears⟩ := h.nears
  obtain ⟨left, departs, shorter⟩ := nears later survives
  have begun : (departure startup.grace).Sublist (later ++ (departure startup.grace).tail) :=
    (List.singleton_sublist.mpr goesOn).append (List.Sublist.refl _)
  exact departs.unready (stands_run surroundings closing (events ++ later)) (shorter _ begun)

theorem WaitEnds.exists_ended (h : WaitEnds surroundings closing events cause) :
    ∃ startup, Startup.load surroundings = .ok startup ∧ ∀ later, (departure startup.grace).Sublist later →
      Survives surroundings closing (events ++ later) →
        (run surroundings (events ++ later) closing).stage = .ended cause.exit := by
  obtain ⟨startup, loaded, nears⟩ := h.nears
  refine ⟨startup, loaded, fun later enough survives => ?_⟩
  obtain ⟨left, departs, shorter⟩ := nears later survives
  have nothing : left = [] := List.sublist_nil.mp (shorter [] (by rwa [List.append_nil]))
  exact departs.stage_of_nil nothing

theorem WaitEnds.exit_eq (h : WaitEnds surroundings closing events cause) (survives : Survives surroundings closing events)
    {exit : Exit} (ended : (run surroundings events closing).stage = .ended exit) : exit = cause.exit := by
  obtain ⟨startup, -, nears⟩ := h.nears
  obtain ⟨left, departs, -⟩ := nears [] (by rwa [List.append_nil])
  rw [List.append_nil, ended] at departs
  exact departs.exit_eq

/-- A process whose wait a signal has ended is never killed: signals are heard by then. -/
theorem WaitEnds.not_isKilled (h : WaitEnds surroundings closing events .signal) :
    ¬ IsKilled surroundings closing events := by
  intro killed
  have stands := stands_run surroundings closing events
  rw [killed_run_iff.mpr killed] at stands
  cases stands with
  | killed _ deaf _ =>
    rw [hears_run_iff.mpr h.isHearing] at deaf
    cases deaf
  | @finished _ cause _ comes _ _ _ => cases cause <;> cases comes
  | refused comes _ _ | failed comes _ _ => cases comes

/-- A process that has loaded what it needs and that is not broken off ends only when its webhook listener has stopped. -/
theorem shows_of_ended {exit : Exit} (ended : (run surroundings events closing).stage = .ended exit)
    (loaded : Startup.load surroundings = .ok startup) (survives : Survives surroundings closing events) :
    (run surroundings events closing).Shows false .stopped false [startup.grace] := by
  have stands := stands_run surroundings closing events
  rw [ended] at stands
  cases stands with
  | finished _ loaded' _ shows =>
    cases loaded.symm.trans loaded'
    exact shows
  | refused _ refused _ =>
    rw [loaded] at refused
    cases refused
  | failed comes _ _ => exact absurd (failed_run_iff.mp (comes ▸ ended)) survives.serves
  | killed comes _ _ => exact absurd (killed_run_iff.mp (comes ▸ ended)) survives.lives

theorem exit_eq_success_iff {exit : Exit} (ended : (run surroundings events closing).stage = .ended exit) :
    exit = .success ↔ (∃ startup, Startup.load surroundings = .ok startup) ∧
      ¬ ListenerFails surroundings closing events ∧ WaitEnds surroundings closing events .signal := by
  constructor
  · rintro rfl
    have survives : ¬ ListenerFails surroundings closing events := by
      rw [← failed_run_iff, ended]
      nofun
    have stands := stands_run surroundings closing events
    rw [ended] at stands
    cases stands with
    | @finished startup cause _ comes loaded waited _ =>
      cases cause with
      | signal => exact ⟨⟨startup, loaded⟩, survives, waited⟩
      | health error => cases comes
    | refused comes _ _ | failed comes _ _ | killed comes _ _ => cases comes
  · rintro ⟨-, serves, waited⟩
    exact waited.exit_eq ⟨serves, waited.not_isKilled⟩ ended

theorem refused_run {error : StartupError} (refused : Startup.load surroundings = .error error)
    (goesOn : .proceed ∈ events) (lives : ¬ IsKilled surroundings closing events) :
    (run surroundings events closing).stage = .ended (.failure (some error.record)) := by
  induction events using List.reverseRecOn with
  | nil => cases goesOn
  | append_singleton events event ih =>
    have lived : ¬ IsKilled surroundings closing events := mt (Happens.append · [event]) lives
    rw [run_snoc]
    rcases List.mem_append.mp goesOn with earlier | now
    · rw [step_of_ended _ (ih earlier lived), ih earlier lived]
    · cases List.mem_singleton.mp now
      rcases (stands_run surroundings closing events).stage_of_refused refused with loading | ended | killed
      · simp only [State.step, State.proceed, State.load, loading, refused]
      · rw [step_of_ended _ ended, ended]
      · exact absurd (killed_run_iff.mp killed) lived

end Runs

end AdmissionGate.Program
