import AdmissionGate.Proofs.Listener.Draining

/-!
# The law of shutting down

A listener at work that is said to stop still accepts connections until it is closed, and what has been accepted by then is
waited for.  From the closing on, the stop returns after some time that is fixed when it begins: when the last connection ends,
if all of them end within the grace period, and otherwise when those that are cut off at its end have closed, or are not waited
for any longer.  Whatever else happens in the meantime, the stop is graceful just if all open connections, those without a
request included, have ended within the grace period; and the requests on those are the ones that are answered.
-/

namespace AdmissionGate.Listener

/-! ### When a stop returns -/

section Returning

variable (told : Listener) (grace : Nat)

/-- Whether a stop has returned some time after the listener was closed. -/
def HasReturned (time : Nat) : Prop :=
  told.AllEndBefore (min (time + 1) grace) ∨ grace + told.closingTime ≤ time

theorem exists_returned : ∃ returned, returned ≤ grace + closingLimit ∧
    ∀ time, returned ≤ time ↔ told.HasReturned grace time := by
  classical
  have mono : ∀ {time later}, told.HasReturned grace time → time ≤ later → told.HasReturned grace later := by
    intro time later h le
    rcases h with ended | late
    · exact .inl (ended.mono (by omega))
    · exact .inr (Nat.le_trans late le)
  have last : told.HasReturned grace (grace + told.closingTime) := .inr (Nat.le_refl _)
  refine ⟨Nat.find ⟨_, last⟩, ?_, ?_⟩
  · exact Nat.le_trans (Nat.find_min' _ last) (Nat.add_le_add_left (Nat.min_le_right _ _) grace)
  · intro time
    constructor
    · exact mono (Nat.find_spec ⟨_, last⟩)
    · exact Nat.find_min' _

variable {told grace} {listener : Listener} {time : Nat}

theorem Drains.stopped_iff (h : Drains told grace time listener) :
    listener.phase = .stopped ↔ told.HasReturned grace time := by
  cases h with
  | waiting awaits left =>
    have early := awaits.early
    rw [awaits.phase, HasReturned, Nat.min_eq_left early]
    refine iff_of_false nofun ?_
    rintro (ended | late)
    · exact left ended
    · omega
  | drained ended ends => exact iff_of_true ends.phase (.inl ended)
  | closing left late within _ ends =>
    rw [ends.phase, HasReturned, Nat.min_eq_right (by omega)]
    refine iff_of_false nofun ?_
    rintro (ended | later)
    · exact left ended
    · omega
  | closed _ late ends => exact iff_of_true ends.phase (.inr late)

theorem Drains.phase_eq (h : Drains told grace time listener) [Decidable (told.HasReturned grace time)] :
    listener.phase = if told.HasReturned grace time then .stopped else .stopping := by
  split
  · rename_i returned
    exact h.stopped_iff.mpr returned
  · rename_i pending
    rcases h.isClosed.halted with stopping | stopped
    · exact stopping
    · exact absurd (h.stopped_iff.mp stopped) pending

theorem Drains.answered_perm (h : Drains told grace time listener) :
    listener.answered.Perm (told.answersBefore (min (time + 1) grace)) := by
  cases h with
  | waiting awaits _ =>
    rw [Nat.min_eq_left awaits.early]
    exact awaits.answered
  | drained _ ends | closing _ _ _ _ ends | closed _ _ ends => exact ends.answered

/-- How a stop comes out is settled by the connections that are open when it begins. -/
theorem Drains.outcome_iff (h : Drains told grace time listener) (stopped : listener.phase = .stopped) :
    (listener.outcome = some .graceful ↔ told.AllEndBefore grace) ∧
      (listener.outcome = some .forced ↔ ¬ told.AllEndBefore grace) := by
  cases h with
  | waiting awaits _ =>
    rw [awaits.phase] at stopped
    cases stopped
  | closing _ _ _ _ ends =>
    rw [ends.phase] at stopped
    cases stopped
  | drained ended ends =>
    have ended : told.AllEndBefore grace := ended.mono (Nat.min_le_right _ _)
    rw [ends.outcome]
    exact ⟨iff_of_true rfl ended, iff_of_false nofun (not_not_intro ended)⟩
  | closed left _ ends =>
    rw [ends.outcome]
    exact ⟨iff_of_false nofun left, iff_of_true rfl left⟩

end Returning

/-! ### Who is answered -/

theorem lookup_of_mem {α : Type} {pairs : List (Nat × α)} (distinct : (pairs.map Prod.fst).Nodup) {number : Nat} {value : α}
    (listed : (number, value) ∈ pairs) : pairs.lookup number = some value := by
  obtain ⟨before, later, rfl⟩ := List.append_of_mem listed
  rw [List.map_append, List.nodup_append] at distinct
  rw [List.lookup_eq_some_iff]
  refine ⟨before, later, rfl, ?_⟩
  intro pair earlier
  have apart := distinct.2.2 pair.1 (List.mem_map_of_mem earlier) number (by simp)
  exact bne_iff_ne.mpr (Ne.symm apart)

/-- Whether open connections have numbers of their own, other than those of the requests that have been answered. -/
def IsNumbered (told : Listener) : Prop :=
  (told.connections.map Connection.number ++ told.answered.map Prod.fst).Nodup

theorem map_fst_filterMap_reply?_sublist (connections : List Connection) :
    ((connections.filterMap Connection.reply?).map Prod.fst).Sublist (connections.map Connection.number) := by
  induction connections with
  | nil => exact List.Sublist.slnil
  | cons connection connections ih =>
    cases request : connection.answer? with
    | none =>
      have silent : connection.reply? = none := by rw [Connection.reply?, request, Option.map_none]
      rw [List.filterMap_cons_none silent]
      exact ih.cons _
    | some answer =>
      have replied : connection.reply? = some (connection.number, answer) := by
        rw [Connection.reply?, request, Option.map_some]
      rw [List.filterMap_cons_some replied]
      exact ih.cons_cons _

section Clients

variable {told listener : Listener} {time : Nat} {connection : Connection}

theorem IsNumbered.answersBefore (numbered : told.IsNumbered) (time : Nat) :
    ((told.answersBefore time).map Prod.fst).Nodup := by
  refine List.Nodup.sublist ?_ numbered
  rw [Listener.answersBefore, List.map_append, Connection.replies]
  have kept := List.filter_sublist (l := told.connections) (p := fun connection => connection.EndsBefore time)
  exact ((map_fst_filterMap_reply?_sublist _).trans (kept.map Connection.number)).append_right _

/-- Of a connection only its own reply is given under its number. -/
theorem reply?_of_mem_replies (numbered : told.IsNumbered) (listed : connection ∈ told.connections)
    {answer : Http.Answer} (replied : (connection.number, answer) ∈ Connection.replies time told.connections) :
    connection.EndsBefore time ∧ connection.answer? = some answer := by
  obtain ⟨other, kept, reply⟩ := List.mem_filterMap.mp replied
  obtain ⟨listed', ends⟩ := List.mem_filter.mp kept
  obtain ⟨given, request, same⟩ := Option.map_eq_some_iff.mp reply
  obtain ⟨number, rfl⟩ := Prod.mk.inj same
  have one : other = connection := List.inj_on_of_nodup_map (List.nodup_append.mp numbered).1 listed' listed number
  subst one
  exact ⟨of_decide_eq_true ends, request⟩

theorem answerTo?_eq_some_iff (numbered : told.IsNumbered) (answered : listener.answered.Perm (told.answersBefore time))
    (listed : connection ∈ told.connections) {answer : Http.Answer} :
    listener.answerTo? connection.number = some answer ↔
      connection.EndsBefore time ∧ connection.answer? = some answer := by
  have distinct : (listener.answered.map Prod.fst).Nodup := by
    rw [(answered.map Prod.fst).nodup_iff]
    exact numbered.answersBefore time
  constructor
  · intro found
    obtain ⟨before, later, split, -⟩ := List.lookup_eq_some_iff.mp found
    have given : (connection.number, answer) ∈ listener.answered := split ▸ List.mem_append_right _ List.mem_cons_self
    rcases List.mem_append.mp (answered.mem_iff.mp given) with replied | earlier
    · exact reply?_of_mem_replies numbered listed replied
    · have apart := (List.nodup_append.mp numbered).2.2 _ (List.mem_map_of_mem listed) _ (List.mem_map_of_mem earlier)
      exact absurd rfl apart
  · rintro ⟨ends, request⟩
    apply lookup_of_mem distinct
    have kept : connection ∈ told.connections.filter fun connection => connection.EndsBefore time :=
      List.mem_filter.mpr ⟨listed, decide_eq_true ends⟩
    have reply : connection.reply? = some (connection.number, answer) := by
      rw [Connection.reply?, request, Option.map_some]
    exact answered.mem_iff.mpr (List.mem_append_left _ (List.mem_filterMap.mpr ⟨connection, kept, reply⟩))

end Clients

/-! ### The law -/

/-- What it means that a listener that is said to stop, closed with a grace period, returns after some time. -/
structure ShutsDown (told : Listener) (grace returned : Nat) : Prop where
  /-- Before it is closed it goes on accepting. -/
  accepts : told.phase = .stopping ∧ ∀ connection, connection.remaining ≠ some 0 →
    connection ∈ (told.step (.arrive connection)).connections
  bounded : returned ≤ grace + closingLimit
  /-- It is stopping until then, and has stopped from then on. -/
  phase : ∀ later, ((told.step (.close grace)).after later).phase =
    if returned ≤ later.count .tick then .stopped else .stopping
  stopped : (told.drain grace).phase = .stopped
  /-- What it comes to does not depend on what happens in the meantime. -/
  result : ∀ later, returned ≤ later.count .tick → (told.step (.close grace)).after later = told.drain grace
  /-- It waits for every open connection, with a request or without. -/
  graceful : (told.drain grace).outcome = some .graceful ↔ ∀ connection ∈ told.connections, connection.EndsBefore grace
  forced : (told.drain grace).outcome = some .forced ↔ ∃ connection ∈ told.connections, connection.LastsBeyond grace
  /-- Within the grace period it returns as soon as nothing is open. -/
  soon : ∀ time < grace, returned ≤ time ↔ ∀ connection ∈ told.connections, connection.EndsBefore (time + 1)
  /-- At any time, the requests on the connections that have ended within the grace period are answered, and no other. -/
  answered : ∀ later, ((told.step (.close grace)).after later).answered.Perm
    (told.answersBefore (min (later.count .tick + 1) grace))
  clients : told.IsNumbered → ∀ connection ∈ told.connections,
    (connection.EndsBefore grace → (told.drain grace).answerTo? connection.number = connection.answer?) ∧
      (connection.LastsBeyond grace → (told.drain grace).answerTo? connection.number = none)
  refused : ∀ later connection, ((told.step (.close grace)).after later).step (.arrive connection) =
    (told.step (.close grace)).after later

section Law

variable {told : Listener} {grace returned : Nat}

theorem mem_connections_arrive (accepting : told.accepting = true) {connection : Connection}
    (pending : connection.remaining ≠ some 0) : connection ∈ (told.step (.arrive connection)).connections := by
  rw [step, if_pos accepting, deliver, List.mem_filter]
  exact ⟨List.mem_append_right _ List.mem_cons_self, decide_eq_true pending⟩

theorem not_allEndBefore_iff (untied : ∀ connection ∈ told.connections, connection.remaining ≠ some grace) :
    ¬ told.AllEndBefore grace ↔ ∃ connection ∈ told.connections, connection.LastsBeyond grace := by
  simp only [AllEndBefore, not_forall, exists_prop]
  exact exists_congr fun connection =>
    and_congr_right fun listed => Connection.not_endsBefore_iff (untied connection listed)

section Close

variable (prompt : told.IsPrompt) (open_ : told.IsToldToStop) (positive : 0 < grace)
include prompt open_ positive

theorem drains_after_close (later : List Event) :
    Drains told grace (later.count .tick) ((told.step (.close grace)).after later) := by
  have now := (Drains.begin prompt open_ positive).after later
  rwa [Nat.zero_add] at now

theorem drain_eq_after : told.drain grace =
    (told.step (.close grace)).after (List.replicate (grace + closingLimit) .tick) :=
  (Drains.begin prompt open_ positive).isClosed.wait_eq_after _

theorem drains_drain : Drains told grace (grace + closingLimit) (told.drain grace) := by
  rw [drain_eq_after prompt open_ positive]
  have waited := drains_after_close prompt open_ positive (List.replicate (grace + closingLimit) .tick)
  rwa [List.count_replicate_self] at waited

theorem answered_drain_perm : (told.drain grace).answered.Perm (told.answersBefore grace) := by
  have given := (drains_drain prompt open_ positive).answered_perm
  have whole : min (grace + closingLimit + 1) grace = grace := by omega
  rwa [whole] at given

/-- Once a stop has returned, the listener is what the wait for it comes to. -/
theorem after_close_eq_drain (bounded : returned ≤ grace + closingLimit) (due : told.HasReturned grace returned)
    {later : List Event} (past : returned ≤ later.count .tick) :
    (told.step (.close grace)).after later = told.drain grace := by
  have settled : ∀ {time}, returned ≤ time → (told.step (.close grace)).after (List.replicate time .tick) =
      (told.step (.close grace)).after (List.replicate returned .tick) := by
    intro time le
    obtain ⟨more, rfl⟩ := Nat.exists_eq_add_of_le le
    have now := drains_after_close prompt open_ positive (List.replicate returned .tick)
    have stopped := now.stopped_iff.mpr (by rwa [List.count_replicate_self])
    rw [List.replicate_add, after_append, now.isClosed.after_of_stopped stopped]
  have closed := (Drains.begin prompt open_ positive).isClosed
  rw [drain_eq_after prompt open_ positive, closed.after_eq_replicate later, settled past, settled bounded]

end Close

end Law

/-- Whatever has happened to a listener that is at work, whatever happens to it between being said to stop and being closed, it
    shuts down by the law, and its phases only go forward. -/
theorem shutdown_law (closing : Nat) (events between : List Event) (grace : Nat)
    (atWork : ((fresh closing).after events).phase = .running) (unclosed : ∀ grace', .close grace' ∉ between)
    (positive : 0 < grace)
    (untied : ∀ connection ∈ ((fresh closing).after (events ++ .stop :: between)).connections,
      connection.remaining ≠ some grace) :
    (fresh closing).GoesForward ∧
      ∃ returned, ((fresh closing).after (events ++ .stop :: between)).ShutsDown grace returned := by
  classical
  have prompt := (isPrompt_fresh closing).after (events ++ .stop :: between)
  have open_ : ((fresh closing).after (events ++ .stop :: between)).IsToldToStop := by
    have accepting := ((isPrompt_fresh closing).after events).running atWork
    rw [after_append]
    exact (isToldToStop_stop atWork accepting).after unclosed
  generalize (fresh closing).after (events ++ .stop :: between) = told at untied prompt open_ ⊢
  obtain ⟨returned, bounded, returned_le⟩ := exists_returned told grace
  have drains := drains_after_close prompt open_ positive
  have last := drains_drain prompt open_ positive
  have stopped := last.stopped_iff.mpr ((returned_le _).mp bounded)
  obtain ⟨graceful_iff, forced_iff⟩ := last.outcome_iff stopped
  have answered := answered_drain_perm prompt open_ positive
  refine ⟨goesForward_fresh closing, returned, ⟨open_.phase, fun _ => mem_connections_arrive open_.accepting⟩, bounded, ?_,
    stopped, ?_, graceful_iff, forced_iff.trans (not_allEndBefore_iff untied), ?_, fun later => (drains later).answered_perm,
    ?_, ?_⟩
  · intro later
    rw [(drains later).phase_eq]
    simp only [returned_le]
  · intro later
    exact after_close_eq_drain prompt open_ positive bounded ((returned_le returned).mp (Nat.le_refl returned))
  · intro time early
    rw [returned_le, HasReturned, Nat.min_eq_left early]
    exact or_iff_left (by omega)
  · intro numbered connection listed
    have given : ∀ answer, (told.drain grace).answerTo? connection.number = some answer ↔
        connection.EndsBefore grace ∧ connection.answer? = some answer :=
      fun _ => answerTo?_eq_some_iff numbered answered listed
    constructor
    · intro ends
      ext answer
      exact (given answer).trans (and_iff_right ends)
    · intro lasts
      have left := (Connection.not_endsBefore_iff (untied connection listed)).mpr lasts
      exact Option.eq_none_iff_forall_ne_some.mpr fun answer replied => left ((given answer).mp replied).1
  · intro later connection
    exact (drains later).isClosed.step_eq nofun

/-- One connection is there when the listener is said to stop, two come after that; one of these has no request on it and is
    cut off. -/
theorem shutdown_law_late :
    let quick : Connection := ⟨0, some 3, some (.bare 200)⟩
    let late : Connection := ⟨1, some 2, some (.bare 404)⟩
    let silent : Connection := ⟨2, none, none⟩
    let events : List Event := [.listen, .start, .arrive quick]
    let between : List Event := [.tick, .arrive late, .arrive silent]
    let told := (fresh 20).after (events ++ .stop :: between)
    (((fresh 20).after events).phase = .running ∧ (∀ grace', .close grace' ∉ between) ∧ 0 < 5 ∧
        ∀ connection ∈ told.connections, connection.remaining ≠ some 5) ∧
      (told.drain 5).outcome = some .forced ∧ (told.drain 5).answerTo? 0 = some (.bare 200) ∧
        (told.drain 5).answerTo? 1 = some (.bare 404) ∧ (told.drain 5).answerTo? 2 = none := by
  intro quick late silent events between told
  have atWork : ((fresh 20).after events).phase = .running := by decide
  have unclosed : ∀ grace', Event.close grace' ∉ between := by simp [between]
  have untied : ∀ connection ∈ told.connections, connection.remaining ≠ some 5 := by decide
  obtain ⟨-, returned, law⟩ := shutdown_law 20 events between 5 atWork unclosed (by decide) untied
  have numbered : told.IsNumbered := by
    rw [IsNumbered]
    decide
  have connections : told.connections = [⟨0, some 2, some (.bare 200)⟩, late, silent] := by decide
  have lasts : silent.LastsBeyond 5 := nofun
  have first := law.clients numbered ⟨0, some 2, some (.bare 200)⟩ (by rw [connections]; simp)
  have second := law.clients numbered late (by rw [connections]; simp)
  have third := law.clients numbered silent (by rw [connections]; simp)
  exact ⟨⟨atWork, unclosed, by decide, untied⟩, law.forced.mpr ⟨silent, by rw [connections]; simp, lasts⟩,
    first.1 ⟨2, rfl, by decide⟩, second.1 ⟨2, rfl, by decide⟩, third.2 lasts⟩

/-- A connection can be accepted when the listener has been said to stop.  A connection on which no request has come in makes a
    stop forced, although no request is in flight. -/
theorem forced_by_silence :
    let silent : Connection := ⟨0, none, none⟩
    let running := (fresh 0).after [.listen, .start, .arrive silent]
    (((fresh 0).after [.listen, .start, .stop]).phase = .stopping ∧
        ((fresh 0).after [.listen, .start, .stop, .arrive silent]).connections = [silent]) ∧
      running.phase = .running ∧ running.inFlight = [] ∧ (running.shutDown 5).outcome = some .forced := by
  decide

end AdmissionGate.Listener
