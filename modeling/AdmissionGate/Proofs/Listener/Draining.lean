import Mathlib
import AdmissionGate.Proofs.Listener.Life

/-!
# Draining

A listener that has been closed waits for the connections that are open until the last of them ends or the grace period is
over; in that case what is left is cut off, and it waits for that to close.  After some time the connections that have ended by
then are gone, each request on them answered once, and the others are open with so much less time to go.
-/

namespace AdmissionGate

/-! ### Open connections -/

namespace Connection

/-- Whether a connection ends before some time. -/
def EndsBefore (connection : Connection) (time : Nat) : Prop :=
  ∃ n, connection.remaining = some n ∧ n < time

/-- Whether a connection is still open at some time. -/
def LastsBeyond (connection : Connection) (time : Nat) : Prop :=
  ∀ n, connection.remaining = some n → time < n

instance (connection : Connection) (time : Nat) : Decidable (connection.EndsBefore time) :=
  decidable_of_iff (connection.remaining.any fun n => n < time) <| by
    rw [EndsBefore]
    cases connection.remaining <;> simp

theorem EndsBefore.mono {connection : Connection} {time later : Nat} (h : connection.EndsBefore time) (le : time ≤ later) :
    connection.EndsBefore later := by
  obtain ⟨n, remaining, early⟩ := h
  exact ⟨n, remaining, Nat.lt_of_lt_of_le early le⟩

theorem not_endsBefore_iff {connection : Connection} {time : Nat} (untied : connection.remaining ≠ some time) :
    ¬ connection.EndsBefore time ↔ connection.LastsBeyond time := by
  constructor
  · intro open_ n remaining
    have late : time ≤ n := Nat.le_of_not_lt fun early => open_ ⟨n, remaining, early⟩
    have apart : n ≠ time := fun same => untied (same ▸ remaining)
    omega
  · rintro lasts ⟨n, remaining, early⟩
    exact absurd (lasts n remaining) (Nat.lt_asymm early)

/-- A connection when some time has passed. -/
def aged (time : Nat) (connection : Connection) : Connection :=
  { connection with remaining := connection.remaining.map (· - time) }

theorem aged_zero : aged 0 = id := by
  funext ⟨number, remaining, answer⟩
  cases remaining <;> rfl

theorem aged_one_comp_aged (time : Nat) : aged 1 ∘ aged time = aged (time + 1) := by
  funext ⟨number, remaining, answer⟩
  cases remaining <;> rfl

theorem remaining_aged_eq_zero_iff {connection : Connection} {time : Nat} :
    (connection.aged time).remaining = some 0 ↔ connection.EndsBefore (time + 1) := by
  rw [aged, Option.map_eq_some_iff, EndsBefore]
  refine exists_congr fun n => and_congr_right fun _ => ?_
  omega

theorem reply?_comp_aged (time : Nat) : reply? ∘ aged time = reply? := rfl

/-- What is open of some connections when some time has passed. -/
def left (time : Nat) (connections : List Connection) : List Connection :=
  (connections.filter fun connection => ¬ connection.EndsBefore (time + 1)).map (aged time)

/-- The answers to the requests on those of some connections that end before a time. -/
def replies (time : Nat) (connections : List Connection) : List (Nat × Http.Answer) :=
  (connections.filter fun connection => connection.EndsBefore time).filterMap reply?

theorem left_eq_nil_iff {time : Nat} {connections : List Connection} :
    left time connections = [] ↔ ∀ connection ∈ connections, connection.EndsBefore (time + 1) := by
  rw [left, List.map_eq_nil_iff, List.filter_eq_nil_iff]
  simp only [decide_eq_true_eq, not_not]

section AtFirst

variable {connections : List Connection} (pending : ∀ connection ∈ connections, connection.remaining ≠ some 0)
include pending

theorem not_endsBefore_one {connection : Connection} (listed : connection ∈ connections) : ¬ connection.EndsBefore 1 := by
  rintro ⟨n, remaining, early⟩
  rw [Nat.lt_one_iff.mp early] at remaining
  exact pending connection listed remaining

theorem left_zero : left 0 connections = connections := by
  rw [left, aged_zero, List.map_id, List.filter_eq_self]
  intro connection listed
  exact decide_eq_true (not_endsBefore_one pending listed)

theorem replies_one : replies 1 connections = [] := by
  have none : connections.filter (fun connection => connection.EndsBefore 1) = [] := by
    rw [List.filter_eq_nil_iff]
    intro connection listed ends
    exact not_endsBefore_one pending listed (of_decide_eq_true ends)
  rw [replies, none, List.filterMap_nil]

end AtFirst

/-- Another millisecond answers the requests on the connections that end in it. -/
theorem replies_succ_perm (time : Nat) (connections : List Connection) :
    ((connections.filter fun connection =>
        ¬ connection.EndsBefore time ∧ connection.EndsBefore (time + 1)).filterMap reply? ++
      replies time connections).Perm (replies (time + 1) connections) := by
  rw [replies, replies, ← List.filterMap_append]
  apply List.Perm.filterMap
  have parts := List.filter_append_perm (fun connection : Connection => decide (¬ connection.EndsBefore time))
    (connections.filter fun connection => connection.EndsBefore (time + 1))
  rw [List.filter_filter, List.filter_filter] at parts
  have before : (connections.filter fun connection => !decide (¬ connection.EndsBefore time) &&
      decide (connection.EndsBefore (time + 1))) = connections.filter fun connection => connection.EndsBefore time := by
    apply List.filter_congr
    intro connection _
    have mono : connection.EndsBefore time → connection.EndsBefore (time + 1) := fun h => h.mono (Nat.le_succ time)
    by_cases h : connection.EndsBefore time <;> simp [h, mono]
  rw [before] at parts
  simpa only [Bool.decide_and] using parts

end Connection

open Connection (left replies reply? aged)

namespace Listener

/-! ### A millisecond of work -/

section Work

variable (listener : Listener) {time : Nat} {connections : List Connection}

theorem connections_work (held : listener.connections = left time connections) :
    listener.work.connections = left (time + 1) connections := by
  show (listener.connections.map (aged 1)).filter (fun connection => connection.remaining ≠ some 0) =
    left (time + 1) connections
  rw [held, left, left, List.map_map, Connection.aged_one_comp_aged, List.filter_map, List.filter_filter]
  congr 1
  apply List.filter_congr
  intro connection _
  have mono : connection.EndsBefore (time + 1) → connection.EndsBefore (time + 1 + 1) := fun h => h.mono (Nat.le_succ _)
  simp only [Function.comp_apply, ne_eq, Connection.remaining_aged_eq_zero_iff]
  by_cases h : connection.EndsBefore (time + 1) <;> simp [h, mono]

theorem answered_work {earlier : List (Nat × Http.Answer)} (held : listener.connections = left time connections)
    (answered : listener.answered.Perm (replies (time + 1) connections ++ earlier)) :
    listener.work.answered.Perm (replies (time + 1 + 1) connections ++ earlier) := by
  have given : ((listener.connections.map (aged 1)).filter fun connection =>
        connection.remaining = some 0).filterMap reply? =
      (connections.filter fun connection =>
        ¬ connection.EndsBefore (time + 1) ∧ connection.EndsBefore (time + 1 + 1)).filterMap reply? := by
    rw [held, left, List.map_map, Connection.aged_one_comp_aged, List.filter_map, List.filter_filter, List.filterMap_map,
      Connection.reply?_comp_aged]
    congr 1
    apply List.filter_congr
    intro connection _
    simp only [Function.comp_apply, Connection.remaining_aged_eq_zero_iff, Bool.decide_and, Bool.and_comm]
  have now : listener.work.answered =
      (((listener.connections.map (aged 1)).filter fun connection => connection.remaining = some 0).filterMap
        reply?).reverse ++ listener.answered := rfl
  rw [now, given]
  refine ((List.reverse_perm _).append answered).trans ?_
  rw [← List.append_assoc]
  exact (Connection.replies_succ_perm (time + 1) connections).append_right earlier

end Work

/-! ### From the closing on -/

section Drain

variable (told : Listener)

/-- Whether all open connections end before some time. -/
def AllEndBefore (time : Nat) : Prop :=
  ∀ connection ∈ told.connections, connection.EndsBefore time

/-- The answers given before some time. -/
def answersBefore (time : Nat) : List (Nat × Http.Answer) :=
  replies time told.connections ++ told.answered

/-- How long connections take to close that are cut off, but not longer than is waited for them. -/
def closingTime : Nat := min told.closing closingLimit

variable (grace time : Nat) (listener : Listener)

/-- Whether a listener that was closed some time ago is within its grace period. -/
structure Awaits : Prop where
  early : time < grace
  phase : listener.phase = .stopping
  shut : listener.accepting = false
  outcome : listener.outcome = none
  patience : listener.patience = grace - time
  closing : listener.closing = told.closing
  connections : listener.connections = left time told.connections
  answered : listener.answered.Perm (told.answersBefore (time + 1))

/-- Whether a listener has stopped or is about to, and how. -/
structure Ends (phase : Phase) (outcome : StopOutcome) : Prop where
  phase : listener.phase = phase
  shut : listener.accepting = false
  outcome : listener.outcome = some outcome
  answered : listener.answered.Perm (told.answersBefore (min (time + 1) grace))

/-- What has become of a listener some time after it was closed. -/
inductive Drains : Prop where
  | waiting : Awaits told grace time listener → ¬ told.AllEndBefore (time + 1) → Drains
  | drained : told.AllEndBefore (min (time + 1) grace) → Ends told grace time listener .stopped .graceful → Drains
  | closing : ¬ told.AllEndBefore grace → grace ≤ time → time < grace + told.closingTime →
      listener.patience = grace + told.closingTime - time → Ends told grace time listener .stopping .forced → Drains
  | closed : ¬ told.AllEndBefore grace → grace + told.closingTime ≤ time →
      Ends told grace time listener .stopped .forced → Drains

end Drain

section Steps

variable {told listener : Listener} {grace time : Nat}

theorem AllEndBefore.mono {later : Nat} (h : told.AllEndBefore time) (le : time ≤ later) : told.AllEndBefore later :=
  fun connection listed => (h connection listed).mono le

theorem answersBefore_of_allEndBefore {later : Nat} (h : told.AllEndBefore time) (le : time ≤ later) :
    told.answersBefore later = told.answersBefore time := by
  have all : ∀ {time : Nat}, told.AllEndBefore time →
      told.answersBefore time = told.connections.filterMap reply? ++ told.answered := by
    intro time ended
    rw [answersBefore, replies, List.filter_eq_self.mpr]
    intro connection listed
    exact decide_eq_true (ended connection listed)
  rw [all h, all (h.mono le)]

namespace Awaits

theorem begin (prompt : told.IsPrompt) (open_ : told.IsToldToStop) (positive : 0 < grace) :
    Awaits told grace 0 { told with accepting := false, patience := grace } := by
  have pending := prompt.pending (.inl open_.accepting)
  refine ⟨positive, open_.phase, rfl, prompt.undecided (.inl open_.accepting), rfl, rfl,
    (Connection.left_zero pending).symm, ?_⟩
  rw [answersBefore, Connection.replies_one pending, List.nil_append]

theorem work (h : Awaits told grace time listener) (early : time + 1 < grace) :
    Awaits told grace (time + 1) (work { listener with patience := listener.patience - 1 }) where
  early := early
  phase := h.phase
  shut := h.shut
  outcome := h.outcome
  patience := by
    show listener.patience - 1 = grace - (time + 1)
    rw [h.patience, Nat.sub_sub]
  closing := h.closing
  connections := connections_work { listener with patience := listener.patience - 1 } h.connections
  answered := answered_work { listener with patience := listener.patience - 1 } h.connections h.answered

theorem connections_eq_nil_iff (h : Awaits told grace time listener) :
    listener.connections = [] ↔ told.AllEndBefore (time + 1) := by
  rw [h.connections, Connection.left_eq_nil_iff]
  rfl

/-- Within the grace period a stop can end, but it does not have to. -/
theorem settle (h : Awaits told grace time listener) : Drains told grace time listener.settle := by
  have within : min (time + 1) grace = time + 1 := Nat.min_eq_left h.early
  rw [Listener.settle]
  by_cases ended : listener.connections = []
  · rw [if_pos ended]
    refine .drained ?_ ⟨rfl, h.shut, rfl, ?_⟩
    · rw [within]
      exact h.connections_eq_nil_iff.mp ended
    · rw [within]
      exact h.answered
  · have waits : listener.patience ≠ 0 := by
      rw [h.patience]
      exact Nat.sub_ne_zero_of_lt h.early
    rw [if_neg ended, if_neg waits]
    exact .waiting h fun all => ended (h.connections_eq_nil_iff.mpr all)

/-- What is open when the grace period is over is cut off. -/
theorem cutOff (h : Awaits told grace time listener) (last : time + 1 = grace) (left : ¬ told.AllEndBefore grace) :
    Drains told grace grace (cutOff { listener with patience := listener.patience - 1 }) := by
  have answered : listener.answered.Perm (told.answersBefore (min (grace + 1) grace)) := by
    rw [Nat.min_eq_right (Nat.le_succ grace), ← last]
    exact h.answered
  have limit : min listener.closing closingLimit = told.closingTime := by
    rw [h.closing, closingTime]
  rw [Listener.cutOff, release]
  by_cases quick : min listener.closing closingLimit = 0
  · rw [if_pos quick]
    refine .closed left ?_ ⟨rfl, h.shut, rfl, answered⟩
    rw [← limit, quick]
    exact Nat.le_refl grace
  · rw [if_neg quick]
    refine .closing left (Nat.le_refl grace) (by omega) ?_ ⟨h.phase, h.shut, rfl, answered⟩
    show min listener.closing closingLimit = grace + told.closingTime - grace
    rw [limit, Nat.add_sub_cancel_left]

end Awaits

namespace Drains

theorem isClosed (h : Drains told grace time listener) : listener.IsClosed := by
  cases h with
  | waiting awaits _ => exact ⟨.inl awaits.phase, awaits.shut⟩
  | closing _ _ _ _ ends => exact ⟨.inl ends.phase, ends.shut⟩
  | drained _ ends | closed _ _ ends => exact ⟨.inr ends.phase, ends.shut⟩

theorem begin (prompt : told.IsPrompt) (open_ : told.IsToldToStop) (positive : 0 < grace) :
    Drains told grace 0 (told.step (.close grace)) := by
  rw [step, if_pos ⟨open_.phase, open_.accepting⟩]
  exact (Awaits.begin prompt open_ positive).settle

theorem tick (h : Drains told grace time listener) : Drains told grace (time + 1) (listener.step .tick) := by
  have closed := h.isClosed
  cases h with
  | waiting awaits left =>
    rw [step_tick_of_undecided awaits.shut awaits.phase awaits.outcome]
    have patience := awaits.patience
    -- when the deadline and the end of a connection fall together, the deadline wins
    by_cases last : time + 1 = grace
    · have spent : listener.patience - 1 = 0 := by omega
      have open_ : listener.connections ≠ [] := fun none => left (awaits.connections_eq_nil_iff.mp none)
      rw [last] at left ⊢
      rw [if_pos spent, settle, if_neg open_, if_pos spent]
      exact awaits.cutOff last left
    · have early : time + 1 < grace := Nat.lt_of_le_of_ne awaits.early last
      rw [if_neg (by omega)]
      exact (awaits.work early).settle
  | drained all ends =>
    rw [closed.step_of_stopped ends.phase]
    have le : min (time + 1) grace ≤ min (time + 1 + 1) grace := by omega
    refine .drained (all.mono le) ⟨ends.phase, ends.shut, ends.outcome, ?_⟩
    rw [answersBefore_of_allEndBefore all le]
    exact ends.answered
  | closing left late within patience ends =>
    -- time goes on, but nothing is answered after the deadline
    have answered : listener.answered.Perm (told.answersBefore (min (time + 1 + 1) grace)) := by
      have same : min (time + 1 + 1) grace = min (time + 1) grace := by omega
      rw [same]
      exact ends.answered
    rw [step_tick_of_decided ends.shut ends.phase ends.outcome, release]
    by_cases released : listener.patience - 1 = 0
    · rw [if_pos released]
      exact .closed left (by omega) ⟨rfl, ends.shut, ends.outcome, answered⟩
    · rw [if_neg released]
      refine .closing left (by omega) (by omega) ?_ ⟨ends.phase, ends.shut, ends.outcome, answered⟩
      show listener.patience - 1 = grace + told.closingTime - (time + 1)
      rw [patience, Nat.sub_sub]
  | closed left late ends =>
    rw [closed.step_of_stopped ends.phase]
    refine .closed left (by omega) ⟨ends.phase, ends.shut, ends.outcome, ?_⟩
    have same : min (time + 1 + 1) grace = min (time + 1) grace := by omega
    rw [same]
    exact ends.answered

theorem after (h : Drains told grace time listener) (later : List Event) :
    Drains told grace (time + later.count .tick) (listener.after later) := by
  induction later generalizing listener time with
  | nil => exact h
  | cons event later ih =>
    rw [after_cons]
    -- whatever lets no time pass leaves the listener as it is
    by_cases passes : event = .tick
    · subst passes
      rw [List.count_cons_self, Nat.add_comm _ 1, ← Nat.add_assoc]
      exact ih h.tick
    · rw [h.isClosed.step_eq passes, List.count_cons_of_ne passes]
      exact ih h

end Drains

end Steps

end Listener

end AdmissionGate
