import AdmissionGate.Proofs.Gate.EarliestEvent

/-!
# Which refusals are counted

A body that is too long and a body that stops arriving are refused, and no handler is called for them.  Each of the two can be
noticed in two places.  A body that is too long is refused before it is looked at if its declared length is over the limit, and
else by its reader; one that stops arriving is given up by its reader, unless the write timer goes off before that or at the same
time.  Only what the reader refuses is counted.
-/

namespace AdmissionGate.Gate

open Http (Message)

/-- Whether a gate with metrics counts one refusal with a status when it serves a message. -/
def CountsOnce (gate : Gate) (state : State) (message : Message) (status : Nat) : Prop :=
  ∃ before after, state.metrics = some before ∧ (gate.serve state message).1.metrics = some after ∧
    after.rejectionCount status = before.rejectionCount status + 1

theorem Yields.not_countsOnce {gate : Gate} {state : State} {message : Message} {given : Http.Answer} {made : List Call}
    (h : gate.Yields state message given made (· = ·)) (status : Nat) : ¬ gate.CountsOnce state message status := by
  rintro ⟨before, after, kept, left, once⟩
  have unchanged := h.metrics
  rw [kept, left] at unchanged
  cases unchanged with
  | some same =>
    subst same
    exact Nat.succ_ne_self _ once.symm

/-! ### Bodies that are too long -/

section Size

variable {gate : Gate} {state : State} {message : Message}

theorem bodyLimit_le (gate : Gate) (message : Message) : gate.bodyLimit message ≤ gate.settings.maxBodyBytes := by
  rw [bodyLimit]
  split
  · exact Nat.le_refl _
  · exact Nat.min_le_left _ _

theorem receive_of_not_declaresWithin (h : ¬ gate.DeclaresWithin message) : gate.receive message = (0, .error .oversized) := by
  have oversized : gate.isOversized message = true := by
    simp only [DeclaresWithin, not_forall, Nat.not_le] at h
    obtain ⟨length, declared, exceeds⟩ := h
    rw [isOversized, declared]
    exact decide_eq_true exceeds
  rw [receive, if_pos oversized]

/-- A body that its reader finds too long is refused and counted. -/
theorem yields_of_excess (declared : gate.DeclaresWithin message) (served : IsServed message)
    (exceeds : gate.bodyLimit message < message.body.octets.length) (inTime : gate.IsInTime state.calls message) :
    gate.Yields state message (.bare 413) [] (Metrics.CountsRejection 413) := by
  obtain ⟨route, path⟩ := isServed_iff.mp served
  exact yields_of_failure declared path (Http.Body.read_of_over (inTime.chunks served) exceeds) (inTime.body served)

/-- For a body that is too long only its size up to the limit has to come in time. -/
theorem isInTime_of_excess {calls : List Call} (started : 0 < gate.settings.writeTimeout)
    (exceeds : gate.bodyLimit message < message.body.octets.length)
    (chunks : ∀ chunk ∈ Http.Body.awaited (gate.bodyLimit message) message.body.chunks,
      chunk.delay < gate.settings.readTimeout)
    (body : message.body.arrival (gate.bodyLimit message) < gate.settings.writeTimeout) :
    gate.IsInTime calls message where
  started := started
  chunks _ := chunks
  ending _ within := absurd exceeds (Nat.not_lt_of_le within)
  body _ := body
  handler applies := absurd exceeds (Nat.not_lt_of_le applies.1.within)

/-- A body that is refused for its declared length is not counted. -/
theorem yields_of_not_declaresWithin (started : 0 < gate.settings.writeTimeout) (h : ¬ gate.DeclaresWithin message) :
    gate.Yields state message (.text 413 "length limit exceeded") [] (· = ·) :=
  yields_of_ending (ending_of_receive_error started (receive_of_not_declaresWithin h)) fun _ => rfl

end Size

/-- A body over the limit is refused, and no handler is called for it.  The refusal is counted just if no length over the limit
    is declared: so it is counted if no length is declared at all, and not counted if the true length is. -/
theorem refused_for_size (gate : Gate) (state : State) (message : Message) (served : IsServed message)
    (exceeds : gate.settings.maxBodyBytes < message.body.octets.length) (inTime : gate.IsInTime state.calls message) :
    (gate.DeclaresWithin message → gate.Yields state message (.bare 413) [] (Metrics.CountsRejection 413)) ∧
    (¬ gate.DeclaresWithin message → gate.Yields state message (.text 413 "length limit exceeded") [] (· = ·)) ∧
    (message.declaredLength = none → gate.DeclaresWithin message) ∧
    (message.declaredLength = some message.body.octets.length → ¬ gate.DeclaresWithin message) := by
  refine ⟨?_, yields_of_not_declaresWithin inTime.started, ?_, ?_⟩
  · intro declared
    exact yields_of_excess declared served (Nat.lt_of_le_of_lt (gate.bodyLimit_le message) exceeds) inTime
  · exact declaresWithin_of_undeclared
  · intro truly declared
    exact Nat.not_lt_of_le (declared _ truly) exceeds

/-- A body of three octets that comes in two chunks, with no length declared. -/
theorem refused_for_size_streamed :
    let gate : Gate := ⟨.empty, fun _ => .ofRoutes fun _ => allowAll, { Settings.standard with maxBodyBytes := 2 }⟩
    let message : Message := ⟨"POST", ⟨"/mutate", none⟩, [], ⟨[⟨0, [0x7b, 0x20]⟩, ⟨40, [0x7d]⟩], .complete⟩⟩
    (IsServed message ∧ gate.settings.maxBodyBytes < message.body.octets.length ∧ gate.IsInTime [] message) ∧
      message.declaredLength = none ∧ gate.Yields (.fresh true) message (.bare 413) [] (Metrics.CountsRejection 413) := by
  intro gate message
  have served : IsServed message := isServed_iff.mpr ⟨.mutation, rfl⟩
  have exceeds : gate.settings.maxBodyBytes < message.body.octets.length := by decide
  have inTime : gate.IsInTime [] message := isInTime_of_excess (by decide) (by decide) (by decide) (by decide)
  have undeclared : message.declaredLength = none := by decide
  obtain ⟨counted, -, within, -⟩ := refused_for_size gate (.fresh true) message served exceeds inTime
  exact ⟨⟨served, exceeds, inTime⟩, undeclared, counted (within undeclared)⟩

/-- The same body at once, with its true length declared, is not counted. -/
theorem declared_size_uncounted :
    let gate : Gate := ⟨.empty, fun _ => .ofRoutes fun _ => allowAll, { Settings.standard with maxBodyBytes := 2 }⟩
    let message : Message :=
      ⟨"POST", ⟨"/mutate", none⟩, [⟨"content-length", Text.Utf8.encode "3".toList⟩], ⟨[⟨0, [0x7b, 0x20, 0x7d]⟩], .complete⟩⟩
    (IsServed message ∧ gate.settings.maxBodyBytes < message.body.octets.length ∧ gate.IsInTime [] message ∧
      message.declaredLength = some message.body.octets.length) ∧
    ¬ gate.CountsOnce (.fresh true) message 413 := by
  intro gate message
  have served : IsServed message := isServed_iff.mpr ⟨.mutation, rfl⟩
  have exceeds : gate.settings.maxBodyBytes < message.body.octets.length := by decide
  have truly : message.declaredLength = some message.body.octets.length := by decide
  have inTime : gate.IsInTime [] message := isInTime_of_excess (by decide) (by decide) (by decide) (by decide)
  have larger : ¬ gate.DeclaresWithin message := fun declared => Nat.not_lt_of_le (declared _ truly) exceeds
  exact ⟨⟨served, exceeds, inTime, truly⟩, (yields_of_not_declaresWithin inTime.started larger).not_countsOnce 413⟩

/-! ### Bodies that stop arriving -/

section Stall

variable {gate : Gate} {state : State} {message : Message}

/-- A body that stops arriving is refused when its reader gives it up, or when the write timer goes off if that comes first. -/
theorem yields_of_stall (declared : gate.DeclaresWithin message) (served : IsServed message)
    (within : message.body.octets.length ≤ gate.bodyLimit message)
    (inTime : ∀ chunk ∈ Http.Body.awaited (gate.bodyLimit message) message.body.chunks,
      chunk.delay < gate.settings.readTimeout) (silent : message.body.ending = .silent) :
    let given := message.body.arrival (gate.bodyLimit message) + gate.settings.readTimeout
    (given < gate.settings.writeTimeout → gate.Yields state message (.bare 408) [] (Metrics.CountsRejection 408)) ∧
      (gate.settings.writeTimeout ≤ given → gate.Yields state message (.bare 408) [] (· = ·)) := by
  intro given
  obtain ⟨route, path⟩ := isServed_iff.mp served
  have read : message.body.read (gate.bodyLimit message) gate.settings.readTimeout = (given, .error .timedOut) :=
    Http.Body.read_of_silent inTime within silent
  constructor
  · exact yields_of_failure declared path read
  · intro late
    rw [← time_receive declared path read] at late
    exact yields_of_ending (ending_of_late late) fun _ => rfl

end Stall

/-- A body within the limit whose chunks come at once, but not its end, is refused, and no handler is called for it.  The refusal
    is counted just if the read timer goes off before the write timer. -/
theorem refused_for_stall (gate : Gate) (state : State) (message : Message) (served : IsServed message)
    (declared : gate.DeclaresWithin message) (within : message.body.octets.length ≤ gate.bodyLimit message)
    (prompt : ∀ chunk ∈ message.body.chunks, chunk.delay = 0) (silent : message.body.ending = .silent)
    (positive : 0 < gate.settings.readTimeout) :
    (gate.settings.readTimeout < gate.settings.writeTimeout →
      gate.Yields state message (.bare 408) [] (Metrics.CountsRejection 408)) ∧
    (gate.settings.writeTimeout ≤ gate.settings.readTimeout → gate.Yields state message (.bare 408) [] (· = ·)) := by
  have inTime : ∀ chunk ∈ Http.Body.awaited (gate.bodyLimit message) message.body.chunks,
      chunk.delay < gate.settings.readTimeout := by
    intro chunk waited
    rw [prompt chunk (Http.Body.mem_of_mem_awaited waited)]
    exact positive
  have refused := @yields_of_stall gate state message declared served within inTime silent
  rwa [Http.Body.arrival_eq_zero prompt, Nat.zero_add] at refused

/-- The read timer goes off long before the write timer. -/
theorem refused_for_stall_early :
    let gate : Gate :=
      ⟨.empty, fun _ => .ofRoutes fun _ => allowAll, { Settings.standard with readTimeout := 200, writeTimeout := 5000 }⟩
    let message : Message := ⟨"POST", ⟨"/mutate", none⟩, [], ⟨[⟨0, [0x7b]⟩], .silent⟩⟩
    (IsServed message ∧ gate.DeclaresWithin message ∧ message.body.octets.length ≤ gate.bodyLimit message ∧
      (∀ chunk ∈ message.body.chunks, chunk.delay = 0) ∧ message.body.ending = .silent ∧
      0 < gate.settings.readTimeout) ∧
    gate.Yields (.fresh true) message (.bare 408) [] (Metrics.CountsRejection 408) := by
  intro gate message
  have served : IsServed message := isServed_iff.mpr ⟨.mutation, rfl⟩
  have undeclared : message.declaredLength = none := by decide
  have declared : gate.DeclaresWithin message := declaresWithin_of_undeclared undeclared
  have within : message.body.octets.length ≤ gate.bodyLimit message := by decide
  have prompt : ∀ chunk ∈ message.body.chunks, chunk.delay = 0 := by decide
  have refused := refused_for_stall gate (.fresh true) message served declared within prompt rfl (by decide)
  exact ⟨⟨served, declared, within, prompt, rfl, by decide⟩, refused.1 (by decide)⟩

/-- With the standard settings both timers go off at the same time, and nothing is counted. -/
theorem stall_uncounted :
    let gate : Gate := ⟨.empty, fun _ => .ofRoutes fun _ => allowAll, .standard⟩
    let message : Message := ⟨"POST", ⟨"/mutate", none⟩, [], ⟨[⟨0, [0x7b]⟩], .silent⟩⟩
    (IsServed message ∧ gate.DeclaresWithin message ∧ message.body.octets.length ≤ gate.bodyLimit message ∧
      (∀ chunk ∈ message.body.chunks, chunk.delay = 0) ∧ message.body.ending = .silent ∧
      0 < gate.settings.readTimeout ∧ 0 < gate.settings.writeTimeout) ∧
    ¬ gate.CountsOnce (.fresh true) message 408 := by
  intro gate message
  have served : IsServed message := isServed_iff.mpr ⟨.mutation, rfl⟩
  have undeclared : message.declaredLength = none := by decide
  have declared : gate.DeclaresWithin message := declaresWithin_of_undeclared undeclared
  have within : message.body.octets.length ≤ gate.bodyLimit message := by decide
  have inTime : ∀ chunk ∈ Http.Body.awaited (gate.bodyLimit message) message.body.chunks,
      chunk.delay < gate.settings.readTimeout := by decide
  have refused := @yields_of_stall gate (.fresh true) message declared served within inTime rfl
  exact ⟨⟨served, declared, within, by decide, rfl, by decide, by decide⟩, (refused.2 (by decide)).not_countsOnce 408⟩

end AdmissionGate.Gate
