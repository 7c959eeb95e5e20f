import AdmissionGate.Proofs.Http.BodyReading

/-!
# What ends the reading of a body

While a body arrives, several things are bound to happen at some time: a wait gets too long, the size goes over the limit, the
transfer fails, the body is complete.  The reader stops at the first of them, and of those that happen at the same time at the
one that stands first in the stream.
-/

namespace AdmissionGate.Http

/-- What can end the reading of a body. -/
inductive Event where
  /-- A wait is too long. -/
  | gap
  /-- A chunk takes the size over the limit. -/
  | excess
  | broken
  | complete
deriving DecidableEq, Repr

/-- What an event makes of the reading. -/
def Event.failure? : Event → Option BodyFailure
  | gap => some .timedOut
  | excess => some .tooLarge
  | broken => some .broken
  | complete => none

/-- The event that follows the last chunk. -/
def BodyEnd.event : BodyEnd → Event
  | complete => .complete
  | broken => .broken
  | silent => .gap

/-- How long after the last chunk it is clear how the body ends. -/
def BodyEnd.wait (timeout : Nat) : BodyEnd → Nat
  | complete | broken => 0
  | silent => timeout

namespace Body

def duration (chunks : List Chunk) : Nat :=
  (chunks.map Chunk.delay).sum

/-- What happens while a body arrives: the event, when it happens, and how many chunks stand before it in the stream. -/
inductive Occurs (limit timeout : Nat) (body : Body) : Event → Nat → Nat → Prop where
  | gap {before after : List Chunk} {chunk : Chunk} :
      body.chunks = before ++ chunk :: after → timeout < chunk.delay →
      Occurs limit timeout body .gap (duration before + timeout) before.length
  | stall :
      body.ending = .silent → Occurs limit timeout body .gap (duration body.chunks + timeout) body.chunks.length
  | excess {before after : List Chunk} {chunk : Chunk} :
      body.chunks = before ++ chunk :: after → (octetsOf before).length ≤ limit →
      limit < (octetsOf (before ++ [chunk])).length →
      Occurs limit timeout body .excess (duration before + chunk.delay) before.length
  | broken :
      body.ending = .broken → Occurs limit timeout body .broken (duration body.chunks) body.chunks.length
  | complete :
      body.ending = .complete → Occurs limit timeout body .complete (duration body.chunks) body.chunks.length

/-- Whether an event at some time and place is the first that happens, in time and then in the stream. -/
structure IsFirst (limit timeout : Nat) (body : Body) (event : Event) (time place : Nat) : Prop where
  occurs : Occurs limit timeout body event time place
  least : ∀ {other : Event} {time' place' : Nat}, Occurs limit timeout body other time' place' →
    time < time' ∨ time = time' ∧ place ≤ place'

/-- Whether an event is the first that happens, and happens at some time. -/
def First (limit timeout : Nat) (body : Body) (event : Event) (time : Nat) : Prop :=
  ∃ place, IsFirst limit timeout body event time place

@[simp] theorem duration_nil : duration [] = 0 := rfl

@[simp] theorem duration_cons (chunk : Chunk) (rest : List Chunk) :
    duration (chunk :: rest) = chunk.delay + duration rest := rfl

@[simp] theorem length_octetsOf_nil : (octetsOf []).length = 0 := rfl

section Events

variable {limit timeout : Nat} {chunk : Chunk} {rest : List Chunk} {ending : BodyEnd} {event : Event} {time place : Nat}

/-! ### The first chunk and the others -/

theorem Occurs.of_nil (h : Occurs limit timeout ⟨[], ending⟩ event time place) :
    event = ending.event ∧ time = ending.wait timeout ∧ place = 0 := by
  cases h with
  | gap split _ | excess split _ _ => simp at split
  | stall ends | broken ends | complete ends => simp_all [BodyEnd.event, BodyEnd.wait]

/-- What happens is about the first chunk, or it happens after it to the rest of the body, with the room that is left. -/
theorem Occurs.of_cons (h : Occurs limit timeout ⟨chunk :: rest, ending⟩ event time place) :
    (event = .gap ∧ timeout < chunk.delay ∧ time = timeout ∧ place = 0) ∨
    (event = .excess ∧ limit < chunk.octets.length ∧ time = chunk.delay ∧ place = 0) ∨
    ∃ later past, Occurs (limit - chunk.octets.length) timeout ⟨rest, ending⟩ event later past ∧
      time = chunk.delay + later ∧ place = past + 1 := by
  -- an event comes behind the chunks `before`, so it is about the first chunk just if there are none of them
  cases h with
  | @gap before after gapped split long =>
    cases before with
    | nil =>
      obtain ⟨rfl, -⟩ := List.cons.inj split
      exact .inl ⟨rfl, long, Nat.zero_add _, rfl⟩
    | cons head before =>
      obtain ⟨rfl, tail⟩ := List.cons.inj split
      have later := @Occurs.gap (limit - chunk.octets.length) timeout ⟨rest, ending⟩ before after gapped tail long
      exact .inr (.inr ⟨_, _, later, by rw [duration_cons, Nat.add_assoc], rfl⟩)
  | stall silent => exact .inr (.inr ⟨_, _, .stall silent, by rw [duration_cons, Nat.add_assoc], rfl⟩)
  | @excess before after last split within exceeds =>
    cases before with
    | nil =>
      obtain ⟨rfl, -⟩ := List.cons.inj split
      rw [List.nil_append, length_octetsOf_cons, length_octetsOf_nil] at exceeds
      exact .inr (.inl ⟨rfl, by omega, Nat.zero_add _, rfl⟩)
    | cons head before =>
      obtain ⟨rfl, tail⟩ := List.cons.inj split
      rw [length_octetsOf_cons] at within
      rw [List.cons_append, length_octetsOf_cons] at exceeds
      have later := @Occurs.excess (limit - chunk.octets.length) timeout ⟨rest, ending⟩ before after last tail
        (by omega) (by omega)
      exact .inr (.inr ⟨_, _, later, by rw [duration_cons, Nat.add_assoc], rfl⟩)
  | broken fails => exact .inr (.inr ⟨_, _, .broken fails, rfl, rfl⟩)
  | complete ends => exact .inr (.inr ⟨_, _, .complete ends, rfl, rfl⟩)

theorem Occurs.cons (fits : chunk.octets.length ≤ limit)
    (h : Occurs (limit - chunk.octets.length) timeout ⟨rest, ending⟩ event time place) :
    Occurs limit timeout ⟨chunk :: rest, ending⟩ event (chunk.delay + time) (place + 1) := by
  cases h with
  | @gap before after gapped split long =>
    rw [← Nat.add_assoc]
    exact @Occurs.gap limit timeout ⟨chunk :: rest, ending⟩ (chunk :: before) after gapped
      (congrArg (List.cons chunk) split) long
  | stall silent =>
    rw [← Nat.add_assoc]
    exact @Occurs.stall limit timeout ⟨chunk :: rest, ending⟩ silent
  | @excess before after last split within exceeds =>
    have within' : (octetsOf (chunk :: before)).length ≤ limit := by
      rw [length_octetsOf_cons]
      omega
    have exceeds' : limit < (octetsOf (chunk :: before ++ [last])).length := by
      rw [List.cons_append, length_octetsOf_cons]
      omega
    rw [← Nat.add_assoc]
    exact @Occurs.excess limit timeout ⟨chunk :: rest, ending⟩ (chunk :: before) after last
      (congrArg (List.cons chunk) split) within' exceeds'
  | broken fails => exact @Occurs.broken limit timeout ⟨chunk :: rest, ending⟩ fails
  | complete ends => exact @Occurs.complete limit timeout ⟨chunk :: rest, ending⟩ ends

/-! ### Only one event is the first -/

theorem Occurs.event_unique {body : Body} {other : Event} (h : Occurs limit timeout body event time place)
    (h' : Occurs limit timeout body other time place) : event = other := by
  obtain ⟨chunks, ending⟩ := body
  induction chunks generalizing limit time place with
  | nil => rw [h.of_nil.1, h'.of_nil.1]
  | cons chunk rest ih =>
    rcases h.of_cons with ⟨rfl, long, rfl, rfl⟩ | ⟨rfl, -, rfl, rfl⟩ | ⟨later, past, tail, rfl, rfl⟩
    · rcases h'.of_cons with ⟨rfl, -, -, -⟩ | ⟨-, -, sameTime, -⟩ | ⟨_, _, -, -, samePlace⟩
      · rfl
      · omega
      · omega
    · rcases h'.of_cons with ⟨-, long, sameTime, -⟩ | ⟨rfl, -, -, -⟩ | ⟨_, _, -, -, samePlace⟩
      · omega
      · rfl
      · omega
    · rcases h'.of_cons with ⟨-, -, -, samePlace⟩ | ⟨-, -, -, samePlace⟩ | ⟨later', past', tail', sameTime, samePlace⟩
      · omega
      · omega
      · rw [← Nat.add_left_cancel sameTime, ← Nat.succ.inj samePlace] at tail'
        exact ih tail tail'

theorem IsFirst.unique {body : Body} {other : Event} {time' place' : Nat}
    (h : IsFirst limit timeout body event time place) (h' : IsFirst limit timeout body other time' place') :
    other = event ∧ time' = time := by
  have before := h.least h'.occurs
  have after := h'.least h.occurs
  have sameTime : time' = time := by omega
  have samePlace : place' = place := by omega
  subst sameTime samePlace
  exact ⟨h'.occurs.event_unique h.occurs, rfl⟩

/-! ### The reader stops at the first event -/

theorem isFirst_nil (h : Occurs limit timeout ⟨[], ending⟩ event time place) :
    IsFirst limit timeout ⟨[], ending⟩ event time place := by
  refine ⟨h, ?_⟩
  intro other time' place' h'
  obtain ⟨-, rfl, rfl⟩ := h.of_nil
  obtain ⟨-, rfl, rfl⟩ := h'.of_nil
  exact .inr ⟨rfl, Nat.le_refl 0⟩

theorem isFirst_gap (long : timeout < chunk.delay) : IsFirst limit timeout ⟨chunk :: rest, ending⟩ .gap timeout 0 := by
  have occurs : Occurs limit timeout ⟨chunk :: rest, ending⟩ .gap (duration [] + timeout) ([] : List Chunk).length :=
    .gap rfl long
  rw [duration_nil, Nat.zero_add] at occurs
  refine ⟨occurs, ?_⟩
  intro other time' place' h
  -- whatever else happens waits for the chunk, and the timer goes off before it is there
  rcases h.of_cons with ⟨-, -, rfl, rfl⟩ | ⟨-, -, rfl, -⟩ | ⟨later, -, -, rfl, -⟩
  · exact .inr ⟨rfl, Nat.le_refl 0⟩
  · exact .inl long
  · exact .inl (Nat.lt_add_right later long)

theorem isFirst_excess (there : chunk.delay ≤ timeout) (exceeds : limit < chunk.octets.length) :
    IsFirst limit timeout ⟨chunk :: rest, ending⟩ .excess chunk.delay 0 := by
  have crossed : limit < (octetsOf ([] ++ [chunk])).length := by
    rw [List.nil_append, length_octetsOf_cons]
    omega
  have occurs : Occurs limit timeout ⟨chunk :: rest, ending⟩ .excess (duration [] + chunk.delay)
      ([] : List Chunk).length := .excess rfl (Nat.zero_le limit) crossed
  rw [duration_nil, Nat.zero_add] at occurs
  refine ⟨occurs, ?_⟩
  intro other time' place' h
  rcases h.of_cons with ⟨-, long, -, -⟩ | ⟨-, -, rfl, rfl⟩ | ⟨later, past, -, rfl, rfl⟩ <;> omega

theorem IsFirst.cons (there : chunk.delay ≤ timeout) (fits : chunk.octets.length ≤ limit)
    (h : IsFirst (limit - chunk.octets.length) timeout ⟨rest, ending⟩ event time place) :
    IsFirst limit timeout ⟨chunk :: rest, ending⟩ event (chunk.delay + time) (place + 1) := by
  refine ⟨h.occurs.cons fits, ?_⟩
  intro other time' place' h'
  rcases h'.of_cons with ⟨-, long, -, -⟩ | ⟨-, exceeds, -, -⟩ | ⟨later, past, tail, rfl, rfl⟩
  · omega
  · omega
  · have least := h.least tail
    omega

theorem exists_isFirst_follow (ending : BodyEnd) (now limit : Nat) {chunks : List Chunk} (positive : 0 < timeout)
    (apart : ∀ chunk ∈ chunks, chunk.delay ≠ timeout) :
    ∃ event time place, IsFirst limit timeout ⟨chunks, ending⟩ event time place ∧
      follow timeout ending now limit chunks = (now + time, event.failure?) := by
  have running : timeout ≠ 0 := Nat.ne_of_gt positive
  -- at each chunk the reader stops, or goes on with the rest of the body and the room that is left
  induction chunks generalizing now limit with
  | nil =>
    cases ending with
    | complete => exact ⟨.complete, 0, 0, isFirst_nil (.complete rfl), by rw [follow, if_neg running]; rfl⟩
    | broken => exact ⟨.broken, 0, 0, isFirst_nil (.broken rfl), by rw [follow, if_neg running]; rfl⟩
    | silent => exact ⟨.gap, 0 + timeout, 0, isFirst_nil (.stall rfl), by rw [follow, Nat.zero_add]; rfl⟩
  | cons chunk rest ih =>
    have other : chunk.delay ≠ timeout := apart chunk List.mem_cons_self
    rcases Nat.lt_or_gt_of_ne other with there | long
    · have inTime : ¬ timeout ≤ chunk.delay := Nat.not_le_of_lt there
      by_cases exceeds : limit < chunk.octets.length
      · refine ⟨.excess, chunk.delay, 0, isFirst_excess (Nat.le_of_lt there) exceeds, ?_⟩
        rw [follow, if_neg inTime, if_pos exceeds]
        rfl
      · have fits : chunk.octets.length ≤ limit := Nat.le_of_not_lt exceeds
        obtain ⟨event, time, place, first, followed⟩ := ih (now + chunk.delay) (limit - chunk.octets.length)
          fun c member => apart c (List.mem_cons_of_mem chunk member)
        refine ⟨event, chunk.delay + time, place + 1, first.cons (Nat.le_of_lt there) fits, ?_⟩
        rw [follow, if_neg inTime, if_neg exceeds, followed, Nat.add_assoc]
    · refine ⟨.gap, timeout, 0, isFirst_gap long, ?_⟩
      rw [follow, if_pos (Nat.le_of_lt long)]
      rfl

theorem length_le_of_follow {now : Nat} {chunks : List Chunk} (h : follow timeout ending now limit chunks = (time, none)) :
    (octetsOf chunks).length ≤ limit := by
  induction chunks generalizing now limit with
  | nil => exact Nat.zero_le limit
  | cons chunk rest ih =>
    rw [follow] at h
    split at h
    · cases h
    · split at h
      · cases h
      · have left := ih h
        rw [length_octetsOf_cons]
        omega

end Events

section Read

variable {body : Body} {limit timeout time : Nat}

/-- What reading gives when an event ends it. -/
def outcome (body : Body) (event : Event) : Except BodyFailure (List UInt8) :=
  match event.failure? with
  | none => .ok body.octets
  | some failure => .error failure

/-- There is one first event, and the reading of the body ends at its time with what it makes of it. -/
theorem exists_first_read (limit : Nat) (positive : 0 < timeout) (apart : ∀ chunk ∈ body.chunks, chunk.delay ≠ timeout) :
    ∃ event time, First limit timeout body event time ∧
      (∀ other time', First limit timeout body other time' → other = event ∧ time' = time) ∧
      body.read limit timeout = (time, body.outcome event) := by
  obtain ⟨event, time, place, first, followed⟩ := exists_isFirst_follow body.ending 0 limit positive apart
  refine ⟨event, time, ⟨place, first⟩, ?_, ?_⟩
  · rintro other time' ⟨place', first'⟩
    exact first.unique first'
  · rw [read, followed, Nat.zero_add]
    cases event <;> rfl

theorem length_le_of_read {octets : List UInt8} (h : body.read limit timeout = (time, .ok octets)) :
    body.octets.length ≤ limit := by
  rw [read] at h
  split at h
  · rename_i followed
    exact length_le_of_follow followed
  · cases h

theorem octets_ofOctets (octets : List UInt8) : (ofOctets octets).octets = octets := by
  by_cases empty : octets = []
  · simp [ofOctets, Body.octets, empty]
  · simp [ofOctets, Body.octets, empty]

theorem read_ofOctets {octets : List UInt8} (positive : 0 < timeout) (within : octets.length ≤ limit) :
    (ofOctets octets).read limit timeout = (0, .ok octets) := by
  by_cases empty : octets = []
  · simp [ofOctets, Body.read, Body.octets, follow, empty, Nat.ne_of_gt positive]
  · simp [ofOctets, Body.read, Body.octets, follow, empty, Nat.ne_of_gt positive, Nat.not_le_of_lt positive,
      Nat.not_lt_of_le within]

end Read

end Body

end AdmissionGate.Http
