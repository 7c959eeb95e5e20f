import Mathlib
import AdmissionGate.Http.Body

/-!
# Reading a body in time

If no wait is too long, the reader goes through a body chunk by chunk.  Either the octets go over the limit, and the chunk with
which they do so is the last that is waited for; or they do not, and the end of the body decides.
-/

namespace AdmissionGate.Http.Body

/-- The chunks that are waited for when there is room for some octets: up to the first one that goes over. -/
def awaited (room : Nat) : List Chunk → List Chunk
  | [] => []
  | chunk :: rest =>
    if room < chunk.octets.length then [chunk] else chunk :: awaited (room - chunk.octets.length) rest

/-- When the last chunk that is waited for is there. -/
def arrival (room : Nat) (body : Body) : Nat :=
  ((awaited room body.chunks).map Chunk.delay).sum

/-- The octets of some chunks. -/
def octetsOf (chunks : List Chunk) : List UInt8 :=
  (chunks.map Chunk.octets).flatten

theorem length_octetsOf_cons (chunk : Chunk) (rest : List Chunk) :
    (octetsOf (chunk :: rest)).length = chunk.octets.length + (octetsOf rest).length := by
  rw [octetsOf, List.map_cons, List.flatten_cons, List.length_append, octetsOf]

theorem follow_of_over {timeout room : Nat} (ending : BodyEnd) (now : Nat) {chunks : List Chunk}
    (inTime : ∀ chunk ∈ awaited room chunks, chunk.delay < timeout) (exceeds : room < (octetsOf chunks).length) :
    follow timeout ending now room chunks = (now + ((awaited room chunks).map Chunk.delay).sum, some .tooLarge) := by
  induction chunks generalizing now room with
  | nil => exact absurd exceeds (Nat.not_lt_zero room)
  | cons chunk rest ih =>
    rw [length_octetsOf_cons] at exceeds
    rw [awaited] at inTime ⊢
    by_cases last : room < chunk.octets.length
    · rw [if_pos last] at inTime ⊢
      have there : ¬ timeout ≤ chunk.delay := Nat.not_le_of_lt (inTime chunk (by simp))
      rw [follow, if_neg there, if_pos last]
      simp
    · rw [if_neg last] at inTime ⊢
      have there : ¬ timeout ≤ chunk.delay := Nat.not_le_of_lt (inTime chunk (by simp))
      rw [follow, if_neg there, if_neg last, ih _ (fun c hc => inTime c (by simp [hc])) (by omega)]
      simp [Nat.add_assoc]

theorem follow_of_within {timeout room : Nat} (ending : BodyEnd) (now : Nat) {chunks : List Chunk}
    (inTime : ∀ chunk ∈ awaited room chunks, chunk.delay < timeout) (within : (octetsOf chunks).length ≤ room) :
    follow timeout ending now room chunks =
      follow timeout ending (now + ((awaited room chunks).map Chunk.delay).sum) 0 [] := by
  induction chunks generalizing now room with
  | nil => simp [follow, awaited]
  | cons chunk rest ih =>
    rw [length_octetsOf_cons] at within
    rw [awaited] at inTime ⊢
    have fits : ¬ room < chunk.octets.length := by omega
    rw [if_neg fits] at inTime ⊢
    have there : ¬ timeout ≤ chunk.delay := Nat.not_le_of_lt (inTime chunk (by simp))
    rw [follow, if_neg there, if_neg fits, ih _ (fun c hc => inTime c (by simp [hc])) (by omega)]
    simp [Nat.add_assoc]

section Read

variable {body : Body} {limit timeout : Nat}

theorem read_of_over (inTime : ∀ chunk ∈ awaited limit body.chunks, chunk.delay < timeout)
    (exceeds : limit < body.octets.length) : body.read limit timeout = (body.arrival limit, .error .tooLarge) := by
  rw [read, follow_of_over body.ending 0 inTime exceeds, Nat.zero_add, arrival]

theorem read_of_silent (inTime : ∀ chunk ∈ awaited limit body.chunks, chunk.delay < timeout)
    (within : body.octets.length ≤ limit) (silent : body.ending = .silent) :
    body.read limit timeout = (body.arrival limit + timeout, .error .timedOut) := by
  rw [read, follow_of_within body.ending 0 inTime within, silent, follow]
  simp only [Nat.zero_add, arrival]

theorem mem_of_mem_awaited {chunk : Chunk} {room : Nat} {chunks : List Chunk} (h : chunk ∈ awaited room chunks) :
    chunk ∈ chunks := by
  induction chunks generalizing room with
  | nil => exact h
  | cons first rest ih =>
    rw [awaited] at h
    split at h
    · exact List.mem_cons.mpr (.inl (List.mem_singleton.mp h))
    · rcases List.mem_cons.mp h with rfl | later
      · exact List.mem_cons_self
      · exact List.mem_cons_of_mem first (ih later)

/-- What comes without delay is there at once. -/
theorem arrival_eq_zero (prompt : ∀ chunk ∈ body.chunks, chunk.delay = 0) (limit : Nat) : body.arrival limit = 0 := by
  rw [arrival]
  refine List.sum_eq_zero fun delay listed => ?_
  obtain ⟨chunk, waited, rfl⟩ := List.mem_map.mp listed
  exact prompt chunk (mem_of_mem_awaited waited)

end Read

end AdmissionGate.Http.Body
