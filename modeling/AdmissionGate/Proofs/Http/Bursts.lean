import AdmissionGate.Proofs.Http.BodyReading

/-!
# Bursts

Chunks that come at the same time make a burst.  The reader does not see where a burst is cut: two chunks, the second of which
comes at once, are read like one chunk with the octets of both.  So a body is read like its bursts, and a body that is there at
once is read like a single chunk.
-/

namespace AdmissionGate.Http.Body

/-- Put the chunks that come at once together with the one before them. -/
def gather (burst : Chunk) : List Chunk → List Chunk
  | [] => [burst]
  | chunk :: rest =>
    if chunk.delay = 0 then gather { burst with octets := burst.octets ++ chunk.octets } rest
    else burst :: gather chunk rest

/-- The bursts of a body.  The first one is there from the start, and is empty if nothing comes at once. -/
def bursts (body : Body) : List Chunk :=
  gather ⟨0, []⟩ body.chunks

theorem octetsOf_cons (chunk : Chunk) (rest : List Chunk) : octetsOf (chunk :: rest) = chunk.octets ++ octetsOf rest := by
  simp [octetsOf]

theorem octetsOf_gather (burst : Chunk) (chunks : List Chunk) :
    octetsOf (gather burst chunks) = burst.octets ++ octetsOf chunks := by
  induction chunks generalizing burst with
  | nil => simp [gather, octetsOf]
  | cons chunk rest ih =>
    rw [gather]
    split
    · rw [ih, octetsOf_cons, List.append_assoc]
    · rw [octetsOf_cons, ih, octetsOf_cons]

/-- No octet is lost in a burst. -/
theorem octetsOf_bursts (body : Body) : octetsOf body.bursts = body.octets := by
  rw [bursts, octetsOf_gather, List.nil_append]
  rfl

section Follow

variable {timeout : Nat} {ending : BodyEnd}

theorem follow_cons (now room : Nat) (chunk : Chunk) (rest : List Chunk) :
    follow timeout ending now room (chunk :: rest) =
      if timeout ≤ chunk.delay then (now + timeout, some .timedOut)
      else if room < chunk.octets.length then (now + chunk.delay, some .tooLarge)
      else follow timeout ending (now + chunk.delay) (room - chunk.octets.length) rest := rfl

theorem follow_empty (positive : 0 < timeout) (now room : Nat) (rest : List Chunk) :
    follow timeout ending now room (⟨0, []⟩ :: rest) = follow timeout ending now room rest := by
  have running : ¬ timeout ≤ 0 := Nat.not_le_of_lt positive
  simp [follow_cons, running]

/-- A chunk that comes at once is read like a part of the chunk before it. -/
theorem follow_join (positive : 0 < timeout) (now room delay : Nat) (first second : List UInt8) (rest : List Chunk) :
    follow timeout ending now room (⟨delay, first⟩ :: ⟨0, second⟩ :: rest) =
      follow timeout ending now room (⟨delay, first ++ second⟩ :: rest) := by
  have running : ¬ timeout ≤ 0 := Nat.not_le_of_lt positive
  rw [follow_cons now room ⟨delay, first⟩, follow_cons now room ⟨delay, first ++ second⟩]
  by_cases late : timeout ≤ delay
  · rw [if_pos late, if_pos late]
  · rw [if_neg late, if_neg late, List.length_append]
    by_cases exceeds : room < first.length
    · have both : room < first.length + second.length := by omega
      rw [if_pos exceeds, if_pos both]
    · rw [if_neg exceeds, follow_cons, if_neg running]
      by_cases later : room - first.length < second.length
      · have both : room < first.length + second.length := by omega
        rw [if_pos later, if_pos both, Nat.add_zero]
      · have both : ¬ room < first.length + second.length := by omega
        rw [if_neg later, if_neg both, Nat.add_zero, Nat.sub_sub]

theorem follow_gather (positive : 0 < timeout) (now room : Nat) (burst : Chunk) (chunks : List Chunk) :
    follow timeout ending now room (gather burst chunks) = follow timeout ending now room (burst :: chunks) := by
  induction chunks generalizing burst now room with
  | nil => rfl
  | cons chunk rest ih =>
    rw [gather]
    split
    · rename_i atOnce
      obtain ⟨delay, octets⟩ := chunk
      cases atOnce
      rw [ih]
      exact (follow_join positive now room burst.delay burst.octets octets rest).symm
    · rw [follow_cons, follow_cons]
      simp only [ih]

end Follow

/-- Bodies with the same bursts and the same ending are read alike. -/
theorem read_congr {first second : Body} {timeout : Nat} (limit : Nat) (positive : 0 < timeout)
    (same : first.bursts = second.bursts) (ending : first.ending = second.ending) :
    first.read limit timeout = second.read limit timeout := by
  have gathered : ∀ body : Body, follow timeout body.ending 0 limit body.chunks =
      follow timeout body.ending 0 limit body.bursts := by
    intro body
    rw [bursts, follow_gather positive, follow_empty positive]
  have octets : first.octets = second.octets := by
    rw [← octetsOf_bursts, same, octetsOf_bursts]
  rw [read, read, gathered first, gathered second, same, octets, ending]

theorem gather_of_prompt {chunks : List Chunk} (prompt : ∀ chunk ∈ chunks, chunk.delay = 0) (burst : Chunk) :
    gather burst chunks = [{ burst with octets := burst.octets ++ octetsOf chunks }] := by
  induction chunks generalizing burst with
  | nil => simp [gather, octetsOf]
  | cons chunk rest ih =>
    rw [List.forall_mem_cons] at prompt
    rw [gather, if_pos prompt.1, ih prompt.2, octetsOf_cons]
    simp

/-- A body that is there at once is a single burst. -/
theorem bursts_of_prompt {body : Body} (prompt : ∀ chunk ∈ body.chunks, chunk.delay = 0) :
    body.bursts = [⟨0, body.octets⟩] := by
  rw [bursts, gather_of_prompt prompt, List.nil_append]
  rfl

end AdmissionGate.Http.Body
