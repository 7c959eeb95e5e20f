import AdmissionGate.Proofs.Gate.Indifference
import AdmissionGate.Proofs.Http.Bursts

/-!
# How a body is cut does not matter

A gate looks at a body only by reading it, and bodies with the same bursts are read alike, whatever their schedule is.  So two
messages that differ only in how the bursts of their bodies are cut are served alike: they get the same answer, the same
handlers are called for them, and the same is counted.  A body that is there at once is a single burst, so it may be cut
anywhere.
-/

namespace AdmissionGate.Gate

open Http (Message Body)

/-- Whether a gate in some state answers two messages with the same answer and is left in the same state by both. -/
structure ServesEqually (gate : Gate) (state : State) (message other : Message) : Prop where
  answer : (gate.serve state message).2.answer = (gate.serve state other).2.answer
  calls : (gate.serve state message).1.calls = (gate.serve state other).1.calls
  metrics : (gate.serve state message).1.metrics = (gate.serve state other).1.metrics

section Bodies

variable {gate : Gate} {message : Message} {first second : Body}

/-- A gate looks at a body only by reading it. -/
theorem receive_congr_body
    (read : first.read (gate.bodyLimit message) gate.settings.readTimeout =
      second.read (gate.bodyLimit message) gate.settings.readTimeout) :
    gate.receive { message with body := first } = gate.receive { message with body := second } := by
  have oversized : ∀ body : Body, gate.isOversized { message with body := body } = gate.isOversized message := fun _ => rfl
  have limit : ∀ body : Body, gate.bodyLimit { message with body := body } = gate.bodyLimit message := fun _ => rfl
  have declared : ∀ body : Body, { message with body := body }.contentType = message.contentType := fun _ => rfl
  rw [receive, receive, oversized first, oversized second, limit first, limit second, declared first, declared second]
  dsimp only
  rw [read]

theorem servesEqually_of_read (state : State)
    (read : first.read (gate.bodyLimit message) gate.settings.readTimeout =
      second.read (gate.bodyLimit message) gate.settings.readTimeout) :
    gate.ServesEqually state { message with body := first } { message with body := second } := by
  have ended : gate.ending state.calls { message with body := first } =
      gate.ending state.calls { message with body := second } := by
    rw [ending, ending, receive_congr_body read]
  have left : (gate.serve state { message with body := first }).1 = (gate.serve state { message with body := second }).1 :=
    state.after_congr (congrArg Prod.fst ended) (congrArg Prod.snd ended)
  refine ⟨?_, congrArg State.calls left, congrArg State.metrics left⟩
  show fitAnswer message (gate.ending state.calls { message with body := first }).1.answer =
    fitAnswer message (gate.ending state.calls { message with body := second }).1.answer
  rw [ended]

/-- Bodies with the same bursts and the same ending make no difference, whenever the bursts come. -/
theorem servesEqually_of_bursts (state : State) (positive : 0 < gate.settings.readTimeout)
    (same : first.bursts = second.bursts) (ending : first.ending = second.ending) :
    gate.ServesEqually state { message with body := first } { message with body := second } :=
  servesEqually_of_read state (Body.read_congr (gate.bodyLimit message) positive same ending)

end Bodies

/-- A message may have its body cut anywhere if the chunks come without delay: whatever follows them, and on whichever side of
    a limit their octets are, the answer is the same, and so are the calls and what is counted. -/
theorem chunking_invisible (gate : Gate) (state : State) (message : Message) {first second : Body}
    (octets : first.octets = second.octets) (ending : first.ending = second.ending)
    (prompt : ∀ chunk ∈ first.chunks ++ second.chunks, chunk.delay = 0) (positive : 0 < gate.settings.readTimeout) :
    gate.ServesEqually state { message with body := first } { message with body := second } := by
  rw [List.forall_mem_append] at prompt
  apply servesEqually_of_bursts state positive _ ending
  rw [Body.bursts_of_prompt prompt.1, Body.bursts_of_prompt prompt.2, octets]

/-- Three octets against a limit of two, in two pieces and in three with an empty one among them, before the transfer fails. -/
theorem chunking_invisible_over :
    let gate : Gate := ⟨.empty, fun _ => .ofRoutes fun _ => allowAll, { Settings.standard with maxBodyBytes := 2 }⟩
    let message : Message := ⟨"POST", ⟨"/mutate", none⟩, [], .ofOctets []⟩
    let first : Body := ⟨[⟨0, [0x7b, 0x20]⟩, ⟨0, [0x7d]⟩], .broken⟩
    let second : Body := ⟨[⟨0, [0x7b]⟩, ⟨0, []⟩, ⟨0, [0x20, 0x7d]⟩], .broken⟩
    (first.octets = second.octets ∧ first.ending = second.ending ∧
      (∀ chunk ∈ first.chunks ++ second.chunks, chunk.delay = 0) ∧ 0 < gate.settings.readTimeout) ∧
    gate.ServesEqually (.fresh true) { message with body := first } { message with body := second } := by
  intro gate message first second
  have prompt : ∀ chunk ∈ first.chunks ++ second.chunks, chunk.delay = 0 := by decide
  exact ⟨⟨rfl, rfl, prompt, by decide⟩, chunking_invisible gate (.fresh true) message rfl rfl prompt (by decide)⟩

end AdmissionGate.Gate
