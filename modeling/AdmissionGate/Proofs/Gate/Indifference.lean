import AdmissionGate.Proofs.Gate.Endings

/-!
# What a gate takes no notice of

A gate looks at the path of a message, at the values of its first content type and its first content length, and at its body.
Two messages that agree in these are served alike, whatever their methods, queries and other header fields are: the same
handlers are called, the same is counted, and the answers differ at most in what a method hides.
-/

namespace AdmissionGate

namespace Http.Message

/-- The values of the header fields with a name, in their order. -/
def values (message : Message) (name : String) : List (List UInt8) :=
  (message.headers.filter fun field => field.name = name).map Field.value

/-- Whether messages agree in all that a gate looks at. -/
structure Agrees (first second : Message) : Prop where
  path : first.target.path = second.target.path
  contentType : (first.values "content-type").head? = (second.values "content-type").head?
  contentLength : (first.values "content-length").head? = (second.values "content-length").head?
  body : first.body = second.body

theorem head?_values (message : Message) (name : String) :
    (message.values name).head? = (message.header? name).map Field.value := by
  rw [values, List.head?_map, List.head?_filter]
  rfl

theorem bind_text?_eq_of_values {first second : Message} {name : String}
    (h : (first.values name).head? = (second.values name).head?) :
    (first.header? name).bind Field.text? = (second.header? name).bind Field.text? := by
  rw [head?_values, head?_values] at h
  cases left : first.header? name with
  | none =>
    rw [left, Option.map_none, eq_comm, Option.map_eq_none_iff] at h
    rw [h]
  | some field =>
    rw [left, Option.map_some, eq_comm, Option.map_eq_some_iff] at h
    obtain ⟨other, right, value⟩ := h
    rw [right, Option.bind_some, Option.bind_some, Field.text?, Field.text?, value]

theorem declaredLength_eq_bind (message : Message) :
    message.declaredLength =
      ((message.header? "content-length").bind Field.text?).bind fun text =>
        (Numeral.parse 64 text.toList).toOption := by
  rw [declaredLength, Option.bind_assoc]
  rfl

namespace Agrees

variable {first second : Message}

theorem contentType_eq (h : first.Agrees second) : first.contentType = second.contentType :=
  bind_text?_eq_of_values h.contentType

theorem declaredLength_eq (h : first.Agrees second) : first.declaredLength = second.declaredLength := by
  rw [declaredLength_eq_bind, declaredLength_eq_bind, bind_text?_eq_of_values h.contentLength]

end Agrees

end Http.Message

open Http (Message)

/-! ### Fitting -/

/-- Whether a method shows the whole answer. -/
def ShowsAll (method : String) : Prop :=
  method ≠ "HEAD" ∧ method ≠ "CONNECT"

theorem fitAnswer_of_showsAll {message : Message} (shown : ShowsAll message.method) (answer : Http.Answer) :
    fitAnswer message answer = if isFitted message.target then answer.withLength else answer := by
  have notSilenced : ¬ (message.method = "CONNECT" ∧ answer.isSuccess = true) := fun h => shown.2 h.1
  rw [fitAnswer, if_neg notSilenced, if_neg shown.1]
  cases isFitted message.target <;> rfl

theorem isFitted_congr {first second : Http.Target} (h : first.path = second.path) :
    isFitted first = isFitted second := by
  rw [isFitted, isFitted, Http.Target.isRooted, Http.Target.isRooted, h]

namespace Gate

section Steps

variable {first second : Message}

/-! ### One message in place of another -/

theorem isOversized_congr (gate : Gate) (h : first.Agrees second) : gate.isOversized first = gate.isOversized second := by
  rw [isOversized, isOversized, h.declaredLength_eq]

theorem bodyLimit_congr (gate : Gate) (h : first.Agrees second) : gate.bodyLimit first = gate.bodyLimit second := by
  rw [bodyLimit, bodyLimit, h.declaredLength_eq]

theorem receive_congr (gate : Gate) (h : first.Agrees second) : gate.receive first = gate.receive second := by
  rw [receive, receive, isOversized_congr gate h, bodyLimit_congr gate h, h.path, h.contentType_eq, h.body]

theorem ending_congr (gate : Gate) (calls : List Call) (h : first.Agrees second) :
    gate.ending calls first = gate.ending calls second := by
  rw [ending, ending, receive_congr gate h]

theorem State.after_congr (state : State) {exchange other : Exchange} (ending : exchange.ending = other.ending)
    (elapsed : exchange.elapsed = other.elapsed) : state.after exchange = state.after other := by
  rw [State.after, State.after, Exchange.record?, Exchange.record?, ending, elapsed]

theorem serve_congr (gate : Gate) (state : State) (h : first.Agrees second) :
    (gate.serve state first).1 = (gate.serve state second).1 := by
  have same := ending_congr gate state.calls h
  exact state.after_congr (congrArg Prod.fst same) (congrArg Prod.snd same)

/-- Whether two exchanges came to the same answer, up to what their methods hide. -/
structure AnswersAlike (exchange other : Exchange) : Prop where
  status : exchange.answer.status = other.answer.status
  shown : ShowsAll exchange.message.method → ShowsAll other.message.method → exchange.answer = other.answer

theorem answersAlike_of_agrees (gate : Gate) (calls : List Call) (h : first.Agrees second) :
    AnswersAlike (gate.exchange calls first) (gate.exchange calls second) := by
  have same := ending_congr gate calls h
  constructor
  · rw [status_exchange, status_exchange, same]
  · intro (shown : ShowsAll first.method) (shown' : ShowsAll second.method)
    show fitAnswer first (gate.ending calls first).1.answer = fitAnswer second (gate.ending calls second).1.answer
    rw [fitAnswer_of_showsAll shown, fitAnswer_of_showsAll shown', same, isFitted_congr h.path]

end Steps

/-- Runs on messages that agree one by one end in the same state, and answer alike. -/
theorem run_congr (gate : Gate) {firsts seconds : List Message} (agree : List.Forall₂ Message.Agrees firsts seconds)
    (state : State) :
    (gate.run state firsts).1 = (gate.run state seconds).1 ∧
      List.Forall₂ AnswersAlike (gate.run state firsts).2 (gate.run state seconds).2 := by
  induction agree generalizing state with
  | nil => exact ⟨rfl, .nil⟩
  | @cons first second firsts seconds h agree ih =>
    have next : (gate.serve state first).1 = (gate.serve state second).1 := serve_congr gate state h
    obtain ⟨last, alike⟩ := ih (gate.serve state first).1
    simp only [run]
    rw [← next]
    exact ⟨last, .cons (answersAlike_of_agrees gate state.calls h) alike⟩

/-- Whether a gate in some state treats two messages alike. -/
structure TreatsAlike (gate : Gate) (state : State) (first second : Message) : Prop where
  answers : AnswersAlike (gate.serve state first).2 (gate.serve state second).2
  calls : (gate.serve state first).1.calls = (gate.serve state second).1.calls
  metrics : (gate.serve state first).1.metrics = (gate.serve state second).1.metrics

/-- Whatever a gate has served before, it takes no notice of methods, queries and other or repeated header fields. -/
theorem indifferent (gate : Gate) (state : State) {first second : Message} (agree : first.Agrees second) :
    gate.TreatsAlike state first second := by
  have next := serve_congr gate state agree
  exact ⟨answersAlike_of_agrees gate state.calls agree, congrArg State.calls next, congrArg State.metrics next⟩

/-- A review that the API server posts, and the same body under another method with its content type given twice. -/
theorem indifferent_query :
    let gate : Gate := ⟨.empty, fun _ => .ofRoutes fun _ => allowAll, .standard⟩
    let body := Http.Body.ofOctets (Text.Utf8.encode "\x7b\x7d".toList)
    let json : Http.Field := ⟨"content-type", Text.Utf8.encode "application/json".toList⟩
    let foreign : Http.Field := ⟨"content-type", Text.Utf8.encode "text/plain".toList⟩
    let agent : Http.Field := ⟨"user-agent", Text.Utf8.encode "kube-apiserver".toList⟩
    let first : Message := ⟨"POST", ⟨"/mutate", some "timeout=5s"⟩, [agent, json], body⟩
    let second : Message := ⟨"PUT", ⟨"/mutate", none⟩, [json, foreign], body⟩
    first.Agrees second ∧ (gate.serve (.fresh true) first).2.answer = (gate.serve (.fresh true) second).2.answer := by
  intro gate body json foreign agent first second
  have agree : first.Agrees second := ⟨rfl, rfl, rfl, rfl⟩
  have alike := indifferent gate (.fresh true) agree
  exact ⟨agree, alike.answers.shown ⟨by decide, by decide⟩ ⟨by decide, by decide⟩⟩

end Gate

end AdmissionGate
