import AdmissionGate.Proofs.Gate.Endings
import AdmissionGate.Proofs.Http.BodyReading
import AdmissionGate.Proofs.Http.ContentType
import AdmissionGate.Proofs.Metrics.Counting

/-!
# The table of decisions

What a message brings about when its declared length is within the limit and no timer goes off.  Each row says to which
messages it applies, what they are answered, which handler is called and what is counted; the rows are tested in their order,
so each of them leaves out the messages of the rows before it.  To every message exactly one row applies.
-/

namespace AdmissionGate

open Http (Message)
open Review (Request Response TypeMeta)

/-- The rows of the table. -/
inductive Row where
  | unknownPath
  | tooLarge
  | broken
  | emptyBody
  | foreignType
  | noReview
  /-- The kind of the request passes without being looked at. -/
  | exempt (route : Route) (request : Request)
  | handled (route : Route) (request : Request)

namespace Gate

/-- Whether the path of a message, without the query, is one of those that are served. -/
def IsServed (message : Message) : Prop :=
  message.target.path ∈ ["/mutate", "/validate", "/policyvalidate"]

/-- Whether a message on a served path has a body that comes in whole and within the limit. -/
structure Arrives (gate : Gate) (message : Message) : Prop where
  served : IsServed message
  within : message.body.octets.length ≤ gate.bodyLimit message
  complete : message.body.ending = .complete

/-- Whether a message brings a request in on a route. -/
structure Brings (gate : Gate) (message : Message) (route : Route) (request : Request) : Prop extends
    Arrives gate message where
  declared : message.DeclaresJson
  path : message.target.path = route.path
  held : Review.Holds message.body.octets request

end Gate

namespace Row

/-- The messages that a row applies to. -/
def Applies (gate : Gate) (message : Message) : Row → Prop
  | unknownPath => ¬ Gate.IsServed message
  | tooLarge => Gate.IsServed message ∧ gate.bodyLimit message < message.body.octets.length
  | broken =>
    Gate.IsServed message ∧ message.body.octets.length ≤ gate.bodyLimit message ∧ message.body.ending = .broken
  | emptyBody => gate.Arrives message ∧ message.body.octets = []
  | foreignType => gate.Arrives message ∧ message.body.octets ≠ [] ∧ ¬ message.DeclaresJson
  | noReview =>
    gate.Arrives message ∧ message.body.octets ≠ [] ∧ message.DeclaresJson ∧
      ¬ ∃ request, Review.Holds message.body.octets request
  | exempt route request => gate.Brings message route request ∧ request.kind.kind ∈ gate.kinds.kinds
  | handled route request => gate.Brings message route request ∧ request.kind.kind ∉ gate.kinds.kinds

/-- What the handler of a route answers to a request, addressed to it. -/
def verdict (gate : Gate) (calls : List Call) (route : Route) (request : Request) : Response :=
  ((gate.handlers calls).get route request).value.addressedTo request

/-- A verdict takes its identity and its envelope from the request, and the rest from the handler. -/
theorem verdict_eq {gate : Gate} {calls : List Call} {route : Route} {request : Request} {uid : String}
    {types : TypeMeta} (identity : (request.uid, request.types) = (uid, types)) :
    verdict gate calls route request = { ((gate.handlers calls).get route request).value with uid, types } := by
  obtain ⟨rfl, rfl⟩ := Prod.mk.inj identity
  rfl

/-- The status that a message of a row is answered with. -/
def status : Row → Nat
  | unknownPath => 404
  | tooLarge => 413
  | broken | emptyBody => 400
  | foreignType => 415
  | noReview => 417
  | exempt _ _ | handled _ _ => 200

/-- What a message of a row is answered, before it is fitted to its method. -/
def answer (gate : Gate) (calls : List Call) : Row → Http.Answer
  | unknownPath => .bare 404
  | tooLarge => .bare 413
  | broken => .bare 400
  | emptyBody => .text 400 "empty body"
  | foreignType => .text 415 "invalid Content-Type, expect `application/json`"
  | noReview => .text 417 "Can't decode body as AdmissionReview"
  | exempt _ request => Review.encode (Response.ofRequest request)
  | handled route request => Review.encode (verdict gate calls route request)

/-- The response that a message of a row is answered with, if it is answered with one. -/
def response? (gate : Gate) (calls : List Call) : Row → Option Response
  | exempt _ request => some (Response.ofRequest request)
  | handled route request => some (verdict gate calls route request)
  | _ => none

/-- The calls of handlers that a message of a row brings about. -/
def calls : Row → List Call
  | handled route request => [⟨route, request⟩]
  | _ => []

/-- What is counted of a message of a row. -/
def Counts (gate : Gate) (calls : List Call) (before after : Metrics) : Row → Prop
  | unknownPath => after = before
  | tooLarge => Metrics.CountsRejection 413 before after
  | broken | emptyBody => Metrics.CountsRejection 400 before after
  | foreignType => Metrics.CountsRejection 415 before after
  | noReview => Metrics.CountsRejection 417 before after
  | exempt route _ => Metrics.CountsAdmission route.label true true before after
  | handled route request =>
    Metrics.CountsAdmission route.label (verdict gate calls route request).allowed false before after

end Row

/-! ### What is asked of a message -/

/-- Whether the declared length, if there is one, is within the limit. -/
def Gate.DeclaresWithin (gate : Gate) (message : Message) : Prop :=
  ∀ length, message.declaredLength = some length → length ≤ gate.settings.maxBodyBytes

theorem Gate.declaresWithin_of_undeclared {gate : Gate} {message : Message} (undeclared : message.declaredLength = none) :
    gate.DeclaresWithin message := by
  intro length given
  rw [undeclared] at given
  cases given

/-- Whether no timer goes off: the chunks that are waited for come before the read timer, and the end of the body too unless
    the limit is exceeded; all of it, and the answer of the handler if one is called, comes before the write timer. -/
structure Gate.IsInTime (gate : Gate) (calls : List Call) (message : Message) : Prop where
  started : 0 < gate.settings.writeTimeout
  chunks : IsServed message → ∀ chunk ∈ Http.Body.awaited (gate.bodyLimit message) message.body.chunks,
    chunk.delay < gate.settings.readTimeout
  ending : IsServed message → message.body.octets.length ≤ gate.bodyLimit message →
    0 < gate.settings.readTimeout ∧ message.body.ending ≠ .silent
  body : IsServed message → message.body.arrival (gate.bodyLimit message) < gate.settings.writeTimeout
  handler : ∀ {route request}, (Row.handled route request).Applies gate message →
    ∃ delay, ((gate.handlers calls).get route request).delay = some delay ∧
      message.body.arrival (gate.bodyLimit message) + delay < gate.settings.writeTimeout

namespace Gate

theorem isServed_iff {message : Message} : IsServed message ↔ ∃ route : Route, message.target.path = route.path := by
  constructor
  · intro served
    simp only [IsServed, List.mem_cons, List.not_mem_nil, or_false] at served
    rcases served with path | path | path
    · exact ⟨.mutation, path⟩
    · exact ⟨.validation, path⟩
    · exact ⟨.policyValidation, path⟩
  · rintro ⟨route, path⟩
    rw [IsServed, path]
    cases route <;> simp [Route.path]

theorem Brings.nonempty {gate : Gate} {message : Message} {route : Route} {request : Request}
    (h : gate.Brings message route request) : message.body.octets ≠ [] := by
  obtain ⟨w, text, -⟩ := h.held
  exact Review.isTextOf_ne_nil text

end Gate

theorem exists_of_map_eq_ok {ε α β : Type} {result : Except ε α} {f : α → β} {b : β} (h : result.map f = .ok b) :
    ∃ a, result = .ok a ∧ f a = b := by
  cases result with
  | error e => cases h
  | ok a => exact ⟨a, rfl, Except.ok.inj h⟩

/-! ### Exactly one row applies -/

namespace Row

/-- The place of a row in the table. -/
def index : Row → Nat
  | unknownPath => 0
  | tooLarge => 1
  | broken => 2
  | emptyBody => 3
  | foreignType => 4
  | noReview => 5
  | exempt _ _ => 6
  | handled _ _ => 7

section Order

variable {gate : Gate} {message : Message} {row other : Row}

-- each row passes the tests of the rows before it

theorem Applies.served (h : row.Applies gate message) (later : 0 < row.index) : Gate.IsServed message := by
  cases row with
  | unknownPath => exact absurd later (Nat.lt_irrefl 0)
  | tooLarge | broken => exact h.1
  | emptyBody | foreignType | noReview => exact h.1.served
  | exempt _ _ | handled _ _ => exact h.1.served

theorem Applies.within (h : row.Applies gate message) (later : 1 < row.index) :
    message.body.octets.length ≤ gate.bodyLimit message := by
  cases row with
  | unknownPath | tooLarge => simp [index] at later
  | broken => exact h.2.1
  | emptyBody | foreignType | noReview => exact h.1.within
  | exempt _ _ | handled _ _ => exact h.1.within

theorem Applies.complete (h : row.Applies gate message) (later : 2 < row.index) : message.body.ending = .complete := by
  cases row with
  | unknownPath | tooLarge | broken => simp [index] at later
  | emptyBody | foreignType | noReview => exact h.1.complete
  | exempt _ _ | handled _ _ => exact h.1.complete

theorem Applies.nonempty (h : row.Applies gate message) (later : 3 < row.index) : message.body.octets ≠ [] := by
  cases row with
  | unknownPath | tooLarge | broken | emptyBody => simp [index] at later
  | foreignType | noReview => exact h.2.1
  | exempt _ _ | handled _ _ => exact h.1.nonempty

theorem Applies.declared (h : row.Applies gate message) (later : 4 < row.index) : message.DeclaresJson := by
  cases row with
  | unknownPath | tooLarge | broken | emptyBody | foreignType => simp [index] at later
  | noReview => exact h.2.2.1
  | exempt _ _ | handled _ _ => exact h.1.declared

theorem Applies.held (h : row.Applies gate message) (later : 5 < row.index) :
    ∃ request, Review.Holds message.body.octets request := by
  cases row with
  | unknownPath | tooLarge | broken | emptyBody | foreignType | noReview => simp [index] at later
  | exempt _ request | handled _ request => exact ⟨request, h.1.held⟩

/-- A row leaves out the messages of the rows before it. -/
theorem Applies.not_before (h : row.Applies gate message) (h' : other.Applies gate message) :
    ¬ row.index < other.index := by
  intro before
  cases row with
  | unknownPath => exact h (h'.served before)
  | tooLarge => exact Nat.not_lt_of_le (h'.within before) h.2
  | broken =>
    have complete := h'.complete before
    rw [h.2.2] at complete
    cases complete
  | emptyBody => exact h'.nonempty before h.2
  | foreignType => exact h.2.2 (h'.declared before)
  | noReview => exact h.2.2.2 (h'.held before)
  | exempt route request =>
    cases other with
    | handled route' request' => exact h'.2 (h.1.held.unique h'.1.held ▸ h.2)
    | _ => simp [index] at before
  | handled route request => cases other <;> simp [index] at before

theorem Applies.unique (h : row.Applies gate message) (h' : other.Applies gate message) : other = row := by
  have same : row.index = other.index :=
    Nat.le_antisymm (Nat.le_of_not_lt (h'.not_before h)) (Nat.le_of_not_lt (h.not_before h'))
  cases row with
  | exempt route request =>
    cases other with
    | exempt route' request' =>
      rw [h.1.held.unique h'.1.held, Route.path_injective (h.1.path.symm.trans h'.1.path)]
    | _ => simp [index] at same
  | handled route request =>
    cases other with
    | handled route' request' =>
      rw [h.1.held.unique h'.1.held, Route.path_injective (h.1.path.symm.trans h'.1.path)]
    | _ => simp [index] at same
  | _ => cases other <;> first | rfl | simp [index] at same

end Order

end Row

end AdmissionGate
