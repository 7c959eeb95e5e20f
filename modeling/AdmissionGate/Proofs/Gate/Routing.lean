import AdmissionGate.Proofs.Gate.DecisionLaw
import AdmissionGate.Proofs.Gate.InOrder
import AdmissionGate.Proofs.Json.LastMember

/-!
# One table of routes

A path is looked up three times: when a message comes in, when the request in it is decided, and when the decision is counted.  A
request on a path without a handler is allowed, and a path without a label is counted as `unknown`.  Neither happens, because a
message on such a path ends as not found before anything is read of it.

Whether a message is not found depends on its path alone, unless the time is up at once.  Letter case, a slash at the end and an
escaped letter make another path; the query is no part of it.
-/

namespace AdmissionGate

open Http (Message)
open Json (Members)
open Review (Request Response)

/-! ### Labels -/

namespace Route

theorem label_ne_unknown (route : Route) : route.label ≠ "unknown" := by
  cases route <;> decide

end Route

/-- Whether something to count concerns no request, or one on a route. -/
def Record.NamesRoute : Record → Prop
  | .admission label _ _ _ => ∃ route : Route, label = route.label
  | .rejection _ => True

namespace Metrics

variable {α : Type}

/-- Whether the labels of some samples are all of one sort. -/
def Labelled (sort : String → Prop) (samples : Members α) : Prop :=
  ∀ sample ∈ samples, sort sample.1

/-- Whether the routes named in the labels of the samples are all served. -/
structure NamesRoutes (metrics : Metrics) : Prop where
  requests : Labelled (fun labels => ∃ (route : Route) (allowed : Bool), labels = verdictLabels route.label allowed)
    metrics.requests
  exempt : Labelled (fun labels => ∃ route : Route, labels = routeLabels route.label) metrics.exempt
  durations : Labelled (fun labels => ∃ route : Route, labels = routeLabels route.label) metrics.durations

theorem labelled_nil (sort : String → Prop) : Labelled sort ([] : Members α) := by
  intro sample listed
  cases listed

theorem Labelled.insert {sort : String → Prop} {samples : Members α} (h : Labelled sort samples) {labels : String}
    (sorted : sort labels) (value : α) : Labelled sort (samples.insert labels value) := by
  intro sample listed
  rcases Members.mem_insert listed with rfl | before
  · exact sorted
  · exact h sample before

theorem Labelled.find?_eq_none {sort : String → Prop} {samples : Members α} (h : Labelled sort samples) {labels : String}
    (foreign : ¬ sort labels) : samples.find? labels = none := by
  apply Members.find?_eq_none
  intro listed
  obtain ⟨sample, held, rfl⟩ := List.mem_map.mp listed
  exact foreign (h sample held)

theorem namesRoutes_empty : NamesRoutes {} :=
  ⟨labelled_nil _, labelled_nil _, labelled_nil _⟩

namespace NamesRoutes

variable {metrics : Metrics}

theorem record (h : metrics.NamesRoutes) {record : Record} (named : record.NamesRoute) :
    (metrics.record record).NamesRoutes := by
  cases record with
  | rejection status => exact ⟨h.requests, h.exempt, h.durations⟩
  | admission label allowed exempt seconds =>
    obtain ⟨route, rfl⟩ := named
    refine ⟨h.requests.insert ⟨route, allowed, rfl⟩ _, ?_, h.durations.insert ⟨route, rfl⟩ _⟩
    cases exempt with
    | false => exact h.exempt
    | true => exact h.exempt.insert ⟨route, rfl⟩ _

section Foreign

variable {label : String} (foreign : ∀ route : Route, label ≠ route.label)
include foreign

/-! Nothing is counted under a label of no route. -/

theorem requestCount_eq_zero (h : metrics.NamesRoutes) (allowed : Bool) : metrics.requestCount label allowed = 0 := by
  have unlisted : metrics.requests.find? (verdictLabels label allowed) = none := by
    apply h.requests.find?_eq_none
    rintro ⟨route, verdict, same⟩
    exact foreign route (verdictLabels_inj.mp same).1
  rw [requestCount, unlisted, Option.getD_none]

theorem exemptCount_eq_zero (h : metrics.NamesRoutes) : metrics.exemptCount label = 0 := by
  have unlisted : metrics.exempt.find? (routeLabels label) = none := by
    apply h.exempt.find?_eq_none
    rintro ⟨route, same⟩
    exact foreign route (routeLabels_inj.mp same)
  rw [exemptCount, unlisted, Option.getD_none]

theorem durationCount_eq_zero (h : metrics.NamesRoutes) : metrics.durationCount label = 0 := by
  have unlisted : metrics.durations.find? (routeLabels label) = none := by
    apply h.durations.find?_eq_none
    rintro ⟨route, same⟩
    exact foreign route (routeLabels_inj.mp same)
  rw [durationCount, unlisted, Option.getD_none]

end Foreign

end NamesRoutes

end Metrics

/-- Whether a timer has gone off, the one for the body or the one for the whole. -/
def Exchange.IsTimedOut (exchange : Exchange) : Prop :=
  (∃ call, exchange.ending = .overdue call) ∨ exchange.ending = .unreadable .timedOut

theorem Exchange.not_isTimedOut {exchange : Exchange} (ended : exchange.ending = .unknownPath) : ¬ exchange.IsTimedOut := by
  rintro (⟨call, overdue⟩ | stalled)
  · cases ended.symm.trans overdue
  · cases ended.symm.trans stalled

theorem Ending.of_status_notFound {ending : Ending} (h : ending.answer.status = 404) : ending = .unknownPath := by
  cases ending with
  | unknownPath => rfl
  | unreadable failure => cases failure <;> cases h
  | rejected error => cases error <;> cases h
  | overdue _ | oversized | decided _ _ _ _ => cases h

namespace Gate

/-! ### What the decider is asked -/

/-- The request that the decider is asked about, if a message gets that far in time. -/
def question? (gate : Gate) (message : Message) : Option Request :=
  match gate.receive message with
  | (time, .ok (_, request)) => if time < gate.settings.writeTimeout then some request else none
  | (_, .error _) => none

/-- Whether the places that look a path up agree about an exchange that began after some calls. -/
structure KeepsRoutes (gate : Gate) (calls : List Call) (exchange : Exchange) : Prop where
  /-- When the decider is asked, the path is that of a route. -/
  asked : ∀ request, gate.question? exchange.message = some request → ∃ route outcome response,
    Route.ofPath? exchange.message.target.path = some route ∧
      ((gate.decider calls).decide exchange.message.target.path request).value = (response, outcome) ∧
      outcome ≠ .unrouted ∧
      (exchange.ending = .decided route request outcome response ∨
        exchange.ending = .overdue (Ending.decided route request outcome response).call?)
  unasked : gate.question? exchange.message = none → exchange.ending.call? = none ∧
    ∀ route request outcome response, exchange.ending ≠ .decided route request outcome response
  counted : ∀ label allowed exempt seconds, exchange.record? = some (.admission label allowed exempt seconds) →
    label = Route.labelOn exchange.message.target.path ∧ label ≠ "unknown" ∧ ∃ route : Route, label = route.label
  notFound : gate.DeclaresWithin exchange.message →
    (exchange.answer.status = 404 ↔ Route.ofPath? exchange.message.target.path = none ∧ ¬ exchange.IsTimedOut)
  /-- Where nothing is served, nothing is waited for. -/
  unawaited : gate.DeclaresWithin exchange.message → Route.ofPath? exchange.message.target.path = none →
    (exchange.IsTimedOut ↔ gate.settings.writeTimeout = 0)

section Exchanges

variable {gate : Gate} {calls : List Call} {message : Message}

theorem conclude_fst (gate : Gate) (calls : List Call) (time : Nat) (route : Route) (request : Request) :
    ∃ outcome response, ((gate.decider calls).decide route.path request).value = (response, outcome) ∧
      ((gate.conclude calls time route request).1 = .decided route request outcome response ∨
        (gate.conclude calls time route request).1 = .overdue (Ending.decided route request outcome response).call?) := by
  refine ⟨_, _, rfl, ?_⟩
  unfold conclude
  simp only
  split
  · split
    · exact .inl rfl
    · exact .inr rfl
  · exact .inr rfl

theorem of_question? (calls : List Call) {request : Request} (h : gate.question? message = some request) :
    ∃ (route : Route) (time : Nat), message.target.path = route.path ∧
      gate.ending calls message = gate.conclude calls time route request := by
  have received := receives gate message
  unfold question? at h
  unfold ending
  generalize gate.receive message = taken at h received
  cases received with
  | oversized _ | unknownPath _ _ | unreadable _ _ _ | rejected _ _ _ _ => cases h
  | @admitted route time _ _ named _ _ =>
    simp only at h ⊢
    split at h
    · rename_i early
      cases h
      exact ⟨route, time, named, if_neg (Nat.not_le_of_lt early)⟩
    · cases h

theorem of_question?_eq_none (calls : List Call) (h : gate.question? message = none) :
    (gate.ending calls message).1.call? = none ∧
      ∀ route request outcome response, (gate.ending calls message).1 ≠ .decided route request outcome response := by
  have received := receives gate message
  unfold question? at h
  unfold ending
  generalize gate.receive message = taken at h received
  simp only
  -- either the time is up, or what came in holds no request
  split
  · exact ⟨rfl, fun _ _ _ _ same => Ending.noConfusion same⟩
  · rename_i early
    cases received with
    | oversized _ | unknownPath _ _ | unreadable _ _ _ | rejected _ _ _ _ =>
      exact ⟨rfl, fun _ _ _ _ same => Ending.noConfusion same⟩
    | admitted _ _ _ _ =>
      simp only [if_pos (Nat.lt_of_not_le early)] at h
      cases h

theorem of_record?_admission {label : String} {allowed exempt : Bool} {seconds : Float}
    (h : (gate.exchange calls message).record? = some (.admission label allowed exempt seconds)) :
    ∃ route : Route, message.target.path = route.path ∧ label = route.label := by
  have ended : (gate.exchange calls message).ending = (gate.ending calls message).1 := rfl
  rw [Exchange.record?, ended] at h
  cases shape : (gate.ending calls message).1 with
  | decided route request outcome response =>
    rw [shape] at h
    cases h
    exact ⟨route, (of_ending_eq_decided shape).1, rfl⟩
  | overdue _ | oversized | unknownPath | unreadable _ | rejected _ =>
    rw [shape] at h
    cases h

/-- Nothing but the write timer comes before a message is not found. -/
theorem ending_of_unnamed (calls : List Call) (declared : gate.DeclaresWithin message)
    (unnamed : Route.ofPath? message.target.path = none) :
    (gate.ending calls message).1 = if gate.settings.writeTimeout = 0 then .overdue none else .unknownPath := by
  have unserved : ¬ IsServed message := by
    rintro served
    obtain ⟨route, named⟩ := isServed_iff.mp served
    exact Route.ofPath?_eq_none_iff.mp unnamed route named
  rw [ending, receive_of_not_served declared unserved]
  simp only [Nat.le_zero]
  split <;> rfl

theorem of_ending_eq_unknownPath (h : (gate.ending calls message).1 = .unknownPath) :
    Route.ofPath? message.target.path = none := by
  have ended := ends gate calls message
  generalize gate.ending calls message = result at h ended
  cases ended with
  | refused received _ =>
    cases received with
    | unknownPath _ unnamed => exact Route.ofPath?_eq_none_iff.mpr unnamed
    | _ => cases h
  | _ => cases h

theorem exists_decision_of_question? (calls : List Call) {request : Request} (h : gate.question? message = some request) :
    ∃ route outcome response, Route.ofPath? message.target.path = some route ∧
      ((gate.decider calls).decide message.target.path request).value = (response, outcome) ∧ outcome ≠ .unrouted ∧
      ((gate.ending calls message).1 = .decided route request outcome response ∨
        (gate.ending calls message).1 = .overdue (Ending.decided route request outcome response).call?) := by
  obtain ⟨route, time, named, ended⟩ := of_question? calls h
  obtain ⟨outcome, response, decision, ending⟩ := conclude_fst gate calls time route request
  rw [named, ended]
  refine ⟨route, outcome, response, Route.ofPath?_path route, decision, ?_, ending⟩
  rintro rfl
  -- on the path of a route the decider finds the kind exempt, or else it has a handler
  rcases Decider.outcome_decide (gate.decider calls) route request with exempt | handled
  · cases (congrArg Prod.snd decision).symm.trans exempt
  · cases (congrArg Prod.snd decision).symm.trans handled

theorem status_eq_notFound_iff (calls : List Call) (declared : gate.DeclaresWithin message) :
    (gate.exchange calls message).answer.status = 404 ↔
      Route.ofPath? message.target.path = none ∧ ¬ (gate.exchange calls message).IsTimedOut := by
  rw [status_exchange]
  constructor
  · intro answered
    have ended := Ending.of_status_notFound answered
    exact ⟨of_ending_eq_unknownPath ended, Exchange.not_isTimedOut ended⟩
  · rintro ⟨unnamed, inTime⟩
    have ended := ending_of_unnamed calls declared unnamed
    split at ended
    · exact absurd (.inl ⟨none, ended⟩) inTime
    · rw [ended]
      rfl

theorem isTimedOut_iff_of_unnamed (calls : List Call) (declared : gate.DeclaresWithin message)
    (unnamed : Route.ofPath? message.target.path = none) :
    (gate.exchange calls message).IsTimedOut ↔ gate.settings.writeTimeout = 0 := by
  have ended := ending_of_unnamed calls declared unnamed
  constructor
  · intro timedOut
    by_contra started
    rw [if_neg started] at ended
    exact Exchange.not_isTimedOut ended timedOut
  · intro atOnce
    rw [if_pos atOnce] at ended
    exact .inl ⟨none, ended⟩

theorem keepsRoutes (gate : Gate) (calls : List Call) (message : Message) :
    gate.KeepsRoutes calls (gate.exchange calls message) where
  asked _ := exists_decision_of_question? calls
  unasked := of_question?_eq_none calls
  counted label allowed exempt seconds recorded := by
    obtain ⟨route, named, rfl⟩ := of_record?_admission recorded
    refine ⟨?_, route.label_ne_unknown, route, rfl⟩
    show route.label = Route.labelOn message.target.path
    rw [named, Route.labelOn_path]
  notFound := status_eq_notFound_iff calls
  unawaited := isTimedOut_iff_of_unnamed calls

theorem namesRoute_of_record? {record : Record} (h : (gate.exchange calls message).record? = some record) :
    record.NamesRoute := by
  cases record with
  | rejection status => trivial
  | admission label allowed exempt seconds =>
    obtain ⟨route, -, named⟩ := of_record?_admission h
    exact ⟨route, named⟩

end Exchanges

/-! ### Whole runs -/

/-- The exchanges of a run are those of its messages, each after the calls of the messages before it. -/
theorem exists_split_of_mem_run {gate : Gate} {exchange : Exchange} (messages : List Message) {state : State}
    (listed : exchange ∈ (gate.run state messages).2) :
    ∃ before after, messages = before ++ exchange.message :: after ∧
      exchange = gate.exchange (gate.run state before).1.calls exchange.message := by
  induction messages generalizing state with
  | nil => cases listed
  | cons message rest ih =>
    rcases List.mem_cons.mp listed with rfl | later
    · exact ⟨[], rest, rfl, rfl⟩
    · obtain ⟨before, after, rfl, same⟩ := ih later
      exact ⟨message :: before, after, rfl, same⟩

theorem State.exists_namesRoutes_after {gate : Gate} {state : State} {metrics : Metrics}
    (kept : state.metrics = some metrics) (h : metrics.NamesRoutes) (message : Message) :
    ∃ next, (gate.serve state message).1.metrics = some next ∧ next.NamesRoutes := by
  rw [serve, State.metrics_after, kept]
  cases recorded : (gate.exchange state.calls message).record? with
  | none => exact ⟨metrics, rfl, h⟩
  | some record => exact ⟨metrics.record record, rfl, h.record (namesRoute_of_record? recorded)⟩

theorem exists_namesRoutes_run (gate : Gate) (messages : List Message) {state : State} {metrics : Metrics}
    (kept : state.metrics = some metrics) (h : metrics.NamesRoutes) :
    ∃ last, (gate.run state messages).1.metrics = some last ∧ last.NamesRoutes := by
  induction messages generalizing state metrics with
  | nil => exact ⟨metrics, kept, h⟩
  | cons message rest ih =>
    obtain ⟨next, kept', named⟩ := State.exists_namesRoutes_after kept h message
    exact ih kept' named

/-- Whether the places that look a path up agree while a gate serves some messages. -/
structure RoutesAgree (gate : Gate) (messages : List Message) : Prop where
  /-- Looking the path up anew at each place comes to the same. -/
  inOrder : ∀ metered, (messages.mapM gate.serveInOrder).run (.fresh metered) =
    ((gate.run (.fresh metered) messages).2, (gate.run (.fresh metered) messages).1)
  exchanges : ∀ metered, ∀ exchange ∈ (gate.run (.fresh metered) messages).2,
    ∃ before after, messages = before ++ exchange.message :: after ∧
      gate.KeepsRoutes (gate.run (.fresh metered) before).1.calls exchange
  labels : ∃ metrics, (gate.run (.fresh true) messages).1.metrics = some metrics ∧ metrics.NamesRoutes
  unknown : ∀ metrics, (gate.run (.fresh true) messages).1.metrics = some metrics →
    (∀ allowed, metrics.requestCount "unknown" allowed = 0) ∧ metrics.exemptCount "unknown" = 0 ∧
      metrics.durationCount "unknown" = 0

theorem routes_agree (gate : Gate) (messages : List Message) : gate.RoutesAgree messages := by
  have fresh : (State.fresh true).metrics = some {} := rfl
  obtain ⟨metrics, kept, named⟩ := exists_namesRoutes_run gate messages fresh Metrics.namesRoutes_empty
  refine ⟨?_, ?_, ⟨metrics, kept, named⟩, ?_⟩
  · intro metered
    exact run_mapM_serveInOrder gate messages (.fresh metered)
  · intro metered exchange listed
    obtain ⟨before, after, split, same⟩ := exists_split_of_mem_run messages listed
    refine ⟨before, after, split, ?_⟩
    rw [same]
    exact keepsRoutes gate _ _
  · intro other kept'
    have foreign : ∀ route : Route, "unknown" ≠ route.label := fun route => route.label_ne_unknown.symm
    cases kept.symm.trans kept'
    exact ⟨named.requestCount_eq_zero foreign, named.exemptCount_eq_zero foreign, named.durationCount_eq_zero foreign⟩

/-- What looks like the path of a route is none, unless it is the same path; the address in front of it and the query do not
    count. -/
example :
    ["/Validate", "/validate/", "/%76alidate", "*", "gate:443", "https://gate/validate?timeout=5s"].map
      (fun text => (Http.Target.parse text).map fun target => Route.ofPath? target.path) =
      [some none, some none, some none, some none, some none, some (some .validation)] := by
  decide +kernel

end Gate

end AdmissionGate
