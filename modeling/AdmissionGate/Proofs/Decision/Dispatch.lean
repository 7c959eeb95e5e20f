import Mathlib
import AdmissionGate.Gate.Ending

/-!
# Who decides a request

A decider hands a request to at most one handler, and at most once: to none if the kind is exempt, whatever the path, or if
the path is none of those that are served, and otherwise to the handler that is bound to the path.  What comes back carries
the identity and the envelope type of the request; all the rest of it is the handler's, or says that the request is allowed.

The handlers work in any monad.  So a call is more than its result: it counts, takes time or fails, and the laws below are
equations between computations.
-/

namespace AdmissionGate

open Review (Request Response Status PatchType Annotations)

/-! ### Routes -/

namespace Route

theorem ofPath?_eq_some_iff {path : String} {route : Route} : ofPath? path = some route ↔ path = route.path := by
  constructor
  · intro named
    exact (path_of_ofPath? named).symm
  · rintro rfl
    exact ofPath?_path route

theorem path_injective {first second : Route} (h : first.path = second.path) : first = second := by
  have named := ofPath?_path first
  rw [h, ofPath?_path second, Option.some_inj] at named
  exact named.symm

theorem ofPath?_eq_none_iff {path : String} : ofPath? path = none ↔ ∀ route : Route, path ≠ route.path := by
  rw [Option.eq_none_iff_forall_ne_some]
  exact forall_congr' fun route => not_congr ofPath?_eq_some_iff

end Route

/-! ### What a response says, whomever it is addressed to -/

/-- A response without the request and the envelope that it answers. -/
structure Verdict where
  allowed : Bool
  status : Status
  patch : Option (List UInt8)
  patchType : Option PatchType
  annotations : Annotations
  warnings : Option (List String)

def Review.Response.verdict (response : Response) : Verdict :=
  ⟨response.allowed, response.status, response.patch, response.patchType, response.annotations, response.warnings⟩

/-- Allowed, and nothing else. -/
def Verdict.allow : Verdict :=
  ⟨true, {}, none, none, .empty, none⟩

/-- A verdict as the answer to a request. -/
def Verdict.on (request : Request) (verdict : Verdict) : Response :=
  ⟨request.types, request.uid, verdict.allowed, verdict.status, verdict.patch, verdict.patchType, verdict.annotations,
    verdict.warnings⟩

variable {m : Type → Type}

/-! ### Handlers and their calls -/

namespace Handlers

/-- The paths that are served, with the handlers that are bound to them. -/
def bindings (handlers : Handlers m) : List (String × Route × Handler m) :=
  [("/mutate", .mutation, handlers.mutation), ("/validate", .validation, handlers.validation),
    ("/policyvalidate", .policyValidation, handlers.policyValidation)]

theorem mem_bindings {handlers : Handlers m} {path : String} {route : Route} {handler : Handler m} :
    (path, route, handler) ∈ handlers.bindings ↔ path = route.path ∧ handler = handlers.get route := by
  cases route <;> simp [bindings, Route.path, get]

theorem path_mem_bindings {handlers : Handlers m} {path : String} :
    path ∈ handlers.bindings.map Prod.fst ↔ ∃ route : Route, path = route.path := by
  constructor
  · intro listed
    obtain ⟨⟨_, route, handler⟩, bound, rfl⟩ := List.mem_map.mp listed
    exact ⟨route, (mem_bindings.mp bound).1⟩
  · rintro ⟨route, rfl⟩
    exact List.mem_map.mpr ⟨(route.path, route, handlers.get route), mem_bindings.mpr ⟨rfl, rfl⟩, rfl⟩

/-- The handlers, with something done before each call. -/
def noting [Monad m] (handlers : Handlers m) (note : Call → m Unit) : Handlers m :=
  .ofRoutes fun route request => do
    note ⟨route, request⟩
    handlers.get route request

theorem get_noting [Monad m] (handlers : Handlers m) (note : Call → m Unit) (route : Route) (request : Request) :
    (handlers.noting note).get route request = (note ⟨route, request⟩ >>= fun _ => handlers.get route request) := by
  cases route <;> rfl

end Handlers

/-- The calls that an outcome takes. -/
def Outcome.calls (request : Request) : Outcome → List Call
  | .handled route => [⟨route, request⟩]
  | .exempt | .unrouted => []

theorem Outcome.length_calls_le (request : Request) (outcome : Outcome) : (outcome.calls request).length ≤ 1 := by
  cases outcome with
  | handled route => exact Nat.le_refl 1
  | exempt | unrouted => exact Nat.zero_le 1

/-! ### What a request on a path is due -/

namespace Decider

variable [Monad m]

/-- The same exempt kinds with other handlers. -/
def withHandlers (decider : Decider m) (handlers : Handlers m) : Decider m :=
  ⟨decider.kinds, handlers⟩

/-- What is to become of a request on a path, and where its verdict comes from.  The kind is looked at before the path. -/
inductive Due (decider : Decider m) (path : String) (request : Request) : Outcome → m Verdict → Prop where
  | exempt : request.kind.kind ∈ decider.kinds.kinds → Due decider path request .exempt (pure .allow)
  | unrouted :
      request.kind.kind ∉ decider.kinds.kinds → path ∉ decider.handlers.bindings.map Prod.fst →
      Due decider path request .unrouted (pure .allow)
  | handled {route : Route} {handler : Handler m} :
      request.kind.kind ∉ decider.kinds.kinds → (path, route, handler) ∈ decider.handlers.bindings →
      Due decider path request (.handled route) (Response.verdict <$> handler request)

theorem exists_due (decider : Decider m) (path : String) (request : Request) :
    ∃ outcome verdict, decider.Due path request outcome verdict := by
  by_cases exempt : request.kind.kind ∈ decider.kinds.kinds
  · exact ⟨_, _, .exempt exempt⟩
  · by_cases served : path ∈ decider.handlers.bindings.map Prod.fst
    · obtain ⟨⟨_, route, handler⟩, bound, rfl⟩ := List.mem_map.mp served
      exact ⟨_, _, .handled exempt bound⟩
    · exact ⟨_, _, .unrouted exempt served⟩

theorem Due.unique {decider : Decider m} {path : String} {request : Request} {first second : Outcome}
    {verdict other : m Verdict} (hfirst : decider.Due path request first verdict)
    (hsecond : decider.Due path request second other) : first = second ∧ verdict = other := by
  cases hfirst with
  | exempt exempt =>
    cases hsecond with
    | exempt _ => exact ⟨rfl, rfl⟩
    | unrouted looked _ | handled looked _ => exact absurd exempt looked
  | unrouted looked unbound =>
    cases hsecond with
    | exempt exempt => exact absurd exempt looked
    | unrouted _ _ => exact ⟨rfl, rfl⟩
    | handled _ bound => exact absurd (List.mem_map.mpr ⟨_, bound, rfl⟩) unbound
  | handled looked bound =>
    cases hsecond with
    | exempt exempt => exact absurd exempt looked
    | unrouted _ unbound => exact absurd (List.mem_map.mpr ⟨_, bound, rfl⟩) unbound
    | handled _ bound' =>
      obtain ⟨path, rfl⟩ := Handlers.mem_bindings.mp bound
      obtain ⟨path', rfl⟩ := Handlers.mem_bindings.mp bound'
      rw [Route.path_injective (path.symm.trans path')]
      exact ⟨rfl, rfl⟩

/-- What is due does not depend on whom the handlers address their responses to. -/
theorem Due.of_verdicts {decider : Decider m} {path : String} {request : Request} {outcome : Outcome}
    {verdict : m Verdict} {other : Handlers m}
    (alike : ∀ route request, Response.verdict <$> other.get route request =
      Response.verdict <$> decider.handlers.get route request) (h : decider.Due path request outcome verdict) :
    (decider.withHandlers other).Due path request outcome verdict := by
  cases h with
  | exempt exempt => exact .exempt exempt
  | unrouted looked unbound =>
    refine .unrouted looked fun bound => unbound ?_
    exact Handlers.path_mem_bindings.mpr (Handlers.path_mem_bindings.mp bound)
  | handled looked bound =>
    obtain ⟨rfl, rfl⟩ := Handlers.mem_bindings.mp bound
    rw [← alike]
    exact .handled looked (Handlers.mem_bindings.mpr ⟨rfl, rfl⟩)

/-! ### The decider does what is due -/

theorem decide_of_exempt (decider : Decider m) (path : String) {request : Request}
    (exempt : request.kind.kind ∈ decider.kinds.kinds) :
    decider.decide path request = pure (Response.ofRequest request, .exempt) := by
  rw [decide, if_pos (KindSet.exempts_iff.mpr exempt)]

theorem decide_of_unrouted (decider : Decider m) {path : String} {request : Request}
    (looked : request.kind.kind ∉ decider.kinds.kinds) (unbound : ∀ route : Route, path ≠ route.path) :
    decider.decide path request = pure (Response.ofRequest request, .unrouted) := by
  have notExempt : ¬ decider.kinds.exempts request.kind.kind = true := fun exempt => looked (KindSet.exempts_iff.mp exempt)
  rw [decide, if_neg notExempt, Route.ofPath?_eq_none_iff.mpr unbound]

theorem decide_of_handled (decider : Decider m) (route : Route) {request : Request}
    (looked : request.kind.kind ∉ decider.kinds.kinds) :
    decider.decide route.path request =
      (decider.handlers.get route request >>= fun response => pure (response.addressedTo request, .handled route)) := by
  have notExempt : ¬ decider.kinds.exempts request.kind.kind = true := fun exempt => looked (KindSet.exempts_iff.mp exempt)
  rw [decide, if_neg notExempt, Route.ofPath?_path]

section Law

variable [LawfulMonad m] {decider : Decider m} {path : String} {request : Request} {outcome : Outcome}
  {verdict : m Verdict}

theorem Due.decide_eq (h : decider.Due path request outcome verdict) :
    decider.decide path request = (fun v => (v.on request, outcome)) <$> verdict := by
  cases h with
  | exempt exempt =>
    rw [decide_of_exempt decider path exempt, map_pure]
    rfl
  | unrouted looked unbound =>
    rw [decide_of_unrouted decider looked (not_exists.mp (mt Handlers.path_mem_bindings.mpr unbound)), map_pure]
    rfl
  | handled looked bound =>
    obtain ⟨rfl, rfl⟩ := Handlers.mem_bindings.mp bound
    rw [decide_of_handled decider _ looked, bind_pure_comp, Functor.map_map]
    rfl

/-- Something done before each call is done once before the decision if a handler is due, and else not at all. -/
theorem Due.decide_noting (h : decider.Due path request outcome verdict) (note : Call → m Unit) :
    (decider.withHandlers (decider.handlers.noting note)).decide path request =
      (forM (outcome.calls request) note >>= fun _ => decider.decide path request) := by
  cases h with
  | exempt exempt =>
    have noted := decide_of_exempt (decider.withHandlers (decider.handlers.noting note)) path exempt
    rw [noted, decide_of_exempt decider path exempt]
    simp only [Outcome.calls, List.forM_nil, pure_bind]
  | unrouted looked unbound =>
    have unnamed := not_exists.mp (mt Handlers.path_mem_bindings.mpr unbound)
    have noted := decide_of_unrouted (decider.withHandlers (decider.handlers.noting note)) looked unnamed
    rw [noted, decide_of_unrouted decider looked unnamed]
    simp only [Outcome.calls, List.forM_nil, pure_bind]
  | @handled route _ looked bound =>
    obtain ⟨rfl, rfl⟩ := Handlers.mem_bindings.mp bound
    have noted := decide_of_handled (decider.withHandlers (decider.handlers.noting note)) route looked
    rw [noted, decide_of_handled decider route looked, withHandlers, Handlers.get_noting, bind_assoc]
    simp only [Outcome.calls, List.forM_cons, List.forM_nil, bind_assoc, pure_bind]

end Law

/-- Whether a request comes to an outcome, with a verdict from some source, and nothing else is done about it. -/
structure Dispatches (decider : Decider m) (path : String) (request : Request) (outcome : Outcome)
    (verdict : m Verdict) : Prop where
  due : decider.Due path request outcome verdict
  only : ∀ {other source}, decider.Due path request other source → other = outcome ∧ source = verdict
  /-- One handler at most is called, and once at most. -/
  once : (outcome.calls request).length ≤ 1
  calls : ∀ note : Call → m Unit,
    (decider.withHandlers (decider.handlers.noting note)).decide path request =
      (forM (outcome.calls request) note >>= fun _ => decider.decide path request)
  answer : decider.decide path request = (fun v => (v.on request, outcome)) <$> verdict
  /-- The answer has the identity and the envelope of the request, and is otherwise the verdict. -/
  addressed : ∀ v : Verdict,
    (v.on request).uid = request.uid ∧ (v.on request).types = request.types ∧ (v.on request).verdict = v
  /-- Handlers that differ only in whom they address their responses to are not told apart. -/
  blind : ∀ other : Handlers m,
    (∀ route request, Response.verdict <$> other.get route request =
      Response.verdict <$> decider.handlers.get route request) →
    (decider.withHandlers other).decide path request = decider.decide path request

theorem dispatch_law [LawfulMonad m] (decider : Decider m) (path : String) (request : Request) :
    ∃ outcome verdict, decider.Dispatches path request outcome verdict := by
  obtain ⟨outcome, verdict, due⟩ := decider.exists_due path request
  refine ⟨outcome, verdict, due, fun other => other.unique due, outcome.length_calls_le request, due.decide_noting,
    due.decide_eq, fun _ => ⟨rfl, rfl, rfl⟩, ?_⟩
  intro other alike
  rw [(due.of_verdicts alike).decide_eq, due.decide_eq]

/-- A handler that counts its calls and answers for another request. -/
theorem dispatch_law_counting :
    let decider : Decider (StateM Nat) :=
      ⟨.empty, .ofRoutes fun _ _ => modifyGet fun calls => (Response.invalid "no", calls + 1)⟩
    let request : Request :=
      { types := ⟨"admission.k8s.io/v1", "AdmissionReview"⟩, uid := "u", kind := ⟨"", "v1", "Pod"⟩,
        resource := ⟨"", "v1", "pods", ""⟩, subResource := none, requestKind := none, requestResource := none,
        requestSubResource := none, name := "", inNamespace := none, operation := .create, userInfo := {},
        object := none, oldObject := none, dryRun := false, options := none }
    LawfulMonad (StateM Nat) ∧
      (decider.decide "/validate" request).run 0 =
        (({ Response.invalid "no" with uid := "u", types := request.types }, .handled .validation), 1) := by
  intro decider request
  have looked : request.kind.kind ∉ decider.kinds.kinds := List.not_mem_nil
  have bound : ("/validate", Route.validation, decider.handlers.validation) ∈ decider.handlers.bindings :=
    Handlers.mem_bindings.mpr ⟨rfl, rfl⟩
  obtain ⟨outcome, verdict, law⟩ := dispatch_law decider "/validate" request
  obtain ⟨rfl, rfl⟩ := law.only (.handled looked bound)
  refine ⟨inferInstance, ?_⟩
  rw [law.answer]
  rfl

end Decider

end AdmissionGate
