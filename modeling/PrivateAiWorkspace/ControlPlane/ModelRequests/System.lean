import PrivateAiWorkspace.ControlPlane.ModelRequests.Handlers
import PrivateAiWorkspace.Effects.FreshIds

/-!
# The control plane as concurrent handlers over one store

Any number of handlers run over one store; each store call is one step and the
steps of all handlers interleave freely. The one assumption about the
environment is that `uuid4` never answers the same id twice.

`storeSteps_of_run` says once what a step of any run can do to the store. A
request is only ever created under an id that is new to the store: the handler
that creates it is the one that was given the id, and it creates once.
-/

namespace PrivateAiWorkspace.ControlPlane

open Effects Python

/-- The store and the ids handed out so far. -/
structure ModelRequestState where
  store : InMemoryModelRequestStore
  issued : List String

/-- How the store, the clock, the source of ids and the notification store
answer. Publishing may raise. -/
inductive ModelRequestWorld :
    World ModelRequestBackend PyException ModelRequestState where
  | nowUtc {state : ModelRequestState} (now : DateTime) :
      ModelRequestWorld state ⟨ModelRequestCall.nowUtc, .ok now⟩ state
  | uuid4 {state : ModelRequestState} (id : String) :
      id ∉ state.issued →
      ModelRequestWorld state ⟨ModelRequestCall.uuid4, .ok id⟩
        { state with issued := id :: state.issued }
  | countOpenForTenant {state : ModelRequestState} (tenant : String) :
      ModelRequestWorld state
        ⟨ModelRequestCall.countOpenForTenant tenant,
          .ok (state.store.countOpenForTenant tenant)⟩ state
  | create {state : ModelRequestState} (item : ModelInstallRequest) :
      ModelRequestWorld state ⟨ModelRequestCall.create item, .ok ()⟩
        { state with store := state.store.create item }
  | listPending {state : ModelRequestState} (limit : Nat) :
      ModelRequestWorld state
        ⟨ModelRequestCall.listPending limit, .ok (state.store.listPending limit)⟩
        state
  | updateStatus {state : ModelRequestState} (requestId : String)
      (status : Status) (errorClass : String) (now : DateTime) :
      ModelRequestWorld state
        ⟨ModelRequestCall.updateStatus requestId status errorClass,
          .ok (state.store.updateStatus requestId status errorClass now).1⟩
        { state with
          store := (state.store.updateStatus requestId status errorClass now).2 }
  | publish {state : ModelRequestState} (event : NotificationEvent)
      (answer : Except PyException Unit) :
      ModelRequestWorld state ⟨ModelRequestCall.publish event, answer⟩ state

namespace ModelRequests

/-- The handlers in flight over the store and the rate limiter. -/
abbrev ControlPlanePool :=
  Pool (Limited ModelRequestBackend) PyException JsonResponse
    (Shared ModelRequestState)

/-- A scheduling decision with the pools around it. -/
abbrev ControlPlaneStep :=
  Transition ControlPlanePool
    (Action (Limited ModelRequestBackend) PyException JsonResponse)

/-- A step of the store and the limiter. -/
abbrev StoreTransition :=
  Transition (Shared ModelRequestState) ModelRequestEvent

/-- The pool before the first request. -/
def ControlPlanePool.start (limiter : RateLimiter) : ControlPlanePool :=
  ⟨⟨limiter, ⟨.empty, []⟩⟩, []⟩

/-- A run of the control plane from the empty store. -/
def ControlPlaneRun (lower : String → String) (config : ModelInstallConfig)
    (limiter : RateLimiter) (transitions : List ControlPlaneStep)
    (target : ControlPlanePool) : Prop :=
  Execution
    (Pool.Step (LimitedWorld ModelRequestWorld) (Startable lower config))
    (ControlPlanePool.start limiter) transitions target

/-- What a step can do to the store: nothing, store a new request, or update
one. -/
inductive StoreStep (transition : StoreTransition) : Prop where
  | unchanged :
      (∀ item, transition.label.call ≠
        .backend (ModelRequestCall.create item)) →
      (∀ requestId status errorClass, transition.label.call ≠
        .backend (ModelRequestCall.updateStatus requestId status errorClass)) →
      transition.target.backend.store = transition.source.backend.store →
      StoreStep transition
  | create (item : ModelInstallRequest) :
      transition.label.call = .backend (ModelRequestCall.create item) →
      item.status = .requested →
      transition.source.backend.store.get? item.id = none →
      transition.target.backend.store =
        transition.source.backend.store.create item →
      StoreStep transition
  | updateStatus (requestId : String) (status : Status) (errorClass : String)
      (now : DateTime) :
      transition.label.call = .backend
        (ModelRequestCall.updateStatus requestId status errorClass) →
      status ≠ .requested →
      transition.target.backend.store =
        (transition.source.backend.store.updateStatus requestId status errorClass
          now).2 →
      StoreStep transition

/-! ## Rows are stored under new ids -/

/-- `uuid4` gives the ids under which rows are created. -/
def rowIds : IdUse (Limited ModelRequestBackend) PyException String where
  given
    | ⟨.backend .uuid4, .ok id⟩ => some id
    | _ => none
  uses
    | .backend (.create item) => [item.id]
    | _ => []

theorem rowIds_unrepeated :
    rowIds.Unrepeated (LimitedWorld ModelRequestWorld)
      fun state => state.backend.issued := by
  constructor
  · intro source event target id answered given
    cases answered with
    | time | tryAcquire | release => cases given
    | backend request answer next answered =>
        cases answered with
        | uuid4 other fresh =>
            cases given
            exact ⟨fresh, List.mem_cons_self⟩
        | nowUtc | countOpenForTenant | create | listPending | updateStatus =>
            cases given
        | publish => cases given
  · intro source event target answered
    cases answered with
    | time | tryAcquire | release => exact List.Subset.refl _
    | backend request answer next answered =>
        cases answered with
        | uuid4 other fresh => exact List.subset_cons_self _ _
        | nowUtc | countOpenForTenant | create | listPending | updateStatus =>
            exact List.Subset.refl _
        | publish => exact List.Subset.refl _

/-- A handler creates its row under the id it was given, and once. -/
theorem own_of_permitted {config : ModelInstallConfig}
    {past : List ModelRequestEvent} {request : (Limited ModelRequestBackend).Call}
    (permitted : Permitted config past request) : rowIds.Own past request := by
  cases request with
  | time | tryAcquire | release => simp [IdUse.Own, rowIds]
  | backend request =>
      cases request with
      | nowUtc | uuid4 | countOpenForTenant | listPending | updateStatus | publish =>
          simp [IdUse.Own, rowIds]
      | create item =>
          rcases permitted with ⟨_, earlier, count, rfl, _, uncreated⟩
          constructor
          · simp [rowIds]
          · intro id used
            cases List.mem_singleton.mp used
            constructor
            · exact ⟨⟨.backend ModelRequestCall.uuid4, .ok item.id⟩, by simp, rfl⟩
            · intro event member used
              rcases List.mem_append.mp member with before | last
              · rcases event with ⟨request, answer⟩
                cases request with
                | time | tryAcquire | release => cases used
                | backend request =>
                    cases request with
                    | create other => exact uncreated _ before ⟨other, rfl⟩
                    | nowUtc | uuid4 | countOpenForTenant | listPending => cases used
                    | updateStatus | publish => cases used
              · simp only [List.mem_cons, List.not_mem_nil, or_false] at last
                rcases last with rfl | rfl | rfl <;> cases used

section Runs

variable {lower : String → String} {config : ModelInstallConfig}
  {limiter : RateLimiter} {transitions : List ControlPlaneStep}
  {target : ControlPlanePool}

/-- The store holds rows under ids that were used to create one. -/
theorem stored_used
    (run : ControlPlaneRun lower config limiter transitions target) :
    ∀ id, target.shared.backend.store.get? id ≠ none → id ∈ rowIds.used transitions := by
  apply Pool.guarded_invariant (fun _ => guarded_of_startable) run
    (fun past state => ∀ id, state.backend.store.get? id ≠ none → id ∈ rowIds.used past)
  · intro id stored
    exact absurd rfl stored
  · intro past source program target stored same id
    rw [same, IdUse.used_append, IdUse.used_spawn, List.append_nil]
    exact stored id
  · intro past source thread event target stored _ answered id present
    rw [IdUse.used_append, IdUse.used_call, List.mem_append]
    rcases target with ⟨shared, threads⟩
    dsimp only at answered present
    cases answered with
    | time | tryAcquire | release => exact Or.inl (stored id present)
    | backend request answer next answered =>
        cases answered with
        | nowUtc | uuid4 | countOpenForTenant | listPending =>
            exact Or.inl (stored id present)
        | publish => exact Or.inl (stored id present)
        | create item =>
            rw [InMemoryModelRequestStore.get?_create] at present
            split at present
            next same => exact Or.inr (List.mem_singleton.mpr same)
            next => exact Or.inl (stored id present)
        | updateStatus requestId status errorClass now =>
            left
            apply stored
            intro missing
            apply present
            cases decEq id requestId with
            | isTrue same =>
                rw [same] at missing ⊢
                rw [InMemoryModelRequestStore.get?_updateStatus_self, missing]
                rfl
            | isFalse different =>
                rw [InMemoryModelRequestStore.get?_updateStatus_of_ne _ _ _ different]
                exact missing

/-- Every step of every run does one of three things to the store. -/
theorem storeSteps_of_run
    (run : ControlPlaneRun lower config limiter transitions target) :
    ∀ transition ∈ Pool.sharedTransitions transitions, StoreStep transition := by
  intro transition member
  rcases Pool.exists_call_of_mem_sharedTransitions member with
    ⟨before, source, thread, after, late, rfl, shared, shared'⟩
  have permitted := Pool.guarded_call (fun _ => guarded_of_startable) run
  have distinct := IdUse.used_nodup rowIds_unrepeated
    (fun program startable =>
      (guarded_of_startable startable).mono fun _ _ => own_of_permitted) run
  rcases run.split with ⟨first, taken, _⟩
  have stored := stored_used first
  rcases transition with ⟨state, event, next⟩
  dsimp only at permitted distinct taken stored shared shared'
  subst shared shared'
  cases taken with
  | call answer issued answered =>
      cases answered with
      | time | tryAcquire | release => exact .unchanged nofun nofun rfl
      | backend request answer next answered =>
          cases answered with
          | nowUtc | uuid4 | countOpenForTenant | listPending =>
              exact .unchanged nofun nofun rfl
          | publish => exact .unchanged nofun nofun rfl
          | updateStatus requestId status errorClass now =>
              exact .updateStatus requestId status errorClass now rfl permitted rfl
          | create item =>
              -- A row under this id would mean that the id was used before.
              have unstored : source.shared.backend.store.get? item.id = none := by
                by_contra present
                have used := stored item.id present
                rw [IdUse.used_append, List.nodup_append] at distinct
                exact distinct.2.2 item.id used item.id List.mem_cons_self rfl
              exact .create item rfl permitted.1 unstored rfl

end Runs

/-! ## Playing a schedule -/

/-- Answer a call given the time the clock shows and the next id. -/
def respondBackend (choice : DateTime × String) (state : ModelRequestState) :
    (request : ModelRequestBackend.Call) →
      Option (Except PyException (ModelRequestBackend.Answer request) ×
        ModelRequestState)
  | .nowUtc => some (.ok choice.1, state)
  | .uuid4 =>
      if choice.2 ∈ state.issued then none
      else some (.ok choice.2, { state with issued := choice.2 :: state.issued })
  | .countOpenForTenant tenant =>
      some (.ok (state.store.countOpenForTenant tenant), state)
  | .create item => some (.ok (), { state with store := state.store.create item })
  | .listPending limit => some (.ok (state.store.listPending limit), state)
  | .updateStatus requestId status errorClass =>
      let outcome :=
        state.store.updateStatus requestId status errorClass choice.1
      some (.ok outcome.1, { state with store := outcome.2 })
  | .publish _ => some (.ok (), state)

theorem respondBackend_sound (choice : DateTime × String)
    (state : ModelRequestState) (request : ModelRequestBackend.Call)
    (answer : Except PyException (ModelRequestBackend.Answer request))
    (next : ModelRequestState)
    (answered : respondBackend choice state request = some (answer, next)) :
    ModelRequestWorld state ⟨request, answer⟩ next := by
  cases request with
  | uuid4 =>
      simp only [respondBackend] at answered
      split at answered
      · cases answered
      next fresh =>
        cases answered
        exact .uuid4 _ fresh
  | nowUtc =>
      cases answered
      exact .nowUtc _
  | countOpenForTenant tenant =>
      cases answered
      exact .countOpenForTenant tenant
  | create item =>
      cases answered
      exact .create item
  | listPending limit =>
      cases answered
      exact .listPending limit
  | updateStatus requestId status errorClass =>
      cases answered
      exact .updateStatus requestId status errorClass _
  | publish event =>
      cases answered
      exact .publish event _

/-- A decision of the scheduler: the clock of the limiter, the time and the next
id decide the answer. -/
abbrev ControlPlaneMove :=
  Pool.Move (Limited ModelRequestBackend) PyException JsonResponse
    (Int × DateTime × String)

/-- Play a schedule from the empty store. -/
def playHandlers (limiter : RateLimiter) (moves : List ControlPlaneMove) :
    List ControlPlaneStep × ControlPlanePool :=
  Pool.play (respond respondBackend) moves (ControlPlanePool.start limiter)

theorem playHandlers_run {lower : String → String} {config : ModelInstallConfig}
    (limiter : RateLimiter) (moves : List ControlPlaneMove)
    (startable : ∀ program, .start program ∈ moves →
      Startable lower config program) :
    ControlPlaneRun lower config limiter (playHandlers limiter moves).1
      (playHandlers limiter moves).2 :=
  Pool.play_execution (respond_sound respondBackend_sound) startable _

end ModelRequests

end PrivateAiWorkspace.ControlPlane
