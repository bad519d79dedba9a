import PrivateAiWorkspace.ControlPlane.ModelRequests.System

/-!
# The cap on open requests

A create handler compares the tenant's open requests with the cap in one step
and stores its row in a later one. The cap bounds the open requests of a tenant
in every run in which no request of the tenant is opened between a handler's
count and its row, and no status post sets a finished request of the tenant back
to `installing`.
-/

namespace PrivateAiWorkspace.ControlPlane.ModelRequests

open Effects Python

/-- Open requests of a tenant. -/
def openCount (tenant : String) (state : Shared ModelRequestState) : Nat :=
  state.backend.store.countOpenForTenant tenant

/-- Tenant for whom the step creates a request. -/
def createdFor (transition : StoreTransition) : Option String :=
  match transition.label.call with
  | .backend (.create item) => some item.tenantId
  | _ => none

/-- Tenant of the finished request that the step sets back to `installing`. -/
def reopenedFor (transition : StoreTransition) : Option String :=
  match transition.label.call with
  | .backend (.updateStatus requestId status _) =>
      if status = .installing then
        ((transition.source.backend.store.get? requestId).filter
          fun request => !request.status.isOpen).map ModelInstallRequest.tenantId
      else none
  | _ => none

/-- The step opens a request of the tenant. -/
abbrev Opens (tenant : String) (transition : StoreTransition) : Prop :=
  createdFor transition = some tenant ∨ reopenedFor transition = some tenant

/-- The handler that counts the open requests of the tenant in a step. -/
def counter (tenant : String) (step : ControlPlaneStep) : Option Nat :=
  match step.label with
  | .call thread ⟨.backend (.countOpenForTenant counted), _⟩ =>
      if counted = tenant then some thread else none
  | _ => none

/-- The handler that creates a row of the tenant in a step. -/
def creator (tenant : String) (step : ControlPlaneStep) : Option Nat :=
  match step.label with
  | .call thread ⟨.backend (.create item), _⟩ =>
      if item.tenantId = tenant then some thread else none
  | _ => none

/-- No step opens a request of the tenant between a handler's count of the
tenant's requests and the row it creates for the tenant. -/
def Serial (tenant : String) (transitions : List ControlPlaneStep) : Prop :=
  ∀ early counted middle stored late thread,
    transitions = early ++ counted :: (middle ++ stored :: late) →
    counter tenant counted = some thread → creator tenant stored = some thread →
    ∀ transition ∈ Pool.sharedTransitions middle, ¬ Opens tenant transition

section Runs

variable {lower : String → String} {config : ModelInstallConfig}
  {limiter : RateLimiter} {transitions : List ControlPlaneStep}
  {target : ControlPlanePool}

theorem createdFor_create {transition : StoreTransition} {item : ModelInstallRequest}
    (issued : transition.label.call = .backend (ModelRequestCall.create item)) :
    createdFor transition = some item.tenantId := by
  rw [createdFor, issued]

theorem createdFor_of_ne {transition : StoreTransition}
    (noCreate : ∀ item,
      transition.label.call ≠ .backend (ModelRequestCall.create item)) :
    createdFor transition = none := by
  rw [createdFor]
  split
  next item issued => exact absurd issued (noCreate item)
  next => rfl

theorem reopenedFor_updateStatus {transition : StoreTransition} {requestId : String}
    {status : Status} {errorClass : String}
    (issued : transition.label.call = .backend
      (ModelRequestCall.updateStatus requestId status errorClass)) :
    reopenedFor transition =
      if status = .installing then
        ((transition.source.backend.store.get? requestId).filter
          fun request => !request.status.isOpen).map ModelInstallRequest.tenantId
      else none := by
  rw [reopenedFor, issued]

theorem reopenedFor_of_ne {transition : StoreTransition}
    (noUpdate : ∀ requestId status errorClass, transition.label.call ≠
      .backend (ModelRequestCall.updateStatus requestId status errorClass)) :
    reopenedFor transition = none := by
  rw [reopenedFor]
  split
  next requestId status errorClass issued =>
    exact absurd issued (noUpdate requestId status errorClass)
  next => rfl

/-- Opening a request adds one to the count, and no other step raises it. -/
theorem openCount_step {transition : StoreTransition}
    (step : StoreStep transition) (tenant : String) :
    (Opens tenant transition ∧
      openCount tenant transition.target =
        openCount tenant transition.source + 1) ∨
    (¬ Opens tenant transition ∧
      openCount tenant transition.target ≤
        openCount tenant transition.source) := by
  cases step with
  | unchanged noCreate noUpdate same =>
      right
      rw [Opens, createdFor_of_ne noCreate, reopenedFor_of_ne noUpdate, openCount,
        same, openCount]
      simp
  | create item issued requested unstored stored =>
      have counted := InMemoryModelRequestStore.countOpenForTenant_create
        unstored tenant
      have noUpdate : reopenedFor transition = none :=
        reopenedFor_of_ne fun _ _ _ => by
          rw [issued]
          nofun
      rw [Opens, createdFor_create issued, noUpdate, openCount, stored, counted,
        openCount]
      cases decEq item.tenantId tenant with
      | isTrue owner =>
          left
          simp [ModelInstallRequest.isOpenFor, owner, requested, Status.isOpen]
      | isFalse other =>
          right
          simp [ModelInstallRequest.isOpenFor, other]
  | updateStatus requestId status errorClass now issued settable stored =>
      have noCreate : createdFor transition = none :=
        createdFor_of_ne fun _ => by
          rw [issued]
          nofun
      rw [Opens, noCreate, reopenedFor_updateStatus issued, openCount, stored,
        openCount]
      cases found : transition.source.backend.store.get? requestId with
      | none =>
          rw [InMemoryModelRequestStore.updateStatus_missing found]
          simp
      | some request =>
          have counted :=
            InMemoryModelRequestStore.countOpenForTenant_updateStatus
              found status errorClass now tenant
          cases status with
          | requested => exact absurd rfl settable
          | applied | failed =>
              right
              simp only [Status.isOpen_applied, Status.isOpen_failed,
                Bool.false_eq_true, and_false, if_false] at counted
              simp only [reduceCtorEq, if_false, or_self, not_false_eq_true, true_and]
              omega
          | installing =>
              simp only [Status.isOpen_installing, and_true] at counted
              cases decEq request.tenantId tenant with
              | isFalse other =>
                  right
                  simp only [ModelInstallRequest.isOpenFor, other, decide_false,
                    Bool.false_and, Bool.false_eq_true, if_false] at counted
                  constructor
                  · simp [Option.filter, other]
                  · omega
              | isTrue owner =>
                  cases wasOpen : request.status.isOpen with
                  | false =>
                      left
                      simp only [ModelInstallRequest.isOpenFor, owner, wasOpen,
                        Bool.and_false, Bool.false_eq_true, if_false, if_true]
                        at counted
                      constructor
                      · simp [Option.filter, owner, wasOpen]
                      · omega
                  | true =>
                      right
                      simp only [ModelInstallRequest.isOpenFor, owner, wasOpen,
                        decide_true, Bool.and_self, if_true] at counted
                      constructor
                      · simp [Option.filter, wasOpen]
                      · omega

/-- The answer to a count is the number of open requests, and counting changes
nothing. -/
theorem counted_eq {source after : ControlPlanePool} {thread : Nat}
    {tenant : String} {count : Nat}
    (counted : Pool.Step (LimitedWorld ModelRequestWorld)
      (Startable lower config) source
      (.call thread
        ⟨.backend (ModelRequestCall.countOpenForTenant tenant), .ok count⟩)
      after) :
    count = openCount tenant source.shared ∧ after.shared = source.shared := by
  cases counted with
  | call answer issued answered =>
      cases answered with
      | backend request answer next answered =>
          cases answered with
          | countOpenForTenant tenant => exact ⟨rfl, rfl⟩

/-- In a serial run a handler that creates a row has room for it. -/
theorem room_of_serial {before late : List ControlPlaneStep}
    {stored : ControlPlaneStep} {thread : Nat} {item : ModelInstallRequest}
    {done : Except PyException Unit}
    (run : ControlPlaneRun lower config limiter (before ++ stored :: late)
      target)
    (serial : Serial item.tenantId (before ++ stored :: late))
    (creates : stored.label = .call thread
      ⟨.backend (ModelRequestCall.create item), done⟩) :
    (openCount item.tenantId stored.source.shared : Int) <
      config.modelInstallMaxOpenPerTenant := by
  rcases stored with ⟨source, act, after⟩
  dsimp only at creates ⊢
  have steps := storeSteps_of_run run
  rw [creates] at run serial steps
  rcases Pool.guarded_call (fun _ => guarded_of_startable) run with
    ⟨_, earlier, count, events, below, _⟩
  rcases Pool.exists_step_of_threadEvents events with
    ⟨early, countSource, countTarget, middle, located⟩
  rw [located, List.append_assoc, List.cons_append] at run serial steps
  rcases run.split with ⟨_, counted, rest⟩
  rcases counted_eq counted with ⟨answer, same⟩
  -- Nothing opened a request since the count, so it can only have fallen.
  have quiet : openCount item.tenantId source.shared ≤ count := by
    apply (Pool.shared_execution rest.split.1).invariant_target
      (fun state => openCount item.tenantId state ≤ count)
    · rw [answer, same]
    · intro transition member _ within
      have closed := serial early _ middle _ late thread rfl (if_pos rfl)
        (if_pos rfl) transition member
      have step := steps transition (by simp [member])
      rcases openCount_step step item.tenantId with ⟨opens, _⟩ | ⟨_, counted⟩
      · exact absurd opens closed
      · exact Nat.le_trans counted within
  omega

/-- A run in which the creations for a tenant are serial and no finished request
of the tenant is set back to `installing` keeps the tenant within the cap. -/
theorem openCount_le_cap_of_serial
    (run : ControlPlaneRun lower config limiter transitions target)
    (nonneg : 0 ≤ config.modelInstallMaxOpenPerTenant) {tenant : String}
    (serial : Serial tenant transitions)
    (noReopening : ∀ transition ∈ Pool.sharedTransitions transitions,
      reopenedFor transition ≠ some tenant) :
    ∀ pool ∈ Execution.states (ControlPlanePool.start limiter) transitions,
      (openCount tenant pool.shared : Int) ≤
        config.modelInstallMaxOpenPerTenant := by
  apply Pool.shared_invariant run
    (fun state => (openCount tenant state : Int) ≤
      config.modelInstallMaxOpenPerTenant) nonneg
  intro transition member _ within
  rcases openCount_step (storeSteps_of_run run transition member) tenant with
    ⟨creates | reopens, counted⟩ | ⟨_, counted⟩
  · rcases Pool.exists_call_of_mem_sharedTransitions member with
      ⟨before, source, thread, after, late, located, shared, _⟩
    rcases transition with ⟨state, ⟨request, done⟩, next⟩
    dsimp only at creates counted shared located ⊢
    cases request with
    | time | tryAcquire | release => cases creates
    | backend request =>
        cases request with
        | create item =>
            cases creates
            rw [located] at run serial
            have room := room_of_serial run serial rfl
            dsimp only at room
            rw [shared] at room
            omega
        | nowUtc | uuid4 | countOpenForTenant | listPending => cases creates
        | updateStatus | publish => cases creates
  · exact absurd reopens (noReopening transition member)
  · omega

end Runs

/-! ## Two creations, one after the other and at once -/

/-- A step of some handler opens a request of the tenant. -/
def opensIn (tenant : String) (step : ControlPlaneStep) : Bool :=
  (Pool.sharedTransition step).any fun transition => decide (Opens tenant transition)

/-- Once a step has opened a request of the tenant, the handler creates no row for
the tenant. -/
def quietUntilCreated (tenant : String) (thread : Nat) : List ControlPlaneStep → Bool
  | [] => true
  | step :: rest =>
      if opensIn tenant step then
        rest.all fun later => creator tenant later != some thread
      else quietUntilCreated tenant thread rest

/-- `quietUntilCreated` behind each count of the tenant's requests. -/
def isSerial (tenant : String) : List ControlPlaneStep → Bool
  | [] => true
  | step :: rest =>
      (counter tenant step).all (fun thread => quietUntilCreated tenant thread rest) &&
        isSerial tenant rest

theorem quiet_of_quietUntilCreated {tenant : String} {thread : Nat}
    {middle late : List ControlPlaneStep} {stored : ControlPlaneStep}
    (quiet : quietUntilCreated tenant thread (middle ++ stored :: late) = true)
    (creates : creator tenant stored = some thread) :
    ∀ transition ∈ Pool.sharedTransitions middle, ¬ Opens tenant transition := by
  induction middle with
  | nil => simp [Pool.sharedTransitions]
  | cons step middle ih =>
      rw [List.cons_append, quietUntilCreated] at quiet
      split at quiet
      next =>
        have silent := List.all_eq_true.mp quiet stored (by simp)
        simp [creates] at silent
      next closed =>
        intro transition member
        rw [Pool.sharedTransitions, List.filterMap_cons] at member
        rw [opensIn] at closed
        cases projected : Pool.sharedTransition step with
        | none =>
            rw [projected] at member
            exact ih quiet transition member
        | some taken =>
            rw [projected] at member closed
            rcases List.mem_cons.mp member with rfl | member
            · simpa using closed
            · exact ih quiet transition member

theorem serial_of_isSerial {tenant : String} {transitions : List ControlPlaneStep}
    (serial : isSerial tenant transitions = true) : Serial tenant transitions := by
  induction transitions with
  | nil =>
      intro early counted middle stored late thread split
      simp at split
  | cons step rest ih =>
      rw [isSerial, Bool.and_eq_true] at serial
      intro early counted middle stored late thread split counts creates
      cases early with
      | nil =>
          cases split
          rw [counts] at serial
          exact quiet_of_quietUntilCreated serial.1 creates
      | cons first early =>
          cases split
          exact ih serial.2 early counted middle stored late thread rfl counts creates

/-- Self-serve install open to everybody, one open request for each tenant. -/
def oneOpenRequest : ModelInstallConfig where
  modelInstallEnabled := true
  modelInstallAllowlist := some "*"
  modelInstallMaxOpenPerTenant := 1
  modelInstallGroup := none
  modelInstallAllowAllUsers := true
  modelInstallerToken := some "s3cret"
  adminGroup := none

/-- A user of `acme.com` asks for a model. -/
def askForModel : Handler ModelRequestBackend JsonResponse :=
  buildModelRequestCreateResponse Str.asciiLower (some "Bearer t1")
    (.ok (.obj [("hf_repo_id", .str "Qwen/Qwen2.5")]))
    (some fun _ => .ok ⟨"ana", "ana@acme.com", []⟩) oneOpenRequest false false

/-- A moment in time. -/
def noon : DateTime := .fullHour 12

/-- Both handlers count before either has stored its row. -/
def twoCreations : List ControlPlaneMove :=
  [.start askForModel, .start askForModel,
    .call 0 (0, noon, ""), .call 1 (0, noon, ""),
    .call 0 (0, noon, ""), .call 0 (0, noon, "r1"), .call 0 (0, noon, ""),
    .call 1 (0, noon, ""), .call 1 (0, noon, "r2"), .call 1 (0, noon, "")]

theorem startable_askForModel {moves : List ControlPlaneMove}
    (only : ∀ program, .start program ∈ moves → program = askForModel) :
    ∀ program, .start program ∈ moves →
      Startable Str.asciiLower oneOpenRequest program := by
  intro program member
  rw [only program member]
  exact .create _ _ _ _ _

/-- The reconciler posts a status for the request `r1`. -/
def postStatus (status : Status) : Handler ModelRequestBackend JsonResponse :=
  buildReconcilerStatusResponse Str.asciiLower (some "Bearer s3cret") "r1"
    (.ok (.obj [("status", .str status.text), ("error_class", .str "")]))
    oneOpenRequest false

/-- A request is created, a second one refused, the first installed and applied, and
a third one created. -/
def oneAfterTheOther : List ControlPlaneMove :=
  [.start askForModel, .start askForModel, .start (postStatus .installing),
    .start (postStatus .applied), .start askForModel,
    .call 0 (0, noon, ""), .call 0 (0, noon, ""), .call 0 (0, noon, "r1"),
    .call 0 (0, noon, ""), .call 1 (0, noon, ""), .call 2 (0, noon, ""),
    .call 3 (0, noon, ""), .call 4 (0, noon, ""), .call 4 (0, noon, ""),
    .call 4 (0, noon, "r2"), .call 4 (0, noon, "")]

theorem startable_oneAfterTheOther :
    ∀ program, .start program ∈ oneAfterTheOther →
      Startable Str.asciiLower oneOpenRequest program := by
  intro program member
  simp only [oneAfterTheOther, List.mem_cons, Pool.Move.start.injEq, reduceCtorEq,
    List.not_mem_nil, or_false] at member
  rcases member with rfl | rfl | rfl | rfl | rfl
  · exact .create _ _ _ _ _
  · exact .create _ _ _ _ _
  · exact .status _ _ _ _
  · exact .status _ _ _ _
  · exact .create _ _ _ _ _

/-- The third request is stored when the first one is finished, and the cap of one
is kept throughout. -/
theorem openCount_le_cap_of_serial_oneAfterTheOther :
    openCount "acme.com" (playHandlers (.init 10 4) oneAfterTheOther).2.shared = 1 ∧
      ∀ pool ∈ Execution.states (ControlPlanePool.start (.init 10 4))
          (playHandlers (.init 10 4) oneAfterTheOther).1,
        (openCount "acme.com" pool.shared : Int) ≤
          oneOpenRequest.modelInstallMaxOpenPerTenant :=
  ⟨by decide +kernel,
    openCount_le_cap_of_serial
      (playHandlers_run (.init 10 4) oneAfterTheOther startable_oneAfterTheOther)
      (by decide) (serial_of_isSerial (by decide +kernel)) (by decide +kernel)⟩

/-- Two creations whose counts come first leave two open requests where one is
allowed. -/
theorem twoCreations_exceed :
    ¬ ∀ (transitions : List ControlPlaneStep) (target : ControlPlanePool),
      ControlPlaneRun Str.asciiLower oneOpenRequest (.init 10 4) transitions
        target →
      ∀ tenant,
        ∀ pool ∈ Execution.states (ControlPlanePool.start (.init 10 4))
            transitions,
          (openCount tenant pool.shared : Int) ≤
            oneOpenRequest.modelInstallMaxOpenPerTenant := by
  intro bounded
  have run := playHandlers_run (.init 10 4) twoCreations
    (startable_askForModel (by simp [twoCreations]))
  have within := bounded _ _ run "acme.com" _ run.end_mem_states
  have counted : openCount "acme.com"
      (playHandlers (.init 10 4) twoCreations).2.shared = 2 := by decide +kernel
  rw [counted] at within
  exact absurd within (by decide)

end PrivateAiWorkspace.ControlPlane.ModelRequests
