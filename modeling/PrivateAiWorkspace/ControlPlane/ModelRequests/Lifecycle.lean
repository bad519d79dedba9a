import PrivateAiWorkspace.ControlPlane.ModelRequests.OpenCap

/-!
# The statuses of a request over time

The reconciler may set any status except `requested`, whatever the status of the
request is. The statuses a request passes through are therefore a path of
`Posted`, which has every edge between `installing`, `applied` and `failed`,
rather than of `Documented`, in which `applied` and `failed` are final.
-/

namespace PrivateAiWorkspace.ControlPlane.ModelRequests

open Effects Python

variable {lower : String → String} {config : ModelInstallConfig}
  {limiter : RateLimiter} {transitions : List ControlPlaneStep}
  {target : ControlPlanePool}

/-- Status the store holds for an id; `none` before it is created. -/
def statusOf (requestId : String) (state : Shared ModelRequestState) :
    Option Status :=
  state.backend.store.statusOf requestId

/-- The distinct statuses of a request over a run, in order. -/
def statusHistory (requestId : String) (limiter : RateLimiter)
    (transitions : List ControlPlaneStep) : List (Option Status) :=
  Execution.observed (statusOf requestId)
    (ControlPlanePool.start limiter).shared (Pool.sharedTransitions transitions)

/-- The documented life of a request: requested, installing, then applied or
failed. -/
def Documented : Option Status → Option Status → Prop
  | none, some .requested => True
  | some .requested, some .installing => True
  | some .requested, some .failed => True
  | some .installing, some .applied => True
  | some .installing, some .failed => True
  | _, _ => False

/-- The life the code gives a request: it starts as requested, and any status
but that one can follow any other. -/
def Posted : Option Status → Option Status → Prop
  | none, some status => status = .requested
  | some _, some status => status ≠ .requested
  | _, none => False

/-- A step gives the request a status by posting it. -/
def Posts (requestId : String) (status : Status)
    (transition : StoreTransition) : Prop :=
  ∃ errorClass, transition.label.call =
    .backend (ModelRequestCall.updateStatus requestId status errorClass)

/-- What a step does to the status of a request: nothing, create it as
requested, or replace it by a posted status. -/
theorem statusOf_step {transition : StoreTransition}
    (step : StoreStep transition) (requestId : String) :
    statusOf requestId transition.target = statusOf requestId transition.source ∨
    (statusOf requestId transition.source = none ∧
      statusOf requestId transition.target = some .requested) ∨
    (∃ old status, statusOf requestId transition.source = some old ∧
      statusOf requestId transition.target = some status ∧
      status ≠ .requested ∧ Posts requestId status transition) := by
  cases step with
  | unchanged noCreate noUpdate same =>
      left
      rw [statusOf, same]
      rfl
  | create item issued requested unstored stored =>
      simp only [statusOf, InMemoryModelRequestStore.statusOf, stored,
        InMemoryModelRequestStore.get?_create]
      split
      next same =>
        right
        left
        rw [same, unstored]
        exact ⟨rfl, congrArg some requested⟩
      next => exact Or.inl rfl
  | updateStatus other status errorClass now issued settable stored =>
      rw [statusOf, stored]
      cases decEq requestId other with
      | isFalse different =>
          left
          rw [InMemoryModelRequestStore.statusOf,
            InMemoryModelRequestStore.get?_updateStatus_of_ne _ _ _ different]
          rfl
      | isTrue same =>
          rw [same, InMemoryModelRequestStore.statusOf_updateStatus_self]
          cases held : transition.source.backend.store.statusOf other with
          | none =>
              left
              exact held.symm
          | some old =>
              right
              right
              exact ⟨old, status, held, rfl, settable, errorClass, issued⟩

/-- A change of status is an edge of `Posted`. -/
theorem posted_step {transition : StoreTransition}
    (step : StoreStep transition) (requestId : String) :
    statusOf requestId transition.source =
        statusOf requestId transition.target ∨
      Posted (statusOf requestId transition.source)
        (statusOf requestId transition.target) := by
  rcases statusOf_step step requestId with same | created | posted
  · exact Or.inl same.symm
  · right
    rw [created.1, created.2]
    rfl
  · rcases posted with ⟨old, status, before, after, settable, _⟩
    right
    rw [before, after]
    exact settable

/-- In every run of the control plane the statuses of a request are a path of
`Posted`, and every change after the first is made by a post that carries the new
status. -/
theorem statusHistory_isChain_posted
    (run : ControlPlaneRun lower config limiter transitions target)
    (requestId : String) :
    (statusHistory requestId limiter transitions).IsChain Posted ∧
      ∀ transition ∈ Pool.sharedTransitions transitions,
        statusOf requestId transition.source ≠ none →
        statusOf requestId transition.target ≠
          statusOf requestId transition.source →
        ∃ status, statusOf requestId transition.target = some status ∧
          Posts requestId status transition := by
  constructor
  · apply (Pool.shared_execution run).observed_isChain
    intro transition member
    exact posted_step (storeSteps_of_run run transition member) requestId
  · intro transition member stored changed
    rcases statusOf_step (storeSteps_of_run run transition member) requestId with
      same | created | posted
    · exact absurd same changed
    · exact absurd created.1 stored
    · rcases posted with ⟨_, status, _, after, _, posts⟩
      exact ⟨status, after, posts⟩

/-! ## A late post -/

/-- A request is installed; afterwards `installing` is delivered once more. -/
def lateInstalling : List ControlPlaneMove :=
  [.start askForModel, .call 0 (0, noon, ""), .call 0 (0, noon, ""),
    .call 0 (0, noon, "r1"), .call 0 (0, noon, ""),
    .start (postStatus .installing), .call 1 (0, noon, ""),
    .start (postStatus .applied), .call 2 (0, noon, ""),
    .start (postStatus .installing), .call 3 (0, noon, "")]

theorem startable_lateInstalling :
    ∀ program, .start program ∈ lateInstalling →
      Startable Str.asciiLower oneOpenRequest program := by
  intro program member
  simp only [lateInstalling, List.mem_cons, Pool.Move.start.injEq,
    reduceCtorEq, List.not_mem_nil, or_false, false_or] at member
  rcases member with rfl | rfl | rfl | rfl
  · exact .create _ _ _ _ _
  · exact .status _ _ _ _
  · exact .status _ _ _ _
  · exact .status _ _ _ _

theorem statusHistory_lateInstalling :
    statusHistory "r1" (.init 10 4)
        (playHandlers (.init 10 4) lateInstalling).1 =
      [none, some .requested, some .installing, some .applied,
        some .installing] := by
  decide

/-- A late post takes an installed request out of its final status. -/
theorem lateInstalling_leaves_documented :
    ¬ ∀ (transitions : List ControlPlaneStep) (target : ControlPlanePool),
      ControlPlaneRun Str.asciiLower oneOpenRequest (.init 10 4) transitions
        target →
      ∀ requestId,
        (statusHistory requestId (.init 10 4) transitions).IsChain
          Documented := by
  intro documented
  have chain := documented _ _
    (playHandlers_run (.init 10 4) lateInstalling startable_lateInstalling) "r1"
  rw [statusHistory_lateInstalling] at chain
  simp [Documented] at chain

theorem statusHistory_isChain_posted_lateInstalling :
    (statusHistory "r1" (.init 10 4)
        (playHandlers (.init 10 4) lateInstalling).1).IsChain Posted :=
  (statusHistory_isChain_posted
    (playHandlers_run (.init 10 4) lateInstalling startable_lateInstalling)
    "r1").1

end PrivateAiWorkspace.ControlPlane.ModelRequests
