import PrivateAiWorkspace.Effects.Program
import PrivateAiWorkspace.ControlPlane.ModelRequests.Store

/-!
# The reconciler of the model installer

`Reconciler.run_once` from `reconciler.py`, as a program over its three
clients. `Tick` lists once and for all what a complete run of it can look like;
`tick_of_run` is the inversion lemma from which every fact about ticks follows.
-/

namespace PrivateAiWorkspace.ModelInstaller

open Effects Python
open ControlPlane (Status)

/-- `InstallerConfig`. -/
structure InstallerConfig where
  nodegroup : String
  cluster : String
  vllmNamespace : String
  vllmDeployment : String
  vllmConfigmap : String
  allowlist : List String
  readyTimeoutS : PyFloat
  enabled : Bool

/-- An installer of the models of one organisation. -/
def qwenInstaller : InstallerConfig where
  nodegroup := "gpu"
  cluster := "workspace"
  vllmNamespace := "inference"
  vllmDeployment := "vllm-inference"
  vllmConfigmap := "vllm-model"
  allowlist := ["Qwen"]
  readyTimeoutS := .finite 900
  enabled := true

/-- Calls of the reconciler to the control plane, EKS and Kubernetes clients. -/
inductive InstallerCall where
  | listPending
  | setStatus (requestId : Json) (status : Status) (errorClass : String)
  | scaleNodegroup (cluster nodegroup : String) (desired : Nat)
  | getModel (vllmNamespace configmap : String)
  | setModel (vllmNamespace configmap deployment repoId : String)
  | waitReady (vllmNamespace deployment : String) (timeoutS : PyFloat)

/-- The calls with their answers. What `list_pending` returns is whatever the
control plane sent. -/
def Installer : Interface where
  Call := InstallerCall
  Answer
    | .listPending => Json
    | .setStatus _ _ _ => Unit
    | .scaleNodegroup _ _ _ => Unit
    | .getModel _ _ => String
    | .setModel _ _ _ _ => Unit
    | .waitReady _ _ _ => Bool

/-- A client call with its answer. -/
abbrev InstallerEvent := Event Installer PyException

/-- `ERR_NOT_ALLOWED`. -/
def errNotAllowed : String := "repo_not_allowed"

/-- `ERR_INVALID`. -/
def errInvalid : String := "repo_invalid"

/-- `ERR_SCALE`. -/
def errScale : String := "gpu_provision_failed"

/-- `ERR_APPLY`. -/
def errApply : String := "vllm_apply_failed"

/-- `ERR_TIMEOUT`. -/
def errTimeout : String := "load_timeout"

/-- `ERR_UNKNOWN`. -/
def errUnknown : String := "install_failed"

/-- `is_repo_allowed`. -/
def isRepoAllowed (allowlist : List String) (repoId : String) : Bool :=
  repoAllowed allowlist repoId

namespace Reconciler

/-! ## The program -/

/-- `self.cp.list_pending()`. -/
def listPending : Program Installer PyException Json :=
  .call InstallerCall.listPending Program.ofExcept

/-- `self.cp.set_status(rid, status, error_class=errorClass)`. -/
def setStatus (rid : Json) (status : Status) (errorClass : String) :
    Program Installer PyException Unit :=
  .call (InstallerCall.setStatus rid status errorClass) Program.ofExcept

section Config

variable (cfg : InstallerConfig)

/-- `self.eks.scale_nodegroup(cluster, nodegroup, desired=1)`. -/
def scaleNodegroup : Program Installer PyException Unit :=
  .call (InstallerCall.scaleNodegroup cfg.cluster cfg.nodegroup 1)
    Program.ofExcept

/-- `self.k8s.get_model(vllm_namespace, vllm_configmap)`. -/
def getModel : Program Installer PyException String :=
  .call (InstallerCall.getModel cfg.vllmNamespace cfg.vllmConfigmap)
    Program.ofExcept

/-- `self.k8s.set_model(vllm_namespace, vllm_configmap, vllm_deployment, repo)`. -/
def setModel (repo : String) : Program Installer PyException Unit :=
  .call (InstallerCall.setModel cfg.vllmNamespace cfg.vllmConfigmap
    cfg.vllmDeployment repo) Program.ofExcept

/-- `self.k8s.wait_ready(vllm_namespace, vllm_deployment, timeout_s=...)`. -/
def waitReady : Program Installer PyException Bool :=
  .call (InstallerCall.waitReady cfg.vllmNamespace cfg.vllmDeployment
    cfg.readyTimeoutS) Program.ofExcept

/-- `_rollback`: best effort, an error is logged and never raised. -/
def rollback (previous attempted : String) :
    Program Installer PyException Unit :=
  if previous = "" ∨ previous = attempted then return
  else do
    let _ ← (setModel cfg previous).attempt
    return

/-- The part of `run_once` from the write of the model on. -/
def applyModel (rid : Json) (repo previous : String) :
    Program Installer PyException Bool := do
  match ← (setModel cfg repo).attempt with
  | .error _ =>
      setStatus rid .failed errApply
      return true
  | .ok _ =>
      match ← (waitReady cfg).attempt with
      | .error _ =>
          rollback cfg previous repo
          setStatus rid .failed errUnknown
          return true
      | .ok ready =>
          if !ready then
            rollback cfg previous repo
            setStatus rid .failed errTimeout
            return true
          else
            setStatus rid .applied ""
            return true

/-- The part of `run_once` after both checks of the repository. -/
def install (rid : Json) (repo : String) :
    Program Installer PyException Bool := do
  setStatus rid .installing ""
  match ← (scaleNodegroup cfg).attempt with
  | .error _ =>
      setStatus rid .failed errScale
      return true
  | .ok _ =>
      let previous ← (getModel cfg).tryCatch fun _ => return ""
      applyModel cfg rid repo previous

/-- `rid, repo = req["id"], req["hf_repo_id"]` with `req = pending[0]`. -/
def headRequest (pending : Json) : Except PyException (Json × Json) := do
  let req ← Json.getFirst pending
  let rid ← Json.getItem "id" req
  let repo ← Json.getItem "hf_repo_id" req
  return (rid, repo)

/-- The part of `run_once` after the head of the queue is taken: both checks of
the repository, then the installation. -/
def process (rid : Json) : Json → Program Installer PyException Bool
  | .str repo => do
      if !matchesRepo repo then
        setStatus rid .failed errInvalid
        return true
      else if !isRepoAllowed cfg.allowlist repo then
        setStatus rid .failed errNotAllowed
        return true
      else
        install cfg rid repo
  | _ => do
      setStatus rid .failed errInvalid
      return true

/-- `Reconciler.run_once`: process at most one pending request. -/
def runOnce : Program Installer PyException Bool := do
  if !cfg.enabled then return false
  else
    let pending ← listPending
    if !pending.truthy then return false
    else
      let request ← Program.ofExcept (headRequest pending)
      process cfg request.1 request.2

end Config

/-! ## Events of a tick -/

/-- The pending requests were read. -/
def listed (pending : Json) : InstallerEvent :=
  ⟨InstallerCall.listPending, .ok pending⟩

/-- A status was sent. -/
def sent (rid : Json) (status : Status) (errorClass : String)
    (answer : Except PyException Unit) : InstallerEvent :=
  ⟨InstallerCall.setStatus rid status errorClass, answer⟩

section Config

variable (cfg : InstallerConfig)

/-- The node group was scaled. -/
def scaled (answer : Except PyException Unit) : InstallerEvent :=
  ⟨InstallerCall.scaleNodegroup cfg.cluster cfg.nodegroup 1, answer⟩

/-- The served model was read. -/
def read (answer : Except PyException String) : InstallerEvent :=
  ⟨InstallerCall.getModel cfg.vllmNamespace cfg.vllmConfigmap, answer⟩

/-- A model was written. -/
def wrote (repo : String) (answer : Except PyException Unit) :
    InstallerEvent :=
  ⟨InstallerCall.setModel cfg.vllmNamespace cfg.vllmConfigmap
    cfg.vllmDeployment repo, answer⟩

/-- The readiness of the deployment was awaited. -/
def waited (answer : Except PyException Bool) : InstallerEvent :=
  ⟨InstallerCall.waitReady cfg.vllmNamespace cfg.vllmDeployment
    cfg.readyTimeoutS, answer⟩

/-- The repository passes both checks of the reconciler. -/
def Installable (repo : String) : Prop :=
  matchesRepo repo = true ∧ isRepoAllowed cfg.allowlist repo = true

/-- The error class of a repository that fails a check. -/
inductive Denied : Json → String → Prop where
  | invalid (repo : Json) :
      (∀ text, repo = .str text → matchesRepo text = false) →
      Denied repo errInvalid
  | notAllowed (repo : String) :
      matchesRepo repo = true → isRepoAllowed cfg.allowlist repo = false →
      Denied (.str repo) errNotAllowed

/-- The model to go back to: nothing when it could not be read. -/
def previousModel : Except PyException String → String
  | .ok previous => previous
  | .error _ => ""

/-- Writes of a rollback. -/
inductive RolledBack (previous attempted : String) :
    List InstallerEvent → Prop where
  | nothing : previous = "" ∨ previous = attempted →
      RolledBack previous attempted []
  | written (answer : Except PyException Unit) :
      ¬ (previous = "" ∨ previous = attempted) →
      RolledBack previous attempted [wrote cfg previous answer]

/-- Why the wait ended without the model being ready, with its error class. -/
inductive NotReady : Except PyException Bool → String → Prop where
  | timeout : NotReady (.ok false) errTimeout
  | raised (error : PyException) : NotReady (.error error) errUnknown

/-- The outcome of a tick that ends by sending a status. -/
def finished (answer : Except PyException Unit) : Except PyException Bool :=
  answer.map fun _ => true

/-- Complete runs of the part of `run_once` after the checks. -/
inductive Installation (rid : Json) (repo : String) :
    List InstallerEvent → Except PyException Bool → Prop where
  | markRaised (error : PyException) :
      Installation rid repo [sent rid .installing "" (.error error)]
        (.error error)
  | scaleRaised (error : PyException) (answer : Except PyException Unit) :
      Installation rid repo
        [sent rid .installing "" (.ok ()), scaled cfg (.error error),
          sent rid .failed errScale answer]
        (finished answer)
  | applyRaised (previous : Except PyException String) (error : PyException)
      (answer : Except PyException Unit) :
      Installation rid repo
        [sent rid .installing "" (.ok ()), scaled cfg (.ok ()),
          read cfg previous, wrote cfg repo (.error error),
          sent rid .failed errApply answer]
        (finished answer)
  | notReady (previous : Except PyException String)
      (ready : Except PyException Bool) (errorClass : String)
      (restored : List InstallerEvent) (answer : Except PyException Unit) :
      NotReady ready errorClass →
      RolledBack cfg (previousModel previous) repo restored →
      Installation rid repo
        ([sent rid .installing "" (.ok ()), scaled cfg (.ok ()),
          read cfg previous, wrote cfg repo (.ok ()), waited cfg ready] ++
          restored ++ [sent rid .failed errorClass answer])
        (finished answer)
  | ready (previous : Except PyException String)
      (answer : Except PyException Unit) :
      Installation rid repo
        [sent rid .installing "" (.ok ()), scaled cfg (.ok ()),
          read cfg previous, wrote cfg repo (.ok ()), waited cfg (.ok true),
          sent rid .applied "" answer]
        (finished answer)

/-- Complete runs of `run_once`. -/
inductive Tick : List InstallerEvent → Except PyException Bool → Prop where
  | disabled : cfg.enabled = false → Tick [] (.ok false)
  | pendingRaised (error : PyException) :
      cfg.enabled = true →
      Tick [⟨InstallerCall.listPending, .error error⟩] (.error error)
  | noPending (pending : Json) :
      cfg.enabled = true → pending.truthy = false →
      Tick [listed pending] (.ok false)
  | malformed (pending : Json) (error : PyException) :
      cfg.enabled = true → pending.truthy = true →
      headRequest pending = .error error →
      Tick [listed pending] (.error error)
  | denied (pending rid repo : Json) (errorClass : String)
      (answer : Except PyException Unit) :
      cfg.enabled = true → pending.truthy = true →
      headRequest pending = .ok (rid, repo) → Denied cfg repo errorClass →
      Tick [listed pending, sent rid .failed errorClass answer]
        (finished answer)
  | install (pending rid : Json) (repo : String)
      (events : List InstallerEvent) (result : Except PyException Bool) :
      cfg.enabled = true → pending.truthy = true →
      headRequest pending = .ok (rid, .str repo) → Installable cfg repo →
      Installation cfg rid repo events result →
      Tick (listed pending :: events) result

end Config

/-! ## Inversion -/

section Inversion

variable {cfg : InstallerConfig} {rid : Json} {repo : String}
  {events : List InstallerEvent} {result : Except PyException Bool}

/-- The last call of a tick. -/
theorem finished_of_run {status : Status} {errorClass : String}
    (run : Program.Run ((setStatus rid status errorClass).bind fun _ => .ret true)
      events result) :
    ∃ answer, events = [sent rid status errorClass answer] ∧
      result = finished answer := by
  rcases Program.run_callThen_iff.mp run with
    ⟨error, events_eq, result_eq⟩ | ⟨value, more, events_eq, run⟩
  · exact ⟨.error error, events_eq, result_eq⟩
  · rcases Program.run_ret_iff.mp run with ⟨ended, result_eq⟩
    rw [ended] at events_eq
    exact ⟨.ok (), events_eq, result_eq⟩

/-- A rollback raises nothing. -/
theorem rolledBack_of_run {previous : String}
    {rest : Unit → Program Installer PyException Bool}
    (run : Program.Run ((rollback cfg previous repo).bind rest) events result) :
    ∃ restored more, events = restored ++ more ∧
      RolledBack cfg previous repo restored ∧
      Program.Run (rest ()) more result := by
  simp only [rollback] at run
  split at run
  next nothing => exact ⟨[], events, rfl, .nothing nothing, run⟩
  next written =>
    rcases Program.run_call_iff.mp run with ⟨answer, more, events_eq, run⟩
    refine ⟨[wrote cfg previous answer], more, events_eq,
      .written answer written, ?_⟩
    cases answer with
    | ok value => exact run
    | error error => exact run

/-- Reading the served model raises nothing. -/
theorem read_of_run {rest : String → Program Installer PyException Bool}
    (run : Program.Run
      (((getModel cfg).tryCatch fun _ => .ret "").bind rest) events result) :
    ∃ answer more, events = read cfg answer :: more ∧
      Program.Run (rest (previousModel answer)) more result := by
  rcases Program.run_call_iff.mp run with ⟨answer, more, events_eq, run⟩
  refine ⟨answer, more, events_eq, ?_⟩
  cases answer with
  | ok value => exact run
  | error error => exact run

/-- The end of a tick whose model did not become ready. -/
theorem notReady_of_run {previous : Except PyException String}
    {ready : Except PyException Bool} {errorClass : String}
    (why : NotReady ready errorClass)
    (run : Program.Run
      ((rollback cfg (previousModel previous) repo).bind fun _ =>
        (setStatus rid .failed errorClass).bind fun _ => .ret true)
      events result) :
    Installation cfg rid repo
      ([sent rid .installing "" (.ok ()), scaled cfg (.ok ()),
        read cfg previous, wrote cfg repo (.ok ()), waited cfg ready] ++ events)
      result := by
  rcases rolledBack_of_run run with ⟨restored, more, events_eq, rolled, run⟩
  rcases finished_of_run run with ⟨answer, more_eq, result_eq⟩
  rw [events_eq, more_eq, result_eq, ← List.append_assoc]
  exact .notReady previous ready errorClass restored answer why rolled

theorem installation_of_run
    (run : Program.Run (install cfg rid repo) events result) :
    Installation cfg rid repo events result := by
  rcases Program.run_callThen_iff.mp run with
    ⟨error, events_eq, result_eq⟩ | ⟨marked, more, events_eq, run⟩
  · rw [events_eq, result_eq]
    exact .markRaised error
  rcases Program.run_attemptThen_iff.mp run with ⟨scaling, later, more_eq, run⟩
  rw [more_eq] at events_eq
  cases scaling with
  | error error =>
      rcases finished_of_run run with ⟨answer, later_eq, result_eq⟩
      rw [events_eq, later_eq, result_eq]
      exact .scaleRaised error answer
  | ok _ =>
      rcases read_of_run run with ⟨previous, more, later_eq, run⟩
      rw [later_eq] at events_eq
      rcases Program.run_attemptThen_iff.mp run with
        ⟨applying, later, more_eq, run⟩
      rw [more_eq] at events_eq
      cases applying with
      | error error =>
          rcases finished_of_run run with ⟨answer, later_eq, result_eq⟩
          rw [events_eq, later_eq, result_eq]
          exact .applyRaised previous error answer
      | ok _ =>
          rcases Program.run_attemptThen_iff.mp run with
            ⟨waiting, more, later_eq, run⟩
          rw [later_eq] at events_eq
          rw [events_eq]
          cases waiting with
          | error error => exact notReady_of_run (.raised error) run
          | ok ready =>
              cases ready with
              | false => exact notReady_of_run .timeout run
              | true =>
                  rcases finished_of_run run with ⟨answer, more_eq, result_eq⟩
                  rw [more_eq, result_eq]
                  exact .ready previous answer

theorem denied_of_run {pending repo : Json} {errorClass : String}
    (enabled : cfg.enabled = true) (some : pending.truthy = true)
    (head : headRequest pending = .ok (rid, repo))
    (denied : Denied cfg repo errorClass)
    (run : Program.Run
      ((setStatus rid .failed errorClass).bind fun _ => .ret true)
      events result) :
    Tick cfg (listed pending :: events) result := by
  rcases finished_of_run run with ⟨answer, events_eq, result_eq⟩
  rw [events_eq, result_eq]
  exact .denied pending rid repo errorClass answer enabled some head denied

theorem tick_of_run_process {pending repo : Json}
    (enabled : cfg.enabled = true) (some : pending.truthy = true)
    (head : headRequest pending = .ok (rid, repo))
    (run : Program.Run (process cfg rid repo) events result) :
    Tick cfg (listed pending :: events) result := by
  cases repo with
  | str repo =>
      simp only [process] at run
      split at run
      next unmatched =>
        apply denied_of_run enabled some head (.invalid _ _) run
        intro text equal
        cases equal
        simpa using unmatched
      next matched =>
        split at run
        next unlisted =>
          exact denied_of_run enabled some head
            (.notAllowed repo (by simpa using matched) (by simpa using unlisted))
            run
        next listed =>
          exact .install pending rid repo events result enabled some head
            ⟨by simpa using matched, by simpa using listed⟩
            (installation_of_run run)
  | null | bool | int | float | arr | obj =>
      exact denied_of_run enabled some head (.invalid _ nofun) run

/-- Every complete run of `run_once` is one of those listed. -/
theorem tick_of_run (run : Program.Run (runOnce cfg) events result) :
    Tick cfg events result := by
  simp only [runOnce] at run
  split at run
  next disabled =>
    rcases Program.run_ret_iff.mp run with ⟨events_eq, result_eq⟩
    rw [events_eq, result_eq]
    exact .disabled (by simpa using disabled)
  next notDisabled =>
    have enabled : cfg.enabled = true := by simpa using notDisabled
    rcases Program.run_callThen_iff.mp run with
      ⟨error, events_eq, result_eq⟩ | ⟨pending, more, events_eq, run⟩
    · rw [events_eq, result_eq]
      exact .pendingRaised error enabled
    rw [events_eq]
    split at run
    next empty =>
      rcases Program.run_ret_iff.mp run with ⟨more_eq, result_eq⟩
      rw [more_eq, result_eq]
      exact .noPending pending enabled (by simpa using empty)
    next nonempty =>
      have some : Json.truthy pending = true := by simpa using nonempty
      cases head : headRequest pending with
      | error error =>
          rw [head] at run
          rcases Program.run_raise_iff.mp run with ⟨more_eq, result_eq⟩
          rw [more_eq, result_eq]
          exact .malformed pending error enabled some head
      | ok request =>
          rw [head] at run
          exact tick_of_run_process enabled some head run

end Inversion

end Reconciler

end PrivateAiWorkspace.ModelInstaller
