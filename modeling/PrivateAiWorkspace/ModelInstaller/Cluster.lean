import PrivateAiWorkspace.Effects.Answered
import PrivateAiWorkspace.ModelInstaller.Reconciler

/-!
# A tick over the Kubernetes API

`K8sVllmClient` writes a model with two patches, of the ConfigMap and then of
the Deployment. A tick is evaluated here over the single requests to the API,
each of which may raise, so that a write can fail between its patches.

A failed tick leaves the ConfigMap as it found it exactly when nothing was
written, or the written model was already served, or the write was complete and
the previous model had been read and is not empty: the reconciler does not roll
back a write that failed after its first patch, nor one whose previous model it
could not read or found absent.
-/

namespace PrivateAiWorkspace.ModelInstaller

open Effects Python
open ControlPlane (Status)

/-- Requests of a tick to the control plane, EKS and the Kubernetes API. -/
inductive ClusterCall where
  | listPending
  | setStatus (requestId : Json) (status : Status) (errorClass : String)
  | scaleNodegroup (cluster nodegroup : String) (desired : Nat)
  /-- `read_namespaced_config_map`, of which only `model_id` is used. -/
  | readConfigMap (configmap vllmNamespace : String)
  /-- `patch_namespaced_config_map` with a `model_id`. -/
  | patchConfigMap (configmap vllmNamespace modelId : String)
  /-- `time.strftime` of the present time. -/
  | stamp
  /-- `patch_namespaced_deployment` with a restart annotation. -/
  | patchDeployment (deployment vllmNamespace restartedAt : String)
  | waitReady (vllmNamespace deployment : String) (timeoutS : PyFloat)

/-- The requests with their answers. -/
def Cluster : Interface where
  Call := ClusterCall
  Answer
    | .listPending => Json
    | .setStatus _ _ _ => Unit
    | .scaleNodegroup _ _ _ => Unit
    | .readConfigMap _ _ => Option String
    | .patchConfigMap _ _ _ => Unit
    | .stamp => String
    | .patchDeployment _ _ _ => Unit
    | .waitReady _ _ _ => Bool

namespace K8sVllmClient

/-- `get_model`: the model in the ConfigMap, empty if absent. -/
def getModel (vllmNamespace configmap : String) :
    Program Cluster PyException String :=
  .call (ClusterCall.readConfigMap configmap vllmNamespace) fun answer =>
    (Program.ofExcept answer).bind fun (modelId : Option String) =>
      .ret (modelId.getD "")

/-- `set_model`: patch the ConfigMap, then restart the Deployment. -/
def setModel (vllmNamespace configmap deployment repoId : String) :
    Program Cluster PyException Unit :=
  .call (ClusterCall.patchConfigMap configmap vllmNamespace repoId) fun answer =>
    (Program.ofExcept answer).bind fun (_ : Unit) =>
      .call ClusterCall.stamp fun answer =>
        (Program.ofExcept answer).bind fun (restartedAt : String) =>
          .call (ClusterCall.patchDeployment deployment vllmNamespace
            restartedAt) Program.ofExcept

end K8sVllmClient

/-- The clients of the reconciler over the requests. -/
def clients : (request : Installer.Call) →
    Program Cluster PyException (Installer.Answer request)
  | .listPending => .call ClusterCall.listPending Program.ofExcept
  | .setStatus requestId status errorClass =>
      .call (ClusterCall.setStatus requestId status errorClass)
        Program.ofExcept
  | .scaleNodegroup cluster nodegroup desired =>
      .call (ClusterCall.scaleNodegroup cluster nodegroup desired)
        Program.ofExcept
  | .getModel vllmNamespace configmap =>
      K8sVllmClient.getModel vllmNamespace configmap
  | .setModel vllmNamespace configmap deployment repoId =>
      K8sVllmClient.setModel vllmNamespace configmap deployment repoId
  | .waitReady vllmNamespace deployment timeoutS =>
      .call (ClusterCall.waitReady vllmNamespace deployment timeoutS)
        Program.ofExcept

/-- How each request of a tick ends, when the tick makes it. The requests of a
write are told apart from those of the rollback. -/
structure TickOutcomes where
  pending : Except PyException Json
  mark : Except PyException Unit
  scale : Except PyException Unit
  readConfigMap : Except PyException Unit
  patchConfigMap : Except PyException Unit
  patchDeployment : Except PyException Unit
  waitReady : Except PyException Bool
  rollbackConfigMap : Except PyException Unit
  rollbackDeployment : Except PyException Unit
  report : Except PyException Unit
  now : String

/-- What the model installer writes in the cluster. -/
structure Kubernetes where
  modelId : Option String
  restartedAt : Option String

/-- The cluster during a tick, and whether the tick has waited for the
Deployment, after which its writes are those of the rollback. -/
structure ClusterState where
  kubernetes : Kubernetes
  waited : Bool

namespace TickOutcomes

variable (outcomes : TickOutcomes)

/-- How a ConfigMap patch ends. -/
def configMapPatch (waited : Bool) : Except PyException Unit :=
  if waited then outcomes.rollbackConfigMap else outcomes.patchConfigMap

/-- How a Deployment patch ends. -/
def deploymentPatch (waited : Bool) : Except PyException Unit :=
  if waited then outcomes.rollbackDeployment else outcomes.patchDeployment

/-- Answer a request. A patch that raises has no effect. -/
def respond (state : ClusterState) :
    (request : Cluster.Call) →
      Except PyException (Cluster.Answer request) × ClusterState
  | .listPending => (outcomes.pending, state)
  | .setStatus _ .installing _ => (outcomes.mark, state)
  | .setStatus _ _ _ => (outcomes.report, state)
  | .scaleNodegroup _ _ _ => (outcomes.scale, state)
  | .readConfigMap _ _ =>
      (outcomes.readConfigMap.map fun _ => state.kubernetes.modelId, state)
  | .patchConfigMap _ _ modelId =>
      match outcomes.configMapPatch state.waited with
      | .ok () =>
          (.ok (),
            { state with
              kubernetes := { state.kubernetes with modelId := some modelId } })
      | .error error => (.error error, state)
  | .stamp => (.ok outcomes.now, state)
  | .patchDeployment _ _ restartedAt =>
      match outcomes.deploymentPatch state.waited with
      | .ok () =>
          (.ok (),
            { state with
              kubernetes :=
                { state.kubernetes with restartedAt := some restartedAt } })
      | .error error => (.error error, state)
  | .waitReady _ _ _ => (outcomes.waitReady, { state with waited := true })

end TickOutcomes

namespace Reconciler

section Definitions

variable (cfg : InstallerConfig) (outcomes : TickOutcomes)

/-- Answer a call of the reconciler through its clients. -/
def viaClients (state : ClusterState) (request : Installer.Call) :
    Except PyException (Installer.Answer request) × ClusterState :=
  (clients request).eval outcomes.respond state

/-- The cluster after a tick. -/
def afterTick (before : Kubernetes) : Kubernetes :=
  (((runOnce cfg).interpret clients).eval outcomes.respond
    ⟨before, false⟩).2.kubernetes

/-- The calls of a tick to its clients. -/
def tickEvents (before : Kubernetes) : List InstallerEvent :=
  (runOnce cfg).trace (viaClients outcomes) ⟨before, false⟩

/-- The tick reports its request as failed. -/
def ReportsFailed (events : List InstallerEvent) : Prop :=
  ∃ rid errorClass answer, sent rid .failed errorClass answer ∈ events

/-- The call raises. -/
def Raises (outcome : Except PyException Unit) : Prop :=
  ∃ error, outcome = .error error

/-- The tick, if it installs a repository, writes nothing, or writes what is
there, or completes its write with a model to go back to. -/
def Restorable (before : Kubernetes) : Prop :=
  ∀ pending rid repo, outcomes.pending = .ok pending →
    headRequest pending = .ok (rid, .str repo) → Installable cfg repo →
    Raises outcomes.scale ∨ Raises outcomes.patchConfigMap ∨
      before.modelId = some repo ∨
      (outcomes.patchDeployment = .ok () ∧ outcomes.readConfigMap = .ok () ∧
        ∃ model, before.modelId = some model ∧ model ≠ "")

end Definitions

variable {cfg : InstallerConfig} {outcomes : TickOutcomes}
  {source target : ClusterState}

/-! ## What each client call does -/

/-- Answers of the clients in a tick. -/
abbrev ViaClients (outcomes : TickOutcomes) :
    World Installer PyException ClusterState :=
  World.ofRespond (viaClients outcomes)

theorem listed_viaClients {pending : Json}
    (answered : ViaClients outcomes source (listed pending) target) :
    outcomes.pending = .ok pending ∧ target = source := by
  have response := (Program.eval_perform _ _).symm.trans answered
  exact ⟨congrArg Prod.fst response, (congrArg Prod.snd response).symm⟩

theorem sent_viaClients {rid : Json} {status : Status} {errorClass : String}
    {answer : Except PyException Unit}
    (answered : ViaClients outcomes source (sent rid status errorClass answer)
      target) : target = source := by
  have response := (Program.eval_perform _ _).symm.trans answered
  cases status <;> exact (congrArg Prod.snd response).symm

theorem scaled_viaClients {answer : Except PyException Unit}
    (answered : ViaClients outcomes source (scaled cfg answer) target) :
    outcomes.scale = answer ∧ target = source := by
  have response := (Program.eval_perform _ _).symm.trans answered
  exact ⟨congrArg Prod.fst response, (congrArg Prod.snd response).symm⟩

theorem waited_viaClients {answer : Except PyException Bool}
    (answered : ViaClients outcomes source (waited cfg answer) target) :
    target = { source with waited := true } := by
  have response := (Program.eval_perform _ _).symm.trans answered
  exact (congrArg Prod.snd response).symm

theorem viaClients_getModel (vllmNamespace configmap : String) :
    viaClients outcomes source (InstallerCall.getModel vllmNamespace configmap) =
      (outcomes.readConfigMap.map fun _ => source.kubernetes.modelId.getD "",
        source) := by
  rcases outcomes with ⟨_, _, _, reading, _, _, _, _, _, _, _⟩
  cases reading <;> rfl

/-- The previous model is the one in the ConfigMap if it could be read. -/
theorem read_viaClients {answer : Except PyException String}
    (answered : ViaClients outcomes source (read cfg answer) target) :
    answer = (outcomes.readConfigMap.map fun _ =>
        source.kubernetes.modelId.getD "") ∧ target = source := by
  have response := (viaClients_getModel _ _).symm.trans answered
  exact ⟨(congrArg Prod.fst response).symm, (congrArg Prod.snd response).symm⟩

/-- A write has no effect when its first patch raises, and has set the model
when only its second does. -/
theorem viaClients_setModel
    (vllmNamespace configmap deployment repoId : String) :
    viaClients outcomes source
        (InstallerCall.setModel vllmNamespace configmap deployment repoId) =
      match outcomes.configMapPatch source.waited,
          outcomes.deploymentPatch source.waited with
      | .error error, _ => (.error error, source)
      | .ok _, .error error =>
          (.error error,
            { source with
              kubernetes := { source.kubernetes with modelId := some repoId } })
      | .ok _, .ok _ =>
          (.ok (),
            { source with
              kubernetes :=
                { modelId := some repoId, restartedAt := some outcomes.now } }) := by
  rcases outcomes with ⟨_, _, _, _, install, restart, _, undo, restartAgain, _, _⟩
  rcases source with ⟨kubernetes, waited⟩
  cases waited with
  | false =>
      cases install with
      | error error => rfl
      | ok _ => cases restart <;> rfl
  | true =>
      cases undo with
      | error error => rfl
      | ok _ => cases restartAgain <;> rfl

theorem wrote_viaClients {repo : String} {answer : Except PyException Unit}
    (answered : ViaClients outcomes source (wrote cfg repo answer) target) :
    (Raises (outcomes.configMapPatch source.waited) ∧ Raises answer ∧
      target = source) ∨
    (outcomes.configMapPatch source.waited = .ok () ∧
      answer = outcomes.deploymentPatch source.waited ∧
      target.kubernetes.modelId = some repo ∧ target.waited = source.waited) := by
  have response := (viaClients_setModel _ _ _ _).symm.trans answered
  split at response
  next _ error failed =>
    cases response
    exact Or.inl ⟨⟨error, failed⟩, ⟨error, rfl⟩, rfl⟩
  next _ error first second =>
    cases response
    exact Or.inr ⟨first, second.symm, rfl, rfl⟩
  next _ _ first second =>
    cases response
    exact Or.inr ⟨first, second.symm, rfl, rfl⟩

/-! ## When a failed tick restores the model -/

theorem matchesRepo_ne_empty {repo : String} (matched : matchesRepo repo = true) :
    repo ≠ "" := by
  intro empty
  rw [empty] at matched
  exact absurd matched (by decide)

/-- A rollback that writes restores the model it writes. -/
theorem restored_of_rolledBack {previous attempted : String}
    {restored : List InstallerEvent}
    (undone : outcomes.rollbackConfigMap = .ok ())
    (rolled : RolledBack cfg previous attempted restored)
    (waited : source.waited = true)
    (answered : Answered (ViaClients outcomes) source restored target) :
    target.kubernetes.modelId =
      if previous = "" ∨ previous = attempted then source.kubernetes.modelId
      else some previous := by
  cases rolled with
  | nothing skipped =>
      rw [if_pos skipped, ← answered_nil.mp answered]
  | written answer needed =>
      rw [if_neg needed]
      rcases answered_cons.mp answered with ⟨middle, written, ended⟩
      rw [← answered_nil.mp ended]
      rcases wrote_viaClients written with
        ⟨⟨error, raised⟩, _⟩ | ⟨_, _, modelId, _⟩
      · simp [TickOutcomes.configMapPatch, waited, undone] at raised
      · exact modelId

/-- What a tick reads before it writes. -/
def previousOf (outcomes : TickOutcomes) (before : Kubernetes) : String :=
  previousModel (outcomes.readConfigMap.map fun _ => before.modelId.getD "")

/-- A rollback goes back to the model before the tick exactly when that is the
one that was written, or was read and is not empty. -/
theorem rollback_restores_iff {before : Kubernetes} {repo : String}
    (named : repo ≠ "") :
    (if previousOf outcomes before = "" ∨ previousOf outcomes before = repo
      then some repo else some (previousOf outcomes before)) = before.modelId ↔
    before.modelId = some repo ∨
      (outcomes.readConfigMap = .ok () ∧
        ∃ model, before.modelId = some model ∧ model ≠ "") := by
  cases reading : outcomes.readConfigMap with
  | error error =>
      simp [previousOf, reading, Except.map, previousModel, eq_comm]
  | ok _ =>
      cases held : before.modelId with
      | none => simp [previousOf, reading, held, Except.map, previousModel]
      | some model =>
          have previous : previousOf outcomes before = model := by
            simp [previousOf, reading, held, Except.map, previousModel]
          rw [previous]
          split
          next same =>
            rcases same with empty | attempted
            · simp [empty, named, Ne.symm named]
            · simp [attempted, named]
          next restorable =>
            rw [not_or] at restorable
            simp [restorable.1]

theorem not_raises_ok : ¬ Raises (.ok ()) := nofun

/-- In an installation that reports failure, the model after it is the one
before exactly when it could be restored. -/
theorem restored_iff_of_installation {rid : Json} {repo : String}
    {before : Kubernetes} {events : List InstallerEvent}
    {result : Except PyException Bool} {final : ClusterState}
    (named : repo ≠ "") (undone : outcomes.rollbackConfigMap = .ok ())
    (installation : Installation cfg rid repo events result)
    (answered : Answered (ViaClients outcomes) ⟨before, false⟩ events final)
    (failed : ReportsFailed events) :
    final.kubernetes.modelId = before.modelId ↔
      Raises outcomes.scale ∨ Raises outcomes.patchConfigMap ∨
        before.modelId = some repo ∨
        (outcomes.patchDeployment = .ok () ∧ outcomes.readConfigMap = .ok () ∧
          ∃ model, before.modelId = some model ∧ model ≠ "") := by
  cases installation with
  | markRaised error =>
      rcases failed with ⟨rid, errorClass, answer, member⟩
      cases List.mem_singleton.mp member
  | scaleRaised error answer =>
      rcases answered with ⟨_, marked, _, scaling, _, reported, ended⟩
      rcases scaled_viaClients scaling with ⟨raised, scaled⟩
      rw [← answered_nil.mp ended, sent_viaClients reported, scaled,
        sent_viaClients marked]
      exact iff_of_true rfl (Or.inl ⟨error, raised⟩)
  | applyRaised previous error answer =>
      rcases answered with
        ⟨_, marked, _, scaling, _, reading, _, writing, _, reported, ended⟩
      rw [← answered_nil.mp ended, sent_viaClients reported]
      have scale := (scaled_viaClients scaling).1
      have start := (read_viaClients reading).2
      rw [(scaled_viaClients scaling).2, sent_viaClients marked] at start
      rw [start] at writing
      rcases wrote_viaClients writing with
        ⟨first, _, same⟩ | ⟨first, second, modelId, _⟩
      · rw [same]
        exact iff_of_true rfl (Or.inr (Or.inl first))
      · have config : outcomes.patchConfigMap = .ok () := first
        have deployment : outcomes.patchDeployment = .error error := second.symm
        rw [modelId, scale, config, deployment]
        simp [not_raises_ok, eq_comm]
  | notReady previous ready errorClass restored answer why rolled =>
      rcases answered_append.mp answered with ⟨_, answered, _, reported, ended⟩
      rcases answered_append.mp answered with ⟨_, answered, restoring⟩
      rcases answered with
        ⟨_, marked, _, scaling, _, reading, _, writing, _, waiting, loaded⟩
      rw [← answered_nil.mp ended, sent_viaClients reported]
      have scale := (scaled_viaClients scaling).1
      have start := (read_viaClients reading).2
      have seen := (read_viaClients reading).1
      rw [(scaled_viaClients scaling).2, sent_viaClients marked] at start seen
      rw [start] at writing
      rcases wrote_viaClients writing with
        ⟨_, ⟨_, raised⟩, _⟩ | ⟨first, second, modelId, _⟩
      · cases raised
      · have config : outcomes.patchConfigMap = .ok () := first
        have deployment : outcomes.patchDeployment = .ok () := second.symm
        have waitedFor := waited_viaClients waiting
        rw [answered_nil.mp loaded] at waitedFor
        have after := restored_of_rolledBack undone rolled (by rw [waitedFor])
          restoring
        have previous_eq : previousModel previous = previousOf outcomes before := by
          rw [seen, previousOf]
        rw [waitedFor, previous_eq] at after
        rw [after, scale, config, deployment]
        simp only [modelId, not_raises_ok, false_or, true_and]
        exact rollback_restores_iff named
  | ready previous answer =>
      rcases failed with ⟨rid, errorClass, answer, member⟩
      simp only [List.mem_cons, List.not_mem_nil, or_false] at member
      rcases member with member | member | member | member | member | member
      all_goals cases member

theorem not_installable_of_denied {repo : String} {errorClass : String}
    (denied : Denied cfg (.str repo) errorClass) : ¬ Installable cfg repo := by
  intro installable
  cases denied with
  | invalid _ unmatched =>
      have matched := installable.1
      rw [unmatched repo rfl] at matched
      cases matched
  | notAllowed _ _ unlisted =>
      have listed := installable.2
      rw [unlisted] at listed
      cases listed

theorem restored_iff_of_tick {before : Kubernetes}
    {events : List InstallerEvent} {result : Except PyException Bool}
    {final : ClusterState} (undone : outcomes.rollbackConfigMap = .ok ())
    (tick : Tick cfg events result)
    (answered : Answered (ViaClients outcomes) ⟨before, false⟩ events final)
    (failed : ReportsFailed events) :
    final.kubernetes.modelId = before.modelId ↔
      Restorable cfg outcomes before := by
  cases tick with
  | disabled | pendingRaised | noPending | malformed =>
      rcases failed with ⟨rid, errorClass, answer, member⟩
      simp only [List.mem_cons, List.not_mem_nil, or_false] at member
      all_goals cases member
  | denied pending rid repo errorClass answer enabled some head denied =>
      rcases answered with ⟨_, listing, _, reported, ended⟩
      rcases listed_viaClients listing with ⟨offered, start⟩
      rw [← answered_nil.mp ended, sent_viaClients reported, start]
      refine iff_of_true rfl ?_
      intro otherPending otherRid name other otherHead installable
      rw [offered] at other
      cases other
      rw [head] at otherHead
      cases otherHead
      exact absurd installable (not_installable_of_denied denied)
  | install pending rid repo events result enabled some head installable
      installation =>
      rcases answered with ⟨_, listing, rest⟩
      rcases listed_viaClients listing with ⟨offered, start⟩
      rw [start] at rest
      have failed : ReportsFailed events := by
        rcases failed with ⟨rid, errorClass, answer, member⟩
        rcases List.mem_cons.mp member with first | later
        · cases first
        · exact ⟨rid, errorClass, answer, later⟩
      rw [restored_iff_of_installation (matchesRepo_ne_empty installable.1)
        undone installation rest failed]
      constructor
      · intro restorable otherPending otherRid name other otherHead _
        rw [offered] at other
        cases other
        rw [head] at otherHead
        cases otherHead
        exact restorable
      · intro restorable
        exact restorable pending rid repo offered head installable

/-- In every tick that reports its request as failed and whose rollback, if any, can
patch the ConfigMap, the ConfigMap holds the model it held before the tick exactly
when the tick was restorable. -/
theorem afterTick_modelId_iff (before : Kubernetes)
    (failed : ReportsFailed (tickEvents cfg outcomes before))
    (undone : outcomes.rollbackConfigMap = .ok ()) :
    (afterTick cfg outcomes before).modelId = before.modelId ↔
      Restorable cfg outcomes before := by
  have served := served_eval (viaClients outcomes) (runOnce cfg) ⟨before, false⟩
  have final : afterTick cfg outcomes before =
      ((runOnce cfg).eval (viaClients outcomes) ⟨before, false⟩).2.kubernetes := by
    rw [afterTick, Program.eval_interpret]
    rfl
  rw [final]
  exact restored_iff_of_tick undone (tick_of_run served.1) served.2 failed

/-! ## A write that fails between its patches -/

/-- A tick in which the restart of the Deployment is refused. -/
def restartRefused : TickOutcomes where
  pending := .ok (.arr [.obj
    [("id", .str "r1"), ("hf_repo_id", .str "Qwen/Qwen2.5")]])
  mark := .ok ()
  scale := .ok ()
  readConfigMap := .ok ()
  patchConfigMap := .ok ()
  patchDeployment := .error (.httpError 403)
  waitReady := .ok true
  rollbackConfigMap := .ok ()
  rollbackDeployment := .ok ()
  report := .ok ()
  now := "2026-01-01T12:00:00Z"

/-- The ConfigMap keeps the model of a failed request. -/
theorem restartRefused_not_restored :
    ¬ ∀ (cfg : InstallerConfig) (outcomes : TickOutcomes) (before : Kubernetes),
      ReportsFailed (tickEvents cfg outcomes before) →
      outcomes.rollbackConfigMap = .ok () →
      outcomes.rollbackDeployment = .ok () →
      (afterTick cfg outcomes before).modelId = before.modelId := by
  intro restored
  have same := restored qwenInstaller restartRefused ⟨some "Qwen/Qwen2", none⟩
    ⟨.str "r1", errApply, .ok (), List.mem_of_getElem? (i := 5) rfl⟩ rfl rfl
  exact absurd same (by decide)

/-- A tick in which the model does not become ready. -/
def loadTimedOut : TickOutcomes :=
  { restartRefused with patchDeployment := .ok (), waitReady := .ok false }

/-- A model that did not load is rolled back, so the tick was restorable. -/
theorem afterTick_modelId_iff_loadTimedOut :
    Restorable qwenInstaller loadTimedOut ⟨some "Qwen/Qwen2", none⟩ :=
  (afterTick_modelId_iff ⟨some "Qwen/Qwen2", none⟩
    ⟨.str "r1", errTimeout, .ok (), List.mem_of_getElem? (i := 7) rfl⟩ rfl).mp
    (by decide)

end Reconciler

end PrivateAiWorkspace.ModelInstaller
