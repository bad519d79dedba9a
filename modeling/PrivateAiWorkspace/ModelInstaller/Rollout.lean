import Mathlib.Data.Nat.Init
import PrivateAiWorkspace.Effects.Answered
import PrivateAiWorkspace.ModelInstaller.Reconciler

/-!
# Waiting for a rollout

`K8sVllmClient.wait_ready` polls the status of a Deployment that a controller
rolls over to a new pod template at the same time. The chart sets no strategy,
so the controller follows the rolling-update defaults and old pods may serve
while new ones load.

The status is kept as the snapshot of pods it was computed from. `wait_ready`
compares two counts of it, the pods of the newest template the controller knows
and the available pods of any template, and takes them for the available pods of
the new template. They are that as long as no status that passes the test counts
an available pod of an older template, and then `run_once` reports success only
for a model that serves.
-/

namespace PrivateAiWorkspace.ModelInstaller.Rollout

open Effects Python

/-- A pod of the Deployment: the template it was made from, and whether it is
available. -/
structure Pod where
  template : Nat
  available : Bool
  deriving DecidableEq, Repr

/-- A published status: the pods the controller counted, and the newest template
it knew. -/
structure DeploymentStatus where
  template : Nat
  pods : List Pod
  deriving DecidableEq, Repr

namespace DeploymentStatus

variable (status : DeploymentStatus)

/-- `status.replicas`. -/
def replicas : Nat := status.pods.length

/-- `status.updated_replicas`: pods of the newest template the controller knew. -/
def updatedReplicas : Nat :=
  status.pods.countP fun pod => pod.template = status.template

/-- `status.available_replicas`: available pods of any template. -/
def availableReplicas : Nat := status.pods.countP Pod.available

/-- Available pods made from a template. -/
def availableOf (template : Nat) : Nat :=
  status.pods.countP fun pod => pod.available && pod.template = template

/-- Available pods made from another template. -/
def availableOther (template : Nat) : Nat :=
  status.pods.countP fun pod => pod.available && pod.template ≠ template

/-- The available pods are those of a template and the others. -/
theorem availableReplicas_eq (template : Nat) :
    status.availableReplicas =
      status.availableOf template + status.availableOther template := by
  simp only [availableReplicas, availableOf, availableOther]
  induction status.pods with
  | nil => rfl
  | cons pod pods ih =>
      simp only [List.countP_cons, ih]
      cases pod.available with
      | false => simp
      | true =>
          cases decEq pod.template template with
          | isTrue same => simp [same]; omega
          | isFalse different => simp [different]; omega

end DeploymentStatus

/-- The Deployment: its specification, the template the controller has observed,
its pods, and the status published last. -/
structure Deployment where
  specReplicas : Nat
  template : Nat
  observed : Nat
  pods : List Pod
  status : DeploymentStatus
  deriving DecidableEq, Repr

namespace Deployment

variable (deployment : Deployment)

/-- Default `maxSurge`: a quarter of the replicas, rounded up. -/
def maxSurge : Nat := (deployment.specReplicas + 3) / 4

/-- Default `maxUnavailable`: a quarter of the replicas, rounded down. -/
def maxUnavailable : Nat := deployment.specReplicas / 4

/-- Available pods. -/
def available : Nat := deployment.pods.countP Pod.available

/-- `set_model` has patched the pod template. -/
def patched : Deployment :=
  { deployment with template := deployment.template + 1 }

/-- Every pod there is or that a status counts was made from a template the
Deployment has had. -/
structure Known : Prop where
  observed : deployment.observed ≤ deployment.template
  pods : ∀ pod ∈ deployment.pods, pod.template ≤ deployment.template
  status : ∀ pod ∈ deployment.status.pods, pod.template ≤ deployment.template

end Deployment

/-- Steps of the controller and of the pods: the controller notices a template,
creates pods within the surge, removes pods that are not needed for the minimum
of available ones, and publishes what it counts; pods become available and may
cease to be. -/
inductive ControllerStep : Deployment → Deployment → Prop where
  | observe (deployment : Deployment) :
      ControllerStep deployment
        { deployment with observed := deployment.template }
  | create (deployment : Deployment) :
      deployment.pods.length < deployment.specReplicas + deployment.maxSurge →
      ControllerStep deployment
        { deployment with
          pods := deployment.pods ++ [⟨deployment.observed, false⟩] }
  | ready (deployment : Deployment) (before after : List Pod) (pod : Pod) :
      deployment.pods = before ++ pod :: after →
      ControllerStep deployment
        { deployment with
          pods := before ++ { pod with available := true } :: after }
  | unready (deployment : Deployment) (before after : List Pod) (pod : Pod) :
      deployment.pods = before ++ pod :: after →
      ControllerStep deployment
        { deployment with
          pods := before ++ { pod with available := false } :: after }
  | remove (deployment : Deployment) (before after : List Pod) (pod : Pod) :
      deployment.pods = before ++ pod :: after →
      (pod.available = true →
        deployment.specReplicas <
          deployment.available + deployment.maxUnavailable) →
      ControllerStep deployment { deployment with pods := before ++ after }
  | publish (deployment : Deployment) :
      ControllerStep deployment
        { deployment with status := ⟨deployment.observed, deployment.pods⟩ }

/-! ## Polling -/

/-- What `read_namespaced_deployment_status` returns. -/
structure DeploymentObject where
  specReplicas : Nat
  status : DeploymentStatus
  deriving DecidableEq, Repr

/-- Calls of `wait_ready`. -/
inductive PollingCall where
  | time
  | readDeploymentStatus
  | sleep (seconds : Rat)

/-- The calls with their answers. -/
def Polling : Interface where
  Call := PollingCall
  Answer
    | .time => Rat
    | .readDeploymentStatus => DeploymentObject
    | .sleep _ => Unit

namespace K8sVllmClient

/-- The test of `wait_ready`. An absent count is zero. -/
def isReady (dep : DeploymentObject) : Bool :=
  let spec := dep.specReplicas
  0 < spec && dep.status.availableReplicas ≥ spec &&
    dep.status.updatedReplicas ≥ spec

/-- The loop of `wait_ready`, cut off after a number of rounds. -/
def poll (deadline : PyFloat) : Nat → Program Polling PyException (Option Bool)
  | 0 => .ret none
  | rounds + 1 =>
      .call PollingCall.time fun answer =>
        (Program.ofExcept answer).bind fun (now : Rat) =>
          if PyFloat.lt (.finite now) deadline then
            .call PollingCall.readDeploymentStatus fun answer =>
              (Program.ofExcept answer).bind fun (dep : DeploymentObject) =>
                if isReady dep then .ret (some true)
                else
                  .call (PollingCall.sleep 10) fun answer =>
                    (Program.ofExcept answer).bind fun (_ : Unit) =>
                      poll deadline rounds
          else .ret (some false)

/-- `time.time() + timeout_s`. -/
def deadline (start : Rat) : PyFloat → PyFloat
  | .finite timeoutS => .finite (start + timeoutS)
  | .infinity negative => .infinity negative
  | .nan => .nan

/-- `wait_ready`, with a bound on the rounds it is watched for. -/
def waitReady (timeoutS : PyFloat) (rounds : Nat) :
    Program Polling PyException (Option Bool) :=
  .call PollingCall.time fun answer =>
    (Program.ofExcept answer).bind fun (start : Rat) =>
      poll (deadline start timeoutS) rounds

end K8sVllmClient

/-- The API answers from the Deployment or fails; the clock may show any
time. -/
inductive ApiWorld : World Polling PyException Deployment where
  | time {deployment : Deployment} (answer : Except PyException Rat) :
      ApiWorld deployment ⟨PollingCall.time, answer⟩ deployment
  | status {deployment : Deployment} :
      ApiWorld deployment
        ⟨PollingCall.readDeploymentStatus,
          .ok ⟨deployment.specReplicas, deployment.status⟩⟩ deployment
  | failed {deployment : Deployment} (error : PyException) :
      ApiWorld deployment ⟨PollingCall.readDeploymentStatus, .error error⟩
        deployment
  | sleep {deployment : Deployment} (seconds : Rat)
      (answer : Except PyException Unit) :
      ApiWorld deployment ⟨PollingCall.sleep seconds, answer⟩ deployment

/-- The Deployment while the controller works on it. -/
abbrev RolloutWorld : World Polling PyException Deployment :=
  World.disturbed ControllerStep ApiWorld

/-- The controller can get from one Deployment to the other. -/
abbrev Reached : Deployment → Deployment → Prop :=
  Relation.ReflTransGen ControllerStep

/-! ## What the status says -/

theorem controllerStep_fixed {source target : Deployment}
    (step : ControllerStep source target) :
    target.specReplicas = source.specReplicas ∧
      target.template = source.template := by
  cases step <;> exact ⟨rfl, rfl⟩

theorem reached_fixed {source target : Deployment}
    (reached : Reached source target) :
    target.specReplicas = source.specReplicas ∧
      target.template = source.template := by
  induction reached with
  | refl => exact ⟨rfl, rfl⟩
  | tail _ step ih =>
      have fixed := controllerStep_fixed step
      exact ⟨fixed.1.trans ih.1, fixed.2.trans ih.2⟩

/-- A status is the one there was, or was published at some moment since. -/
theorem status_published {source target : Deployment}
    (reached : Reached source target) :
    target.status = source.status ∨
      ∃ moment, Reached source moment ∧
        target.status = ⟨moment.observed, moment.pods⟩ := by
  induction reached with
  | refl => exact Or.inl rfl
  | tail before step ih =>
      cases step with
      | publish => exact Or.inr ⟨_, before, rfl⟩
      | observe | create | ready | unready | remove => exact ih

theorem apiWorld_keeps {source target : Deployment}
    {event : Event Polling PyException}
    (answered : ApiWorld source event target) : target = source := by
  cases answered <;> rfl

/-- Whatever is polled, only the controller moves the Deployment. -/
theorem reached_of_answered {source target : Deployment}
    {events : List (Event Polling PyException)}
    (answered : Answered RolloutWorld source events target) :
    Reached source target := by
  apply answered.invariant (Reached source) .refl
  intro event member first last step reached
  rcases step with ⟨before, after, earlier, answer, later⟩
  rw [apiWorld_keeps answer] at later
  exact (reached.trans earlier).trans later

/-- A status that was read is the status at some moment of the poll. -/
theorem reached_of_read {source target : Deployment}
    {before : List (Event Polling PyException)} {dep : DeploymentObject}
    (answered : Answered RolloutWorld source
      (before ++ [⟨PollingCall.readDeploymentStatus, .ok dep⟩]) target) :
    ∃ seen, Reached source seen ∧ dep = ⟨seen.specReplicas, seen.status⟩ := by
  rcases answered_append.mp answered with ⟨middle, first, last, step, _⟩
  rcases step with ⟨seen, after, earlier, answer, _⟩
  refine ⟨seen, (reached_of_answered first).trans earlier, ?_⟩
  cases answer
  rfl

/-! ## What `wait_ready` has seen -/

/-- A poll that ends with `True` has read a status that passes the test last. -/
theorem read_of_poll {deadline : PyFloat} {rounds : Nat}
    {events : List (Event Polling PyException)}
    (run : Program.Run (K8sVllmClient.poll deadline rounds) events
      (.ok (some true))) :
    ∃ before dep,
      events = before ++ [⟨PollingCall.readDeploymentStatus, .ok dep⟩] ∧
        K8sVllmClient.isReady dep = true := by
  induction rounds generalizing events with
  | zero =>
      cases (Program.run_ret_iff.mp run).2
  | succ rounds ih =>
      rcases Program.run_callThen_iff.mp run with
        ⟨error, _, raised⟩ | ⟨now, polled, events_eq, run⟩
      · cases raised
      split at run
      next early =>
        rcases Program.run_callThen_iff.mp run with
          ⟨error, _, raised⟩ | ⟨dep, slept, polled_eq, run⟩
        · cases raised
        split at run
        next ready =>
          rw [events_eq, polled_eq, (Program.run_ret_iff.mp run).1]
          exact ⟨[⟨PollingCall.time, .ok now⟩], dep, rfl, ready⟩
        next =>
          rcases Program.run_callThen_iff.mp run with
            ⟨error, _, raised⟩ | ⟨_, rest, slept_eq, run⟩
          · cases raised
          rcases ih run with ⟨before, last, rest_eq, ready⟩
          rw [events_eq, polled_eq, slept_eq, rest_eq]
          exact ⟨⟨PollingCall.time, .ok now⟩ ::
            ⟨PollingCall.readDeploymentStatus, .ok dep⟩ ::
            ⟨PollingCall.sleep 10, .ok ()⟩ :: before, last, rfl, ready⟩
      next => cases (Program.run_ret_iff.mp run).2

theorem read_of_waitReady {timeoutS : PyFloat} {rounds : Nat}
    {events : List (Event Polling PyException)}
    (run : Program.Run (K8sVllmClient.waitReady timeoutS rounds) events
      (.ok (some true))) :
    ∃ before dep,
      events = before ++ [⟨PollingCall.readDeploymentStatus, .ok dep⟩] ∧
        K8sVllmClient.isReady dep = true := by
  rcases Program.run_callThen_iff.mp run with
    ⟨error, _, raised⟩ | ⟨start, polled, events_eq, run⟩
  · cases raised
  rcases read_of_poll run with ⟨before, dep, polled_eq, ready⟩
  rw [events_eq, polled_eq]
  exact ⟨⟨PollingCall.time, .ok start⟩ :: before, dep, rfl, ready⟩

/-- A status of the new template that counts no pod of another one counts no
available one either; `wait_ready` looks at neither. -/
theorem availableOther_eq_zero {status : DeploymentStatus} {template : Nat}
    (observed : status.template = template)
    (complete : status.replicas ≤ status.updatedReplicas) :
    status.availableOther template = 0 := by
  have all := List.countP_eq_length.mp
    (Nat.le_antisymm List.countP_le_length complete)
  apply List.countP_eq_zero.mpr
  intro pod member
  have same := all pod member
  rw [observed] at same
  simp [decide_eq_true_eq.mp same]

/-! ## Ready and serving -/

/-- The Deployment objects that were read. -/
def statuses (events : List (Event Polling PyException)) : List DeploymentObject :=
  events.filterMap fun event =>
    match event with
    | ⟨.readDeploymentStatus, .ok dep⟩ => some dep
    | _ => none

/-- No status that passes the test of `wait_ready` counts an available pod of
another template. -/
def NoneOld (template : Nat) (deps : List DeploymentObject) : Prop :=
  ∀ dep ∈ deps, K8sVllmClient.isReady dep = true →
    dep.status.availableOther template = 0

/-- A status of the new template that counts no other pod than its own counts no
available old one; `wait_ready` looks at neither. -/
theorem noneOld_of_complete {template : Nat} {deps : List DeploymentObject}
    (complete : ∀ dep ∈ deps, dep.status.template = template ∧
      dep.status.replicas ≤ dep.status.updatedReplicas) :
    NoneOld template deps :=
  fun dep member _ => availableOther_eq_zero (complete dep member).1
    (complete dep member).2

/-- The object was read last, and its status is that of a moment since the patch at
which `spec.replicas` pods of the new template were available. -/
def Serving (patched : Deployment) (deps : List DeploymentObject) : Prop :=
  ∃ dep moment, deps.getLast? = some dep ∧ Reached patched moment ∧
    dep.specReplicas = patched.specReplicas ∧
    dep.status = ⟨moment.observed, moment.pods⟩ ∧
    patched.specReplicas ≤ dep.status.availableOf patched.template

/-- A wait that began after the patch and returns `True` has seen the new model
serve. -/
theorem serving_of_waitReady {patched source target : Deployment}
    {timeoutS : PyFloat} {rounds : Nat} {events : List (Event Polling PyException)}
    (before : ∀ pod ∈ patched.status.pods, pod.template ≠ patched.template)
    (reached : Reached patched source)
    (served : Served RolloutWorld (K8sVllmClient.waitReady timeoutS rounds)
      source events (.ok (some true)) target)
    (noneOld : NoneOld patched.template (statuses events)) :
    Serving patched (statuses events) := by
  rcases read_of_waitReady served.1 with ⟨earlier, dep, events_eq, ready⟩
  have answered := served.2
  rw [events_eq] at answered
  rcases reached_of_read answered with ⟨seen, later, dep_eq⟩
  have since := reached.trans later
  have replicas : dep.specReplicas = patched.specReplicas := by
    rw [dep_eq, (reached_fixed since).1]
  have last : (statuses events).getLast? = some dep := by
    simp [events_eq, statuses]
  have none := noneOld dep (List.mem_of_getLast? last) ready
  have counted := dep.status.availableReplicas_eq patched.template
  simp only [K8sVllmClient.isReady, Bool.and_eq_true, decide_eq_true_eq] at ready
  have enough : patched.specReplicas ≤ dep.status.availableOf patched.template := by
    omega
  rcases status_published since with leftOver | ⟨moment, reachedMoment, published⟩
  · -- The status from before the patch counts no pod of the new template.
    have absent : dep.status.availableOf patched.template = 0 := by
      apply List.countP_eq_zero.mpr
      intro pod member
      rw [dep_eq, leftOver] at member
      simp [before pod member]
    omega
  · refine ⟨dep, moment, last, reachedMoment, replicas, ?_, enough⟩
    rw [dep_eq, published]

/-! ## The wait inside `run_once` -/

/-- The Deployment during a run of `run_once`, and what `wait_ready` has read of
it. -/
structure RolloutState where
  deployment : Deployment
  read : List DeploymentObject

/-- The controller moves the Deployment. -/
def Rolls (source target : RolloutState) : Prop :=
  ControllerStep source.deployment target.deployment ∧ target.read = source.read

/-- The clients of `run_once` over the Deployment: `set_model` patches it, also
when its answer is lost, `wait_ready` polls it, and the other calls may end in any
way. -/
inductive ClientWorld (cfg : InstallerConfig) :
    World Installer PyException RolloutState where
  | listPending {state : RolloutState} (answer : Except PyException Json) :
      ClientWorld cfg state ⟨InstallerCall.listPending, answer⟩ state
  | setStatus {state : RolloutState} (rid : Json)
      (status : ControlPlane.Status) (errorClass : String)
      (answer : Except PyException Unit) :
      ClientWorld cfg state (Reconciler.sent rid status errorClass answer) state
  | scaleNodegroup {state : RolloutState} (answer : Except PyException Unit) :
      ClientWorld cfg state (Reconciler.scaled cfg answer) state
  | getModel {state : RolloutState} (answer : Except PyException String) :
      ClientWorld cfg state (Reconciler.read cfg answer) state
  | setModel {state : RolloutState} (repo : String)
      (answer : Except PyException Unit) :
      ClientWorld cfg state (Reconciler.wrote cfg repo answer)
        { state with deployment := state.deployment.patched }
  | setModelRefused {state : RolloutState} (repo : String) (error : PyException) :
      ClientWorld cfg state (Reconciler.wrote cfg repo (.error error)) state
  | waitReady {state : RolloutState} (target : Deployment) (rounds : Nat)
      (events : List (Event Polling PyException)) (answer : Except PyException Bool) :
      Served RolloutWorld (K8sVllmClient.waitReady cfg.readyTimeoutS rounds)
        state.deployment events (answer.map some) target →
      ClientWorld cfg state (Reconciler.waited cfg answer)
        ⟨target, state.read ++ statuses events⟩

/-- The event is a report of success. -/
def reportsApplied (event : InstallerEvent) : Bool :=
  match event.call with
  | .setStatus _ .applied _ => true
  | _ => false

/-- A run of `run_once` that reports success has written the model and found it
ready before. -/
theorem events_of_applied {cfg : InstallerConfig} {rid : Json} {errorClass : String}
    {answer : Except PyException Unit} {events : List InstallerEvent}
    {result : Except PyException Bool}
    (run : Program.Run (Reconciler.runOnce cfg) events result)
    (applied : Reconciler.sent rid .applied errorClass answer ∈ events) :
    ∃ pending other repo previous final,
      events = [Reconciler.listed pending, Reconciler.sent other .installing "" (.ok ()),
        Reconciler.scaled cfg (.ok ()), Reconciler.read cfg previous,
        Reconciler.wrote cfg repo (.ok ()), Reconciler.waited cfg (.ok true),
        Reconciler.sent other .applied "" final] := by
  have reported : events.any reportsApplied = true :=
    List.any_eq_true.mpr ⟨_, applied, rfl⟩
  cases Reconciler.tick_of_run run with
  | disabled => cases applied
  | pendingRaised | noPending | malformed | denied =>
      exact absurd reported Bool.false_ne_true
  | install pending other repo events result _ _ _ _ installation =>
      cases installation with
      | ready previous final => exact ⟨pending, other, repo, previous, final, rfl⟩
      | markRaised | scaleRaised | applyRaised =>
          exact absurd reported Bool.false_ne_true
      | notReady previous ready errorClass restored final why rolled =>
          cases rolled <;> exact absurd reported Bool.false_ne_true

theorem rolled_of_rolls {source target : RolloutState}
    (rolled : Relation.ReflTransGen Rolls source target) :
    Reached source.deployment target.deployment ∧ target.read = source.read := by
  induction rolled with
  | refl => exact ⟨.refl, rfl⟩
  | tail _ step ih => exact ⟨ih.1.tail step.1, step.2.trans ih.2⟩

/-- Around a call that leaves the Deployment alone only the controller moves it. -/
theorem rolled_of_quiet {cfg : InstallerConfig} {source target : RolloutState}
    {event : InstallerEvent}
    (quiet : ∀ before after, ClientWorld cfg before event after → after = before)
    (step : World.disturbed Rolls (ClientWorld cfg) source event target) :
    Reached source.deployment target.deployment ∧ target.read = source.read := by
  rcases step with ⟨before, after, earlier, answered, later⟩
  rw [quiet before after answered] at later
  exact rolled_of_rolls (earlier.trans later)

theorem known_of_reached {source target : Deployment} (known : source.Known)
    (reached : Reached source target) : target.Known := by
  induction reached with
  | refl => exact known
  | tail _ step ih =>
      rcases ih with ⟨observed, pods, status⟩
      cases step with
      | observe => exact ⟨Nat.le_refl _, pods, status⟩
      | publish => exact ⟨observed, pods, pods⟩
      | create =>
          refine ⟨observed, ?_, status⟩
          intro pod member
          rcases List.mem_append.mp member with old | new
          · exact pods pod old
          · rw [List.mem_singleton.mp new]
            exact observed
      | ready before after pod split | unready before after pod split =>
          refine ⟨observed, ?_, status⟩
          intro other member
          rw [split] at pods
          rcases List.mem_append.mp member with old | new
          · exact pods other (List.mem_append_left _ old)
          · rcases List.mem_cons.mp new with rfl | old
            · exact pods pod (by simp)
            · exact pods other (by simp [old])
      | remove before after pod split =>
          refine ⟨observed, ?_, status⟩
          intro other member
          rw [split] at pods
          rcases List.mem_append.mp member with old | old
          · exact pods other (by simp [old])
          · exact pods other (by simp [old])

/-- `wait_ready` after the patch, and `run_once` around it: as long as no status
that passes the test counts an available pod of an older template, `True` is only
returned, and success only reported, when the status read last is that of a moment
since the patch at which `spec.replicas` pods of the new template were available. -/
theorem ready_serving (cfg : InstallerConfig) {deployment : Deployment}
    (known : deployment.Known) :
    (∀ timeoutS rounds events target,
      Served RolloutWorld (K8sVllmClient.waitReady timeoutS rounds)
        deployment.patched events (.ok (some true)) target →
      NoneOld deployment.patched.template (statuses events) →
      Serving deployment.patched (statuses events)) ∧
    ∀ rid errorClass answer events result target,
      Served (World.disturbed Rolls (ClientWorld cfg)) (Reconciler.runOnce cfg)
        ⟨deployment, []⟩ events result target →
      Reconciler.sent rid .applied errorClass answer ∈ events →
      NoneOld deployment.patched.template target.read →
      ∃ present, Reached deployment present ∧ Serving present.patched target.read := by
  constructor
  · intro timeoutS rounds events target served noneOld
    apply serving_of_waitReady _ .refl served noneOld
    intro pod member
    exact Nat.ne_of_lt (Nat.lt_succ_of_le (known.status pod member))
  · intro rid errorClass answer events result target served applied noneOld
    rcases events_of_applied served.1 applied with
      ⟨pending, other, repo, previous, final, events_eq⟩
    have answered := served.2
    rw [events_eq] at answered
    rcases answered with ⟨_, listed, _, marked, _, scaled, _, read,
      _, ⟨present, _, earlier, wrote, since⟩,
      _, ⟨waiting, _, began, waited, later⟩, last, reported, rfl⟩
    have listed := rolled_of_quiet (fun _ _ answered => by cases answered; rfl) listed
    have marked := rolled_of_quiet (fun _ _ answered => by cases answered; rfl) marked
    have scaled := rolled_of_quiet (fun _ _ answered => by cases answered; rfl) scaled
    have read := rolled_of_quiet (fun _ _ answered => by cases answered; rfl) read
    have reported := rolled_of_quiet (fun _ _ answered => by cases answered; rfl) reported
    have earlier := rolled_of_rolls earlier
    have later := rolled_of_rolls later
    have reached : Reached deployment present.deployment :=
      listed.1.trans (marked.1.trans (scaled.1.trans (read.1.trans earlier.1)))
    have unread : present.read = [] :=
      earlier.2.trans (read.2.trans (scaled.2.trans (marked.2.trans listed.2)))
    cases wrote with
    | setModel =>
        have patched := rolled_of_rolls (since.trans began)
        cases waited with
        | waitReady moved rounds polled _ served =>
            have fixed := (reached_fixed reached).2
            have seen : last.read = statuses polled := by
              rw [reported.2, later.2, patched.2, unread, List.nil_append]
            rw [seen] at noneOld ⊢
            refine ⟨present.deployment, reached,
              serving_of_waitReady ?_ patched.1 served ?_⟩
            · intro pod member
              exact Nat.ne_of_lt (Nat.lt_succ_of_le
                ((known_of_reached known reached).status pod member))
            · simpa only [Deployment.patched, fixed] using noneOld

/-! ## An old pod that still serves -/

/-- Events of a poll whose first status passes the test. -/
def firstRound (dep : DeploymentObject) : List (Event Polling PyException) :=
  [⟨PollingCall.time, .ok (0 : Rat)⟩, ⟨PollingCall.time, .ok (0 : Rat)⟩,
    ⟨PollingCall.readDeploymentStatus, .ok dep⟩]

theorem served_firstRound {deployment seen : Deployment}
    (reached : Reached deployment seen)
    (ready :
      K8sVllmClient.isReady ⟨seen.specReplicas, seen.status⟩ = true) :
    Served RolloutWorld (K8sVllmClient.waitReady (.finite 900) 1) deployment
      (firstRound ⟨seen.specReplicas, seen.status⟩) (.ok (some true)) seen := by
  constructor
  · apply Program.run_callThen_iff.mpr
    refine Or.inr ⟨(0 : Rat), _, rfl, ?_⟩
    apply Program.run_callThen_iff.mpr
    refine Or.inr ⟨(0 : Rat), _, rfl, ?_⟩
    rw [if_pos (by decide +kernel)]
    apply Program.run_callThen_iff.mpr
    refine Or.inr ⟨⟨seen.specReplicas, seen.status⟩, _, rfl, ?_⟩
    rw [if_pos ready]
    exact .ret (some true)
  · exact ⟨_, ⟨_, _, .refl, .time _, .refl⟩, _, ⟨_, _, .refl, .time _, .refl⟩,
      _, ⟨_, _, reached, .status, .refl⟩, rfl⟩

/-- One replica serves the old model. -/
def oneServing : Deployment where
  specReplicas := 1
  template := 0
  observed := 0
  pods := [⟨0, true⟩]
  status := ⟨0, [⟨0, true⟩]⟩

/-- The new pod is created and loads; the old one still serves. -/
def surging : Deployment where
  specReplicas := 1
  template := 1
  observed := 1
  pods := [⟨0, true⟩, ⟨1, false⟩]
  status := ⟨1, [⟨0, true⟩, ⟨1, false⟩]⟩

/-- The new pod serves alone. -/
def rolledOver : Deployment where
  specReplicas := 1
  template := 1
  observed := 1
  pods := [⟨1, true⟩]
  status := ⟨1, [⟨1, true⟩]⟩

theorem reached_surging : Reached oneServing.patched surging := by
  refine .tail (.tail (.tail .refl (.observe _)) (.create _ ?_)) (.publish _)
  decide

theorem reached_rolledOver : Reached oneServing.patched rolledOver := by
  refine .tail (.tail (.tail reached_surging
    (.ready _ [⟨0, true⟩] [] ⟨1, false⟩ rfl))
    (.remove _ [] [⟨1, true⟩] ⟨0, true⟩ rfl ?_)) (.publish _)
  decide

/-- `wait_ready` returns `True` while no pod of the new template is available:
the old pod is counted as available and the loading one as updated. -/
theorem surging_not_serving :
    ¬ ∀ (deployment target : Deployment) (timeoutS : PyFloat) (rounds : Nat)
        (events : List (Event Polling PyException)),
      1 ≤ deployment.specReplicas →
      Served RolloutWorld (K8sVllmClient.waitReady timeoutS rounds)
        deployment.patched events (.ok (some true)) target →
      ∀ dep : DeploymentObject,
        events.getLast? = some ⟨PollingCall.readDeploymentStatus, .ok dep⟩ →
        deployment.specReplicas ≤
          dep.status.availableOf deployment.patched.template := by
  intro serving
  have enough := serving oneServing surging (.finite 900) 1 _ (by decide)
    (served_firstRound reached_surging (by decide))
    ⟨surging.specReplicas, surging.status⟩ rfl
  exact absurd enough (by decide)

/-- The model is listed, installed and found ready once it serves alone. -/
def installed : List InstallerEvent :=
  [Reconciler.listed (.arr [.obj
      [("id", .str "r1"), ("hf_repo_id", .str "Qwen/Qwen2.5")]]),
    Reconciler.sent (.str "r1") .installing "" (.ok ()),
    Reconciler.scaled qwenInstaller (.ok ()),
    Reconciler.read qwenInstaller (.ok "Qwen/Qwen2"),
    Reconciler.wrote qwenInstaller "Qwen/Qwen2.5" (.ok ()),
    Reconciler.waited qwenInstaller (.ok true),
    Reconciler.sent (.str "r1") .applied "" (.ok ())]

theorem run_installed :
    Program.Run (Reconciler.runOnce qwenInstaller) installed (.ok true) := by
  have matched : matchesRepo "Qwen/Qwen2.5" = true := by decide +kernel
  have allowed : isRepoAllowed qwenInstaller.allowlist "Qwen/Qwen2.5" = true := by
    decide +kernel
  have processed : Program.Run
      (Reconciler.process qwenInstaller (.str "r1") (.str "Qwen/Qwen2.5"))
      (installed.drop 1) (.ok true) := by
    simp only [Reconciler.process, matched, allowed, Bool.not_true, Bool.false_eq_true,
      if_false]
    exact .call _ (.call _ (.call _ (.call _ (.call _ (.call _ (.ret _))))))
  apply Program.Run.call
  simp only [Reconciler.headRequest, Json.getFirst, Json.getItem]
  exact processed

/-- The patch is rolled out, and `wait_ready` finds the new pod serving alone. -/
theorem served_installed :
    Served (World.disturbed Rolls (ClientWorld qwenInstaller))
      (Reconciler.runOnce qwenInstaller) ⟨oneServing, []⟩ installed (.ok true)
      ⟨rolledOver, [⟨1, rolledOver.status⟩]⟩ := by
  constructor
  · exact run_installed
  · have waited := @ClientWorld.waitReady qwenInstaller ⟨oneServing.patched, []⟩
      rolledOver 1 _ (.ok true) (served_firstRound reached_rolledOver (by decide))
    exact ⟨_, ⟨_, _, .refl, .listPending _, .refl⟩,
      _, ⟨_, _, .refl, .setStatus _ _ _ _, .refl⟩,
      _, ⟨_, _, .refl, .scaleNodegroup _, .refl⟩,
      _, ⟨_, _, .refl, .getModel _, .refl⟩,
      _, ⟨_, _, .refl, .setModel _ _, .refl⟩,
      _, ⟨_, _, .refl, waited, .refl⟩,
      _, ⟨_, _, .refl, .setStatus _ _ _ _, .refl⟩, rfl⟩

theorem known_oneServing : oneServing.Known := by
  constructor <;> decide

/-- The status that `wait_ready` read counts one pod, of the new template. -/
theorem noneOld_rolledOver : NoneOld 1 [⟨1, rolledOver.status⟩] := by
  apply noneOld_of_complete
  decide

theorem ready_serving_rolledOver :
    Serving oneServing.patched [⟨1, rolledOver.status⟩] ∧
      ∃ present, Reached oneServing present ∧
        Serving present.patched [⟨1, rolledOver.status⟩] := by
  constructor
  · exact (ready_serving qwenInstaller known_oneServing).1 _ _ _ _
      (served_firstRound reached_rolledOver (by decide)) noneOld_rolledOver
  · exact (ready_serving qwenInstaller known_oneServing).2 (.str "r1") "" (.ok ()) _ _ _
      served_installed (by simp [installed]) noneOld_rolledOver

end PrivateAiWorkspace.ModelInstaller.Rollout
