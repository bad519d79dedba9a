import PrivateAiWorkspace.ControlPlane.SandboxBackends
import PrivateAiWorkspace.Dispatcher.Cluster
import PrivateAiWorkspace.Dispatcher.EnvExpansion

/-!
# A run whose pod comes to an end

The dispatcher over a cluster in which everything works: the Job of a call starts
its pod, the references in the environment of its container are replaced, the kernel
starts the runner unless an environment string is too long for it, the runner exits
with its output, and the Job is seen to end after some looks at it.
-/

namespace PrivateAiWorkspace.Dispatcher

open Effects Python K8sClient ControlPlane

/-! ## The cluster -/

/-- The environment variable of an entry of a container. -/
def envEntry : Json → Option (String × String)
  | .obj entry =>
      match Json.get entry "name", Json.get entry "value" with
      | .str name, .str value => some (name, value)
      | _, _ => none
  | _ => none

/-- The environment variables of the first container in a manifest. -/
def containerEnv : Json → List (String × String)
  | .obj fields =>
      match Json.get (dictAt "spec" (dictAt "template" (dictAt "spec" fields)))
          "containers" with
      | .arr (.obj container :: _) =>
          match Json.get container "env" with
          | .arr entries => entries.filterMap envEntry
          | _ => []
      | _ => []
  | _ => []

/-- `AGENT_TOOL_INPUT` as the container of a manifest gets it, next to the variables
of the services. -/
def toolInput (services : String → Option String) (manifest : Json) :
    Option String :=
  (EnvExpansion.environment services (containerEnv manifest)).lookup
    "AGENT_TOOL_INPUT"

theorem containerEnv_buildJobManifest (builtins : Builtins)
    (cfg : JobConfig) (runId tenantId tool : String)
    (arguments : List (String × Json)) :
    containerEnv (buildJobManifest builtins cfg runId tenantId tool arguments) =
      [("AGENT_TOOL_INPUT", jobPayload builtins tool arguments),
        ("PYTHONDONTWRITEBYTECODE", "1"), ("PYTHONHASHSEED", "0"),
        ("HOME", "/work"), ("TMPDIR", "/tmp")] := by
  simp [containerEnv, dictAt, buildJobManifest, jobContainer, envVar, envEntry,
    Json.get, Json.lookup]

/-- The input is the first variable, so only services can be referred to. -/
@[simp] theorem toolInput_buildJobManifest (services : String → Option String)
    (builtins : Builtins) (cfg : JobConfig) (runId tenantId tool : String)
    (arguments : List (String × Json)) :
    toolInput services
        (buildJobManifest builtins cfg runId tenantId tool arguments) =
      some (EnvExpansion.expand services (jobPayload builtins tool arguments)) := by
  rw [toolInput, containerEnv_buildJobManifest]
  simp [EnvExpansion.environment, List.lookup_cons]

/-- The runner, the variables of the services of the namespace, the longest
environment string the kernel starts a process with (without the null character
that ends it), the exit code that is reported of a container that could not be
started, and how often the Job is seen before it has ended. -/
structure PodWorld where
  runner : String → String
  services : String → Option String
  argLimit : Nat
  startError : Int
  looks : Nat

/-- The input as the runner finds it in its environment. -/
def PodWorld.received (world : PodWorld) (input : String) : String :=
  EnvExpansion.expand world.services input

/-- The kernel starts the runner with what it finds in its environment. -/
def PodWorld.Starts (world : PodWorld) (found : String) : Prop :=
  (Utf8.encode ("AGENT_TOOL_INPUT=" ++ found)).length ≤ world.argLimit

instance (world : PodWorld) (found : String) : Decidable (world.Starts found) :=
  inferInstanceAs (Decidable (_ ≤ _))

/-- A Job that is still running. -/
def runningJob : Json := .obj [("status", .obj [("active", .int 1)])]

/-- A Job that has ended. -/
def endedJob (succeeded : Bool) : Json :=
  if succeeded then .obj [("status", .obj [("succeeded", .int 1)])]
  else .obj [("status", .obj [("failed", .int 1),
    ("conditions", .arr [.obj [("type", .str "Failed"),
      ("reason", .str "BackoffLimitExceeded")]])])]

/-- The pod of a Job, whose container has ended. -/
def endedPod (exitCode : Int) : Json :=
  .obj [("metadata", .obj [("name", .str "runner")]),
    ("status", .obj [("containerStatuses", .arr [.obj [("state",
      .obj [("terminated", .obj [("exitCode", .int exitCode)])])]])])]

/-- The list of the pod. -/
def endedPods (exitCode : Int) : Json := .obj [("items", .arr [endedPod exitCode])]

/-- What the cluster keeps: what the runner of the Job finds in its environment, and
how often the Job will be seen before it has ended. -/
structure PodState where
  input : String
  looks : Nat

/-- How the cluster answers. -/
def PodWorld.respond (builtins : Builtins) (world : PodWorld) :
    PodState → (request : DispatcherCalls.Call) →
      Except PyException (DispatcherCalls.Answer request) × PodState
  | _, .urlopen (.createJob manifest) =>
      (.ok [], ⟨(toolInput world.services manifest).getD "", world.looks⟩)
  | state, .urlopen (.getJob _) =>
      match state.looks with
      | 0 => (.ok (Utf8.encode (builtins.dumps
          (endedJob (decide (world.Starts state.input))))), state)
      | looks + 1 =>
          (.ok (Utf8.encode (builtins.dumps runningJob)), { state with looks })
  | state, .urlopen (.listPods _) =>
      (.ok (Utf8.encode (builtins.dumps (endedPods
        (if world.Starts state.input then 0 else world.startError)))), state)
  | state, .urlopen (.readPodLog _ limit) =>
      (.ok ((Utf8.encode (world.runner state.input)).take limit), state)
  | state, .urlopen (.deleteJob _) => (.ok [], state)
  | state, .monotonic => (.ok (0 : Rat), state)
  | state, .sleep _ => (.ok (), state)

/-- `json.loads` reads what `json.dumps` has written. -/
def RoundTrips (builtins : Builtins) (value : Json) : Prop :=
  builtins.loadsBytes (Utf8.encode (builtins.dumps value)) = .ok value

/-- The documents of the cluster are read as they were written. -/
structure Speaks (builtins : Builtins) (world : PodWorld) : Prop where
  none : builtins.loadsBytes [123, 125] = .ok (.obj [])
  running : RoundTrips builtins runningJob
  ended : ∀ succeeded, RoundTrips builtins (endedJob succeeded)
  pods : RoundTrips builtins (endedPods 0)
  failedPods : RoundTrips builtins (endedPods world.startError)

/-! ## The run -/

section Run

variable {builtins : Builtins} {world : PodWorld} {state reached : PodState}

/-- The log of a runner: as much of its output as is asked for. -/
def podLog (output : String) : String :=
  Utf8.decodeReplace ((Utf8.encode output).take limitBytes)

/-- What the run comes to, of what the runner finds in its environment. -/
def podOutcome (builtins : Builtins) (world : PodWorld) (input : String) :
    Except PyException JobOutcome :=
  if world.Starts input then classifyLog builtins (podLog (world.runner input))
  else .ok ⟨.toolError, .null, .int world.startError⟩

/-- A dict is not written as nothing. -/
theorem encode_dumps_ne (fields : List (String × Json)) :
    Utf8.encode (builtins.dumps (.obj fields)) ≠ [] := by
  have opened : (builtins.dumps (.obj fields)).toList =
      '\x7b' :: (", ".intercalate (builtins.dumpsFields fields) ++ "\x7d").toList := by
    rw [Builtins.dumps, String.append_assoc, String.toList_append]
    rfl
  rw [Utf8.encode, opened]
  exact List.cons_ne_nil _ _

/-- A dict that is read as it was written. -/
theorem RoundTrips.loads {value : Json} (trips : RoundTrips builtins value)
    (dict : ∃ fields, value = .obj fields) :
    builtins.loadsBytes (orEmptyObject (Utf8.encode (builtins.dumps value))) =
      .ok value := by
  rcases dict with ⟨fields, rfl⟩
  have same : orEmptyObject (Utf8.encode (builtins.dumps (.obj fields))) =
      Utf8.encode (builtins.dumps (.obj fields)) := by
    simp [orEmptyObject, encode_dumps_ne]
  rw [same]
  exact trips

theorem eval_request {api : ApiRequest} {payload : Bytes}
    (answered : world.respond builtins state (.urlopen api) =
      (.ok payload, reached)) :
    (request api).eval (world.respond builtins) state = (.ok payload, reached) := by
  have asked : (.call (.urlopen api) Program.ofExcept : Dispatch Bytes).eval
      (world.respond builtins) state = (.ok payload, reached) :=
    (Program.eval_perform _ _).trans answered
  refine (Program.eval_attempt_bind _ _ _).trans ?_
  rw [asked]
  rfl

theorem eval_requestJson {api : ApiRequest} {payload : Bytes} {document : Json}
    (answered : world.respond builtins state (.urlopen api) =
      (.ok payload, reached))
    (loaded : builtins.loadsBytes (orEmptyObject payload) = .ok document) :
    (requestJson builtins api).eval (world.respond builtins) state =
      (.ok document, reached) := by
  refine (Program.eval_bind _ _ _).trans ?_
  rw [eval_request answered]
  dsimp only
  rw [loaded]
  rfl

/-- The Job is still running. -/
theorem eval_getJob_running (speaks : Speaks builtins world) (name input : String)
    (looks : Nat) :
    (getJob builtins name).eval (world.respond builtins) ⟨input, looks + 1⟩ =
      (.ok runningJob, ⟨input, looks⟩) :=
  eval_requestJson rfl (speaks.running.loads ⟨_, rfl⟩)

theorem endedJob_dict (succeeded : Bool) :
    ∃ fields, endedJob succeeded = .obj fields := by
  cases succeeded <;> exact ⟨_, rfl⟩

theorem eval_getJob_ended (speaks : Speaks builtins world) (name input : String) :
    (getJob builtins name).eval (world.respond builtins) ⟨input, 0⟩ =
      (.ok (endedJob (decide (world.Starts input))), ⟨input, 0⟩) :=
  eval_requestJson rfl ((speaks.ended _).loads (endedJob_dict _))

/-- The exit code that is reported of the container. -/
def exitCode (world : PodWorld) (input : String) : Int :=
  if world.Starts input then 0 else world.startError

theorem eval_listPods (speaks : Speaks builtins world) (selector input : String)
    (looks : Nat) :
    (listPods builtins selector).eval (world.respond builtins) ⟨input, looks⟩ =
      (.ok (.arr [endedPod (exitCode world input)]), ⟨input, looks⟩) := by
  have listed : (requestJson builtins (.listPods selector)).eval
      (world.respond builtins) ⟨input, looks⟩ =
        (.ok (endedPods (exitCode world input)), ⟨input, looks⟩) := by
    apply eval_requestJson rfl
    change builtins.loadsBytes (orEmptyObject (Utf8.encode (builtins.dumps
      (endedPods (exitCode world input))))) = _
    unfold exitCode
    split
    · exact speaks.pods.loads ⟨_, rfl⟩
    · exact speaks.failedPods.loads ⟨_, rfl⟩
  refine (Program.eval_bind _ _ _).trans ?_
  rw [listed]
  rfl

theorem eval_orOnK8sError {α : Type} {default value : α} {program : Dispatch α}
    (returned : program.eval (world.respond builtins) state =
      (.ok value, reached)) :
    (orOnK8sError default program).eval (world.respond builtins) state =
      (.ok value, reached) := by
  refine (Program.eval_attempt_bind _ _ _).trans ?_
  rw [returned]
  rfl

theorem eval_ofExcept {α : Type} (outcome : Except PyException α) :
    (Program.ofExcept outcome : Dispatch α).eval (world.respond builtins) state =
      (outcome, state) := by
  cases outcome <;> rfl

/-- The result is read off the log. -/
theorem eval_readPodResult (speaks : Speaks builtins world)
    (selector input : String) (looks : Nat) :
    (readPodResult builtins selector).eval (world.respond builtins)
        ⟨input, looks⟩ =
      (classifyLog builtins (podLog (world.runner input)), ⟨input, looks⟩) := by
  have log : (orOnK8sError none do
      let pods ← listPods builtins selector
      if !pods.truthy then return none
      else
        let name ← Program.ofExcept (podName pods)
        let log ← readPodLog name
        return some log : Dispatch (Option String)).eval
          (world.respond builtins) ⟨input, looks⟩ =
      (.ok (some (podLog (world.runner input))), ⟨input, looks⟩) := by
    apply eval_orOnK8sError
    refine (Program.eval_bind _ _ _).trans ?_
    rw [eval_listPods speaks]
    rfl
  refine (Program.eval_bind _ _ _).trans ?_
  rw [log]
  exact eval_ofExcept _

theorem eval_podExitCode (speaks : Speaks builtins world)
    (selector input : String) (looks : Nat) :
    (podExitCode builtins selector).eval (world.respond builtins)
        ⟨input, looks⟩ =
      (.ok (.int (exitCode world input)), ⟨input, looks⟩) := by
  apply eval_orOnK8sError
  refine (Program.eval_bind _ _ _).trans ?_
  rw [eval_listPods speaks]
  rfl

/-- The loop goes on until the Job has ended. -/
theorem eval_poll (speaks : Speaks builtins world) (cfg : JobConfig)
    (name selector input : String) {deadline : Rat} (ahead : 0 ≤ deadline)
    {looks polls : Nat} (enough : looks < polls) :
    (poll builtins cfg name selector deadline polls).eval
        (world.respond builtins) ⟨input, looks⟩ =
      ((podOutcome builtins world input).map some, ⟨input, 0⟩) := by
  induction looks generalizing polls with
  | zero =>
      cases polls with
      | zero => omega
      | succ polls =>
          refine (Program.eval_attempt_bind _ _ _).trans ?_
          rw [eval_getJob_ended speaks]
          unfold podOutcome
          by_cases starts : world.Starts input
          · rw [if_pos starts, decide_eq_true starts]
            change ((readPodResult builtins selector).bind fun outcome =>
              .ret (some outcome)).eval (world.respond builtins) ⟨input, 0⟩ = _
            rw [Program.eval_bind, eval_readPodResult speaks]
            cases classifyLog builtins (podLog (world.runner input)) <;> rfl
          · rw [if_neg starts, decide_eq_false starts]
            change ((podExitCode builtins selector).bind fun exitCode =>
              .ret (some (⟨.toolError, .null, exitCode⟩ : JobOutcome))).eval
                (world.respond builtins) ⟨input, 0⟩ = _
            rw [Program.eval_bind, eval_podExitCode speaks, exitCode, if_neg starts]
            rfl
  | succ looks ih =>
      cases polls with
      | zero => omega
      | succ polls =>
          refine (Program.eval_attempt_bind _ _ _).trans ?_
          rw [eval_getJob_running speaks]
          -- No time passes, so the deadline is still ahead.
          change (if deadline < (0 : Rat) then .ret (some (.bare .toolTimeout))
            else (sleep cfg.pollInterval).bind fun _ =>
              poll builtins cfg name selector deadline polls :
                Dispatch (Option JobOutcome)).eval (world.respond builtins)
                  ⟨input, looks⟩ = _
          rw [if_neg (Rat.not_lt.mpr ahead)]
          exact ih (by omega)

/-- The run of a call comes to the outcome of its pod. -/
theorem eval_runToolJob (speaks : Speaks builtins world) {cfg : JobConfig}
    (ahead : 0 ≤ cfg.overallTimeout) {polls : Nat} (enough : world.looks < polls)
    (runId tenantId tool : String) (arguments : List (String × Json)) :
    ((runToolJob builtins cfg polls runId tenantId tool arguments).eval
        (world.respond builtins) state).1 =
      (podOutcome builtins world
        (world.received (jobPayload builtins tool arguments))).map some := by
  have created : (createJob builtins (buildJobManifest builtins cfg runId tenantId
      tool arguments)).eval (world.respond builtins) state =
        (.ok (.obj []),
          ⟨world.received (jobPayload builtins tool arguments), world.looks⟩) := by
    refine @eval_requestJson _ _ _ _ _ [] _ ?_ speaks.none
    simp [PodWorld.respond, PodWorld.received]
  have reaped (input : String) (looks : Nat) :
      (reap builtins (jobName builtins runId)).eval (world.respond builtins)
        ⟨input, looks⟩ = (.ok (), ⟨input, looks⟩) := by
    apply eval_orOnK8sError
    refine (Program.eval_bind _ _ _).trans ?_
    rw [@eval_requestJson _ _ _ _ _ [] _ rfl speaks.none]
    rfl
  have deadline : 0 ≤ (0 : Rat) + cfg.overallTimeout := by
    rwa [Rat.zero_add]
  have worked : (do
      let started ← monotonic
      poll builtins cfg (jobName builtins runId) (runSelector runId)
        (started + cfg.overallTimeout) polls : Dispatch (Option JobOutcome)).eval
          (world.respond builtins)
          ⟨world.received (jobPayload builtins tool arguments), world.looks⟩ =
        ((podOutcome builtins world
            (world.received (jobPayload builtins tool arguments))).map some,
          ⟨world.received (jobPayload builtins tool arguments), 0⟩) :=
    eval_poll speaks cfg _ _ _ deadline enough
  refine (congrArg Prod.fst (Program.eval_attempt_bind _ _ _)).trans ?_
  rw [created]
  refine (congrArg Prod.fst (Program.eval_tryFinally _ _ _)).trans ?_
  rw [worked, reaped]

end Run

end PrivateAiWorkspace.Dispatcher
