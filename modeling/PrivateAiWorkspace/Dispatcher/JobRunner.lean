import PrivateAiWorkspace.Dispatcher.K8sClient

/-!
# Running a tool as a Job

`jobrunner.py`: create the Job of a call, poll it to completion, read the result
off the log of its pod, and reap the Job on every way out.

The loop of the source has no bound. Here it takes at most `polls` turns, and a
run that takes more of them ends without an outcome; any other run is one of the
source.
-/

namespace PrivateAiWorkspace.Dispatcher

open Effects Python K8sClient

/-- `result_class` of an outcome. -/
inductive JobResult where
  | success
  | unknownTool
  | toolError
  | toolTimeout
  deriving DecidableEq, Repr

/-- The text of a result class. -/
def JobResult.text : JobResult → String
  | .success => "success"
  | .unknownTool => "unknown_tool"
  | .toolError => "tool_error"
  | .toolTimeout => "tool_timeout"

/-- `JobOutcome`. The result and the exit code are passed on as they come. -/
structure JobOutcome where
  resultClass : JobResult
  result : Json
  exitCode : Json

/-- `JobOutcome(result_class)`. -/
def JobOutcome.bare (resultClass : JobResult) : JobOutcome :=
  ⟨resultClass, .null, .null⟩

/-- `_classify_log`. -/
def classifyLog (builtins : Builtins) (log : String) :
    Except PyException JobOutcome :=
  match builtins.loads (if log = "" then "\x7b\x7d" else log) with
  | .error .valueError => .ok ⟨.toolError, .null, .int 0⟩
  | .error error => .error error
  | .ok (.obj data) =>
      if (Json.get data "ok").truthy then
        .ok ⟨.success, Json.get data "result", .int 0⟩
      else
        match Json.get data "error" with
        | .str "unknown_tool" => .ok ⟨.unknownTool, .null, .int 0⟩
        | _ => .ok ⟨.toolError, .null, .int 0⟩
  | .ok _ => .ok ⟨.toolError, .null, .int 0⟩

/-- `for item in value`. -/
def iterate : Json → Except PyException (List Json)
  | .arr items => .ok items
  | .str text => .ok (text.toList.map fun c => .str c.toString)
  | .obj fields => .ok (fields.map fun field => .str field.1)
  | _ => .error .typeError

/-- The condition says that the deadline was exceeded. -/
def isDeadline (cond : List (String × Json)) : Bool :=
  match Json.get cond "type", Json.get cond "reason" with
  | .str "Failed", .str "DeadlineExceeded" => true
  | _, _ => false

/-- The loop over the conditions. -/
def deadlineAmong : List Json → Except PyException JobResult
  | [] => .ok .toolError
  | .obj cond :: rest =>
      if isDeadline cond then .ok .toolTimeout else deadlineAmong rest
  | _ :: _ => .error .attributeError

/-- `_job_failed_reason`. -/
def jobFailedReason (job : Json) : Except PyException JobResult := do
  let status ← getAttrOr "status" (.obj []) job
  let conditions ← getAttrOr "conditions" (.arr []) status
  let items ← iterate (conditions.orElse (.arr []))
  deadlineAmong items

/-- `pods[0].get("metadata", {}).get("name")`. -/
def podName (pods : Json) : Except PyException Json := do
  let pod ← pods.getFirst
  let metadata ← getAttrOr "metadata" (.obj []) pod
  metadata.getAttr "name"

/-- The exit code in the status of the first pod. -/
def exitCodeOf (pods : Json) : Except PyException Json := do
  let pod ← pods.getFirst
  let status ← getAttrOr "status" (.obj []) pod
  let statuses ← getAttrOr "containerStatuses" (.arr []) status
  let state ←
    if statuses.truthy then do
      let first ← statuses.getFirst
      getAttrOr "state" (.obj []) first
    else .ok (.obj [])
  let term ← getAttrOr "terminated" (.obj []) state
  term.getAttr "exitCode"

/-- What a `try` around `program` with `except K8sError: return default` does. -/
def orOnK8sError {α : Type} (default : α) (program : Dispatch α) : Dispatch α := do
  match ← program.attempt with
  | .ok value => return value
  | .error error => if error = k8sError then return default else .raise error

/-- `_read_pod_result`. -/
def readPodResult (builtins : Builtins) (selector : String) :
    Dispatch JobOutcome := do
  let log ← orOnK8sError none do
    let pods ← listPods builtins selector
    if !pods.truthy then return none
    else
      let name ← Program.ofExcept (podName pods)
      let log ← readPodLog name
      return some log
  match log with
  | none => return .bare .toolError
  | some log => Program.ofExcept (classifyLog builtins log)

/-- `_pod_exit_code`. -/
def podExitCode (builtins : Builtins) (selector : String) : Dispatch Json :=
  orOnK8sError .null do
    let pods ← listPods builtins selector
    if !pods.truthy then return .null else Program.ofExcept (exitCodeOf pods)

/-- `monotonic()`. -/
def monotonic : Dispatch Rat := .call .monotonic Program.ofExcept

/-- `sleep(seconds)`. -/
def sleep (seconds : Rat) : Dispatch Unit := .call (.sleep seconds) Program.ofExcept

/-- The polling loop, with so many turns at most. -/
def poll (builtins : Builtins) (cfg : JobConfig) (name selector : String)
    (deadline : Rat) : Nat → Dispatch (Option JobOutcome)
  | 0 => return none
  | polls + 1 => do
      match ← (getJob builtins name).attempt with
      | .error error =>
          if error = k8sError then return some (.bare .toolError)
          else .raise error
      | .ok job =>
          let status ← Program.ofExcept (getAttrOr "status" (.obj []) job)
          let succeeded ← Program.ofExcept (status.getAttr "succeeded")
          if succeeded.truthy then
            let outcome ← readPodResult builtins selector
            return some outcome
          else
            let failed ← Program.ofExcept (status.getAttr "failed")
            if failed.truthy then
              let reason ← Program.ofExcept (jobFailedReason job)
              let exitCode ← podExitCode builtins selector
              return some ⟨reason, .null, exitCode⟩
            else
              let now ← monotonic
              if deadline < now then return some (.bare .toolTimeout)
              else
                sleep cfg.pollInterval
                poll builtins cfg name selector deadline polls

/-- The clean-up of `run_tool_job`. -/
def reap (builtins : Builtins) (name : String) : Dispatch Unit :=
  orOnK8sError () (deleteJob builtins name)

/-- The `selector` of the pods of a run. -/
def runSelector (runId : String) : String :=
  "agent-tools/run-id=" ++ safeLabel runId

/-- What `run_tool_job` does once the Job is created. -/
def await (builtins : Builtins) (cfg : JobConfig) (polls : Nat)
    (runId : String) : Dispatch (Option JobOutcome) :=
  let work : Dispatch (Option JobOutcome) := do
    let started ← monotonic
    poll builtins cfg (jobName builtins runId) (runSelector runId)
      (started + cfg.overallTimeout) polls
  work.tryFinally (reap builtins (jobName builtins runId))

/-- `run_tool_job`. -/
def runToolJob (builtins : Builtins) (cfg : JobConfig) (polls : Nat)
    (runId tenantId tool : String) (arguments : List (String × Json)) :
    Dispatch (Option JobOutcome) := do
  match ← (createJob builtins (buildJobManifest builtins cfg runId tenantId tool
      arguments)).attempt with
  | .error error =>
      if error = k8sError then return some (.bare .toolError) else .raise error
  | .ok _ => await builtins cfg polls runId

end PrivateAiWorkspace.Dispatcher
