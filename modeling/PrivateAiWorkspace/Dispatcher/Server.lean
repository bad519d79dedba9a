import PrivateAiWorkspace.ControlPlane.AgentTools
import PrivateAiWorkspace.Dispatcher.JobRunner

/-!
# The endpoint of the dispatcher

`server.py`: a body of `POST /run` is authenticated and validated, and the tool it
names is run as a Job. A request that has passed carries what was checked of it.
-/

namespace PrivateAiWorkspace.Dispatcher

open Effects Python ControlPlane

/-- `DispatcherConfig`. -/
structure DispatcherConfig where
  token : Option String
  image : String
  namespaceName : String := "agent-jobs"
  runnerServiceAccount : String := "agent-tool-runner"
  cpuLimit : String := "500m"
  memoryLimit : String := "256Mi"
  deadlineSeconds : Int := 30
  ttlSeconds : Int := 120

/-- `job_config`. -/
def DispatcherConfig.jobConfig (config : DispatcherConfig) : JobConfig where
  image := config.image
  namespaceName := config.namespaceName
  runnerServiceAccount := config.runnerServiceAccount
  cpuLimit := config.cpuLimit
  memoryLimit := config.memoryLimit
  deadlineSeconds := config.deadlineSeconds
  ttlSeconds := config.ttlSeconds

/-- A run that has been validated. -/
structure RunRequest where
  runId : String
  tenantId : String
  tool : String
  arguments : List (String × Json)
  runId_ne : runId ≠ ""
  tenantId_ne : tenantId ≠ ""
  executor : toolExecutor tool = .job

/-- `_bearer`. -/
def bearer (lower : String → String) (authorization : Option String) :
    Option String :=
  match bearerToken lower authorization with
  | some "" => none
  | token => token

/-- `hmac.compare_digest` of two texts, which refuses text outside ASCII. -/
def compareDigest (left right : String) : Except PyException Bool :=
  if Str.isAscii left && Str.isAscii right then .ok (left == right)
  else .error .typeError

/-- `{"error": error}`. -/
def refusal (error : String) : Json := .obj [("error", .str error)]

/-- `{"error": "bad_request", "detail": detail}`. -/
def badRun (detail : String) : JsonResponse :=
  (.badRequest, errorPayload "bad_request" detail)

/-- The checks of the fields of a body. -/
def readRun (data : List (String × Json)) : Except JsonResponse RunRequest :=
  match Json.get data "tool" with
  | .str tool =>
      if tool = "" then .error (badRun "'tool' required")
      else
        match Json.getOr data "arguments" (.obj []) with
        | .obj arguments =>
            match Json.get data "run_id" with
            | .str runId =>
                if runId_ne : runId = "" then .error (badRun "'run_id' required")
                else
                  match Json.get data "tenant_id" with
                  | .str tenantId =>
                      if tenantId_ne : tenantId = "" then
                        .error (badRun "'tenant_id' required")
                      else if executor : toolExecutor tool = .job then
                        .ok { runId, tenantId, tool, arguments, runId_ne,
                              tenantId_ne, executor }
                      else .error (.badRequest, refusal "not_a_job_tool")
                  | _ => .error (badRun "'tenant_id' required")
            | _ => .error (badRun "'run_id' required")
        | _ => .error (badRun "'arguments' must be object")
  | _ => .error (badRun "'tool' required")

/-- The checks of a body behind the gate. -/
def loadRun (builtins : Builtins) (body : Bytes) :
    Except PyException (Except JsonResponse RunRequest) :=
  match builtins.loadsBytes body with
  | .error .valueError => .ok (.error (badRun "invalid JSON"))
  | .error error => .error error
  | .ok (.obj data) => .ok (readRun data)
  | .ok _ => .ok (.error (.badRequest, refusal "bad_request"))

/-- `build_run_response` up to the call of the runner. A tool that is not
registered has no executor either. -/
def prepareRun (builtins : Builtins) (authorization : Option String)
    (body : Bytes) (config : DispatcherConfig) :
    Except PyException (Except JsonResponse RunRequest) :=
  match config.token with
  | none | some "" => .ok (.error (.serviceUnavailable,
      refusal "dispatcher_unconfigured"))
  | some token =>
      match bearer builtins.lower authorization with
      | none => .ok (.error (.unauthorized, refusal "unauthorized"))
      | some presented =>
          match compareDigest presented token with
          | .error error => .error error
          | .ok false => .ok (.error (.unauthorized, refusal "unauthorized"))
          | .ok true => loadRun builtins body

/-- The payload of an outcome. -/
def outcomePayload (outcome : JobOutcome) : Json :=
  .obj [("result_class", .str outcome.resultClass.text),
    ("result", outcome.result), ("exit_code", outcome.exitCode)]

/-- The run of a request that has been validated. -/
def runRequest (builtins : Builtins) (config : DispatcherConfig) (polls : Nat)
    (run : RunRequest) : Dispatch (Option JobOutcome) :=
  runToolJob builtins config.jobConfig polls run.runId run.tenantId run.tool
    run.arguments

/-- `build_run_response`. -/
def buildRunResponse (builtins : Builtins) (polls : Nat)
    (authorization : Option String) (body : Bytes) (config : DispatcherConfig) :
    Dispatch (Option JsonResponse) := do
  match ← Program.ofExcept (prepareRun builtins authorization body config) with
  | .error response => return some response
  | .ok run =>
      let outcome ← runRequest builtins config polls run
      return outcome.map fun outcome => (.ok, outcomePayload outcome)

/-- `_MAX_BODY`. -/
def maxBody : Nat := 256 * 1024

/-- `do_POST` of `/run`. -/
def postRun (builtins : Builtins) (polls : Nat) (authorization : Option String)
    (body : Bytes) (config : DispatcherConfig) : Dispatch (Option JsonResponse) :=
  if maxBody < body.length then
    return some (.requestEntityTooLarge, refusal "too_large")
  else buildRunResponse builtins polls authorization body config

end PrivateAiWorkspace.Dispatcher
