import PrivateAiWorkspace.ControlPlane.Services

/-!
# Agent tools

The registry of `sandbox/tools.py` and the endpoint of `agent_tools.py` that
runs one tool: allow-listed, validated, limited and audited.
-/

namespace PrivateAiWorkspace.ControlPlane

open Effects Python

/-! ## The registry -/

/-- `type` of an argument in a schema. -/
inductive ArgType where
  | string
  | integer
  deriving DecidableEq, Repr

/-- The text of a type in the schema. -/
def ArgType.text : ArgType → String
  | .string => "string"
  | .integer => "integer"

/-- The rule of one argument in a schema. -/
structure ArgRule where
  type : Option ArgType
  required : Bool
  maxLen : Option Nat

/-- Which sandbox backend runs a tool. -/
inductive ToolExecutor where
  | subprocess
  | job
  deriving DecidableEq, Repr

/-- An entry of `TOOLS`, as far as the control plane reads it. -/
structure ToolSpec where
  description : String
  schema : List (String × ArgRule)
  executor : ToolExecutor

/-- `_MAX_TEXT`. -/
def maxText : Nat := 100000

/-- `TOOLS`. -/
def tools : List (String × ToolSpec) :=
  [("text_stats",
      { description :=
          "Return character, word, and line counts for a text string."
        schema := [("text", ⟨some .string, true, some maxText⟩)]
        executor := .subprocess }),
    ("text_stats_job",
      { description := "Like text_stats, but executed in an isolated " ++
          "Kubernetes Job."
        schema := [("text", ⟨some .string, true, some maxText⟩)]
        executor := .job })]

/-- `TOOLS.get(name)`. -/
def toolSpec (name : String) : Option ToolSpec := tools.lookup name

/-- `tool_executor`. -/
def toolExecutor (name : String) : ToolExecutor :=
  ((toolSpec name).map ToolSpec.executor).getD .subprocess

/-! ## Validation -/

/-- `_MAX_ARGS_BYTES`. -/
def maxArgsBytes : Nat := 200000

/-- A value has the type a rule asks for. -/
def ArgRule.admits (rule : ArgRule) (value : Json) : Option String :=
  match rule.type, value with
  | some .string, .str _ => none
  | some .string, _ => some "' must be a string."
  | some .integer, .int _ => none
  | some .integer, _ => some "' must be an integer."
  | none, _ => none

/-- One round of the loop of `_validate_arguments`. -/
def checkArgument (arguments : List (String × Json)) (name : String)
    (rule : ArgRule) : Option String :=
  match Json.lookup name arguments with
  | none => if rule.required then some ("'" ++ name ++ "' is required.") else none
  | some value =>
      match rule.admits value with
      | some complaint => some ("'" ++ name ++ complaint)
      | none =>
          match rule.maxLen, sizeOf value with
          | some maxLen, some size =>
              if maxLen < size then
                some ("'" ++ name ++ "' exceeds the maximum length of " ++
                  toString maxLen ++ ".")
              else none
          | _, _ => none

/-- `_validate_arguments`: the first complaint, if any. -/
def validateArguments (spec : ToolSpec) (arguments : List (String × Json)) :
    Option String :=
  spec.schema.findSome? fun rule => checkArgument arguments rule.1 rule.2

/-! ## Running a tool -/

/-- `executor.execute(tool, arguments)`. -/
def execute (tool : String) (arguments : List (String × Json)) :
    Service SandboxOutcome :=
  .call (ServiceCall.execute tool arguments) Program.ofExcept

/-- `job_executor.execute(tool, arguments, tenant_id=..., run_id=...)`. -/
def executeJob (tool : String) (arguments : List (String × Json))
    (tenantId runId : String) : Service SandboxOutcome :=
  .call (ServiceCall.executeJob tool arguments tenantId runId) Program.ofExcept

/-! ## The endpoint -/

/-- The refusal of the operator's kill-switch. -/
def toolsDisabled (what : String) : JsonResponse :=
  (.serviceUnavailable,
    degradedPayload "tools_disabled" (what ++ " is disabled on this instance."))

/-- A request to run a tool. -/
structure ToolRequest where
  caller : Caller
  tool : String
  arguments : List (String × Json)

/-- Tool and arguments of a body. -/
def readToolRequest (builtins : Builtins) (data : List (String × Json)) :
    Except JsonResponse (String × List (String × Json)) := do
  match Json.get data "tool" with
  | .str tool =>
      if tool = "" then throw (badRequest "'tool' is required.")
      match Json.getOr data "arguments" (.obj []) with
      | .obj arguments =>
          if maxArgsBytes < (builtins.dumps (.obj arguments)).length then
            throw (.requestEntityTooLarge, errorPayload "payload_too_large"
              ("arguments exceed " ++ toString maxArgsBytes ++ " bytes."))
          return (tool, arguments)
      | _ => throw (badRequest "'arguments' must be an object.")
  | _ => throw (badRequest "'tool' is required.")

/-- `build_tool_invoke_response` up to the limiter. -/
def prepareToolInvoke (builtins : Builtins) (authorization : Option String)
    (body : Except PyException Json) (tokenVerifier : Option TokenVerifier)
    (enabled : Bool) (allowlist : Allowlist) :
    Service (Except JsonResponse ToolRequest) := do
  let available :=
    if enabled then .ok () else .error (toolsDisabled "Tool execution")
  match ← Program.ofExcept (readRequest
      (gate builtins authorization tokenVerifier available)
      (loadObject (badRequest "Body is not valid JSON.")
        (badRequest "Body must be a JSON object.") body)
      (readToolRequest builtins)) with
  | .error response => return .error response
  | .ok (caller, tool, arguments) =>
      match isAllowed allowlist caller.tenantId tool, toolSpec tool with
      | true, some spec =>
          match validateArguments spec arguments with
          | some complaint => return .error (badRequest complaint)
          | none => return .ok { caller, tool, arguments }
      | _, _ =>
          -- The same answer whether the tool is unknown or not allowed.
          auditRefused caller.tenantId caller.userId tool (argShape arguments)
            .denied
          return .error (.forbidden, errorPayload "tool_not_allowed"
            "This tool is not permitted for your organisation.")

/-- The refusal of `build_tool_invoke_response` by the limiter. -/
def refuseToolInvoke (request : ToolRequest) : Service JsonResponse := do
  auditRefused request.caller.tenantId request.caller.userId request.tool
    (argShape request.arguments) .rateLimited
  return (.tooManyRequests, errorPayload "rate_limited"
    "Tool execution rate or concurrency limit exceeded; try again shortly.")

/-- The part of `build_tool_invoke_response` that holds the permit. -/
def runTool (jobExecutor : Bool) (request : ToolRequest) (runId : String) :
    Service SandboxOutcome :=
  match toolExecutor request.tool with
  | .job =>
      if jobExecutor then
        executeJob request.tool request.arguments request.caller.tenantId runId
      else return .toolError
  | .subprocess => execute request.tool request.arguments

/-- `build_tool_invoke_response` after the permit is released. -/
def answerToolInvoke (notificationStore : Bool) (request : ToolRequest)
    (started : Rat) (outcome : SandboxOutcome) : Service JsonResponse := do
  let latencyMs ← Service.latencyMs started
  auditAllowed request.caller.tenantId request.caller.userId request.tool
    (argShape request.arguments) outcome.resultClass (some latencyMs)
    outcome.exitCode
  let eventClass :=
    match outcome.resultClass with
    | .str "success" => "agent_task_completed"
    | _ => "agent_task_failed"
  Service.emit notificationStore request.caller.tenantId request.caller.userId
    eventClass request.tool
  match outcome.resultClass with
  | .str "success" =>
      return (.ok, .obj [("tool", .str request.tool), ("result", outcome.result),
        ("result_class", .str "success"), ("latency_ms", .int latencyMs)])
  | .str "tool_timeout" =>
      return (.gatewayTimeout, degradedPayload "tool_timeout"
        "The tool exceeded its time budget and was terminated.")
  | _ =>
      return (.badGateway, degradedPayload "tool_error"
        "The tool failed to execute.")

/-- `build_tool_invoke_response`. -/
def buildToolInvokeResponse (builtins : Builtins)
    (authorization : Option String) (body : Except PyException Json)
    (tokenVerifier : Option TokenVerifier) (enabled : Bool)
    (allowlist : Allowlist) (notificationStore jobExecutor : Bool) :
    Handler Services JsonResponse :=
  Handler.limited
    (prepareToolInvoke builtins authorization body tokenVerifier enabled
      allowlist)
    (fun request => request.caller.tenantId) refuseToolInvoke
    (do
      let started ← Service.monotonic
      let runId ← Service.uuid4
      return (started, runId))
    (fun request started => runTool jobExecutor request started.2)
    fun request started outcome =>
      answerToolInvoke notificationStore request started.1 outcome

end PrivateAiWorkspace.ControlPlane
