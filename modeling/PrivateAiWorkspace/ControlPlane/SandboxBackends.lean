import PrivateAiWorkspace.ControlPlane.Services
import PrivateAiWorkspace.Python.Utf8

/-!
# The two backends of a tool

`SandboxExecutor` of `agent_tools.py` runs a tool in a process of its own and
`DispatcherJobExecutor` of `job_executor.py` sends it to the dispatcher. Both are
given here as what they make of the end of the process and of the answer of the
dispatcher.
-/

namespace PrivateAiWorkspace.ControlPlane

open Python

/-! ## The process -/

/-- How the runner process ends: its time is up, or it exits with its output. -/
inductive ProcessEnd where
  | timeout
  | exited (returncode : Int) (out : Bytes)

/-- The outcome of what `json.loads` makes of the output of a runner. Everything
else than `ValueError` is caught further out. -/
def verdict : Except PyException Json → SandboxOutcome
  | .error .valueError => ⟨.str "tool_error", .null, .int 0⟩
  | .error _ => .toolError
  | .ok (.obj data) =>
      if (Json.get data "ok").truthy then
        ⟨.str "success", Json.get data "result", .int 0⟩
      else
        match Json.get data "error" with
        | .str "unknown_tool" => ⟨.str "unknown_tool", .null, .int 0⟩
        | _ => ⟨.str "tool_error", .null, .int 0⟩
  | .ok _ => ⟨.str "tool_error", .null, .int 0⟩

namespace SandboxExecutor

variable (builtins : Builtins)

/-- `payload`: what the runner reads from its input. -/
def payload (tool : String) (arguments : List (String × Json)) : String :=
  builtins.dumps (.obj [("tool", .str tool), ("arguments", .obj arguments)])

/-- What `execute` makes of the end of the process, or of the exception that kept
it from starting. -/
def outcome : Except PyException ProcessEnd → SandboxOutcome
  | .error _ => .toolError
  | .ok .timeout => ⟨.str "tool_timeout", .null, .null⟩
  | .ok (.exited returncode out) =>
      if returncode ≠ 0 then ⟨.str "tool_error", .null, .int returncode⟩
      else verdict (builtins.loadsBytes (orEmptyObject out))

/-- `execute`, over what running a process on some input ends in. -/
def execute (runProcess : Bytes → Except PyException ProcessEnd) (tool : String)
    (arguments : List (String × Json)) : SandboxOutcome :=
  outcome builtins (runProcess (Utf8.encode (payload builtins tool arguments)))

end SandboxExecutor

/-! ## The dispatcher -/

/-- `text.rstrip("/")`. -/
def rstripSlash (text : String) : String :=
  String.ofList (text.toList.reverse.dropWhile (· = '/')).reverse

/-- `DispatcherJobExecutor`. -/
structure DispatcherJobExecutor where
  baseUrl : Option String
  token : Option String

namespace DispatcherJobExecutor

variable (builtins : Builtins)

/-- `configured`. -/
def configured (executor : DispatcherJobExecutor) : Bool :=
  rstripSlash (executor.baseUrl.getD "") != "" && executor.token.getD "" != ""

/-- The document of a call. -/
def requestBody (tool : String) (arguments : List (String × Json))
    (tenantId runId : String) : Json :=
  .obj [("tenant_id", .str tenantId), ("run_id", .str runId), ("tool", .str tool),
    ("arguments", .obj arguments)]

/-- What `execute` makes of the answer of the dispatcher. -/
def outcome : Except PyException Bytes → SandboxOutcome
  | .error .timeoutError => ⟨.str "tool_timeout", .null, .null⟩
  | .error _ => .toolError
  | .ok payload =>
      match builtins.loadsBytes (orEmptyObject payload) with
      | .error .timeoutError => ⟨.str "tool_timeout", .null, .null⟩
      | .error _ => .toolError
      | .ok (.obj data) =>
          ⟨Json.getOr data "result_class" (.str "tool_error"),
            Json.get data "result", Json.get data "exit_code"⟩
      | .ok _ => .toolError

/-- `execute`, over what a request to the dispatcher is answered with. -/
def execute (executor : DispatcherJobExecutor)
    (post : String → String → Bytes → Except PyException Bytes) (tool : String)
    (arguments : List (String × Json)) (tenantId runId : String) :
    SandboxOutcome :=
  if executor.configured then
    outcome builtins (post (rstripSlash (executor.baseUrl.getD "") ++ "/run")
      ("Bearer " ++ executor.token.getD "")
      (Utf8.encode (builtins.dumps (requestBody tool arguments tenantId runId))))
  else .toolError

end DispatcherJobExecutor

end PrivateAiWorkspace.ControlPlane
