import PrivateAiWorkspace.ControlPlane.AgentTools

/-!
# MCP tools

The endpoint of `mcp.py` that runs one tool of an allow-listed MCP server. The
executor, which spawns the server, is called as a backend.
-/

namespace PrivateAiWorkspace.ControlPlane

open Effects Python

/-- Names of `MCP_SERVERS`. -/
def mcpServers : List String := ["stub"]

/-- `_MAX_ARGS_BYTES` of `mcp.py`. -/
def mcpMaxArgsBytes : Nat := 100000

/-- A request to run a tool of a server. -/
structure McpRequest where
  caller : Caller
  server : String
  tool : String
  arguments : List (String × Json)

/-- How the tool is named in the audit log. -/
def McpRequest.label (request : McpRequest) : String :=
  "mcp:" ++ request.server ++ "/" ++ request.tool

/-- Server, tool and arguments of a body. -/
def readMcpRequest (builtins : Builtins) (data : List (String × Json)) :
    Except JsonResponse (String × String × List (String × Json)) := do
  match Json.get data "server" with
  | .str server =>
      if server = "" then throw (badRequest "'server' is required.")
      match Json.get data "tool" with
      | .str tool =>
          if tool = "" then throw (badRequest "'tool' is required.")
          match Json.getOr data "arguments" (.obj []) with
          | .obj arguments =>
              if mcpMaxArgsBytes < (builtins.dumps (.obj arguments)).length then
                throw (.requestEntityTooLarge, barePayload "payload_too_large")
              return (server, tool, arguments)
          | _ => throw (badRequest "'arguments' must be an object.")
      | _ => throw (badRequest "'tool' is required.")
  | _ => throw (badRequest "'server' is required.")

/-- `build_mcp_invoke_response` up to the limiter. -/
def prepareMcpInvoke (builtins : Builtins) (authorization : Option String)
    (body : Except PyException Json) (tokenVerifier : Option TokenVerifier)
    (enabled : Bool) (allowlist : Allowlist) :
    Service (Except JsonResponse McpRequest) := do
  let available :=
    if enabled then .ok ()
    else .error (.serviceUnavailable, degradedPayload "mcp_disabled"
      "MCP integrations are disabled on this instance.")
  match ← Program.ofExcept (readRequest
      (gate builtins authorization tokenVerifier available)
      (loadObject (.badRequest, barePayload "bad_request")
        (.badRequest, barePayload "bad_request") body)
      (readMcpRequest builtins)) with
  | .error response => return .error response
  | .ok (caller, server, tool, arguments) =>
      let request : McpRequest := { caller, server, tool, arguments }
      if isAllowed allowlist caller.tenantId server && server ∈ mcpServers then
        return .ok request
      else
        auditRefused caller.tenantId caller.userId request.label
          (argShape arguments) .denied
        return .error (.forbidden, barePayload "server_not_allowed")

/-- The refusal of `build_mcp_invoke_response` by the limiter. -/
def refuseMcpInvoke (request : McpRequest) : Service JsonResponse := do
  auditRefused request.caller.tenantId request.caller.userId request.label
    (argShape request.arguments) .rateLimited
  return (.tooManyRequests, barePayload "rate_limited")

/-- `executor.call_tool(server, tool, arguments, tenant_id)`. -/
def callMcpTool (request : McpRequest) : Service McpOutcome :=
  .call (ServiceCall.callTool request.server request.tool request.arguments
    request.caller.tenantId) Program.ofExcept

/-- `build_mcp_invoke_response` after the permit is released. -/
def answerMcpInvoke (notificationStore : Bool) (request : McpRequest)
    (started : Rat) (outcome : McpOutcome) : Service JsonResponse := do
  let latencyMs ← Service.latencyMs started
  auditAllowed request.caller.tenantId request.caller.userId request.label
    (argShape request.arguments) (.str outcome.resultClass) (some latencyMs)
    .null
  Service.emit notificationStore request.caller.tenantId request.caller.userId
    (if outcome.resultClass = "success" then "agent_task_completed"
      else "agent_task_failed")
    ("mcp:" ++ request.server)
  if outcome.resultClass = "success" then
    return (.ok, .obj [("server", .str request.server),
      ("tool", .str request.tool), ("result", outcome.result)])
  else if outcome.resultClass = "unknown_tool" then
    return (.notFound, barePayload "unknown_tool")
  else if outcome.resultClass = "server_timeout" then
    return (.gatewayTimeout, bareDegradedPayload "mcp_timeout")
  else return (.badGateway, bareDegradedPayload "mcp_error")

/-- `build_mcp_invoke_response`. -/
def buildMcpInvokeResponse (builtins : Builtins)
    (authorization : Option String) (body : Except PyException Json)
    (tokenVerifier : Option TokenVerifier) (enabled : Bool)
    (allowlist : Allowlist) (notificationStore : Bool) :
    Handler Services JsonResponse :=
  Handler.limited
    (prepareMcpInvoke builtins authorization body tokenVerifier enabled
      allowlist)
    (fun request => request.caller.tenantId) refuseMcpInvoke Service.monotonic
    (fun request _ => callMcpTool request) (answerMcpInvoke notificationStore)

end PrivateAiWorkspace.ControlPlane
