import PrivateAiWorkspace.ControlPlane.Outbound

/-!
# Integrations

`integrations.py`: the executor that resolves a tenant's credentials, refreshes
an access token when the integration declares one, and sends the request an
integration builds through the outbound guard; and its endpoint.

The mapping objects that hold credentials are references: the executor copies
the one the resolver returns and writes to its own copy only.
-/

namespace PrivateAiWorkspace.ControlPlane

open Effects Python

/-! ## The executor -/

/-- `token_refresh` of an integration. -/
structure TokenRefresh where
  allowedHosts : List String
  tokenKey : String

/-- A registered integration, apart from the code it brings along. -/
structure IntegrationSpec where
  allowedHosts : List String
  permitPrivateHosts : List String
  requiresSecret : Bool
  tokenRefresh : Option TokenRefresh

/-- `result_class` of an outcome. -/
inductive IntegrationResult where
  | success
  | unknownIntegration
  | unknownOperation
  | noCredentials
  | refreshFailed
  | blocked (reason : RejectReason)
  | upstreamError
  | upstreamTimeout
  deriving DecidableEq, Repr

/-- The text of a reason. -/
def rejectText : RejectReason → String
  | .scheme => "scheme"
  | .credentials => "credentials"
  | .hostNotAllowed => "host_not_allowed"
  | .dns => "dns"
  | .metadata => "metadata"
  | .privateIp => "private_ip"
  | .malformed => "malformed"

/-- The text of a result class. -/
def IntegrationResult.text : IntegrationResult → String
  | .success => "success"
  | .unknownIntegration => "unknown_integration"
  | .unknownOperation => "unknown_operation"
  | .noCredentials => "no_credentials"
  | .refreshFailed => "refresh_failed"
  | .blocked reason => "blocked:" ++ rejectText reason
  | .upstreamError => "upstream_error"
  | .upstreamTimeout => "upstream_timeout"

/-- `IntegrationOutcome`. -/
structure IntegrationOutcome where
  resultClass : IntegrationResult
  status : Option Int
  result : Option Json

/-- An outcome without a response. -/
def IntegrationOutcome.failed (resultClass : IntegrationResult) :
    IntegrationOutcome := ⟨resultClass, none, none⟩

/-- `OSError` and its subclasses. -/
def isOsError : PyException → Bool
  | .osError | .gaierror | .timeoutError | .brokenPipeError
  | .connectionResetError | .urlError => true
  | .httpError _ => true
  | _ => false

/-- `_TOKEN_MARGIN_S`. -/
def tokenMarginS : Int := 60

/-- The registry of an executor. -/
abbrev Integrations := List (String × IntegrationSpec)

namespace Integration

/-- `self._clock()`. -/
def clock : Service Rat := .call ServiceCall.clock Program.ofExcept

/-- `self._secret_resolver(tenant_id, integration)`. -/
def resolveSecret (tenantId integration : String) :
    Service (Option MappingRef) :=
  .call (ServiceCall.resolveSecret tenantId integration) Program.ofExcept

/-- The items of a mapping. -/
def readMapping (mapping : MappingRef) : Service (Dict String String) :=
  .call (ServiceCall.readMapping mapping) Program.ofExcept

/-- `dict(mapping)`. -/
def copyMapping (mapping : MappingRef) : Service MappingRef :=
  .call (ServiceCall.copyMapping mapping) Program.ofExcept

/-- `mapping[key] = value`. -/
def setItem (mapping : MappingRef) (key value : String) : Service Unit :=
  .call (ServiceCall.setItem mapping key value) Program.ofExcept

/-- `self._token_cache.get((tenant_id, integration))`. -/
def cacheGet (tenantId integration : String) : Service (Option (String × Rat)) :=
  .call (ServiceCall.cacheGet tenantId integration) Program.ofExcept

/-- `self._token_cache[(tenant_id, integration)] = (token, expiry)`. -/
def cacheSet (tenantId integration token : String) (expiry : Rat) :
    Service Unit :=
  .call (ServiceCall.cacheSet tenantId integration token expiry)
    Program.ofExcept

/-- `refresher.build_request(creds)`. -/
def buildRefresh (integration : String) (creds : MappingRef) :
    Service OutboundRequest :=
  .call (ServiceCall.buildRefresh integration creds) Program.ofExcept

/-- `refresher.parse_token(status, body)`. -/
def parseToken (integration : String) (status : Int) (body : Bytes) :
    Service (Option String × Int) :=
  .call (ServiceCall.parseToken integration status body) Program.ofExcept

/-- `spec.build_request(operation, params, creds)`. -/
def buildRequest (integration operation : String)
    (params : List (String × Json)) (creds : Option MappingRef) :
    Service OutboundRequest :=
  .call (ServiceCall.buildRequest integration operation params creds)
    Program.ofExcept

/-- `guarded_open`. -/
def guardedOpen (target : ValidatedTarget) (request : OutboundRequest) :
    Service OutboundResponse :=
  .call (ServiceCall.guardedOpen target request.method request.headers
    request.body) Program.ofExcept

/-- `_send`: the response, or why there is none. -/
def send (builtins : Builtins) (allowedHosts permitHosts : List String)
    (request : OutboundRequest) :
    Service (Except IntegrationResult OutboundResponse) := do
  match ← (validateOutboundUrl builtins request.url allowedHosts
      request.allowHttp permitHosts).attempt with
  | .error (.outboundReject reason) => return .error (.blocked reason)
  | .error error => .raise error
  | .ok target =>
      match ← (guardedOpen target request).attempt with
      | .ok response => return .ok response
      | .error .timeoutError => return .error .upstreamTimeout
      | .error error =>
          if isOsError error then return .error .upstreamError
          else .raise error

/-- The refresh branch of `_ensure_access_token`: mint a token, remember it and
inject it. -/
def refreshToken (builtins : Builtins) (integration tenantId : String)
    (refresher : TokenRefresh) (creds : MappingRef) (now : Rat) :
    Service (Option IntegrationResult) := do
  let request ← buildRefresh integration creds
  match ← send builtins refresher.allowedHosts [] request with
  | .error failure => return some failure
  | .ok response =>
      let (token, lifetime) ← parseToken integration response.status response.body
      match token with
      | none | some "" => return some .refreshFailed
      | some token =>
          match addSeconds now (max 0 (lifetime - tokenMarginS)) with
          | .error error => .raise error
          | .ok expiry =>
              cacheSet tenantId integration token expiry
              setItem creds refresher.tokenKey token
              return none

/-- `_ensure_access_token`: `none` when ready. -/
def ensureAccessToken (builtins : Builtins) (integration : String)
    (spec : IntegrationSpec) (tenantId : String) (creds : MappingRef) :
    Service (Option IntegrationResult) :=
  match spec.tokenRefresh with
  | none => return none
  | some refresher => do
      let now ← clock
      match ← cacheGet tenantId integration with
      | some (token, expiry) =>
          if now < expiry then
            setItem creds refresher.tokenKey token
            return none
          else refreshToken builtins integration tenantId refresher creds now
      | none => refreshToken builtins integration tenantId refresher creds now

/-- The credentials of a call: none are needed, they are ready, or the call is
given up. -/
def prepareCreds (builtins : Builtins) (secretResolver : Bool)
    (integration : String) (spec : IntegrationSpec) (tenantId : String) :
    Service (Except IntegrationResult (Option MappingRef)) := do
  if !spec.requiresSecret then return .ok none
  else if !secretResolver then return .error .noCredentials
  else
    match ← resolveSecret tenantId integration with
    | none => return .error .noCredentials
    | some resolved =>
        let items ← readMapping resolved
        if items.items.isEmpty then return .error .noCredentials
        else
          let creds ← copyMapping resolved
          match ← ensureAccessToken builtins integration spec tenantId creds with
          | some failure => return .error failure
          | none => return .ok (some creds)

/-- `_decode`. -/
def decode (builtins : Builtins) (response : OutboundResponse) :
    Except PyException Json :=
  let status : String × Json := ("status", .int response.status)
  let resultClass : String × Json :=
    ("result_class", .str (toString (response.status / 100) ++ "xx"))
  match builtins.loadsBytes response.body with
  | .ok parsed => .ok (.obj [status, resultClass, ("data", parsed)])
  | .error .valueError =>
      .ok (.obj [status, resultClass, ("bytes", .int response.body.length)])
  | .error error => .error error

/-- `invoke` of the executor. -/
def invoke (builtins : Builtins) (integrations : Integrations)
    (secretResolver : Bool) (integration operation : String) (params : List (String × Json))
    (tenantId : String) : Service IntegrationOutcome :=
  match integrations.lookup integration with
  | none => return .failed .unknownIntegration
  | some spec => do
      match ← prepareCreds builtins secretResolver integration spec tenantId with
      | .error failure => return .failed failure
      | .ok creds =>
          match ← (buildRequest integration operation params creds).attempt with
          | .error .unknownOperation => return .failed .unknownOperation
          | .error _ => return .failed .upstreamError
          | .ok request =>
              match ← send builtins spec.allowedHosts spec.permitPrivateHosts
                  request with
              | .error failure => return .failed failure
              | .ok response =>
                  let result ← Program.ofExcept (decode builtins response)
                  return ⟨.success, some response.status, some result⟩

end Integration

/-! ## The endpoint -/

/-- `_MAX_PARAMS_BYTES`. -/
def maxParamsBytes : Nat := 100000

/-- A request to run an operation of an integration. -/
structure IntegrationRequest where
  caller : Caller
  integration : String
  operation : String
  params : List (String × Json)

/-- How the operation is named in the audit log. -/
def IntegrationRequest.label (request : IntegrationRequest) : String :=
  "integration:" ++ request.integration ++ "/" ++ request.operation

/-- Integration, operation and parameters of a body. -/
def readIntegrationRequest (builtins : Builtins) (data : List (String × Json)) :
    Except JsonResponse (String × String × List (String × Json)) := do
  match Json.get data "integration" with
  | .str integration =>
      if integration = "" then
        throw (badRequest "'integration' is required.")
      match Json.get data "operation" with
      | .str operation =>
          if operation = "" then throw (badRequest "'operation' is required.")
          match Json.getOr data "params" (.obj []) with
          | .obj params =>
              if maxParamsBytes < (builtins.dumps (.obj params)).length then
                throw (.requestEntityTooLarge, barePayload "payload_too_large")
              return (integration, operation, params)
          | _ => throw (badRequest "'params' must be an object.")
      | _ => throw (badRequest "'operation' is required.")
  | _ => throw (badRequest "'integration' is required.")

/-- `tenant_state.is_enabled(tenant_id, name)`. -/
def isEnabled (tenantId name : String) : Service Bool :=
  .call (ServiceCall.isEnabled tenantId name) Program.ofExcept

/-- Allow-list and per-tenant switch, refusals audited. -/
def authorize (caller : Caller) (name label notAllowed : String)
    (allowlist : Allowlist) (shape : List ArgShape) :
    Service (Option JsonResponse) := do
  if !isAllowed allowlist caller.tenantId name then
    auditRefused caller.tenantId caller.userId label shape .denied
    return some (.forbidden, barePayload notAllowed)
  else if !(← isEnabled caller.tenantId name) then
    auditRefused caller.tenantId caller.userId label shape .tenantDisabled
    return some (.forbidden, barePayload "tenant_disabled")
  else return none

theorem guarded_authorize (past : List ServiceEvent) (caller : Caller)
    (name label notAllowed : String) (allowlist : Allowlist)
    (shape : List ArgShape) :
    Program.Guarded (fun _ => Bookkeeping) past
      (authorize caller name label notAllowed allowlist shape) := by
  unfold authorize
  split
  · exact (guarded_audit past _).bind fun _ _ _ => trivial
  · apply Program.Guarded.callThen trivial
    intro enabled
    cases enabled with
    | false => exact (guarded_audit _ _).bind fun _ _ _ => trivial
    | true => trivial

/-- `build_integrations_invoke_response` up to the limiter. -/
def prepareIntegrationsInvoke (builtins : Builtins)
    (authorization : Option String) (body : Except PyException Json)
    (tokenVerifier : Option TokenVerifier) (enabled : Bool)
    (allowlist : Allowlist) : Service (Except JsonResponse IntegrationRequest) :=
    do
  let available :=
    if enabled then .ok ()
    else .error (.serviceUnavailable, degradedPayload "integrations_disabled"
      "Personal-information integrations are disabled on this instance.")
  match ← Program.ofExcept (readRequest
      (gate builtins authorization tokenVerifier available)
      (loadObject (.badRequest, barePayload "bad_request")
        (.badRequest, barePayload "bad_request") body)
      (readIntegrationRequest builtins)) with
  | .error response => return .error response
  | .ok (caller, integration, operation, params) =>
      let request : IntegrationRequest :=
        { caller, integration, operation, params }
      match ← authorize caller integration request.label
          "integration_not_allowed" allowlist (argShape params) with
      | some refusal => return .error refusal
      | none => return .ok request

/-- The refusal of `build_integrations_invoke_response` by the limiter. -/
def refuseIntegrationsInvoke (request : IntegrationRequest) :
    Service JsonResponse := do
  auditRefused request.caller.tenantId request.caller.userId request.label
    (argShape request.params) .rateLimited
  return (.tooManyRequests, barePayload "rate_limited")

/-- `_to_http`. -/
def integrationToHttp (outcome : IntegrationOutcome) : JsonResponse :=
  match outcome.resultClass with
  | .success =>
      (.ok, .obj [("status", (outcome.status.map Json.int).getD .null),
        ("result", outcome.result.getD .null)])
  | .unknownIntegration => (.notFound, barePayload "unknown_integration")
  | .unknownOperation => (.notFound, barePayload "unknown_operation")
  | .noCredentials => (.badGateway, bareDegradedPayload "no_credentials")
  | .refreshFailed =>
      (.badGateway, bareDegradedPayload "credential_refresh_failed")
  | .blocked reason =>
      (.badGateway, .obj [("error", .str "outbound_blocked"),
        ("reason", .str (rejectText reason))])
  | .upstreamTimeout =>
      (.gatewayTimeout, bareDegradedPayload "upstream_timeout")
  | .upstreamError => (.badGateway, bareDegradedPayload "upstream_error")

/-- `build_integrations_invoke_response` after the permit is released. -/
def answerIntegrationsInvoke (notificationStore : Bool)
    (request : IntegrationRequest) (started : Rat)
    (outcome : IntegrationOutcome) : Service JsonResponse := do
  let latencyMs ← Service.latencyMs started
  auditAllowed request.caller.tenantId request.caller.userId request.label
    (argShape request.params) (.str outcome.resultClass.text) (some latencyMs)
    .null
  Service.emit notificationStore request.caller.tenantId request.caller.userId
    (if outcome.resultClass = .success then "agent_task_completed"
      else "agent_task_failed")
    ("integration:" ++ request.integration)
  return integrationToHttp outcome

/-- `build_integrations_invoke_response`. -/
def buildIntegrationsInvokeResponse (builtins : Builtins)
    (authorization : Option String) (body : Except PyException Json)
    (tokenVerifier : Option TokenVerifier) (enabled : Bool)
    (allowlist : Allowlist) (integrations : Integrations)
    (secretResolver notificationStore : Bool) : Handler Services JsonResponse :=
  Handler.limited
    (prepareIntegrationsInvoke builtins authorization body tokenVerifier enabled
      allowlist)
    (fun request => request.caller.tenantId) refuseIntegrationsInvoke
    Service.monotonic
    (fun request _ => Integration.invoke builtins integrations secretResolver
      request.integration request.operation request.params
      request.caller.tenantId)
    (answerIntegrationsInvoke notificationStore)

end PrivateAiWorkspace.ControlPlane
