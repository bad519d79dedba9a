import PrivateAiWorkspace.ControlPlane.Integrations
import PrivateAiWorkspace.Python.Pattern

/-!
# Media services

`media.py`: the executor that forwards a request to the backend of a service and
keeps what the backend made as an artifact of the caller, and its endpoints.
Generation and synthesis are one program with different payloads.
-/

namespace PrivateAiWorkspace.ControlPlane

open Effects Python

/-! ## The executor -/

/-- `kind` of a media service. -/
inductive MediaKind where
  | stt
  | image
  | tts
  deriving DecidableEq, Repr

/-- `MediaService`. -/
structure MediaService where
  name : String
  kind : MediaKind
  baseUrl : String
  model : String

/-- The registry of an executor. -/
abbrev MediaServices := List (String × MediaService)

/-- `result_class` of an outcome. -/
inductive MediaResult where
  | success
  | unknownService
  | wrongKind
  | backendError
  | backendTimeout
  deriving DecidableEq, Repr

/-- The text of a result class. -/
def MediaResult.text : MediaResult → String
  | .success => "success"
  | .unknownService => "unknown_service"
  | .wrongKind => "wrong_kind"
  | .backendError => "backend_error"
  | .backendTimeout => "backend_timeout"

/-- `MediaOutcome`. -/
structure MediaOutcome where
  resultClass : MediaResult
  status : Option Int
  result : Option Json

/-- An outcome without a result. -/
def MediaOutcome.failed (resultClass : MediaResult) : MediaOutcome :=
  ⟨resultClass, none, none⟩

/-- `f"media/{tenant_id}/{user_id}/{artifact_id}.bin"`. -/
def artifactKey (tenantId userId artifactId : String) : String :=
  "media/" ++ tenantId ++ "/" ++ userId ++ "/" ++ artifactId ++ ".bin"

/-- `value or default` of a string. -/
def orDefault (value default : String) : String :=
  if value = "" then default else value

/-- `{...fields, **params}`. -/
def mergeParams (fields params : List (String × Json)) : List (String × Json) :=
  params.foldl (fun merged param => assign param.1 param.2 merged) fields

/-- A `MediaExecutor`: its services and whether it has a storage client. -/
structure MediaExecutor where
  services : MediaServices
  storage : Bool

namespace MediaExecutor

variable (executor : MediaExecutor)

/-- `artifact_url`. -/
def artifactUrl (artifactId tenantId userId : String) :
    Service (Option String) := do
  if !executor.storage then return none
  else
    let url : Service String :=
      .call (ServiceCall.generatePresignedUrl
        (artifactKey tenantId userId artifactId) 300) Program.ofExcept
    match ← url.attempt with
    | .ok url => return some url
    | .error _ => return none

/-- `artifact_bytes`. -/
def artifactBytes (artifactId tenantId userId : String) :
    Service (Option (Bytes × String)) := do
  if !executor.storage then return none
  else
    let object : Service (Bytes × String) :=
      .call (ServiceCall.getObjectWithType
        (artifactKey tenantId userId artifactId)) Program.ofExcept
    match ← object.attempt with
    | .ok object => return some object
    | .error _ => return none

/-- `_post` in the `try` of the callers: the response, or how it failed. -/
def post (url : String) (data : MediaBody) (contentType : String) :
    Service (Except MediaOutcome MediaResponse) := do
  let response : Service MediaResponse :=
    .call (ServiceCall.mediaPost url data contentType) Program.ofExcept
  match ← response.attempt with
  | .ok response => return .ok response
  | .error (.httpError code) =>
      return .error ⟨.backendError, some code, none⟩
  | .error .urlError | .error .timeoutError =>
      return .error (.failed .backendTimeout)
  | .error error =>
      if isOsError error then return .error (.failed .backendError)
      else .raise error

/-- The text in the response to a transcription. -/
def transcript (builtins : Builtins) (body : Bytes) : Except PyException Json :=
  match builtins.loadsBytes body with
  | .ok (.obj fields) => .ok (Json.getOr fields "text" (.str ""))
  | .ok _ => .ok (.str "")
  | .error .valueError => .ok (.str "")
  | .error error => .error error

/-- `transcribe`. -/
def transcribe (builtins : Builtins) (service : String) (audio : Bytes) :
    Service MediaOutcome :=
  match executor.services.lookup service with
  | none => return .failed .unknownService
  | some spec =>
      if spec.kind ≠ .stt then return .failed .wrongKind
      else do
        let id ← Service.uuid4
        let boundary := "----media" ++ String.ofList (id.toList.filter (· != '-'))
        match ← post (spec.baseUrl ++ "/v1/audio/transcriptions")
            (.multipart boundary spec.model "audio" audio)
            ("multipart/form-data; boundary=" ++ boundary) with
        | .error failure => return failure
        | .ok response =>
            let text ← Program.ofExcept (transcript builtins response.body)
            return ⟨.success, some response.status, some (.obj [("text", text)])⟩

/-- Keep what a backend made under a new key of the caller. -/
def storeArtifact (defaultType tenantId userId : String)
    (response : MediaResponse) : Service MediaOutcome := do
  let artifactId ← Service.uuid4
  let key := artifactKey tenantId userId artifactId
  let kept : MediaOutcome :=
    ⟨.success, some response.status, some (.obj
      [("artifact_id", .str artifactId), ("bytes", .int response.body.length),
        ("stored", .bool executor.storage), ("key", .str key)])⟩
  if !executor.storage then return kept
  else
    let put : Service Unit :=
      .call (ServiceCall.putObject key response.body
        (orDefault response.contentType defaultType)) Program.ofExcept
    match ← put.attempt with
    | .ok () => return kept
    | .error _ => return .failed .backendError

/-- Send a payload to a service of some kind and keep what comes back. -/
def produce (kind : MediaKind) (path defaultType : String)
    (payload : MediaService → List (String × Json))
    (service tenantId userId : String) : Service MediaOutcome :=
  match executor.services.lookup service with
  | none => return .failed .unknownService
  | some spec =>
      if spec.kind ≠ kind then return .failed .wrongKind
      else do
        match ← post (spec.baseUrl ++ path) (.json (.obj (payload spec)))
            "application/json" with
        | .error failure => return failure
        | .ok response =>
            executor.storeArtifact defaultType tenantId userId response

/-- `generate`. -/
def generate (service prompt : String) (params : List (String × Json))
    (tenantId userId : String) : Service MediaOutcome :=
  executor.produce .image "/v1/images/generations" "application/octet-stream"
    (fun _ => mergeParams [("prompt", .str prompt)] params)
    service tenantId userId

/-- `synthesize`. -/
def synthesize (service text : String) (params : List (String × Json))
    (tenantId userId : String) : Service MediaOutcome :=
  executor.produce .tts "/v1/audio/speech" "audio/mpeg"
    (fun spec =>
      mergeParams [("model", .str spec.model), ("input", .str text)] params)
    service tenantId userId

end MediaExecutor

/-! ## The endpoints -/

/-- The `_gate` of `media.py`. -/
def mediaGate (builtins : Builtins) (authorization : Option String)
    (tokenVerifier : Option TokenVerifier) (enabled : Bool) :
    Except PyException (Except JsonResponse Caller) :=
  gate builtins authorization tokenVerifier
    (if enabled then .ok ()
    else .error (.serviceUnavailable, degradedPayload "media_disabled"
      "Media services are disabled on this instance."))

/-- `_SAFE_ARTIFACT_ID`. The bound on the length is checked beside the
pattern. -/
def safeArtifactId (artifactId : String) : Bool :=
  Pattern.matchesWhole
    (Pattern.run Pattern.alphanumeric (Pattern.alphanumeric ++ ['.', '_', '-']))
    artifactId &&
  let size := artifactId.length
  if artifactId.toList.getLast? == some '\n' then decide (size ≤ 129)
  else decide (size ≤ 128)

/-- The caller of an artifact and the response to an id that is not safe. -/
def readArtifactRequest {ρ : Type} (builtins : Builtins)
    (authorization : Option String) (artifactId : String)
    (tokenVerifier : Option TokenVerifier) (refused : JsonResponse → ρ)
    (unsafeId : ρ) : Except PyException (Except ρ Caller) := do
  match ← verifyAndExtract builtins.lower authorization tokenVerifier with
  | .error response => return .error (refused response)
  | .ok claims =>
      if safeArtifactId artifactId then
        return .ok ⟨extractTenantId builtins.lower claims, claims.subject⟩
      else return .error unsafeId

/-- `build_media_artifact_response`. -/
def buildMediaArtifactResponse (builtins : Builtins)
    (authorization : Option String) (artifactId : String)
    (tokenVerifier : Option TokenVerifier) (executor : MediaExecutor) :
    Service JsonResponse := do
  match ← Program.ofExcept (readArtifactRequest builtins authorization artifactId
      tokenVerifier id (.badRequest, barePayload "bad_request")) with
  | .error response => return response
  | .ok caller =>
      match ← executor.artifactUrl artifactId caller.tenantId caller.userId with
      | none => return (.notFound, barePayload "not_found")
      | some url =>
          return (.ok, .obj [("url", .str url), ("expires_in", .int 300)])

/-- A response with a body of its own. -/
structure RawResponse where
  status : HttpStatus
  contentType : String
  body : Bytes

/-- A response with a JSON text as its body. -/
def RawResponse.json (status : HttpStatus) (text : String) : RawResponse :=
  ⟨status, "application/json", text.toUTF8.toList⟩

/-- `build_media_artifact_content`. -/
def buildMediaArtifactContent (builtins : Builtins)
    (authorization : Option String) (artifactId : String)
    (tokenVerifier : Option TokenVerifier) (executor : MediaExecutor) :
    Service RawResponse := do
  match ← Program.ofExcept (readArtifactRequest builtins authorization artifactId
      tokenVerifier
      (fun response => .json response.1 (builtins.dumps response.2))
      (.json .badRequest "\x7b\"error\":\"bad_request\"\x7d")) with
  | .error response => return response
  | .ok caller =>
      match ← executor.artifactBytes artifactId caller.tenantId caller.userId with
      | none => return .json .notFound "\x7b\"error\":\"not_found\"\x7d"
      | some (body, contentType) =>
          return ⟨.ok, orDefault contentType "application/octet-stream", body⟩

/-- An admitted media request: who asks what of which service. -/
structure MediaRequest (α : Type) where
  caller : Caller
  service : String
  label : String
  args : List ArgShape
  input : α

section Endpoint

variable {α : Type}

/-- The allow-list and the switch of the tenant. -/
def admitMedia (allowlist : Allowlist) (request : MediaRequest α) :
    Service (Except JsonResponse (MediaRequest α)) := do
  match ← authorize request.caller request.service request.label
      "service_not_allowed" allowlist request.args with
  | some refusal => return .error refusal
  | none => return .ok request

/-- The refusal of a media request by the limiter. -/
def refuseMedia (request : MediaRequest α) : Service JsonResponse := do
  auditRefused request.caller.tenantId request.caller.userId request.label
    request.args .rateLimited
  return (.tooManyRequests, barePayload "rate_limited")

/-- `_to_http`. -/
def mediaToHttp (outcome : MediaOutcome) : JsonResponse :=
  match outcome.resultClass with
  | .success =>
      (.ok, .obj [("status", (outcome.status.map Json.int).getD .null),
        ("result", outcome.result.getD .null)])
  | .unknownService => (.notFound, barePayload "unknown_service")
  | .wrongKind => (.badRequest, barePayload "wrong_service_kind")
  | .backendTimeout => (.gatewayTimeout, bareDegradedPayload "backend_timeout")
  | .backendError => (.badGateway, bareDegradedPayload "backend_error")

/-- The end of a media request, after the permit is released. -/
def answerMedia (notificationStore : Bool) (request : MediaRequest α)
    (started : Rat) (outcome : MediaOutcome) : Service JsonResponse := do
  let latencyMs ← Service.latencyMs started
  auditAllowed request.caller.tenantId request.caller.userId request.label
    request.args (.str outcome.resultClass.text) (some latencyMs) .null
  Service.emit notificationStore request.caller.tenantId request.caller.userId
    (if outcome.resultClass = .success then "media_task_completed"
      else "media_task_failed")
    ("media:" ++ request.service)
  return mediaToHttp outcome

/-- A media endpoint, given how its request is read and what runs it. -/
def buildMediaResponse
    (prepare : Service (Except JsonResponse (MediaRequest α)))
    (work : MediaRequest α → Service MediaOutcome) (notificationStore : Bool) :
    Handler Services JsonResponse :=
  Handler.limited prepare (fun request => request.caller.tenantId) refuseMedia
    Service.monotonic (fun request _ => work request)
    (answerMedia notificationStore)

end Endpoint

/-- `build_media_transcribe_response` up to the limiter. -/
def prepareTranscribe (builtins : Builtins) (authorization : Option String)
    (service : Option String) (body : Bytes)
    (tokenVerifier : Option TokenVerifier) (enabled : Bool)
    (allowlist : Allowlist) (maxAudioBytes : Int) :
    Service (Except JsonResponse (MediaRequest Bytes)) := do
  match ← Program.ofExcept
      (mediaGate builtins authorization tokenVerifier enabled) with
  | .error response => return .error response
  | .ok caller =>
      match service with
      | none | some "" =>
          return .error (badRequest "'service' query param is required.")
      | some service =>
          if body.isEmpty then
            return .error (badRequest "audio body is required.")
          else if maxAudioBytes < body.length then
            return .error (.requestEntityTooLarge, barePayload "audio_too_large")
          else
            admitMedia allowlist
              { caller, service, label := "media:" ++ service ++ "/transcribe"
                args := [⟨"audio", "bytes", some body.length⟩], input := body }

/-- `build_media_transcribe_response`. -/
def buildMediaTranscribeResponse (builtins : Builtins)
    (authorization : Option String) (service : Option String) (body : Bytes)
    (tokenVerifier : Option TokenVerifier) (enabled : Bool)
    (allowlist : Allowlist) (executor : MediaExecutor) (maxAudioBytes : Int)
    (notificationStore : Bool) : Handler Services JsonResponse :=
  buildMediaResponse
    (prepareTranscribe builtins authorization service body tokenVerifier enabled
      allowlist maxAudioBytes)
    (fun request => executor.transcribe builtins request.service request.input)
    notificationStore

/-- Service, text and parameters of a body; the text is under `field`. -/
def readMediaRequest (field tooLong : String) (maxChars : Int)
    (data : List (String × Json)) :
    Except JsonResponse (String × String × List (String × Json)) := do
  match Json.get data "service" with
  | .str service =>
      if service = "" then throw (badRequest "'service' is required.")
      match Json.get data field with
      | .str text =>
          if text = "" then
            throw (badRequest ("'" ++ field ++ "' is required."))
          match Json.getOr data "params" (.obj []) with
          | .obj params =>
              if maxChars < text.length then
                throw (.requestEntityTooLarge, barePayload tooLong)
              return (service, text, params)
          | _ => throw (badRequest "'params' must be an object.")
      | _ => throw (badRequest ("'" ++ field ++ "' is required."))
  | _ => throw (badRequest "'service' is required.")

/-- A request for an artifact up to the limiter. -/
def prepareMedia (builtins : Builtins) (authorization : Option String)
    (body : Except PyException Json) (tokenVerifier : Option TokenVerifier)
    (enabled : Bool) (allowlist : Allowlist)
    (field tooLong operation : String) (maxChars : Int) :
    Service (Except JsonResponse (MediaRequest (String × List (String × Json)))) :=
    do
  match ← Program.ofExcept (readRequest
      (mediaGate builtins authorization tokenVerifier enabled)
      (loadObject (.badRequest, barePayload "bad_request")
        (.badRequest, barePayload "bad_request") body)
      (readMediaRequest field tooLong maxChars)) with
  | .error response => return .error response
  | .ok (caller, service, text, params) =>
      admitMedia allowlist
        { caller, service, label := "media:" ++ service ++ "/" ++ operation
          args := argShape [(field, .str text), ("params", .obj params)]
          input := (text, params) }

/-- `build_media_generate_response`. -/
def buildMediaGenerateResponse (builtins : Builtins)
    (authorization : Option String) (body : Except PyException Json)
    (tokenVerifier : Option TokenVerifier) (enabled : Bool)
    (allowlist : Allowlist) (executor : MediaExecutor) (maxPromptChars : Int)
    (notificationStore : Bool) : Handler Services JsonResponse :=
  buildMediaResponse
    (prepareMedia builtins authorization body tokenVerifier enabled allowlist
      "prompt" "prompt_too_long" "generate" maxPromptChars)
    (fun request => executor.generate request.service request.input.1
      request.input.2 request.caller.tenantId request.caller.userId)
    notificationStore

/-- `build_media_synthesize_response`. -/
def buildMediaSynthesizeResponse (builtins : Builtins)
    (authorization : Option String) (body : Except PyException Json)
    (tokenVerifier : Option TokenVerifier) (enabled : Bool)
    (allowlist : Allowlist) (executor : MediaExecutor) (maxTextChars : Int)
    (notificationStore : Bool) : Handler Services JsonResponse :=
  buildMediaResponse
    (prepareMedia builtins authorization body tokenVerifier enabled allowlist
      "text" "text_too_long" "synthesize" maxTextChars)
    (fun request => executor.synthesize request.service request.input.1
      request.input.2 request.caller.tenantId request.caller.userId)
    notificationStore

end PrivateAiWorkspace.ControlPlane
