import PrivateAiWorkspace.ControlPlane.Server.Handler
import PrivateAiWorkspace.ControlPlane.Services

/-!
# Chat

`build_chat_response` of `server.py`, and `_handle_chat_stream` again with the
calls of its limiter: `Server.handleChatStream` takes what the limiter answers
as given.
-/

namespace PrivateAiWorkspace.ControlPlane

open Effects Python

/-! ## The request -/

/-- A role of `valid_roles`. -/
def roleOf : String → Option Role
  | "system" => some .system
  | "user" => some .user
  | "assistant" => some .assistant
  | "tool" => some .tool
  | _ => none

/-- `str(sorted(valid_roles))`. -/
def validRoles : String := "['assistant', 'system', 'tool', 'user']"

/-- One round of the loop over the messages of a request. A role that is a list
or an object cannot be looked up in a set. -/
def parseMessage (index : Nat) :
    Json → Except PyException (Except String ChatMessage)
  | .obj fields =>
      let place := "messages[" ++ toString index ++ "]"
      let unknown := place ++ ".role must be one of " ++ validRoles
      match Json.getOr fields "role" (.str "") with
      | .arr _ | .obj _ => .error .typeError
      | .str role =>
          match roleOf role, Json.getOr fields "content" (.str "") with
          | none, _ => .ok (.error unknown)
          | some role, .str content => .ok (.ok ⟨role, content⟩)
          | some _, _ => .ok (.error (place ++ ".content must be a string"))
      | _ => .ok (.error unknown)
  | _ => .ok (.error ("messages[" ++ toString index ++ "] must be an object"))

/-- The loop over the messages from some index on. -/
def parseMessages : Nat → List Json →
    Except PyException (Except String (List ChatMessage))
  | _, [] => .ok (.ok [])
  | index, item :: items => do
      match ← parseMessage index item with
      | .error detail => return .error detail
      | .ok message =>
          return (← parseMessages (index + 1) items).map (message :: ·)

/-- `0 <= temperature <= 2` of a number, with the number as a float. -/
def parseTemperature : Json → Option PyFloat
  | .int value => if 0 ≤ value ∧ value ≤ 2 then some (.finite value) else none
  | .bool value => some (.finite (if value then 1 else 0))
  | .float (.finite value) =>
      if 0 ≤ value ∧ value ≤ 2 then some (.finite value) else none
  | _ => none

/-- `max_tokens`, if it is absent or positive. `True` is an `int`, and goes on as it
is. -/
def parseMaxTokens : Json → Option Json
  | .null => some .null
  | .int value => if value < 1 then none else some (.int value)
  | .bool true => some (.bool true)
  | _ => none

/-- `_parse_chat_request`: the request, or what is wrong with the body. -/
def parseChatRequest (body : Except PyException Json) :
    Except PyException (Except String ChatCompletionRequest) := do
  match body with
  | .error .valueError => return .error "request body is not valid JSON"
  | .error error => throw error
  | .ok (.obj data) =>
      match Json.getOr data "model" (.str "") with
      | .str model =>
          if Str.strip model = "" then
            return .error "'model' is required and must be a non-empty string"
          match Json.get data "messages" with
          | .arr (item :: items) =>
              match ← parseMessages 0 (item :: items) with
              | .error detail => return .error detail
              | .ok messages =>
                  match parseTemperature
                      (Json.getOr data "temperature" (.float (.finite (1 / 5)))),
                    parseMaxTokens (Json.get data "max_tokens") with
                  | none, _ =>
                      return .error
                        "'temperature' must be a number between 0 and 2"
                  | some _, none =>
                      return .error "'max_tokens' must be a positive integer"
                  | some temperature, some maxTokens =>
                      return .ok
                        { model := Str.strip model, messages, temperature,
                          maxTokens }
          | _ =>
              return .error "'messages' is required and must be a non-empty array"
      | _ => return .error "'model' is required and must be a non-empty string"
  | .ok _ => return .error "request body must be a JSON object"

/-! ## The endpoint -/

/-- A response with the headers of a refusal. -/
def chatResponse (response : JsonResponse)
    (headers : List (String × String)) : Server.Response where
  statusCode := response.1.code
  payload := response.2
  headers
  rawBody := none

/-- A degraded response that says when to try again. -/
def degradedChat (error detail : String) (retryAfter : Nat) : Server.Response :=
  chatResponse
    (.serviceUnavailable, .obj [("error", .str error), ("detail", .str detail),
      ("status", .str "degraded"), ("retry_after", .int retryAfter)])
    [("Retry-After", toString retryAfter)]

/-- `build_chat_response` up to the limiter: tenant and request. -/
def prepareChat (lower : String → String) (authorization : Option String)
    (body : Except PyException Json) (inferenceBaseUrl : String)
    (tokenVerifier : Option TokenVerifier) :
    Except PyException (Except Server.Response (String × ChatCompletionRequest)) :=
    do
  match ← verifyAndExtract lower authorization tokenVerifier with
  | .error response => return .error (chatResponse response [])
  | .ok claims =>
      if inferenceBaseUrl = "" then
        return .error (chatResponse
          (.serviceUnavailable, degradedPayload "inference_not_configured"
            "Inference backend is not configured.") [])
      match ← parseChatRequest body with
      | .error detail => return .error (chatResponse (badRequest detail) [])
      | .ok request => return .ok (extractTenantId lower claims, request)

/-- The refusal of `build_chat_response` by the limiter. -/
def chatRateLimited : Server.Response :=
  chatResponse
    (.tooManyRequests, degradedPayload "rate_limited"
      "Chat rate/concurrency limit exceeded; retry shortly.")
    [("Retry-After", "5")]

/-- The part of `build_chat_response` that holds the permit. -/
def forwardChat (request : ChatCompletionRequest) : Service Server.Response := do
  match ← (Service.chatCompletions request).attempt with
  | .ok result => return chatResponse (.ok, result) []
  | .error (.inferenceUnavailableError (some 429)) =>
      return degradedChat "inference_unavailable"
        "The inference service is at capacity." 60
  | .error (.inferenceUnavailableError _) =>
      return degradedChat "inference_unavailable"
        "The inference service is currently unavailable." 30
  | .error .inferenceRoutingError =>
      return degradedChat "inference_not_reachable"
        "The inference endpoint could not be reached." 10
  | .error .timeoutError =>
      return degradedChat "inference_timeout"
        ("The inference request timed out. The model may be loading " ++
          "— retry shortly.") 30
  | .error error => .raise error

/-- `build_chat_response`. -/
def buildChatResponse (lower : String → String) (authorization : Option String)
    (body : Except PyException Json) (inferenceBaseUrl : String)
    (tokenVerifier : Option TokenVerifier) (rateLimiter : Bool) :
    Handler Services Server.Response := do
  match ← Program.ofExcept (prepareChat lower authorization body
      inferenceBaseUrl tokenVerifier) with
  | .error response => return response
  | .ok (tenantId, request) =>
      if rateLimiter then
        Handler.withPermit tenantId (return chatRateLimited)
          (Handler.lift (forwardChat request))
      else Handler.lift (forwardChat request)

/-! ## The stream -/

namespace Server

variable {ChatRequest : Type} (outcomes : Outcomes ChatRequest)
  (request : Request)

/-- `_handle_chat_stream` with the calls of its limiter. -/
def limitedChatStream : Handler Wire Unit := do
  let contentLength ← Program.ofExcept request.contentLength
  if maxRequestBody < contentLength then Handler.lift (refuse requestTooLarge)
  else
    let body ← Program.ofExcept (readBody outcomes contentLength)
    let prepared ← Program.ofExcept
      (outcomes.prepareChatStream request.authorization body)
    match prepared with
    | .error refusal => Handler.lift (refuse refusal)
    | .ok chatRequest =>
        let verified ← Program.ofExcept
          (outcomes.verifyAndExtract request.authorization)
        Handler.withPermit (streamTenant outcomes verified)
          (Handler.lift (refuse rateLimited))
          (Handler.lift (openAndRelay outcomes chatRequest))

end Server

end PrivateAiWorkspace.ControlPlane
