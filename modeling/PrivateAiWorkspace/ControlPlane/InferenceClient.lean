import PrivateAiWorkspace.ControlPlane.Chat
import PrivateAiWorkspace.ControlPlane.SandboxBackends
import PrivateAiWorkspace.Python.Url

/-!
# The inference client

`routing.py` and `VLLMInferenceClient.chat_completions` of `inference.py`: where
a chat request is sent, and the attempts at sending it. Trace headers are best
effort and left out.
-/

namespace PrivateAiWorkspace.ControlPlane

open Effects Python

/-! ## Routing -/

/-- `_splitparams(path)[0]`: the last segment ends at its first semicolon. -/
def dropParams (path : String) : String :=
  let segment := Str.afterLast '/' path
  Str.take path (path.toList.length - segment.toList.length) ++
    Str.before ';' segment

/-- `urlunparse` of a scheme that takes a network location, without parameters,
query and fragment. -/
def urlunparse (scheme netloc path : String) : String :=
  if netloc ≠ "" then
    scheme ++ "://" ++ netloc ++
      if path ≠ "" ∧ ¬ Str.startsWith path "/" then "/" ++ path else path
  else if Str.startsWith path "//" then scheme ++ "://" ++ path
  else if path = "" ∨ Str.startsWith path "/" then scheme ++ "://" ++ path
  else scheme ++ ":" ++ path

section Routing

variable (builtins : Builtins)

/-- `normalize_base_url`. -/
def normalizeBaseUrl (raw : String) : Except PyException String := do
  if raw = "" then throw .inferenceRoutingError
  let parsed ← Url.urlsplit builtins (Str.strip raw)
  if parsed.scheme ∉ ["http", "https"] then throw .inferenceRoutingError
  if parsed.username.getD "" ≠ "" ∨ parsed.password.getD "" ≠ "" then
    throw .inferenceRoutingError
  return urlunparse parsed.scheme parsed.netloc
    (rstripSlash (dropParams parsed.path))

/-- The address of a resource of an OpenAI-compatible backend. -/
def buildUrl (resource baseUrl : String) : Except PyException String := do
  let base ← normalizeBaseUrl builtins baseUrl
  if Str.endsWith base "/v1" then return base ++ resource
  else return base ++ "/v1" ++ resource

/-- `build_chat_completions_url`. -/
def buildChatCompletionsUrl : String → Except PyException String :=
  buildUrl builtins "/chat/completions"

/-- `build_models_url`. -/
def buildModelsUrl : String → Except PyException String :=
  buildUrl builtins "/models"

/-- `InferenceEndpoint`. -/
structure InferenceEndpoint where
  baseUrl : String
  chatCompletionsUrl : String
  modelsUrl : String

/-- `InferenceEndpoint.from_base_url`. -/
def InferenceEndpoint.fromBaseUrl (rawBaseUrl : String) :
    Except PyException InferenceEndpoint := do
  let baseUrl ← normalizeBaseUrl builtins rawBaseUrl
  let chatCompletionsUrl ← buildChatCompletionsUrl builtins baseUrl
  let modelsUrl ← buildModelsUrl builtins baseUrl
  return { baseUrl, chatCompletionsUrl, modelsUrl }

variable {builtins}

/-- A base URL is refused, or `urlparse` raises on it. -/
theorem normalizeBaseUrl_error {raw : String} {error : PyException}
    (raised : normalizeBaseUrl builtins raw = .error error) :
    error = .inferenceRoutingError ∨ error = .valueError := by
  rw [normalizeBaseUrl] at raised
  split at raised
  · cases raised
    exact .inl rfl
  · cases split : Url.urlsplit builtins (Str.strip raw) with
    | error raisedBySplit =>
        rw [split] at raised
        cases raised
        exact .inr (Url.urlsplit_error split)
    | ok parsed =>
        rw [split] at raised
        left
        dsimp only [Bind.bind, Except.bind] at raised
        split at raised
        · cases raised
          rfl
        · split at raised <;> cases raised
          rfl

theorem buildUrl_error {resource baseUrl : String} {error : PyException}
    (raised : buildUrl builtins resource baseUrl = .error error) :
    error = .inferenceRoutingError ∨ error = .valueError := by
  rcases error_of_bind raised with unresolved | ⟨base, _, built⟩
  · exact normalizeBaseUrl_error unresolved
  · split at built <;> cases built

theorem fromBaseUrl_error {rawBaseUrl : String} {error : PyException}
    (raised : InferenceEndpoint.fromBaseUrl builtins rawBaseUrl = .error error) :
    error = .inferenceRoutingError ∨ error = .valueError := by
  rcases error_of_bind raised with unresolved | ⟨baseUrl, _, raised⟩
  · exact normalizeBaseUrl_error unresolved
  rcases error_of_bind raised with unbuilt | ⟨chatCompletionsUrl, _, raised⟩
  · exact buildUrl_error unbuilt
  rcases error_of_bind raised with unbuilt | ⟨modelsUrl, _, impossible⟩
  · exact buildUrl_error unbuilt
  · cases impossible

end Routing

/-! ## Requests -/

/-- The name of a role. -/
def Role.name : Role → String
  | .system => "system"
  | .user => "user"
  | .assistant => "assistant"
  | .tool => "tool"

@[simp] theorem roleOf_name (role : Role) : roleOf role.name = some role := by
  cases role <;> rfl

/-- `as_payload`. -/
def ChatMessage.asPayload (message : ChatMessage) : Json :=
  .obj [("role", .str message.role.name), ("content", .str message.content)]

/-- `as_vllm_payload`. -/
def ChatCompletionRequest.asVllmPayload (request : ChatCompletionRequest) : Json :=
  .obj ([("model", .str request.model),
      ("messages", .arr (request.messages.map ChatMessage.asPayload)),
      ("temperature", .float request.temperature)] ++
    match request.maxTokens with
    | .null => []
    | count => [("max_tokens", count)])

/-- `urllib.request.Request`, always a `POST`, with the timeout it is opened
with. -/
structure InferencePost where
  url : String
  data : Bytes
  headers : List (String × String)
  timeout : Rat

/-- The calls of the client, and those of the services beside it. -/
inductive UpstreamCall where
  /-- `urllib.request.urlopen`. -/
  | urlopen (post : InferencePost)
  /-- `resp.read()` of the response that has been opened. -/
  | read
  /-- `time.sleep(seconds)`. -/
  | sleep (seconds : Rat)
  | service (request : ServiceCall)

/-- The calls with their answers. -/
def Upstream : Interface where
  Call := UpstreamCall
  Answer
    | .urlopen _ => Unit
    | .read => Bytes
    | .sleep _ => Unit
    | .service request => Services.Answer request

/-! ## The client -/

/-- `_MAX_RETRIES`. -/
def maxRetries : Nat := 1

/-- `_RETRY_BACKOFF`. -/
def retryBackoff : Rat := 2

/-- `VLLMInferenceClient`, with the default timeout. -/
structure VLLMInferenceClient where
  baseUrl : String
  timeoutSeconds : Rat := 120

namespace VLLMInferenceClient

variable (builtins : Builtins)

/-- One round of the loop: open, read, and parse. -/
def exchange (post : InferencePost) : Program Upstream PyException Json := do
  .call (UpstreamCall.urlopen post) Program.ofExcept
  let body ← (.call UpstreamCall.read Program.ofExcept :
    Program Upstream PyException Bytes)
  Program.ofExcept (builtins.loadsBytes body)

/-- The `except` clauses around a round. A `URLError` goes on to the next. -/
def settle (next : Program Upstream PyException Json) :
    Except PyException Json → Program Upstream PyException Json
  | .ok result => .ret result
  | .error (.httpError code) => .raise (.inferenceUnavailableError (some code))
  | .error .urlError => next
  | .error error => .raise error

/-- The rounds of the loop from one on, while some are left. -/
def rounds (post : InferencePost) (attempt : Nat) :
    Nat → Program Upstream PyException Json
  | 0 => .raise (.inferenceUnavailableError none)
  | left + 1 => do
      if attempt > 0 then
        .call (UpstreamCall.sleep retryBackoff) Program.ofExcept
      let outcome ← (exchange builtins post).attempt
      settle (rounds post (attempt + 1) left) outcome

/-- `chat_completions`. A timeout is raised again as what it is. -/
def chatCompletions (client : VLLMInferenceClient)
    (request : ChatCompletionRequest) : Program Upstream PyException Json := do
  let endpoint ← Program.ofExcept
    (InferenceEndpoint.fromBaseUrl builtins client.baseUrl)
  rounds builtins
    { url := endpoint.chatCompletionsUrl
      data := Utf8.encode (builtins.dumps request.asVllmPayload)
      headers := [("Content-Type", "application/json")]
      timeout := client.timeoutSeconds }
    0 (maxRetries + 1)

end VLLMInferenceClient

/-! ## Chat over the client -/

/-- The calls of the services by the client of a base URL: a chat completion is
an exchange with the inference plane. -/
def overClient (builtins : Builtins) (inferenceBaseUrl : String) :
    (call : (Limited Services).Call) →
      Handler Upstream ((Limited Services).Answer call)
  | .time => .call LimitedCall.time Program.ofExcept
  | .tryAcquire tenant now => .call (LimitedCall.tryAcquire tenant now)
      Program.ofExcept
  | .release => .call LimitedCall.release Program.ofExcept
  | .backend (.chatCompletions request) =>
      Handler.lift (VLLMInferenceClient.chatCompletions builtins
        { baseUrl := inferenceBaseUrl } request)
  | .backend request =>
      Handler.lift (.call (UpstreamCall.service request) Program.ofExcept)

/-- `build_chat_response` with the client it makes. -/
def buildChatResponseOverClient (builtins : Builtins)
    (authorization : Option String) (body : Except PyException Json)
    (inferenceBaseUrl : String) (tokenVerifier : Option TokenVerifier)
    (rateLimiter : Bool) : Handler Upstream Server.Response :=
  (buildChatResponse builtins.lower authorization body inferenceBaseUrl
    tokenVerifier rateLimiter).interpret (overClient builtins inferenceBaseUrl)

end PrivateAiWorkspace.ControlPlane
