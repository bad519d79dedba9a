import PrivateAiWorkspace.ControlPlane.Auth
import PrivateAiWorkspace.ControlPlane.Server.Routes
import PrivateAiWorkspace.Effects.Program

/-!
# The HTTP handler

`ControlPlaneHandler` from `server.py`, as programs that write to the connection.
The functions it calls are fields of `Outcomes`, each with an outcome of its own:
what it returns, or what it raises. Metrics and tracing, which write nothing to
the connection and are not supposed to raise, are left out.
-/

namespace PrivateAiWorkspace.ControlPlane.Server

open Effects Python

/-- `Response`. -/
structure Response where
  statusCode : Int
  payload : Json
  headers : List (String × String)
  rawBody : Option Bytes
  deriving Repr

/-- What iterating over a stream yields, and how the iteration ends. -/
structure Feed where
  lines : List Bytes
  ending : Except PyException Unit

/-- The outcomes of what the handler calls, and the settings it reads. -/
structure Outcomes (ChatRequest : Type) where
  mediaMaxAudioBytes : Int
  retrievalMaxUploadBytes : Int
  lower : String → String
  read : Nat → Except PyException Bytes
  json : Option String → JsonRoute → Except PyException (Int × Json)
  mediaArtifactContent : Option String → String →
    Except PyException (Int × String × Bytes)
  chat : Option String → Bytes → Except PyException Response
  response : String → Except PyException Response
  prepareChatStream : Option String → Bytes →
    Except PyException (Except Response ChatRequest)
  verifyAndExtract : Option String →
    Except PyException (Except (Int × Json) TokenClaims)
  tryAcquire : String → Bool
  openChatStream : ChatRequest → Except PyException Feed
  expired : Nat → Bool
  notificationFrames : String → String → Feed

/-! ## The connection -/

/-- A response head with the body written behind it, or the head of an event
stream. -/
inductive Head where
  | json (status : Int) (payload : Json) (headers : List (String × String))
  | raw (status : Int) (body : Bytes) (contentType : String)
  | eventStream
  deriving Repr

/-- `send_header` encodes names and values in latin-1. -/
def Head.encodable : Head → Bool
  | .json _ _ headers =>
      headers.all fun header => Str.isLatin1 header.1 && Str.isLatin1 header.2
  | .raw _ _ contentType => Str.isLatin1 contentType
  | .eventStream => true

/-- Calls that leave the handler: a head, a line of a stream, and the release of
the permit of a stream. -/
inductive WireCall where
  | head (head : Head)
  | line (line : Bytes)
  | release

/-- The calls with their answers. -/
def Wire : Interface where
  Call := WireCall
  Answer _ := Unit

/-- The head a call writes. -/
def headOf? : WireCall → Option Head
  | .head head => some head
  | .line _ => none
  | .release => none

/-- A handler of the server. -/
abbrev Serving := Program Wire PyException

/-- Send a head: it is flushed as a whole, after all headers are encoded. -/
def send (head : Head) : Serving Unit :=
  if head.encodable then .call (WireCall.head head) Program.ofExcept
  else .raise (.other "UnicodeEncodeError")

/-- `_write_json`. -/
def writeJson (status : Int) (payload : Json)
    (extraHeaders : List (String × String)) : Serving Unit :=
  send (.json status payload extraHeaders)

/-- The value of a header in a dict of headers. -/
def headerValue (name : String) (headers : List (String × String)) :
    Option String :=
  (headers.find? fun header => header.1 = name).map Prod.snd

/-- `_write_raw`: of the headers only the content type is used. -/
def writeRaw (status : Int) (body : Bytes)
    (extraHeaders : List (String × String)) : Serving Unit :=
  send (.raw status body
    ((headerValue "Content-Type" extraHeaders).getD "text/plain; charset=utf-8"))

/-- `_handle`. -/
def handle (response : Response) : Serving Unit :=
  match response.rawBody with
  | some body => writeRaw response.statusCode body response.headers
  | none => writeJson response.statusCode response.payload response.headers

/-- The response to an exception of the wrapped handler. -/
def internalError : Response where
  statusCode := 500
  payload := .obj [("error", .str "internal_error")]
  headers := []
  rawBody := none

/-- `_instrument`: an exception of the handler is answered with 500. The response
is written outside the inner `try`. -/
def instrument : Except PyException Response → Serving Unit
  | .ok response => handle response
  | .error _ => handle internalError

/-! ## The verbs -/

section Verbs

variable {ChatRequest : Type} (outcomes : Outcomes ChatRequest) (request : Request)

/-- Build the response of a route. -/
def build : Route → Except PyException Response
  | .json route =>
      (outcomes.json request.authorization route).map fun answer =>
        ⟨answer.1, answer.2, [], none⟩
  | .mediaArtifactContent artifactId =>
      (outcomes.mediaArtifactContent request.authorization artifactId).map
        fun answer =>
          ⟨answer.1, .obj [], [("Content-Type", answer.2.1)], some answer.2.2⟩
  | .chat body => outcomes.chat request.authorization body

/-- `{"error": "not_found", "path": self.path}`. -/
def notFoundAt (target : String) : Response where
  statusCode := 404
  payload := .obj [("error", .str "not_found"), ("path", .str target)]
  headers := []
  rawBody := none

/-- `{"error": "request_too_large"}`. -/
def requestTooLarge : Response where
  statusCode := 413
  payload := .obj [("error", .str "request_too_large")]
  headers := []
  rawBody := none

/-- `{"error": "rate_limited"}`. -/
def rateLimited : Response where
  statusCode := 429
  payload := .obj [("error", .str "rate_limited")]
  headers := []
  rawBody := none

/-- The refusal of a stream the inference service is not up for. -/
def inferenceUnavailable : Response where
  statusCode := 503
  payload := .obj
    [("error", .str "inference_unavailable"), ("status", .str "degraded"),
      ("retry_after", .int 30)]
  headers := [("Retry-After", "30")]
  rawBody := none

/-- The refusal of a stream the inference service did not open in time. -/
def inferenceTimeout : Response where
  statusCode := 504
  payload := .obj
    [("error", .str "inference_timeout"), ("status", .str "degraded")]
  headers := []
  rawBody := none

/-- `_MAX_REQUEST_BODY`: 1 MiB. -/
def maxRequestBody : Int := 1 * 1024 * 1024

/-- The cap on the body of a request. -/
def maxBody : Int :=
  if request.path = mediaTranscribePath then outcomes.mediaMaxAudioBytes
  else if request.path = retrievalUploadPath then outcomes.retrievalMaxUploadBytes
  else maxRequestBody

/-- `self.rfile.read(length) if length > 0 else b""`. -/
def readBody (length : Int) : Except PyException Bytes :=
  if 0 < length then outcomes.read length.toNat else .ok []

/-- `_post`. -/
def post : Except PyException Response := do
  let contentLength ← request.contentLength
  if maxBody outcomes request < contentLength then return requestTooLarge
  else
    let body ← readBody outcomes contentLength
    match request.postRoute body with
    | some route => build outcomes request route
    | none => return notFoundAt request.target

/-- `_delete`. -/
def delete : Except PyException Response :=
  match request.deleteRoute with
  | some route => build outcomes request route
  | none => .ok (notFoundAt request.target)

/-! ## The streams -/

/-- A client that is gone ends a stream without an error. -/
def ignoreDisconnect : PyException → Serving Unit
  | .brokenPipeError => return
  | .connectionResetError => return
  | error => .raise error

/-- Write what a stream yields until it ends, or its lifetime does. -/
def relay (expired : Nat → Bool) (ending : Except PyException Unit) :
    Nat → List Bytes → Serving Unit
  | _, [] => Program.ofExcept ending
  | count, line :: lines =>
      .call (WireCall.line line) fun written => do
        let _ ← Program.ofExcept written
        if expired count then return else relay expired ending (count + 1) lines

/-- Start an event stream and write a feed to it. -/
def stream (expired : Nat → Bool) (feed : Feed) : Serving Unit :=
  .call (WireCall.head .eventStream) fun written => do
    let _ ← Program.ofExcept written
    (relay expired feed.ending 0 feed.lines).tryCatch ignoreDisconnect

/-- `self._write_json(err.status_code, err.payload, err.headers)`. -/
def refuse (response : Response) : Serving Unit :=
  writeJson response.statusCode response.payload response.headers

/-- The part of `_handle_chat_stream` that holds a permit. -/
def openAndRelay (chatRequest : ChatRequest) : Serving Unit :=
  match outcomes.openChatStream chatRequest with
  | .error (.inferenceUnavailableError _) => refuse inferenceUnavailable
  | .error .timeoutError => refuse inferenceTimeout
  | .error .inferenceRoutingError => refuse inferenceTimeout
  | .error error => .raise error
  | .ok feed => stream outcomes.expired feed

/-- `rate_limiter.release()`. -/
def release : Serving Unit := .call WireCall.release Program.ofExcept

/-- The tenant whose streams are counted. -/
def streamTenant : Except (Int × Json) TokenClaims → String
  | .ok claims => extractTenantId outcomes.lower claims
  | .error _ => "unknown"

/-- `_handle_chat_stream`. -/
def handleChatStream : Serving Unit := do
  let contentLength ← Program.ofExcept request.contentLength
  if maxRequestBody < contentLength then refuse requestTooLarge
  else
    let body ← Program.ofExcept (readBody outcomes contentLength)
    let prepared ← Program.ofExcept
      (outcomes.prepareChatStream request.authorization body)
    match prepared with
    | .error refusal => refuse refusal
    | .ok chatRequest =>
        let verified ← Program.ofExcept
          (outcomes.verifyAndExtract request.authorization)
        if !outcomes.tryAcquire (streamTenant outcomes verified) then
          refuse rateLimited
        else (openAndRelay outcomes chatRequest).tryFinally release

/-- `_handle_notifications_stream`. -/
def handleNotificationsStream : Serving Unit := do
  let verified ← Program.ofExcept (outcomes.verifyAndExtract request.authorization)
  match verified with
  | .error refusal => writeJson refusal.1 refusal.2 []
  | .ok claims =>
      stream (fun _ => false)
        (outcomes.notificationFrames (extractTenantId outcomes.lower claims)
          claims.subject)

/-- `do_GET`. -/
def doGet : Serving Unit :=
  if request.path = notificationsStreamPath then
    handleNotificationsStream outcomes request
  else
    match request.getRoute with
    | some route => do
        -- The response is built before `_instrument` is entered.
        let response ← Program.ofExcept (build outcomes request route)
        instrument (.ok response)
    | none => instrument (outcomes.response request.target)

/-- `do_POST`. -/
def doPost : Serving Unit :=
  if request.path = chatStreamPath then handleChatStream outcomes request
  else instrument (post outcomes request)

/-- `do_DELETE`. -/
def doDelete : Serving Unit := instrument (delete outcomes request)

/-- Serve a request with the method of its verb. -/
def serve : Serving Unit :=
  match request.method with
  | .get => doGet outcomes request
  | .post => doPost outcomes request
  | .delete => doDelete outcomes request

end Verbs

end PrivateAiWorkspace.ControlPlane.Server
