import PrivateAiWorkspace.ControlPlane.Auth
import PrivateAiWorkspace.ControlPlane.Notifications
import PrivateAiWorkspace.ControlPlane.RateLimiter
import PrivateAiWorkspace.Effects.Embedding
import PrivateAiWorkspace.Python.Builtins

/-!
# What the handlers reach outside themselves

One interface for the clocks, the log, the stores and the backends the handlers
of the control plane call, so that programs over it can be put together freely.
The limiter is not among them: a program over `Services` cannot touch it, and
`Handler.lift` makes it part of a handler that can.
-/

namespace PrivateAiWorkspace.ControlPlane

open Effects Python

/-- `Role`. -/
inductive Role where
  | system
  | user
  | assistant
  | tool
  deriving DecidableEq, Repr

/-- `ChatMessage`. -/
structure ChatMessage where
  role : Role
  content : String
  deriving DecidableEq, Repr

/-- `ChatCompletionRequest`. -/
structure ChatCompletionRequest where
  model : String
  messages : List ChatMessage
  temperature : PyFloat
  maxTokens : Json

/-- `ChatCompletionRequest.build`, with its default temperature. -/
def ChatCompletionRequest.build (model : String) (messages : List ChatMessage)
    (maxTokens : Option Int) : ChatCompletionRequest where
  model
  messages
  temperature := .finite (1 / 5)
  maxTokens := (maxTokens.map Json.int).getD .null

/-- `SandboxOutcome`. The dispatcher's client passes on the fields of an answer
as they come, so each can be any JSON value. -/
structure SandboxOutcome where
  resultClass : Json
  result : Json
  exitCode : Json

/-- `SandboxOutcome("tool_error")`. -/
def SandboxOutcome.toolError : SandboxOutcome :=
  ⟨.str "tool_error", .null, .null⟩

/-- One argument in an audit record: its name, the name of its type and, when it
has one, its length. -/
structure ArgShape where
  key : String
  type : String
  size : Option Nat
  deriving DecidableEq, Repr

/-- `decision` of an audit record. -/
inductive AuditDecision where
  | allowed
  | denied
  | rateLimited
  | tenantDisabled
  deriving DecidableEq, Repr

/-- The `audit` entry `_audit` logs. -/
structure AuditRecord where
  tenantId : String
  userId : String
  tool : String
  decision : AuditDecision
  argShape : List ArgShape
  resultClass : Json
  latencyMs : Option Int
  exitCode : Json

/-- `RetrievedPassage` and `_WebPassage`, as far as research reads them. -/
structure Passage where
  documentId : String
  content : String
  chunkId : String
  deriving DecidableEq, Repr

/-- `WebResult`. -/
structure WebResult where
  title : String
  url : String
  snippet : String

/-- `MCPOutcome`. -/
structure McpOutcome where
  resultClass : String
  result : Json

/-- What is posted to a media backend: a form with an audio file, or the JSON
document that `json.dumps` encodes. -/
inductive MediaBody where
  | multipart (boundary model filename : String) (audio : Bytes)
  | json (payload : Json)

/-- The parts of a response of a media backend that are read. -/
structure MediaResponse where
  status : Int
  body : Bytes
  contentType : String

/-- A mapping object of the process, by reference. -/
abbrev MappingRef := Nat

/-- `OutboundRequest`. -/
structure OutboundRequest where
  method : String
  url : String
  headers : List (String × String)
  body : Option Bytes
  allowHttp : Bool

/-- `ValidatedTarget`. -/
structure ValidatedTarget where
  scheme : String
  host : String
  ip : String
  port : Nat
  path : String
  deriving DecidableEq, Repr

/-- `OutboundResponse`. -/
structure OutboundResponse where
  status : Int
  headers : List (String × String)
  body : Bytes

/-- Calls of the handlers and of what they are built from. -/
inductive ServiceCall where
  -- The interpreter: clocks, ids, the log.
  | monotonic
  | nowUtc
  | uuid4
  | audit (record : AuditRecord)
  | publish (event : NotificationEvent)
  -- Inference and tools.
  | chatCompletions (request : ChatCompletionRequest)
  | execute (tool : String) (arguments : List (String × Json))
  | executeJob (tool : String) (arguments : List (String × Json))
      (tenantId runId : String)
  | callTool (server tool : String) (arguments : List (String × Json))
      (tenantId : String)
  -- Research.
  | embed (texts : List String)
  | query (tenantId : String) (embedding : List PyFloat) (topK : Int)
  | search (query : String)
  -- Media backends and the artifact bucket.
  | isEnabled (tenantId name : String)
  | mediaPost (url : String) (data : MediaBody) (contentType : String)
  | putObject (key : String) (body : Bytes) (contentType : String)
  | generatePresignedUrl (key : String) (expiresIn : Int)
  | getObjectWithType (key : String)
  -- Integrations: secrets, mapping objects, the token cache, the plug-in.
  | clock
  | resolveSecret (tenantId integration : String)
  | readMapping (mapping : MappingRef)
  | copyMapping (mapping : MappingRef)
  | setItem (mapping : MappingRef) (key value : String)
  | cacheGet (tenantId integration : String)
  | cacheSet (tenantId integration token : String) (expiry : Rat)
  | buildRefresh (integration : String) (creds : MappingRef)
  | parseToken (integration : String) (status : Int) (body : Bytes)
  | buildRequest (integration operation : String) (params : List (String × Json))
      (creds : Option MappingRef)
  -- The network.
  | getaddrinfo (host : String) (port : Nat)
  | guardedOpen (target : ValidatedTarget) (method : String)
      (headers : List (String × String)) (body : Option Bytes)

/-- The calls with their answers. -/
def Services : Interface where
  Call := ServiceCall
  Answer
    | .monotonic => Rat
    | .nowUtc => DateTime
    | .uuid4 => String
    | .audit _ => Unit
    | .publish _ => Unit
    | .chatCompletions _ => Json
    | .execute _ _ => SandboxOutcome
    | .executeJob _ _ _ _ => SandboxOutcome
    | .callTool _ _ _ _ => McpOutcome
    | .embed _ => List (List PyFloat)
    | .query _ _ _ => List Passage
    | .search _ => List WebResult
    | .isEnabled _ _ => Bool
    | .mediaPost _ _ _ => MediaResponse
    | .putObject _ _ _ => Unit
    | .generatePresignedUrl _ _ => String
    | .getObjectWithType _ => Bytes × String
    | .clock => Rat
    | .resolveSecret _ _ => Option MappingRef
    | .readMapping _ => Dict String String
    | .copyMapping _ => MappingRef
    | .setItem _ _ _ => Unit
    | .cacheGet _ _ => Option (String × Rat)
    | .cacheSet _ _ _ _ => Unit
    | .buildRefresh _ _ => OutboundRequest
    | .parseToken _ _ _ => Option String × Int
    | .buildRequest _ _ _ _ => OutboundRequest
    | .getaddrinfo _ _ => List String
    | .guardedOpen _ _ _ _ => OutboundResponse

/-- A program over the services. -/
abbrev Service (α : Type) := Program Services PyException α

/-- An answered call of a service. -/
abbrev ServiceEvent := Event Services PyException

namespace Service

/-- `time.monotonic()`. -/
def monotonic : Service Rat := .call ServiceCall.monotonic Program.ofExcept

/-- `_now_utc()`. -/
def nowUtc : Service DateTime := .call ServiceCall.nowUtc Program.ofExcept

/-- `str(uuid.uuid4())`. -/
def uuid4 : Service String := .call ServiceCall.uuid4 Program.ofExcept

/-- `client.chat_completions(request)`. -/
def chatCompletions (request : ChatCompletionRequest) : Service Json :=
  .call (ServiceCall.chatCompletions request) Program.ofExcept

/-- `int((time.monotonic() - started) * 1000)`. -/
def latencyMs (started : Rat) : Service Int := do
  let now ← monotonic
  let elapsed := (now - started) * 1000
  return elapsed.num.tdiv elapsed.den

/-- `store.publish(...)` of a new event, best effort: without a store or with a
class that is not allowed nothing happens, and no exception gets out. -/
def emit (store : Bool) (tenantId userId eventClass resourceId : String) :
    Service Unit :=
  if !store || eventClass ∉ allowedEventClasses then return
  else
    Program.tryCatch
      (do
        let id ← uuid4
        let createdAt ← nowUtc
        .call (ServiceCall.publish
            { id, tenantId, userId, eventClass, resourceId, createdAt,
              readAt := none })
          Program.ofExcept)
      fun _ => return

end Service

/-! ## Audit -/

/-- `type(value).__name__`. -/
def typeName : Json → String
  | .null => "NoneType"
  | .bool _ => "bool"
  | .int _ => "int"
  | .float _ => "float"
  | .str _ => "str"
  | .arr _ => "list"
  | .obj _ => "dict"

/-- `len(value) if hasattr(value, "__len__") else None`. -/
def sizeOf : Json → Option Nat
  | .str text => some text.length
  | .arr items => some items.length
  | .obj fields => some fields.length
  | _ => none

/-- `_arg_shape`. -/
def argShape (arguments : List (String × Json)) : List ArgShape :=
  arguments.map fun argument =>
    ⟨argument.1, typeName argument.2, sizeOf argument.2⟩

/-- `_audit` of a call that was not run. -/
def auditRefused (tenantId userId tool : String)
    (arguments : List ArgShape) (decision : AuditDecision) : Service Unit :=
  .call (ServiceCall.audit
      { tenantId, userId, tool, decision, argShape := arguments,
        resultClass := .null, latencyMs := none, exitCode := .null })
    Program.ofExcept

/-- `_audit` of a call that was run. -/
def auditAllowed (tenantId userId tool : String) (arguments : List ArgShape)
    (resultClass : Json) (latencyMs : Option Int) (exitCode : Json) :
    Service Unit :=
  .call (ServiceCall.audit
      { tenantId, userId, tool, decision := .allowed, argShape := arguments,
        resultClass, latencyMs, exitCode })
    Program.ofExcept

/-- Calls that only keep books: clocks, ids, the log and the switches of the
tenants. -/
def Bookkeeping : Services.Call → Prop
  | .monotonic => True
  | .nowUtc => True
  | .uuid4 => True
  | .audit _ => True
  | .publish _ => True
  | .isEnabled _ _ => True
  | _ => False

theorem guarded_audit (past : List ServiceEvent) (record : AuditRecord) :
    Program.Guarded (fun _ => Bookkeeping) past
      (.call (ServiceCall.audit record) Program.ofExcept : Service Unit) := by
  refine ⟨trivial, fun answer => ?_⟩
  cases answer <;> trivial

theorem guarded_latencyMs (past : List ServiceEvent) (started : Rat) :
    Program.Guarded (fun _ => Bookkeeping) past (Service.latencyMs started) :=
  Program.Guarded.callThen trivial fun _ => trivial

theorem guarded_emit (past : List ServiceEvent) (store : Bool)
    (tenantId userId eventClass resourceId : String) :
    Program.Guarded (fun _ => Bookkeeping) past
      (Service.emit store tenantId userId eventClass resourceId) := by
  unfold Service.emit
  split
  · trivial
  · apply Program.Guarded.tryCatch
    · apply Program.Guarded.callThen trivial
      intro id
      apply Program.Guarded.callThen trivial
      intro createdAt
      refine ⟨trivial, fun published => ?_⟩
      cases published <;> trivial
    · intros
      trivial

/-! ## What the handlers share -/

/-- Tenant and user of an authenticated request. -/
structure Caller where
  tenantId : String
  userId : String

/-- The `_gate` of the handlers: a verified caller, unless the endpoint is
switched off or lacks its backend. -/
def gate (builtins : Builtins) (authorization : Option String)
    (tokenVerifier : Option TokenVerifier)
    (available : Except JsonResponse Unit) :
    Except PyException (Except JsonResponse Caller) := do
  match ← verifyAndExtract builtins.lower authorization tokenVerifier with
  | .error response => return .error response
  | .ok claims =>
      return available.map fun _ =>
        ⟨extractTenantId builtins.lower claims, claims.subject⟩

/-- `json.loads(body)` in a `try` of its own and the check that it is an object:
an exception other than `ValueError` goes on. -/
def loadObject (invalid notObject : JsonResponse)
    (body : Except PyException Json) :
    Except PyException (Except JsonResponse (List (String × Json))) :=
  match body with
  | .ok (.obj fields) => .ok (.ok fields)
  | .ok _ => .ok (.error notObject)
  | .error .valueError => .ok (.error invalid)
  | .error error => .error error

/-- What is read of the body of a request whose caller passes the gate. -/
def readRequest {α : Type}
    (caller : Except PyException (Except JsonResponse Caller))
    (data : Except PyException (Except JsonResponse (List (String × Json))))
    (read : List (String × Json) → Except JsonResponse α) :
    Except PyException (Except JsonResponse (Caller × α)) := do
  match ← caller with
  | .error response => return .error response
  | .ok caller =>
      match ← data with
      | .error response => return .error response
      | .ok data => return (read data).map fun value => (caller, value)

/-- A body that is read as an object is one. -/
theorem body_of_loadObject {invalid notObject : JsonResponse}
    {body : Except PyException Json} {fields : List (String × Json)}
    (loaded : loadObject invalid notObject body = .ok (.ok fields)) :
    body = .ok (.obj fields) := by
  unfold loadObject at loaded
  split at loaded
  · cases loaded
    rfl
  all_goals cases loaded

/-- A request is read from a caller that passed the gate and from an object. -/
theorem of_readRequest {α : Type}
    {caller : Except PyException (Except JsonResponse Caller)}
    {data : Except PyException (Except JsonResponse (List (String × Json)))}
    {read : List (String × Json) → Except JsonResponse α}
    {request : Caller × α}
    (accepted : readRequest caller data read = .ok (.ok request)) :
    caller = .ok (.ok request.1) ∧
      ∃ fields, data = .ok (.ok fields) ∧ read fields = .ok request.2 := by
  unfold readRequest at accepted
  cases caller with
  | error error => cases accepted
  | ok gated =>
      cases gated with
      | error response => cases accepted
      | ok caller =>
          cases data with
          | error error => cases accepted
          | ok loaded =>
              cases loaded with
              | error response => cases accepted
              | ok fields =>
                  cases value : read fields with
                  | error response =>
                      simp [bind, Except.bind, value, Except.map, pure,
                        Except.pure] at accepted
                  | ok value' =>
                      simp only [bind, Except.bind, value, Except.map, pure,
                        Except.pure, Except.ok.injEq] at accepted
                      rw [← accepted]
                      exact ⟨rfl, fields, rfl, value⟩

theorem response_of_loadObject {invalid notObject response : JsonResponse}
    {body : Except PyException Json}
    (refused : loadObject invalid notObject body = .ok (.error response)) :
    response = invalid ∨ response = notObject := by
  cases body with
  | ok value =>
      cases value with
      | obj fields => cases refused
      | _ =>
          cases refused
          exact Or.inr rfl
  | error error =>
      cases error with
      | valueError =>
          cases refused
          exact Or.inl rfl
      | _ => cases refused

/-- A request is refused for its caller, for its body or for the fields of it. -/
theorem refused_of_readRequest {α : Type}
    {caller : Except PyException (Except JsonResponse Caller)}
    {data : Except PyException (Except JsonResponse (List (String × Json)))}
    {read : List (String × Json) → Except JsonResponse α} {response : JsonResponse}
    (refused : readRequest caller data read = .ok (.error response)) :
    caller = .ok (.error response) ∨ data = .ok (.error response) ∨
      ∃ fields, data = .ok (.ok fields) ∧ read fields = .error response := by
  cases caller with
  | error error => cases refused
  | ok gated =>
      cases gated with
      | error other =>
          cases refused
          exact Or.inl rfl
      | ok caller =>
          cases data with
          | error error => cases refused
          | ok loaded =>
              cases loaded with
              | error other =>
                  cases refused
                  exact Or.inr (Or.inl rfl)
              | ok fields =>
                  refine Or.inr (Or.inr ⟨fields, rfl, ?_⟩)
                  cases value : read fields with
                  | error other =>
                      simp [readRequest, bind, Except.bind, value, Except.map, pure,
                        Except.pure] at refused
                      rw [refused]
                  | ok value' =>
                      simp [readRequest, bind, Except.bind, value, Except.map, pure,
                        Except.pure] at refused

/-- Allow-list of every tenant. -/
abbrev Allowlist := Dict String (List String)

/-- `is_allowed`. -/
def isAllowed (allowlist : Allowlist) (tenant name : String) : Bool :=
  ((allowlist.get? tenant).getD []).contains name

/-- The refusal of a body, with what is wrong with it. -/
def badRequest (detail : String) : JsonResponse :=
  (.badRequest, errorPayload "bad_request" detail)

/-- Payload of a refusal that names a degraded service. -/
def degradedPayload (error detail : String) : Json :=
  .obj [("error", .str error), ("detail", .str detail),
    ("status", .str "degraded")]

/-- Payload of a refusal without details. -/
def barePayload (error : String) : Json := .obj [("error", .str error)]

/-- Payload of a failure without details. -/
def bareDegradedPayload (error : String) : Json :=
  .obj [("error", .str error), ("status", .str "degraded")]

/-! ## Handlers with a permit -/

namespace Handler

variable {backend : Interface} {α β γ π ρ : Type}

/-- The calls of a backend among those of a limited handler. -/
def backendEmbedding (backend : Interface) :
    Embedding backend (Limited backend) where
  call := LimitedCall.backend
  answer _ := id

/-- A program over the backend, which leaves the limiter alone. -/
def lift (program : Program backend PyException α) : Handler backend α :=
  program.embed (backendEmbedding backend)

/-- The shape of the limited handlers: everything up to the limiter either
refuses the request or prepares it; a prepared request is refused or admitted,
and an admitted one is worked on with the permit held. `between` stands after
the permit is taken and before the `try` that releases it. -/
def limited (prepare : Program backend PyException (Except ρ π))
    (tenant : π → String) (refused : π → Program backend PyException ρ)
    (between : Program backend PyException γ)
    (work : π → γ → Program backend PyException β)
    (answer : π → γ → β → Program backend PyException ρ) :
    Handler backend ρ := do
  match ← lift prepare with
  | .error response => return response
  | .ok request =>
      let now ← time
      let granted ← tryAcquire (tenant request) now
      if !granted then lift (refused request)
      else
        let started ← lift between
        let outcome ← (lift (work request started)).tryFinally release
        lift (answer request started outcome)

section Guarded

variable {allowed : backend.Call → Prop}

/-- A guard on the calls to the backend; the limiter may always be called. -/
def BackendAllowed (allowed : backend.Call → Prop) :
    (Limited backend).Call → Prop
  | .backend request => allowed request
  | _ => True

theorem guarded_lift {program : Program backend PyException α}
    {past : List (Event backend PyException)}
    {before : List (Event (Limited backend) PyException)}
    (guarded : Program.Guarded (fun _ => allowed) past program) :
    Program.Guarded (fun _ => BackendAllowed allowed) before (lift program) :=
  guarded.embed fun _ permitted => permitted

/-- A guard on a limited handler is one on each of its parts; the later parts may
use what the first has made of the request. -/
theorem guarded_limited {prepare : Program backend PyException (Except ρ π)}
    {tenant : π → String} {refused : π → Program backend PyException ρ}
    {between : Program backend PyException γ}
    {work : π → γ → Program backend PyException β}
    {answer : π → γ → β → Program backend PyException ρ}
    (first : Program.Guarded (fun _ => allowed) [] prepare)
    (later : ∀ events request, Program.Run prepare events (.ok (.ok request)) →
      Program.Guarded (fun _ => allowed) [] (refused request) ∧
      Program.Guarded (fun _ => allowed) [] between ∧
      ∀ started, Program.Guarded (fun _ => allowed) [] (work request started) ∧
        ∀ outcome, Program.Guarded (fun _ => allowed) []
          (answer request started outcome)) :
    Program.Guarded (fun _ => BackendAllowed allowed) []
      (limited prepare tenant refused between work answer) := by
  apply (guarded_lift first).bind
  intro more prepared run
  cases prepared with
  | error response => trivial
  | ok request =>
      rcases Program.run_of_embed run with ⟨events, _, prepared⟩
      rcases later events request prepared with ⟨refusal, start, working⟩
      apply Program.Guarded.callThen trivial
      intro now
      apply Program.Guarded.callThen trivial
      intro granted
      cases granted with
      | false => exact guarded_lift refusal
      | true =>
          apply (guarded_lift start).bind
          intro _ started _
          apply Program.Guarded.bind
          · apply (guarded_lift (working started).1).tryFinally
            intro _
            refine ⟨trivial, fun released => ?_⟩
            cases released <;> trivial
          · intro _ outcome _
            exact guarded_lift ((working started).2 outcome)

end Guarded

end Handler

end PrivateAiWorkspace.ControlPlane
