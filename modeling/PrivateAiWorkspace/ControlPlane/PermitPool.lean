import PrivateAiWorkspace.ControlPlane.Chat
import PrivateAiWorkspace.ControlPlane.Compare
import PrivateAiWorkspace.ControlPlane.DeepResearch
import PrivateAiWorkspace.ControlPlane.Mcp
import PrivateAiWorkspace.ControlPlane.Media
import PrivateAiWorkspace.ControlPlane.ModelRequests.Handlers
import PrivateAiWorkspace.ControlPlane.Permits

/-!
# Conservation of permits

All handlers that use a limiter, in one pool over one limiter and backends that
may answer anything. Handlers over different backends meet in the sum of the
backends.
-/

namespace PrivateAiWorkspace.ControlPlane

open Effects Python

/-! ## One interface for all handlers -/

/-- The backends of all handlers side by side. -/
def Backends : Interface :=
  Services.sum (ModelRequestBackend.sum Server.Wire)

/-- The clock and the id generator of the interpreter do not fail. -/
def SteadyService : Services.Call → Prop
  | .monotonic => True
  | .uuid4 => True
  | _ => False

/-- The same among the calls of all backends. -/
def Steady : Backends.Call → Prop
  | .inl request => SteadyService request
  | .inr _ => False

/-- A backend that may answer anything. -/
def anyAnswer : World Backends PyException Unit := fun _ event _ =>
  Steady event.call → event.answer.isOk

section Widen

variable {small large : Interface} {α : Type}

/-- The calls of a limited handler over a larger backend. -/
def limitedEmbedding (embedding : Embedding small large) :
    Embedding (Limited small) (Limited large) where
  call
    | .time => .time
    | .tryAcquire tenant now => .tryAcquire tenant now
    | .release => .release
    | .backend request => .backend (embedding.call request)
  answer
    | .time => id
    | .tryAcquire _ _ => id
    | .release => id
    | .backend request => embedding.answer request

/-- A handler over a larger backend, its response dropped. -/
def Handler.widen (embedding : Embedding small large)
    (handler : Handler small α) : Handler large Unit :=
  (handler.embed (limitedEmbedding embedding)).bind fun _ => .ret ()

/-- A handler keeps its discipline over a larger backend. -/
theorem Handler.follows_widen {embedding : Embedding small large}
    {steadySmall : small.Call → Prop} {steadyLarge : large.Call → Prop}
    (steady : ∀ request, steadySmall request →
      steadyLarge (embedding.call request))
    {handler : Handler small α}
    (follows : Program.Follows (permits steadySmall)
      (fun reached _ => reached ≠ .held) .unasked handler) :
    Program.Follows (permits steadyLarge) (fun reached _ => reached ≠ .held)
      .unasked (handler.widen embedding) := by
  have isOk_map : ∀ {β γ : Type} (answer : Except PyException β) (f : β → γ),
      (answer.map f).isOk = answer.isOk := by
    intro β γ answer f
    cases answer <;> rfl
  have embedded : Program.Follows (permits steadyLarge)
      (fun reached _ => reached ≠ .held) .unasked
      (handler.embed (limitedEmbedding embedding)) := by
    apply follows.embed
    · intro phase request allowed
      cases request <;> exact allowed
    · intro request answer expected
      cases request with
      | time => exact (isOk_map answer id).trans expected
      | tryAcquire tenant now => exact (isOk_map answer id).trans expected
      | release => exact (isOk_map answer id).trans expected
      | backend request =>
          intro calm
          exact (isOk_map answer _).trans (expected (steady request calm))
    · intro phase request answer expected
      cases request with
      | tryAcquire tenant now =>
          cases answer with
          | error error => rfl
          | ok granted => cases granted <;> rfl
      | time | release | backend => rfl
  exact embedded.bind (fun _ _ ended => ended) fun _ _ ended => ended

end Widen

/-- A handler over the services among all handlers. -/
def ofServices {α : Type} (handler : Handler Services α) :
    Handler Backends Unit :=
  handler.widen (.inl _ _)

/-- A handler over the store of install requests among all handlers. -/
def ofModelRequests {α : Type}
    (handler : Handler ModelRequestBackend α) :
    Handler Backends Unit :=
  handler.widen ((Embedding.inr _ _).comp (.inl _ _))

/-- A handler over the connection among all handlers. -/
def ofWire {α : Type} (handler : Handler Server.Wire α) :
    Handler Backends Unit :=
  handler.widen ((Embedding.inr _ _).comp (.inr _ _))

/-- The handlers that use a limiter, each with any arguments. -/
inductive LimitedHandler : Handler Backends Unit → Prop where
  | toolInvoke (builtins : Builtins) (authorization : Option String)
      (body : Except PyException Json) (tokenVerifier : Option TokenVerifier)
      (enabled : Bool) (allowlist : Allowlist)
      (notificationStore jobExecutor : Bool) :
      LimitedHandler (ofServices (buildToolInvokeResponse builtins authorization
        body tokenVerifier enabled allowlist notificationStore jobExecutor))
  | agentRun (builtins : Builtins) (authorization : Option String)
      (body : Except PyException Json) (tokenVerifier : Option TokenVerifier)
      (enabled : Bool) (allowlist : Allowlist) (inferenceClient : Bool)
      (budgets : AgentLoopBudgets) (notificationStore jobExecutor : Bool) :
      LimitedHandler (ofServices (buildAgentRunResponse builtins authorization
        body tokenVerifier enabled allowlist inferenceClient budgets
        notificationStore jobExecutor))
  | deepResearch (builtins : Builtins) (authorization : Option String)
      (body : Except PyException Json) (tokenVerifier : Option TokenVerifier)
      (enabled : Bool) (allowlist : Allowlist) (inferenceClient : Bool)
      (budgets : DeepResearchBudgets)
      (notificationStore webSearchClient : Bool) :
      LimitedHandler (ofServices (buildDeepResearchResponse builtins
        authorization body tokenVerifier enabled allowlist inferenceClient
        budgets notificationStore webSearchClient))
  | compare (builtins : Builtins) (authorization : Option String)
      (body : Except PyException Json) (tokenVerifier : Option TokenVerifier)
      (enabled inferenceClient : Bool) (maxPromptChars : Int)
      (defaultModels : List String) :
      LimitedHandler (ofServices (buildCompareResponse builtins authorization
        body tokenVerifier enabled inferenceClient maxPromptChars
        defaultModels))
  | documentEdit (builtins : Builtins) (authorization : Option String)
      (body : Except PyException Json) (tokenVerifier : Option TokenVerifier)
      (enabled inferenceClient : Bool) (maxContentChars : Int) :
      LimitedHandler (ofServices (buildDocumentEditResponse builtins
        authorization body tokenVerifier enabled inferenceClient
        maxContentChars))
  | mcpInvoke (builtins : Builtins) (authorization : Option String)
      (body : Except PyException Json) (tokenVerifier : Option TokenVerifier)
      (enabled : Bool) (allowlist : Allowlist) (notificationStore : Bool) :
      LimitedHandler (ofServices (buildMcpInvokeResponse builtins authorization
        body tokenVerifier enabled allowlist notificationStore))
  | integrationsInvoke (builtins : Builtins) (authorization : Option String)
      (body : Except PyException Json) (tokenVerifier : Option TokenVerifier)
      (enabled : Bool) (allowlist : Allowlist) (integrations : Integrations)
      (secretResolver notificationStore : Bool) :
      LimitedHandler (ofServices (buildIntegrationsInvokeResponse builtins
        authorization body tokenVerifier enabled allowlist integrations
        secretResolver notificationStore))
  | mediaTranscribe (builtins : Builtins) (authorization service : Option String)
      (body : Bytes) (tokenVerifier : Option TokenVerifier) (enabled : Bool)
      (allowlist : Allowlist) (executor : MediaExecutor) (maxAudioBytes : Int)
      (notificationStore : Bool) :
      LimitedHandler (ofServices (buildMediaTranscribeResponse builtins
        authorization service body tokenVerifier enabled allowlist executor
        maxAudioBytes notificationStore))
  | mediaGenerate (builtins : Builtins) (authorization : Option String)
      (body : Except PyException Json) (tokenVerifier : Option TokenVerifier)
      (enabled : Bool) (allowlist : Allowlist) (executor : MediaExecutor)
      (maxPromptChars : Int) (notificationStore : Bool) :
      LimitedHandler (ofServices (buildMediaGenerateResponse builtins
        authorization body tokenVerifier enabled allowlist executor
        maxPromptChars notificationStore))
  | mediaSynthesize (builtins : Builtins) (authorization : Option String)
      (body : Except PyException Json) (tokenVerifier : Option TokenVerifier)
      (enabled : Bool) (allowlist : Allowlist) (executor : MediaExecutor)
      (maxTextChars : Int) (notificationStore : Bool) :
      LimitedHandler (ofServices (buildMediaSynthesizeResponse builtins
        authorization body tokenVerifier enabled allowlist executor
        maxTextChars notificationStore))
  | chat (lower : String → String) (authorization : Option String)
      (body : Except PyException Json) (inferenceBaseUrl : String)
      (tokenVerifier : Option TokenVerifier) (rateLimiter : Bool) :
      LimitedHandler (ofServices (buildChatResponse lower authorization body
        inferenceBaseUrl tokenVerifier rateLimiter))
  | chatStream {ChatRequest : Type} (outcomes : Server.Outcomes ChatRequest)
      (request : Server.Request) :
      LimitedHandler (ofWire (Server.limitedChatStream outcomes request))
  | modelRequestCreate (lower : String → String)
      (authorization : Option String) (body : Except PyException Json)
      (tokenVerifier : Option TokenVerifier)
      (config : ModelInstallConfig)
      (notificationStore rateLimiter : Bool) :
      LimitedHandler (ofModelRequests
        (ModelRequests.buildModelRequestCreateResponse lower authorization body
          tokenVerifier config notificationStore rateLimiter))

/-! ## Every handler follows the discipline -/

section Follows

/-- The services that must not fail while a permit is not yet covered. -/
theorem calm_monotonic : Handler.Calm SteadyService Service.monotonic :=
  ⟨trivial, fun _ => trivial⟩

/-- The limited handlers end without a permit. -/
theorem follows_services {β γ π ρ : Type}
    {prepare : Service (Except ρ π)} {tenant : π → String}
    {refused : π → Service ρ} {between : Service γ} {work : π → γ → Service β}
    {answer : π → γ → β → Service ρ}
    (calm : Handler.Calm SteadyService between) :
    Program.Follows (permits Steady) (fun reached _ => reached ≠ .held) .unasked
      (ofServices (Handler.limited prepare tenant refused between work
        answer)) :=
  Handler.follows_widen (fun _ steady => steady) (Handler.follows_limited calm)

theorem follows_buildChatResponse (lower : String → String)
    (authorization : Option String) (body : Except PyException Json)
    (inferenceBaseUrl : String) (tokenVerifier : Option TokenVerifier)
    (rateLimiter : Bool) :
    Program.Follows (permits SteadyService) (fun reached _ => reached ≠ .held)
      .unasked
      (buildChatResponse lower authorization body inferenceBaseUrl tokenVerifier
        rateLimiter) := by
  unfold buildChatResponse
  cases prepareChat lower authorization body inferenceBaseUrl tokenVerifier with
  | error error => exact PermitPhase.noConfusion
  | ok prepared =>
      cases prepared with
      | error response => exact PermitPhase.noConfusion
      | ok request =>
          cases rateLimiter with
          | true =>
              exact Handler.follows_withPermit rfl (Handler.follows_lift _ _)
          | false =>
              apply (Handler.follows_lift .unasked _).mono
              rintro _ _ rfl
              decide

theorem follows_limitedChatStream {ChatRequest : Type}
    (outcomes : Server.Outcomes ChatRequest) (request : Server.Request) :
    Program.Follows (permits fun _ => False) (fun reached _ => reached ≠ .held)
      .unasked (Server.limitedChatStream outcomes request) := by
  have unasked : ∀ program : Server.Serving Unit,
      Program.Follows (permits fun _ => False)
        (fun reached _ => reached ≠ .held) .unasked (Handler.lift program) := by
    intro program
    apply (Handler.follows_lift .unasked program).mono
    rintro _ _ rfl
    decide
  unfold Server.limitedChatStream
  cases request.contentLength with
  | error error => exact PermitPhase.noConfusion
  | ok contentLength =>
      simp only [Program.bind_eq, Program.ofExcept_ok, Program.ret_bind]
      split
      · exact unasked _
      · cases Server.readBody outcomes contentLength with
        | error error => exact PermitPhase.noConfusion
        | ok body =>
            simp only [Program.ofExcept_ok, Program.ret_bind]
            cases outcomes.prepareChatStream request.authorization body with
            | error error => exact PermitPhase.noConfusion
            | ok prepared =>
                simp only [Program.ofExcept_ok, Program.ret_bind]
                cases prepared with
                | error refusal => exact unasked _
                | ok chatRequest =>
                    cases outcomes.verifyAndExtract request.authorization with
                    | error error => exact PermitPhase.noConfusion
                    | ok verified =>
                        exact Handler.follows_withPermit
                          (Handler.follows_lift _ _) (Handler.follows_lift _ _)

end Follows

namespace ModelRequests

variable {α β : Type} {phase : PermitPhase}

/-- The handler leaves its permit alone. -/
def Keeps (phase : PermitPhase) (handler : Handler ModelRequestBackend α) :
    Prop :=
  Program.Follows (permits fun _ => False) (fun reached _ => reached = phase)
    phase handler

theorem Keeps.bind {first : Handler ModelRequestBackend α}
    {rest : α → Handler ModelRequestBackend β} (keeps : Keeps phase first)
    (after : ∀ value, Keeps phase (rest value)) :
    Keeps phase (first.bind rest) := by
  apply Program.Follows.bind keeps
  · rintro _ value rfl
    exact after value
  · rintro _ error rfl
    rfl

/-- A call of the store, its exceptions not caught. -/
theorem keeps_store {request : ModelRequestCall} :
    Keeps phase (.call (.backend request) Program.ofExcept) := by
  constructor
  · trivial
  · intro answer expected
    cases answer <;> rfl

theorem keeps_notify (store : Bool)
    (tenantId userId eventClass resourceId : String) :
    Keeps phase (notify store tenantId userId eventClass resourceId) := by
  unfold notify
  split
  · rfl
  · have publishing : ∀ event : String → DateTime → NotificationEvent,
        Keeps phase (uuid4.bind fun id => nowUtc.bind fun createdAt =>
          publish (event id createdAt)) := fun _ =>
      keeps_store.bind fun id => keeps_store.bind fun createdAt => keeps_store
    apply Program.Follows.tryCatch (publishing _)
    · rintro _ value rfl
      rfl
    · rintro _ error rfl
      rfl

theorem keeps_recordInstallRequest (body : Except PyException Json)
    (config : ModelInstallConfig) (notificationStore : Bool)
    (tenantId userId : String) :
    Keeps phase (recordInstallRequest body config notificationStore tenantId
      userId) := by
  unfold recordInstallRequest
  apply Keeps.bind
  · unfold loadBody
    split <;> rfl
  · intro outcome
    cases outcome with
    | error response => rfl
    | ok parsed =>
        apply keeps_store.bind
        intro openCount
        dsimp only
        split
        · rfl
        · apply keeps_store.bind
          intro now
          apply keeps_store.bind
          intro id
          apply keeps_store.bind
          intro created
          exact (keeps_notify _ _ _ _ _).bind fun _ => rfl

theorem follows_buildModelRequestCreateResponse (lower : String → String)
    (authorization : Option String) (body : Except PyException Json)
    (tokenVerifier : Option TokenVerifier) (config : ModelInstallConfig)
    (notificationStore rateLimiter : Bool) :
    Program.Follows (permits fun _ => False) (fun reached _ => reached ≠ .held)
      .unasked
      (buildModelRequestCreateResponse lower authorization body tokenVerifier
        config notificationStore rateLimiter) := by
  unfold buildModelRequestCreateResponse
  cases verifyAndExtract lower authorization tokenVerifier with
  | error error => exact PermitPhase.noConfusion
  | ok verified =>
      cases verified with
      | error response => exact PermitPhase.noConfusion
      | ok claims =>
          simp only [Program.bind_eq, Program.ofExcept_ok, Program.ret_bind]
          split
          · exact PermitPhase.noConfusion
          · split
            · exact PermitPhase.noConfusion
            · cases rateLimiter with
              | true =>
                  exact Handler.follows_withPermit rfl
                    (keeps_recordInstallRequest _ _ _ _ _)
              | false =>
                  have keeps : Keeps .unasked (recordInstallRequest body config
                      notificationStore (extractTenantId lower claims)
                      claims.subject) := keeps_recordInstallRequest _ _ _ _ _
                  apply Program.Follows.mono keeps
                  rintro _ _ rfl
                  decide

end ModelRequests

/-- Every handler asks at most once and ends without a permit. -/
theorem LimitedHandler.follows {handler : Handler Backends Unit}
    (limited : LimitedHandler handler) :
    Program.Follows (permits Steady) (fun reached _ => reached ≠ .held) .unasked
      handler := by
  cases limited with
  | toolInvoke =>
      exact follows_services ⟨trivial, fun _ => ⟨trivial, fun _ => trivial⟩⟩
  | agentRun => exact follows_services trivial
  | deepResearch => exact follows_services trivial
  | compare => exact follows_services calm_monotonic
  | documentEdit => exact follows_services calm_monotonic
  | mcpInvoke => exact follows_services calm_monotonic
  | integrationsInvoke => exact follows_services calm_monotonic
  | mediaTranscribe => exact follows_services calm_monotonic
  | mediaGenerate => exact follows_services calm_monotonic
  | mediaSynthesize => exact follows_services calm_monotonic
  | chat lower authorization body inferenceBaseUrl tokenVerifier rateLimiter =>
      exact Handler.follows_widen (fun _ steady => steady)
        (follows_buildChatResponse lower authorization body inferenceBaseUrl
          tokenVerifier rateLimiter)
  | chatStream outcomes request =>
      exact Handler.follows_widen (fun _ => False.elim)
        (follows_limitedChatStream outcomes request)
  | modelRequestCreate lower authorization body tokenVerifier config
      notificationStore rateLimiter =>
      exact Handler.follows_widen (fun _ => False.elim)
        (ModelRequests.follows_buildModelRequestCreateResponse lower
          authorization body tokenVerifier config notificationStore rateLimiter)

/-! ## Conservation -/

/-- A run of handlers over one limiter. -/
abbrev LimiterRun (perMinute maxConcurrency : Int)
    (history : PermitHistory Backends Unit Unit)
    (target : Pool (Limited Backends) PyException Unit (Shared Unit)) : Prop :=
  Execution (Pool.Step (LimitedWorld anyAnswer) LimitedHandler)
    ⟨⟨.init perMinute maxConcurrency, ()⟩, []⟩ history target

theorem anyAnswer_calm (source : Unit) (request : Backends.Call)
    (answer : Except PyException (Backends.Answer request)) (target : Unit)
    (answered : anyAnswer source ⟨request, answer⟩ target)
    (steady : Steady request) : answer.isOk :=
  answered steady

/-- Whatever the handlers do and the backends answer: the permits that are out
are at most the concurrency and are what the semaphore lacks of it; a handler is
granted at most one permit and releases no more than it is granted, and exactly
that once it has ended; when all have ended the semaphore is full again. -/
theorem permits_conserved {perMinute maxConcurrency : Int}
    {history : PermitHistory Backends Unit Unit}
    {target : Pool (Limited Backends) PyException Unit (Shared Unit)}
    (run : LimiterRun perMinute maxConcurrency history target) :
    outstanding history ≤ max 1 maxConcurrency ∧
    outstanding history =
      max 1 maxConcurrency - target.shared.limiter.sema.value ∧
    (∀ thread,
      let counts := permitCounts (Pool.threadEvents thread history)
      counts.2 ≤ counts.1 ∧ counts.1 ≤ 1) ∧
    (∀ thread handler, target.threads[thread]? = some handler →
      handler.Ended →
      let counts := permitCounts (Pool.threadEvents thread history)
      counts.2 = counts.1) ∧
    ((∀ handler ∈ target.threads, handler.Ended) →
      (target.shared.limiter.sema.value : Int) = max 1 maxConcurrency) := by
  have follows : ∀ handler, LimitedHandler handler → _ :=
    fun handler limited => LimitedHandler.follows limited
  rcases balanced_of_execution anyAnswer_calm follows run with
    ⟨holding, balanced⟩
  have free : ∀ thread,
      (∀ handler, target.threads[thread]? = some handler → handler.Ended) →
      permitPhase thread history ≠ .held := fun thread =>
    permitPhase_ne_held anyAnswer_calm follows run
  have total := balanced.total
  have value := balanced.value
  refine ⟨?_, ?_, ?_, ?_, ?_⟩
  · unfold outstanding
    omega
  · unfold outstanding
    omega
  · intro thread
    rw [balanced.counts]
    cases permitPhase thread history <;> decide
  · intro thread handler found ended
    have released := free thread fun other same => by
      rw [found] at same
      cases same
      exact ended
    rw [balanced.counts]
    cases phase : permitPhase thread history with
    | held => exact absurd phase released
    | unasked => rfl
    | refused => rfl
    | returned => rfl
  · intro ended
    have nobody : holding = [] := by
      apply List.eq_nil_iff_forall_not_mem.mpr
      intro thread member
      apply free thread _ ((balanced.mem_iff thread).mp member)
      intro handler found
      exact ended handler (List.mem_of_getElem? found)
    rw [nobody, List.length_nil] at value
    omega

/-- Backends that are down: every call that can fail times out. -/
def backendsDown (_ _ : Unit) : (request : Backends.Call) →
    Option (Except PyException (Backends.Answer request) × Unit)
  | .inl .monotonic => some (.ok (0 : Rat), ())
  | .inl .uuid4 => some (.ok "id", ())
  | .inl _ => some (.error .timeoutError, ())
  | .inr _ => some (.error .timeoutError, ())

theorem backendsDown_sound (choice state : Unit) (request : Backends.Call)
    (answer : Except PyException (Backends.Answer request)) (next : Unit)
    (answered : backendsDown choice state request = some (answer, next)) :
    anyAnswer state ⟨request, answer⟩ next := by
  intro steady
  cases request with
  | inr request => exact steady.elim
  | inl request =>
      cases request with
      | monotonic | uuid4 =>
          cases answered
          rfl
      | _ => exact steady.elim

/-- A user of `acme.com` chats. -/
def chatOnce : Handler Backends Unit :=
  ofServices (buildChatResponse Str.asciiLower (some "Bearer t1")
    (.ok (.obj [("model", .str "m"), ("temperature", .int 1),
      ("messages", .arr [.obj
        [("role", .str "user"), ("content", .str "hi")]])]))
    "http://vllm:8000" (some fun _ => .ok ⟨"ana", "ana@acme.com", []⟩) true)

/-- Two chats at once over a limiter for one; the first loses its backend. -/
def twoChats :=
  Pool.play (respond backendsDown)
    [.start chatOnce, .start chatOnce, .call 0 (0, ()), .call 1 (0, ()),
      .call 0 (0, ()), .call 1 (0, ()), .call 0 (0, ()), .call 0 (0, ())]
    ⟨⟨.init 60 1, ()⟩, []⟩

theorem twoChats_run : LimiterRun 60 1 twoChats.1 twoChats.2 := by
  apply Pool.play_execution (respond_sound backendsDown_sound)
  intro handler member
  have chats : handler = chatOnce := by simpa using member
  rw [chats]
  exact .chat _ _ _ _ _ _

/-- Both chats have ended, one was granted a permit, and the semaphore is full
again. -/
theorem permits_conserved_twoChats :
    (∀ handler ∈ twoChats.2.threads, handler.Ended) ∧
      (permitCounts (callEvents twoChats.1)).1 = 1 ∧
      (twoChats.2.shared.limiter.sema.value : Int) = max 1 1 := by
  have ended : ∀ handler ∈ twoChats.2.threads, handler.Ended := by decide
  exact ⟨ended, by decide, (permits_conserved twoChats_run).2.2.2.2 ended⟩

end PrivateAiWorkspace.ControlPlane
