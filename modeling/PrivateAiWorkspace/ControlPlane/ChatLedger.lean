import PrivateAiWorkspace.ControlPlane.InferenceClient
import PrivateAiWorkspace.ControlPlane.Permits

/-!
# The ledger of a chat request

What the handler makes of the outcome of the client, the documented answers, and
the ledger of a request: its attempts, what the inference plane showed of itself
in them, and its permit.
-/

namespace PrivateAiWorkspace.ControlPlane

open Effects Python

/-! ## What the code makes of an outcome -/

/-- What `build_chat_response` answers to an exception of the client. -/
def degradedResponse : PyException → Option Server.Response
  | .inferenceUnavailableError (some 429) =>
      some (degradedChat "inference_unavailable"
        "The inference service is at capacity." 60)
  | .inferenceUnavailableError _ =>
      some (degradedChat "inference_unavailable"
        "The inference service is currently unavailable." 30)
  | .inferenceRoutingError =>
      some (degradedChat "inference_not_reachable"
        "The inference endpoint could not be reached." 10)
  | .timeoutError =>
      some (degradedChat "inference_timeout"
        ("The inference request timed out. The model may be loading " ++
          "— retry shortly.") 30)
  | _ => none

/-- What the client makes of an exception of an attempt. -/
def clientError : PyException → PyException
  | .httpError code => .inferenceUnavailableError (some code)
  | .urlError => .inferenceUnavailableError none
  | error => error

/-- What `build_chat_response` makes of the outcome of the client. -/
def chatOutcome : Except PyException Json → Except PyException Server.Response
  | .ok result => .ok (chatResponse (.ok, result) [])
  | .error error =>
      match degradedResponse error with
      | some response => .ok response
      | none => .error error

/-- An `except` clause of the client or of the handler names the exception. -/
def handled : PyException → Bool
  | .httpError _ | .urlError | .timeoutError => true
  | .inferenceUnavailableError _ | .inferenceRoutingError => true
  | _ => false

theorem isSome_degradedResponse_clientError (error : PyException) :
    (degradedResponse (clientError error)).isSome = handled error := by
  have unavailable (status : Option Nat) :
      (degradedResponse (.inferenceUnavailableError status)).isSome := by
    by_cases full : status = some 429
    · subst full
      rfl
    · simp [degradedResponse]
  cases error with
  | httpError code => exact unavailable (some code)
  | inferenceUnavailableError status => exact unavailable status
  | _ => rfl

/-! ## The degraded-mode policy -/

/-- The policy of the scaling guide: the error that is named to an exception of
the client, and the seconds after which to try again. -/
def degradedMode : PyException → Option (String × Nat)
  | .inferenceRoutingError => some ("inference_not_reachable", 10)
  | .inferenceUnavailableError (some 429) => some ("inference_unavailable", 60)
  | .inferenceUnavailableError _ => some ("inference_unavailable", 30)
  | .timeoutError => some ("inference_timeout", 30)
  | _ => none

/-- The response is the 503 of the policy: its body names the error, and its
`Retry-After` header says when to try again. -/
def Degraded (error : PyException) (response : Server.Response) : Prop :=
  ∃ name seconds, degradedMode error = some (name, seconds) ∧
    response.statusCode = 503 ∧
    response.headers = [("Retry-After", toString seconds)] ∧
    ∃ detail, response.payload = .obj [("error", .str name), ("detail", .str detail),
      ("status", .str "degraded"), ("retry_after", .int seconds)]

theorem degraded_degradedChat {error : PyException} {name : String} {seconds : Nat}
    (policy : degradedMode error = some (name, seconds)) (detail : String) :
    Degraded error (degradedChat name detail seconds) :=
  ⟨name, seconds, policy, rfl, rfl, detail, rfl⟩

/-- The code answers by the policy. -/
theorem degraded_of_degradedResponse {error : PyException}
    {response : Server.Response}
    (answered : degradedResponse error = some response) :
    Degraded error response := by
  cases error with
  | inferenceRoutingError =>
      cases answered
      exact degraded_degradedChat rfl _
  | timeoutError =>
      cases answered
      exact degraded_degradedChat rfl _
  | inferenceUnavailableError status =>
      by_cases full : status = some 429
      · subst full
        cases answered
        exact degraded_degradedChat rfl _
      · simp only [degradedResponse, Option.some.injEq] at answered
        subst answered
        exact degraded_degradedChat (by simp [degradedMode]) _
  | _ => cases answered

/-! ## The handler over the client -/

theorem forwardChat_eq (request : ChatCompletionRequest) :
    forwardChat request =
      (Service.chatCompletions request).attempt.bind fun outcome =>
        Program.ofExcept (chatOutcome outcome) := by
  change Program.bind _ _ = _
  congr 1
  funext outcome
  cases outcome with
  | ok result => rfl
  | error error =>
      cases error with
      | inferenceUnavailableError status =>
          by_cases full : status = some 429
          · subst full
            rfl
          · simp only [chatOutcome, degradedResponse]
            rfl
      | _ => rfl

/-- `build_chat_response` from the forwarding on. -/
def forwardOverClient (builtins : Builtins) (inferenceBaseUrl : String)
    (request : ChatCompletionRequest) : Handler Upstream Server.Response :=
  (Handler.lift (VLLMInferenceClient.chatCompletions builtins
    { baseUrl := inferenceBaseUrl } request)).attempt.bind fun outcome =>
      Program.ofExcept (chatOutcome outcome)

section Interpretation

variable {builtins : Builtins} {inferenceBaseUrl : String}

theorem interpret_forwardChat (request : ChatCompletionRequest) :
    (Handler.lift (forwardChat request)).interpret
        (overClient builtins inferenceBaseUrl) =
      forwardOverClient builtins inferenceBaseUrl request := by
  have settled (outcome : Except PyException Server.Response) :
      (Handler.lift (Program.ofExcept outcome : Service Server.Response)).interpret
        (overClient builtins inferenceBaseUrl) = Program.ofExcept outcome := by
    cases outcome <;> rfl
  rw [forwardChat_eq]
  change Program.bind _ _ = Program.bind _ _
  congr 1
  funext outcome
  cases outcome with
  | ok result => exact settled (chatOutcome (.ok result))
  | error error => exact settled (chatOutcome (.error error))

/-- The client leaves the limiter alone. -/
theorem interpret_limiter (builtins : Builtins) (inferenceBaseUrl : String) :
    (Handler.time : Handler Services Int).interpret
          (overClient builtins inferenceBaseUrl) = Handler.time ∧
      (∀ tenant now, (Handler.tryAcquire tenant now :
          Handler Services Bool).interpret
          (overClient builtins inferenceBaseUrl) =
        Handler.tryAcquire tenant now) ∧
      (Handler.release : Handler Services Unit).interpret
          (overClient builtins inferenceBaseUrl) = Handler.release :=
  ⟨Program.interpret_perform _, fun _ _ => Program.interpret_perform _,
    Program.interpret_perform _⟩

theorem interpret_withPermit {α : Type} (tenant : String)
    (refused work : Handler Services α) :
    (Handler.withPermit tenant refused work).interpret
        (overClient builtins inferenceBaseUrl) =
      Handler.withPermit tenant
        (refused.interpret (overClient builtins inferenceBaseUrl))
        (work.interpret (overClient builtins inferenceBaseUrl)) := by
  rcases interpret_limiter builtins inferenceBaseUrl with
    ⟨time, tryAcquire, release⟩
  simp only [Handler.withPermit, Program.bind_eq, Program.interpret_bind, time,
    tryAcquire]
  congr 1
  funext now
  congr 1
  funext granted
  cases granted with
  | true =>
      simp only [if_true, Program.interpret_tryFinally, release]
  | false => rfl

/-- The handler over the client, with its parts. -/
theorem buildChatResponseOverClient_eq (authorization : Option String)
    (body : Except PyException Json) (tokenVerifier : Option TokenVerifier)
    (rateLimiter : Bool) :
    buildChatResponseOverClient builtins authorization body inferenceBaseUrl
        tokenVerifier rateLimiter =
      (Program.ofExcept (prepareChat builtins.lower authorization body
        inferenceBaseUrl tokenVerifier)).bind fun
        | .error response => .ret response
        | .ok (tenantId, request) =>
            if rateLimiter then
              Handler.withPermit tenantId (.ret chatRateLimited)
                (forwardOverClient builtins inferenceBaseUrl request)
            else forwardOverClient builtins inferenceBaseUrl request := by
  simp only [buildChatResponseOverClient, buildChatResponse, Program.bind_eq,
    Program.interpret_bind, Program.interpret_ofExcept]
  congr 1
  funext prepared
  cases prepared with
  | error response => rfl
  | ok request =>
      rcases request with ⟨tenantId, request⟩
      cases rateLimiter with
      | true =>
          simp only [if_true, interpret_withPermit, interpret_forwardChat]
          rfl
      | false => exact interpret_forwardChat request

end Interpretation

/-! ## Disciplines of handlers -/

section Backend

variable {backend : Interface} {α φ : Type}

/-- What a discipline of handlers says of their backend. -/
def Discipline.onBackend (discipline : Discipline (Limited backend) PyException φ) :
    Discipline backend PyException φ where
  expected event := discipline.expected ⟨.backend event.call, event.answer⟩
  allowed phase request := discipline.allowed phase (.backend request)
  advance phase event :=
    discipline.advance phase ⟨.backend event.call, event.answer⟩

/-- A program over the backend follows as a handler what it follows by itself. -/
theorem Handler.follows_onBackend
    {discipline : Discipline (Limited backend) PyException φ}
    {post : φ → Except PyException α → Prop} {phase : φ}
    {program : Program backend PyException α}
    (follows : Program.Follows (Discipline.onBackend discipline) post phase
      program) :
    Program.Follows discipline post phase (Handler.lift program) := by
  apply follows.embed
  · exact fun _ _ allowed => allowed
  · intro request answer expected
    cases answer <;> exact expected
  · intro phase request answer _
    cases answer <;> rfl

end Backend

/-! ## The ledger of a request -/

/-- An answered call of the handler. -/
abbrev ChatEvent := Event (Limited Upstream) PyException

/-- The call opens a connection to the inference plane. -/
def isAttempt : (Limited Upstream).Call → Bool
  | .backend (.urlopen _) => true
  | _ => false

section Ledger

variable (builtins : Builtins)

/-- The exception the inference plane shows of itself: instead of a response,
while it is read, or because it is not JSON. -/
def shownBy : ChatEvent → Option PyException
  | ⟨.backend (.urlopen _), answer⟩ =>
      match (answer : Except PyException Unit) with
      | .error error => some error
      | .ok _ => none
  | ⟨.backend .read, answer⟩ =>
      match (answer : Except PyException Bytes) with
      | .error error => some error
      | .ok body =>
          match builtins.loadsBytes body with
          | .error error => some error
          | .ok _ => none
  | _ => none

/-- The JSON a response of the inference plane is read as. -/
def receivedBy : ChatEvent → Option Json
  | ⟨.backend .read, answer⟩ =>
      match (answer : Except PyException Bytes) with
      | .error _ => none
      | .ok body => (builtins.loadsBytes body).toOption
  | _ => none

/-- The clock, the limiter and the sleep between attempts do what they are asked
to. -/
def SteadyChat : ChatEvent → Prop
  | ⟨.backend (.sleep _), answer⟩ => (answer : Except PyException Unit).isOk
  | ⟨.backend _, _⟩ => True
  | ⟨_, answer⟩ => answer.isOk

/-- What a request has come to: its permit, its attempts and their outcomes. -/
structure ChatLedger where
  granted : Bool
  releases : Nat
  attempts : Nat
  shown : List PyException
  received : List Json

/-- Nothing has happened. -/
def ChatLedger.blank : ChatLedger := ⟨false, 0, 0, [], []⟩

/-- One more attempt, with its outcome. -/
def ChatLedger.attempted (ledger : ChatLedger) :
    Except PyException Json → ChatLedger
  | .ok json => { ledger with
      attempts := ledger.attempts + 1, received := ledger.received ++ [json] }
  | .error error => { ledger with
      attempts := ledger.attempts + 1, shown := ledger.shown ++ [error] }

/-- Keep the ledger. A second attempt is allowed after one that ended in a
`URLError`. -/
def chatLedger : Discipline (Limited Upstream) PyException ChatLedger where
  expected := SteadyChat
  allowed ledger
    | .backend (.urlopen _) =>
        ledger.attempts = 0 ∨ ledger.attempts = 1 ∧ ledger.shown = [.urlError]
    | _ => True
  advance ledger event :=
    { granted := isGrant event || ledger.granted
      releases := ledger.releases + if isRelease event.call then 1 else 0
      attempts := ledger.attempts + if isAttempt event.call then 1 else 0
      shown := ledger.shown ++ (shownBy builtins event).toList
      received := ledger.received ++ (receivedBy builtins event).toList }

variable {builtins}

theorem after_chatLedger (start : ChatLedger) (events : List ChatEvent) :
    (chatLedger builtins).after start events =
      { granted := events.any isGrant || start.granted
        releases := start.releases + events.countP fun event =>
          isRelease event.call
        attempts := start.attempts + events.countP fun event =>
          isAttempt event.call
        shown := start.shown ++ events.filterMap (shownBy builtins)
        received := start.received ++ events.filterMap (receivedBy builtins) } := by
  induction events generalizing start with
  | nil => simp
  | cons event events ih =>
      have shown : (event :: events).filterMap (shownBy builtins) =
          (shownBy builtins event).toList ++
            events.filterMap (shownBy builtins) := by
        cases here : shownBy builtins event <;> simp [here]
      have received : (event :: events).filterMap (receivedBy builtins) =
          (receivedBy builtins event).toList ++
            events.filterMap (receivedBy builtins) := by
        cases here : receivedBy builtins event <;> simp [here]
      rw [Discipline.after_cons, ih, shown, received, List.countP_cons,
        List.countP_cons, List.any_cons]
      simp only [chatLedger, ChatLedger.mk.injEq, List.append_assoc]
      refine ⟨?_, ?_, ?_, trivial, trivial⟩
      · rw [← Bool.or_assoc, Bool.or_comm (events.any isGrant)]
      · omega
      · omega

/-! ### The client -/

/-- One more attempt is in the ledger with what it ended in. -/
theorem follows_exchange (post : InferencePost) {start : ChatLedger}
    (permitted : start.attempts = 0 ∨
      start.attempts = 1 ∧ start.shown = [.urlError]) :
    Program.Follows (Discipline.onBackend (chatLedger builtins))
      (fun reached outcome => reached = start.attempted outcome) start
      (VLLMInferenceClient.exchange builtins post) := by
  apply Program.Follows.callThen permitted
  · intro response _
    apply Program.Follows.callThen trivial
    · intro body _
      cases loaded : builtins.loadsBytes body <;>
        simp [chatLedger, Discipline.onBackend, ChatLedger.attempted, isGrant,
          granted, isRelease, isAttempt, shownBy, receivedBy, loaded,
          Except.toOption]
    · intro error _
      simp [chatLedger, Discipline.onBackend, ChatLedger.attempted, isGrant,
        granted, isRelease, isAttempt, shownBy, receivedBy]
  · intro error _
    simp [chatLedger, Discipline.onBackend, ChatLedger.attempted, isGrant,
      granted, isRelease, isAttempt, shownBy, receivedBy]

/-- How the client ends: with JSON it has received, or with what it makes of the
last exception it was shown. All other exceptions were `URLError`s. -/
def ClientEnd (reached : ChatLedger) : Except PyException Json → Prop
  | .ok json => json ∈ reached.received ∧ ∀ error ∈ reached.shown, error = .urlError
  | .error error => ∃ last ∈ reached.shown, error = clientError last ∧
      ∀ other ∈ reached.shown, other = last ∨ other = .urlError

/-- The permit is left alone, and at most two attempts have been made. -/
structure Attempts (start reached : ChatLedger) : Prop where
  granted_eq : reached.granted = start.granted
  releases_eq : reached.releases = start.releases
  attempts_le : reached.attempts ≤ maxRetries + 1

/-- What is left of the client after an attempt. -/
theorem follows_settle {next : Program Upstream PyException Json}
    {start : ChatLedger} (few : start.attempts ≤ maxRetries)
    (shown : ∀ error ∈ start.shown, error = .urlError)
    (retried : Program.Follows (Discipline.onBackend (chatLedger builtins))
      (fun reached outcome =>
        Attempts (start.attempted (.error .urlError)) reached ∧
          ClientEnd reached outcome)
      (start.attempted (.error .urlError)) next)
    (outcome : Except PyException Json) :
    Program.Follows (Discipline.onBackend (chatLedger builtins))
      (fun reached outcome => Attempts start reached ∧ ClientEnd reached outcome)
      (start.attempted outcome) (VLLMInferenceClient.settle next outcome) := by
  have within : ∀ outcome, Attempts start (start.attempted outcome) := by
    intro outcome
    cases outcome <;> exact ⟨rfl, rfl, Nat.succ_le_succ few⟩
  have ended : ∀ last, ClientEnd (start.attempted (.error last))
      (.error (clientError last)) := by
    intro last
    refine ⟨last, by simp [ChatLedger.attempted], rfl, fun other member => ?_⟩
    rcases List.mem_append.mp member with earlier | here
    · exact .inr (shown other earlier)
    · exact .inl (List.mem_singleton.mp here)
  cases outcome with
  | ok json => exact ⟨within _, by simp [ChatLedger.attempted], shown⟩
  | error error =>
      cases error with
      | urlError =>
          apply retried.mono
          intro reached outcome ending
          exact ⟨⟨ending.1.granted_eq, ending.1.releases_eq,
            ending.1.attempts_le⟩, ending.2⟩
      | _ => exact ⟨within _, ended _⟩

theorem urlError_of_shown {shown : List PyException} {attempt : Nat}
    (same : shown = List.replicate attempt .urlError) :
    ∀ error ∈ shown, error = .urlError := by
  intro error member
  rw [same] at member
  exact List.eq_of_mem_replicate member

/-- The client after some attempts that all ended in a `URLError`. -/
theorem follows_rounds (post : InferencePost) {left attempt : Nat}
    {start : ChatLedger} (within : attempt + left = maxRetries + 1)
    (attempts : start.attempts = attempt)
    (shown : start.shown = List.replicate attempt .urlError) :
    Program.Follows (Discipline.onBackend (chatLedger builtins))
      (fun reached outcome => Attempts start reached ∧ ClientEnd reached outcome)
      start (VLLMInferenceClient.rounds builtins post attempt left) := by
  induction left generalizing attempt start with
  | zero =>
      have both : attempt = 2 := within
      subst both
      refine ⟨⟨rfl, rfl, attempts.le⟩, .urlError, by simp [shown], rfl, ?_⟩
      exact fun other member => .inr (urlError_of_shown shown other member)
  | succ left ih =>
      have permitted : start.attempts = 0 ∨
          start.attempts = 1 ∧ start.shown = [.urlError] := by
        cases attempt with
        | zero => exact .inl attempts
        | succ earlier =>
            have first : earlier = 0 := by
              simp only [maxRetries] at within
              omega
            subst first
            exact .inr ⟨attempts, shown⟩
      have retried := @ih (attempt + 1) (start.attempted (.error .urlError))
        (by omega) (congrArg (· + 1) attempts)
        (by
          rw [List.replicate_succ', ← shown]
          rfl)
      have tried : Program.Follows (Discipline.onBackend (chatLedger builtins))
          (fun reached result => ∃ outcome, result = .ok outcome ∧
            reached = start.attempted outcome) start
          (VLLMInferenceClient.exchange builtins post).attempt :=
        (follows_exchange post permitted).attempt
          fun _ outcome reached => ⟨outcome, rfl, reached⟩
      have round : Program.Follows (Discipline.onBackend (chatLedger builtins))
          (fun reached outcome =>
            Attempts start reached ∧ ClientEnd reached outcome) start
          ((VLLMInferenceClient.exchange builtins post).attempt.bind
            (VLLMInferenceClient.settle
              (VLLMInferenceClient.rounds builtins post (attempt + 1) left))) := by
        apply tried.bind
        · intro reached value ended
          rcases ended with ⟨outcome, same, reached_eq⟩
          cases same
          subst reached_eq
          exact follows_settle (by omega) (urlError_of_shown shown) retried value
        · intro reached error ended
          rcases ended with ⟨_, impossible, _⟩
          cases impossible
      cases attempt with
      | zero => exact round
      | succ earlier =>
          -- Sleeping is not in the ledger.
          have asleep : (Discipline.onBackend (chatLedger builtins)).advance start
              ⟨.sleep retryBackoff, .ok ()⟩ = start := by
            simp [chatLedger, Discipline.onBackend, isGrant, granted, isRelease,
              isAttempt, shownBy, receivedBy]
          apply Program.Follows.callThen trivial
          · intro _ _
            change Program.Follows _ _ ((Discipline.onBackend
              (chatLedger builtins)).advance start
              ⟨.sleep retryBackoff, .ok ()⟩) _
            rw [asleep]
            exact round
          · intro _ impossible
            cases impossible

/-- The client ends as its last attempt does, or as the base URL does. -/
theorem follows_chatCompletions (inferenceBaseUrl : String)
    (request : ChatCompletionRequest) {start : ChatLedger}
    (fresh : start.attempts = 0) (blank : start.shown = []) :
    Program.Follows (Discipline.onBackend (chatLedger builtins))
      (fun reached outcome => Attempts start reached ∧
        ((∃ endpoint, InferenceEndpoint.fromBaseUrl builtins inferenceBaseUrl =
            .ok endpoint) ∧ ClientEnd reached outcome ∨
          ∃ error, InferenceEndpoint.fromBaseUrl builtins inferenceBaseUrl =
            .error error ∧ outcome = .error error ∧ reached = start))
      start
      (VLLMInferenceClient.chatCompletions builtins
        { baseUrl := inferenceBaseUrl } request) := by
  apply Program.Follows.ofExceptThen
  · intro endpoint resolved
    have within : 0 + (maxRetries + 1) = maxRetries + 1 := Nat.zero_add _
    apply (follows_rounds _ within fresh blank).mono
    exact fun _ _ ended => ⟨ended.1, .inl ⟨⟨endpoint, resolved⟩, ended.2⟩⟩
  · intro error unresolved
    have few : start.attempts ≤ maxRetries + 1 := by omega
    exact ⟨⟨rfl, rfl, few⟩, .inr ⟨error, unresolved, rfl, rfl⟩⟩

/-! ### The handler -/

/-- The documented answers: a 200 with JSON of the backend, and the 503 that the
policy has for what the inference plane has shown of itself, or for a base URL
that cannot be resolved. -/
inductive Answered (builtins : Builtins) (inferenceBaseUrl : String)
    (shown : List PyException) (received : List Json) :
    Except PyException Server.Response → Prop where
  | backend {response : Server.Response} :
      response.statusCode = 200 → response.payload ∈ received →
      Answered builtins inferenceBaseUrl shown received (.ok response)
  | degraded {error : PyException} {response : Server.Response} :
      error ∈ shown → Degraded (clientError error) response →
      Answered builtins inferenceBaseUrl shown received (.ok response)
  | unresolved {error : PyException} {response : Server.Response} :
      InferenceEndpoint.fromBaseUrl builtins inferenceBaseUrl = .error error →
      Degraded error response →
      Answered builtins inferenceBaseUrl shown received (.ok response)

theorem not_answered_error {inferenceBaseUrl : String}
    {shown : List PyException} {received : List Json} {error : PyException} :
    ¬ Answered builtins inferenceBaseUrl shown received (.error error) := nofun

/-- `urlparse` does not raise on the base URL, and what the inference plane has
shown of itself is handled. -/
structure AllHandled (builtins : Builtins) (inferenceBaseUrl : String)
    (shown : List PyException) : Prop where
  parsed : InferenceEndpoint.fromBaseUrl builtins inferenceBaseUrl ≠
    .error .valueError
  shown : ∀ error ∈ shown, handled error = true

/-- An answer is documented exactly when nothing unhandled has come up. -/
theorem answered_iff_of_clientEnd {inferenceBaseUrl : String}
    {reached : ChatLedger} {outcome : Except PyException Json}
    (resolved : ∃ endpoint,
      InferenceEndpoint.fromBaseUrl builtins inferenceBaseUrl = .ok endpoint)
    (ended : ClientEnd reached outcome) :
    Answered builtins inferenceBaseUrl reached.shown reached.received
        (chatOutcome outcome) ↔
      AllHandled builtins inferenceBaseUrl reached.shown := by
  rcases resolved with ⟨endpoint, resolved⟩
  have parsed : InferenceEndpoint.fromBaseUrl builtins inferenceBaseUrl ≠
      .error .valueError := by
    rw [resolved]
    exact nofun
  cases outcome with
  | ok json =>
      refine iff_of_true (.backend rfl ended.1) ⟨parsed, fun error member => ?_⟩
      rw [ended.2 error member]
      rfl
  | error error =>
      rcases ended with ⟨last, member, error_eq, others⟩
      subst error_eq
      have decided := isSome_degradedResponse_clientError last
      cases answer : degradedResponse (clientError last) with
      | some response =>
          rw [answer] at decided
          simp only [chatOutcome, answer]
          refine iff_of_true (.degraded member (degraded_of_degradedResponse answer))
            ⟨parsed, fun other shown => ?_⟩
          rcases others other shown with same | same
          · rw [same]
            exact decided.symm
          · rw [same]
            rfl
      | none =>
          rw [answer] at decided
          simp only [chatOutcome, answer]
          refine iff_of_false not_answered_error fun handled => ?_
          cases decided.trans (handled.shown last member)

theorem answered_iff_of_unresolved {inferenceBaseUrl : String}
    {received : List Json} {error : PyException}
    (unresolved : InferenceEndpoint.fromBaseUrl builtins inferenceBaseUrl =
      .error error) :
    Answered builtins inferenceBaseUrl [] received (chatOutcome (.error error)) ↔
      AllHandled builtins inferenceBaseUrl [] := by
  rcases fromBaseUrl_error unresolved with rfl | rfl
  · refine iff_of_true (.unresolved unresolved (degraded_degradedChat rfl _))
      ⟨?_, nofun⟩
    rw [unresolved]
    exact nofun
  · exact iff_of_false not_answered_error fun handled =>
      handled.parsed unresolved

/-- A forwarded request ends in a documented answer exactly when nothing
unhandled comes up. -/
theorem follows_forward (inferenceBaseUrl : String)
    (request : ChatCompletionRequest) {start : ChatLedger}
    (fresh : start.attempts = 0) (blank : start.shown = []) :
    Program.Follows (chatLedger builtins)
      (fun reached result => Attempts start reached ∧
        (Answered builtins inferenceBaseUrl reached.shown reached.received
            result ↔
          AllHandled builtins inferenceBaseUrl reached.shown))
      start (forwardOverClient builtins inferenceBaseUrl request) := by
  have caught : Program.Follows (chatLedger builtins)
      (fun reached result => ∃ outcome, result = .ok outcome ∧
        Attempts start reached ∧
        (Answered builtins inferenceBaseUrl reached.shown reached.received
            (chatOutcome outcome) ↔
          AllHandled builtins inferenceBaseUrl reached.shown))
      start
      (Handler.lift (VLLMInferenceClient.chatCompletions builtins
        { baseUrl := inferenceBaseUrl } request)).attempt := by
    apply (Handler.follows_onBackend (follows_chatCompletions inferenceBaseUrl
      request fresh blank)).attempt
    intro reached outcome ended
    refine ⟨outcome, rfl, ended.1, ?_⟩
    rcases ended.2 with ⟨resolved, ended⟩ | ⟨error, unresolved, same, unmoved⟩
    · exact answered_iff_of_clientEnd resolved ended
    · subst same unmoved
      rw [blank]
      exact answered_iff_of_unresolved unresolved
  apply caught.bind
  · intro reached outcome ended
    rcases ended with ⟨_, same, ended⟩
    cases same
    cases answer : chatOutcome outcome <;> rw [answer] at ended <;> exact ended
  · intro reached error impossible
    rcases impossible with ⟨_, impossible, _⟩
    cases impossible

/-- How a request ends that has the permit it needs. -/
structure ChatEnd (builtins : Builtins) (inferenceBaseUrl : String)
    (rateLimiter : Bool) (reached : ChatLedger)
    (result : Except PyException Server.Response) : Prop where
  attempts_le : reached.attempts ≤ maxRetries + 1
  releases_eq : reached.releases = if rateLimiter then 1 else 0
  answered_iff :
    Answered builtins inferenceBaseUrl reached.shown reached.received result ↔
      AllHandled builtins inferenceBaseUrl reached.shown

/-- The permit is given back after the work it was granted for. -/
theorem follows_released {inferenceBaseUrl : String}
    (request : ChatCompletionRequest) {start : ChatLedger}
    (held : start.releases = 0) (fresh : start.attempts = 0)
    (blank : start.shown = []) :
    Program.Follows (chatLedger builtins)
      (ChatEnd builtins inferenceBaseUrl true) start
      ((forwardOverClient builtins inferenceBaseUrl request).tryFinally
        Handler.release) := by
  apply (follows_forward inferenceBaseUrl request fresh blank).tryFinally
  intro reached result ended
  refine ⟨trivial, fun answer answers => ?_⟩
  cases answer with
  | error error => cases answers
  | ok value =>
      refine ⟨?_, ?_, ?_⟩
      · simpa [chatLedger, isAttempt] using ended.1.attempts_le
      · simp [chatLedger, isRelease, ended.1.releases_eq, held]
      · simpa [chatLedger, shownBy, receivedBy] using ended.2

/-- A prepared request, from asking for its permit on. -/
theorem follows_prepared (inferenceBaseUrl tenantId : String)
    (request : ChatCompletionRequest) (rateLimiter : Bool) :
    Program.Follows (chatLedger builtins)
      (fun reached result => (rateLimiter = true → reached.granted = true) →
        ChatEnd builtins inferenceBaseUrl rateLimiter reached result)
      .blank
      (if rateLimiter then
        Handler.withPermit tenantId (.ret chatRateLimited)
          (forwardOverClient builtins inferenceBaseUrl request)
      else forwardOverClient builtins inferenceBaseUrl request) := by
  cases rateLimiter with
  | false =>
      apply (follows_forward inferenceBaseUrl request rfl rfl).mono
      exact fun reached result ended _ =>
        ⟨ended.1.attempts_le, ended.1.releases_eq, ended.2⟩
  | true =>
      apply Program.Follows.callThen trivial
      · intro now _
        apply Program.Follows.callThen trivial
        · intro permit _
          cases permit with
          | true =>
              apply (follows_released request rfl rfl rfl).mono
              exact fun _ _ ended _ => ended
          | false => exact fun granted => nomatch granted rfl
        · intro _ impossible
          cases impossible
      · intro _ impossible
        cases impossible

end Ledger

end PrivateAiWorkspace.ControlPlane
