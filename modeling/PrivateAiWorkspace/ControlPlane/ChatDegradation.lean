import PrivateAiWorkspace.ControlPlane.ChatLedger

/-!
# Chat degrades

An admitted chat request is answered with 200 and JSON of the inference plane or
with the 503 of the degraded-mode policy, which says when to try again, exactly
when no exception comes up that neither the client nor the handler names. A
connection that is reset while the response is read, and a response that is not
JSON, are such exceptions.
-/

namespace PrivateAiWorkspace.ControlPlane

open Effects Python

/-! ## Degradation -/

/-- The request is prepared, and granted a permit where there is a limiter. -/
def AdmittedChat (builtins : Builtins) (authorization : Option String)
    (body : Except PyException Json) (inferenceBaseUrl : String)
    (tokenVerifier : Option TokenVerifier) (rateLimiter : Bool)
    (events : List ChatEvent) : Prop :=
  (∃ prepared, prepareChat builtins.lower authorization body inferenceBaseUrl
    tokenVerifier = .ok (.ok prepared)) ∧
  (rateLimiter = true → events.any isGrant = true)

/-- A second attempt comes after one that ended in a `URLError`, there is no
third, and a permit is released once. -/
structure Orderly (builtins : Builtins) (rateLimiter : Bool)
    (events : List ChatEvent) : Prop where
  attempts : events.countP (fun event => isAttempt event.call) ≤ 2
  retried : ∀ before event after, events = before ++ event :: after →
    isAttempt event.call = true →
    before.countP (fun event => isAttempt event.call) = 0 ∨
      before.countP (fun event => isAttempt event.call) = 1 ∧
        before.filterMap (shownBy builtins) = [.urlError]
  released : events.countP (fun event => isRelease event.call) =
    if rateLimiter then 1 else 0

/-- The request ends as documented, and everything about it is in order. -/
structure Degrades (builtins : Builtins) (inferenceBaseUrl : String)
    (rateLimiter : Bool) (events : List ChatEvent)
    (result : Except PyException Server.Response) : Prop
    extends Orderly builtins rateLimiter events where
  answered : Answered builtins inferenceBaseUrl
    (events.filterMap (shownBy builtins))
    (events.filterMap (receivedBy builtins)) result

/-- An admitted chat request degrades gracefully exactly when `urlparse` does not
raise on the base URL and the inference plane shows no exception that is not
handled. Its attempts and its permit are in order in any case. -/
theorem chat_degrades_iff (builtins : Builtins) (authorization : Option String)
    (body : Except PyException Json) (inferenceBaseUrl : String)
    (tokenVerifier : Option TokenVerifier) (rateLimiter : Bool)
    (events : List ChatEvent) (result : Except PyException Server.Response)
    (run : Program.Run (buildChatResponseOverClient builtins authorization body
      inferenceBaseUrl tokenVerifier rateLimiter) events result)
    (steady : ∀ event ∈ events, SteadyChat event)
    (admitted : AdmittedChat builtins authorization body inferenceBaseUrl
      tokenVerifier rateLimiter events) :
    Orderly builtins rateLimiter events ∧
      (Degrades builtins inferenceBaseUrl rateLimiter events result ↔
        InferenceEndpoint.fromBaseUrl builtins inferenceBaseUrl ≠
            .error .valueError ∧
          ∀ event ∈ events, ∀ error, shownBy builtins event = some error →
            handled error = true) := by
  rcases admitted with ⟨⟨⟨tenantId, request⟩, prepared⟩, granted⟩
  rw [buildChatResponseOverClient_eq, prepared] at run
  have follows := @follows_prepared builtins inferenceBaseUrl tenantId request
    rateLimiter
  have ended := follows.of_run run steady
  simp only [after_chatLedger, ChatLedger.blank, Bool.or_false, Nat.zero_add,
    List.nil_append] at ended
  rcases ended granted with ⟨attempts, released, answered⟩
  have orderly : Orderly builtins rateLimiter events := by
    refine ⟨attempts, fun before event after split attempt => ?_, released⟩
    have allowed := follows.allowed_of_run run steady split
    rw [after_chatLedger] at allowed
    rcases event with ⟨call, answer⟩
    cases call with
    | backend call =>
        cases call with
        | urlopen post =>
            simpa [chatLedger, ChatLedger.blank] using allowed
        | _ => cases attempt
    | _ => cases attempt
  refine ⟨orderly, ?_⟩
  constructor
  · intro degrades
    rcases answered.mp degrades.answered with ⟨parsed, shown⟩
    refine ⟨parsed, fun event member error showing => ?_⟩
    exact shown error (List.mem_filterMap.mpr ⟨event, member, showing⟩)
  · intro holds
    refine ⟨orderly, answered.mpr ⟨holds.1, fun error member => ?_⟩⟩
    rcases List.mem_filterMap.mp member with ⟨event, member, showing⟩
    exact holds.2 event member error showing

/-! ### Runs -/

/-- Built-in functions that read the body `\x7b\x7d` as an empty object. -/
def emptyObjectOnly : Builtins :=
  { Builtins.sample [] with
    loadsBytes := fun body =>
      if body = [123, 125] then .ok (.obj []) else .error .valueError }

/-- An inference plane that cannot be reached at first, and whose response reads
as given. -/
def wakingPlane (reading : Except PyException Bytes) :
    Nat → (request : (Limited Upstream).Call) →
      Except PyException ((Limited Upstream).Answer request) × Nat
  | opened, .time => (.ok (0 : Int), opened)
  | opened, .tryAcquire _ _ => (.ok true, opened)
  | opened, .release => (.ok (), opened)
  | 0, .backend (.urlopen _) => (.error .urlError, 1)
  | opened, .backend (.urlopen _) => (.ok (), opened + 1)
  | opened, .backend .read => (reading, opened)
  | opened, .backend (.sleep _) => (.ok (), opened)
  | opened, .backend (.service _) => (.error (.other "unused"), opened)

/-- The body of a chat request. -/
def greeting : Except PyException Json :=
  .ok (.obj [("model", .str "llama"),
    ("messages", .arr [.obj [("role", .str "user"), ("content", .str "hello")]])])

/-- The request to a workspace with a limiter. -/
def chatting : Handler Upstream Server.Response :=
  buildChatResponseOverClient emptyObjectOnly (some "bearer t1") greeting
    "http://vllm:8000" (some fun _ => .ok ⟨"user", "", []⟩) true

/-- Its answered calls over a response that reads as given. -/
def chatEvents (reading : Except PyException Bytes) : List ChatEvent :=
  chatting.trace (wakingPlane reading) 0

/-- What it comes to. -/
def chatResult (reading : Except PyException Bytes) :
    Except PyException Server.Response :=
  (chatting.eval (wakingPlane reading) 0).1

theorem steady_chatEvents (reading : Except PyException Bytes) :
    ∀ event ∈ chatEvents reading, SteadyChat event := by
  intro event member
  rcases Program.answered_of_trace member with ⟨opened, same⟩
  rcases event with ⟨call, answer⟩
  cases call with
  | time | tryAcquire | release =>
      cases same
      rfl
  | backend request =>
      cases request with
      | sleep seconds =>
          cases same
          rfl
      | _ => trivial

theorem admitted_chatEvents {reading : Except PyException Bytes}
    (granted : (chatEvents reading).any isGrant = true) :
    AdmittedChat emptyObjectOnly (some "bearer t1") greeting "http://vllm:8000"
      (some fun _ => .ok ⟨"user", "", []⟩) true (chatEvents reading) := by
  have isPrepared : ((prepareChat emptyObjectOnly.lower (some "bearer t1") greeting
      "http://vllm:8000" (some fun _ => .ok ⟨"user", "", []⟩)).toOption.bind
        Except.toOption).isSome = true := by decide +kernel
  refine ⟨?_, fun _ => granted⟩
  cases prepared : prepareChat emptyObjectOnly.lower (some "bearer t1") greeting
      "http://vllm:8000" (some fun _ => .ok ⟨"user", "", []⟩) with
  | error error =>
      rw [prepared] at isPrepared
      cases isPrepared
  | ok outcome =>
      cases outcome with
      | error refusal =>
          rw [prepared] at isPrepared
          cases isPrepared
      | ok request => exact ⟨request, rfl⟩

/-- Status and headers of what a handler returns. -/
def responseHead (result : Except PyException Server.Response) :
    Option (Int × List (String × String)) :=
  result.toOption.map fun response => (response.statusCode, response.headers)

/-- The second attempt succeeds, or times out. -/
theorem chat_degrades_iff_waking :
    (Degrades emptyObjectOnly "http://vllm:8000" true
        (chatEvents (.ok [123, 125])) (chatResult (.ok [123, 125])) ∧
      responseHead (chatResult (.ok [123, 125])) = some (200, [])) ∧
    Degrades emptyObjectOnly "http://vllm:8000" true
        (chatEvents (.error .timeoutError)) (chatResult (.error .timeoutError)) ∧
      responseHead (chatResult (.error .timeoutError)) =
        some (503, [("Retry-After", "30")]) := by
  have parsed : (InferenceEndpoint.fromBaseUrl emptyObjectOnly
      "http://vllm:8000").isOk = true := by decide +kernel
  have resolved : InferenceEndpoint.fromBaseUrl emptyObjectOnly
      "http://vllm:8000" ≠ .error .valueError := by
    intro unparsed
    rw [unparsed] at parsed
    cases parsed
  have degrades (reading : Except PyException Bytes)
      (granted : (chatEvents reading).any isGrant = true)
      (shown : (chatEvents reading).all (fun event =>
        ((shownBy emptyObjectOnly event).map handled).getD true) = true) :
      Degrades emptyObjectOnly "http://vllm:8000" true (chatEvents reading)
        (chatResult reading) := by
    refine (chat_degrades_iff _ _ _ _ _ _ _ _ (Program.run_trace _ _)
      (steady_chatEvents _) (admitted_chatEvents granted)).2.mpr
        ⟨resolved, fun event member error showing => ?_⟩
    have here := List.all_eq_true.mp shown event member
    rw [showing] at here
    exact here
  exact ⟨⟨degrades _ (by decide +kernel) (by decide +kernel), by decide +kernel⟩,
    degrades _ (by decide +kernel) (by decide +kernel), by decide +kernel⟩

/-- The connection is reset while the response is read: the exception goes
through the client and the handler. -/
theorem not_degrades_reset :
    Program.Run chatting (chatEvents (.error .connectionResetError))
        (chatResult (.error .connectionResetError)) ∧
      (∀ event ∈ chatEvents (.error .connectionResetError), SteadyChat event) ∧
      AdmittedChat emptyObjectOnly (some "bearer t1") greeting "http://vllm:8000"
        (some fun _ => .ok ⟨"user", "", []⟩) true
        (chatEvents (.error .connectionResetError)) ∧
      chatResult (.error .connectionResetError) = .error .connectionResetError ∧
      ¬ Degrades emptyObjectOnly "http://vllm:8000" true
        (chatEvents (.error .connectionResetError))
        (chatResult (.error .connectionResetError)) := by
  have raised : chatResult (.error .connectionResetError) =
      .error .connectionResetError := by
    have same : (match chatResult (.error .connectionResetError) with
        | .error error => decide (error = .connectionResetError)
        | .ok _ => false) = true := by decide +kernel
    split at same
    next error outcome => rw [outcome, of_decide_eq_true same]
    next => cases same
  refine ⟨Program.run_trace _ _, steady_chatEvents _,
    admitted_chatEvents (by decide +kernel), raised, fun degrades => ?_⟩
  have answered := degrades.answered
  rw [raised] at answered
  exact not_answered_error answered

end PrivateAiWorkspace.ControlPlane
