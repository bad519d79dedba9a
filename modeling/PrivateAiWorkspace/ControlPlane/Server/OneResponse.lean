import PrivateAiWorkspace.ControlPlane.Server.Handler
import PrivateAiWorkspace.Effects.Emits

/-!
# One response to every request

`_instrument` promises a response to every request, 500 if the handler raised.
What a request comes to is decided by the function of its route, or by the
opening of its stream; `ownHead` is that decision. A request is answered as
promised exactly when its head can be encoded and, where the decision is made
outside `_instrument`, nothing is raised.
-/

namespace PrivateAiWorkspace.ControlPlane.Server

open Effects Python
open Program (Emits)

/-- Heads written in a run. -/
def heads (events : List (Event Wire PyException)) : List Head :=
  events.filterMap fun event => headOf? event.call

/-- The head of a response. -/
def Response.head (response : Response) : Head :=
  match response.rawBody with
  | some body =>
      .raw response.statusCode body
        ((headerValue "Content-Type" response.headers).getD
          "text/plain; charset=utf-8")
  | none => .json response.statusCode response.payload response.headers

/-- The head of a refusal on a stream route, whose raw body is not looked at. -/
def Response.jsonHead (response : Response) : Head :=
  .json response.statusCode response.payload response.headers

/-! ## What a request comes to -/

section Decisions

variable {ChatRequest : Type} (outcomes : Outcomes ChatRequest) (request : Request)

/-- What the opening of a chat stream comes to. -/
def openHead (chatRequest : ChatRequest) : Except PyException Head :=
  match outcomes.openChatStream chatRequest with
  | .error (.inferenceUnavailableError _) => .ok inferenceUnavailable.jsonHead
  | .error .timeoutError => .ok inferenceTimeout.jsonHead
  | .error .inferenceRoutingError => .ok inferenceTimeout.jsonHead
  | .error error => .error error
  | .ok _ => .ok .eventStream

/-- What a chat stream request comes to. -/
def chatStreamHead : Except PyException Head := do
  let contentLength ← request.contentLength
  if maxRequestBody < contentLength then return requestTooLarge.jsonHead
  else
    let body ← readBody outcomes contentLength
    let prepared ← outcomes.prepareChatStream request.authorization body
    match prepared with
    | .error refusal => return refusal.jsonHead
    | .ok chatRequest =>
        let verified ← outcomes.verifyAndExtract request.authorization
        if !outcomes.tryAcquire (streamTenant outcomes verified) then
          return rateLimited.jsonHead
        else openHead outcomes chatRequest

/-- What a notification stream request comes to. -/
def notificationsStreamHead : Except PyException Head := do
  let verified ← outcomes.verifyAndExtract request.authorization
  match verified with
  | .error refusal => return .json refusal.1 refusal.2 []
  | .ok _ => return .eventStream

/-- What the route of a `GET` request comes to. -/
def getResponse : Except PyException Response :=
  match request.getRoute with
  | some route => build outcomes request route
  | none => outcomes.response request.target

/-- What a request comes to: the head of its response, or an exception. -/
def ownHead : Except PyException Head :=
  match request.method with
  | .get =>
      if request.path = notificationsStreamPath then
        notificationsStreamHead outcomes request
      else (getResponse outcomes request).map Response.head
  | .post =>
      if request.path = chatStreamPath then chatStreamHead outcomes request
      else (post outcomes request).map Response.head
  | .delete => (delete outcomes request).map Response.head

/-- The decision is made outside `_instrument`: by a stream, or by a function
that `do_GET` calls before it enters `_instrument`. -/
def uninstrumented : Bool :=
  match request.method with
  | .get =>
      request.path = notificationsStreamPath || request.getRoute.isSome
  | .post => request.path = chatStreamPath
  | .delete => false

/-- The head that answers the request as promised. -/
def promisedHead : Head :=
  match ownHead outcomes request with
  | .ok head => head
  | .error _ => internalError.head

/-- The head of the response can be encoded, and an exception is one that
`_instrument` catches. -/
structure Answerable : Prop where
  encodable : ∀ head, ownHead outcomes request = .ok head → head.encodable = true
  caught : ∀ error, ownHead outcomes request = .error error →
    uninstrumented request = false

end Decisions

/-! ## Programs that answer -/

/-- Heads a request is answered with where nothing is caught: the one decided on,
if it can be encoded. -/
def uncaught : Except PyException Head → List Head
  | .ok head => if head.encodable then [head] else []
  | .error _ => []

/-- Heads a request is answered with where exceptions are caught. -/
def caught : Except PyException Head → List Head
  | .ok head => if head.encodable then [head] else []
  | .error _ => [internalError.head]

/-- The program answers with what was decided. -/
def Answers (decision : Except PyException Head) (program : Serving Unit) :
    Prop :=
  Emits headOf? program (uncaught decision)

theorem emits_ofExcept {α : Type} (outcome : Except PyException α) :
    Emits headOf? (Program.ofExcept outcome : Serving α) [] := by
  cases outcome with
  | ok value => rfl
  | error error => rfl

theorem answers_send (head : Head) : Answers (.ok head) (send head) := by
  simp only [Answers, uncaught, send]
  split
  · exact Emits.seen rfl emits_ofExcept
  · rfl

theorem answers_raise (error : PyException) :
    Answers (.error error) (.raise error) := rfl

/-- A decision that goes on from an outcome, and a program that does. -/
theorem Answers.bind {α : Type} {outcome : Except PyException α}
    {decide : α → Except PyException Head} {proceed : α → Serving Unit}
    (later : ∀ value, Answers (decide value) (proceed value)) :
    Answers (outcome.bind decide) ((Program.ofExcept outcome).bind proceed) := by
  cases outcome with
  | ok value => exact later value
  | error error => exact answers_raise error

theorem Answers.release {decision : Except PyException Head}
    {program : Serving Unit} (work : Answers decision program) :
    Answers decision (program.tryFinally release) :=
  Emits.tryFinally work (Emits.silent rfl emits_ofExcept)

theorem emits_ignoreDisconnect (error : PyException) :
    Emits headOf? (ignoreDisconnect error) [] := by
  cases error <;> rfl

/-- The lines of a stream are no heads. -/
theorem emits_relay (expired : Nat → Bool) (ending : Except PyException Unit)
    (count : Nat) (lines : List Bytes) :
    Emits headOf? (relay expired ending count lines) [] := by
  induction lines generalizing count with
  | nil => exact emits_ofExcept ending
  | cons line lines ih =>
      apply Emits.silent rfl
      intro written
      apply (emits_ofExcept written).bind
      intro _
      split
      · rfl
      · exact ih (count + 1)

theorem answers_stream (expired : Nat → Bool) (feed : Feed) :
    Answers (.ok .eventStream) (stream expired feed) := by
  refine Emits.seen (rfl : headOf? (.head .eventStream) = some .eventStream)
    fun written => ?_
  apply (emits_ofExcept written).bind
  intro _
  exact (emits_relay expired feed.ending 0 feed.lines).tryCatch
    emits_ignoreDisconnect

theorem handle_eq_send (response : Response) :
    handle response = send response.head := by
  simp only [handle, Response.head]
  cases response.rawBody with
  | none => rfl
  | some body => rfl

theorem emits_instrument (outcome : Except PyException Response) :
    Emits headOf? (instrument outcome) (caught (outcome.map Response.head)) := by
  cases outcome with
  | ok response =>
      rw [instrument, handle_eq_send]
      exact answers_send response.head
  | error error =>
      rw [instrument, handle_eq_send]
      exact answers_send internalError.head

/-! ## The verbs -/

section Verbs

variable {ChatRequest : Type} (outcomes : Outcomes ChatRequest) (request : Request)

theorem answers_openAndRelay (chatRequest : ChatRequest) :
    Answers (openHead outcomes chatRequest) (openAndRelay outcomes chatRequest) := by
  simp only [openHead, openAndRelay]
  cases outcomes.openChatStream chatRequest with
  | ok feed => exact answers_stream outcomes.expired feed
  | error error =>
      cases error with
      | inferenceUnavailableError statusCode =>
          exact answers_send inferenceUnavailable.jsonHead
      | timeoutError | inferenceRoutingError =>
          exact answers_send inferenceTimeout.jsonHead
      | _ => exact answers_raise _

theorem answers_handleChatStream :
    Answers (chatStreamHead outcomes request) (handleChatStream outcomes request) := by
  apply Answers.bind
  intro contentLength
  cases Int.decLt maxRequestBody contentLength with
  | isTrue tooLarge =>
      simp only [if_pos tooLarge]
      exact answers_send requestTooLarge.jsonHead
  | isFalse fits =>
      simp only [if_neg fits]
      apply Answers.bind
      intro body
      apply Answers.bind
      intro prepared
      cases prepared with
      | error refusal => exact answers_send refusal.jsonHead
      | ok chatRequest =>
          apply Answers.bind
          intro verified
          cases outcomes.tryAcquire (streamTenant outcomes verified) with
          | false => exact answers_send rateLimited.jsonHead
          | true => exact (answers_openAndRelay outcomes chatRequest).release

theorem answers_handleNotificationsStream :
    Answers (notificationsStreamHead outcomes request)
      (handleNotificationsStream outcomes request) := by
  apply Answers.bind
  intro verified
  cases verified with
  | error refusal => exact answers_send (.json refusal.1 refusal.2 [])
  | ok claims => exact answers_stream (fun _ => false) _

/-- A response that is built before `_instrument` is entered. -/
theorem answers_built (outcome : Except PyException Response) :
    Answers (outcome.map Response.head)
      ((Program.ofExcept outcome).bind fun response =>
        instrument (.ok response)) := by
  cases outcome with
  | ok response => exact emits_instrument (.ok response)
  | error error => exact answers_raise error

/-- Every request gets the head it comes to, if it can be encoded; where the
route raises, it gets 500 if the route is run by `_instrument` and nothing
otherwise. -/
theorem emits_serve :
    Emits headOf? (serve outcomes request)
      (if uninstrumented request then uncaught (ownHead outcomes request)
        else caught (ownHead outcomes request)) := by
  cases verb : request.method with
  | get =>
      simp only [serve, uninstrumented, ownHead, verb, doGet]
      cases decEq request.path notificationsStreamPath with
      | isTrue same =>
          simp only [same, if_true, decide_true, Bool.true_or]
          exact answers_handleNotificationsStream outcomes request
      | isFalse other =>
          simp only [other, if_false, decide_false, Bool.false_or, getResponse]
          cases request.getRoute with
          | some route => exact answers_built (build outcomes request route)
          | none => exact emits_instrument (outcomes.response request.target)
  | post =>
      simp only [serve, uninstrumented, ownHead, verb, doPost]
      cases decEq request.path chatStreamPath with
      | isTrue same =>
          simp only [same, if_true, decide_true]
          exact answers_handleChatStream outcomes request
      | isFalse other =>
          simp only [other, if_false, decide_false]
          exact emits_instrument (post outcomes request)
  | delete =>
      simp only [serve, uninstrumented, ownHead, verb, doDelete]
      exact emits_instrument (delete outcomes request)

end Verbs

/-! ## Every run -/

section Run

variable {ChatRequest : Type} {outcomes : Outcomes ChatRequest} {request : Request}
  {events : List (Event Wire PyException)} {outcome : Except PyException Unit}

/-- A request is never answered twice. -/
theorem heads_length_le_one (run : Program.Run (serve outcomes request) events
    outcome) : (heads events).length ≤ 1 := by
  rw [heads, (emits_serve outcomes request).of_run run]
  cases ownHead outcomes request with
  | ok head =>
      simp only [uncaught, caught, ite_self]
      split <;> simp
  | error error =>
      simp only [uncaught, caught]
      split <;> simp

/-- In every run the request is answered with exactly one head, that of its own
response or of 500 if its route raised, if and only if this head can be encoded and
an exception of the route is one that `_instrument` catches. -/
theorem heads_eq_promised_iff (run : Program.Run (serve outcomes request) events
    outcome) :
    heads events = [promisedHead outcomes request] ↔ Answerable outcomes request := by
  rw [heads, (emits_serve outcomes request).of_run run, promisedHead]
  cases own : ownHead outcomes request with
  | ok head =>
      simp only [uncaught, caught, ite_self]
      constructor
      · intro answered
        refine ⟨?_, ?_⟩
        · intro other same
          rw [own] at same
          cases same
          split at answered
          next encodable => exact encodable
          next => cases answered
        · intro error raised
          rw [own] at raised
          cases raised
      · intro answerable
        rw [if_pos (answerable.encodable head own)]
  | error error =>
      simp only [uncaught, caught]
      constructor
      · intro answered
        refine ⟨?_, ?_⟩
        · intro other same
          rw [own] at same
          cases same
        · intro _ _
          cases bypassed : uninstrumented request with
          | false => rfl
          | true =>
              rw [bypassed] at answered
              cases answered
      · intro answerable
        rw [answerable.caught error own]
        rfl

end Run

/-! ## A store that is down -/

/-- A server whose stores raise and whose other functions return nothing of
note. -/
def storesDown : Outcomes Unit where
  mediaMaxAudioBytes := 25 * 1024 * 1024
  retrievalMaxUploadBytes := 10 * 1024 * 1024
  lower := Str.asciiLower
  read _ := .ok []
  json _ _ := .error (.other "OperationalError")
  mediaArtifactContent _ _ := .error (.other "OperationalError")
  chat _ _ := .ok rateLimited
  response target := .ok (notFoundAt target)
  prepareChatStream _ _ := .ok (.ok ())
  verifyAndExtract _ := .ok (.ok ⟨"u1", "u1@acme.com", []⟩)
  tryAcquire _ := true
  openChatStream _ := .ok ⟨[], .ok ()⟩
  expired _ := false
  notificationFrames _ _ := ⟨[], .ok ()⟩

/-- A request without a body. -/
def bare (method : Method) (target : String) : Request where
  method := method
  target := target
  header _ := none

/-- Events of a request to that server whose writes succeed. -/
def served (request : Request) : List (Event Wire PyException) :=
  (serve storesDown request).trace (fun _ _ => (.ok (), ())) ()

/-- Listing the memories while the store is down is not answered at all. -/
theorem memoryList_unanswered :
    ¬ ∀ (outcomes : Outcomes Unit) (request : Request) (events outcome),
      Program.Run (serve outcomes request) events outcome →
      heads events = [promisedHead outcomes request] := by
  intro answered
  have silent : heads (served (bare .get "/v1/memory")) = [] := by rfl
  rw [served, answered _ _ _ _ (Program.run_trace _ ())] at silent
  cases silent

/-- Recording a memory at the same time is answered with 500. -/
theorem heads_eq_promised_iff_memoryRecord :
    heads (served (bare .post "/v1/memory")) =
        [promisedHead storesDown (bare .post "/v1/memory")] ↔
      Answerable storesDown (bare .post "/v1/memory") :=
  heads_eq_promised_iff (Program.run_trace _ ())

end PrivateAiWorkspace.ControlPlane.Server
