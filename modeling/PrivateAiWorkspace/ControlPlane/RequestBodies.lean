import PrivateAiWorkspace.ControlPlane.Chat
import PrivateAiWorkspace.ControlPlane.Conversations
import PrivateAiWorkspace.ControlPlane.NotificationStream

/-!
# Request bodies

The endpoints that publish a notification and append a message, and which JSON
values the validators of request bodies get through. Each of the three looks up
a field in a set of names before it looks at the type of the field, and a list
or an object cannot be looked up in a set.
-/

namespace PrivateAiWorkspace.ControlPlane

open Python

/-- `hash(value)` is defined. -/
def isHashable : Json → Bool
  | .arr _ | .obj _ => false
  | _ => true

/-- `value in names`, of a set of names. -/
def inNames (names : List String) (value : Json) : Except PyException Bool :=
  if isHashable value then
    match value with
    | .str text => .ok (names.contains text)
    | _ => .ok false
  else .error .typeError

/-! ## Publishing a notification -/

/-- `_MAX_RESOURCE_ID_LEN`. -/
def maxResourceIdLen : Nat := 256

/-- `str(sorted(ALLOWED_EVENT_CLASSES))`. -/
def sortedEventClasses : String :=
  "['agent_task_completed', 'agent_task_done', 'agent_task_failed', " ++
    "'agent_task_progress', 'indexing_complete', 'media_generation_complete', " ++
    "'media_task_completed', 'media_task_failed', 'model_install_requested', " ++
    "'model_install_updated', 'system_notice']"

/-- Event class and resource of the body of `build_notification_publish_response`,
or the response that refuses it. -/
def readNotification (body : Except PyException Json) :
    Except PyException (Except JsonResponse (String × String)) := do
  match body with
  | .error .valueError => return .error (badRequest "Body is not valid JSON.")
  | .error error => throw error
  | .ok (.obj data) =>
      let eventClass := Json.getOr data "event_class" (.str "")
      if !(← inNames allowedEventClasses eventClass) then
        return .error (.unprocessableEntity, errorPayload "invalid_event_class"
          ("event_class must be one of: " ++ sortedEventClasses))
      match eventClass, Json.getOr data "resource_id" (.str "") with
      | .str eventClass, .str resourceId =>
          if Str.strip resourceId = "" then
            return .error (badRequest
              "'resource_id' is required and must be a non-empty string.")
          if maxResourceIdLen < resourceId.length then
            return .error (badRequest
              ("'resource_id' must not exceed " ++ toString maxResourceIdLen ++
                " characters."))
          if ["content", "prompt", "completion"].any
              (fun field => (Json.lookup field data).isSome) then
            return .error (.badRequest, errorPayload "policy_violation"
              ("Notification events must not carry prompt or completion " ++
                "content."))
          return .ok (eventClass, Str.strip resourceId)
      | _, _ =>
          return .error (badRequest
            "'resource_id' is required and must be a non-empty string.")
  | .ok _ => return .error (badRequest "Body must be a JSON object.")

/-- `build_notification_publish_response` with a generated id at a time, on the
store in memory. -/
def buildNotificationPublishResponse (lower : String → String)
    (authorization : Option String) (body : Except PyException Json)
    (tokenVerifier : Option TokenVerifier) (id : String) (now : DateTime)
    (events : InMemoryNotificationStore) :
    Except PyException (JsonResponse × InMemoryNotificationStore) := do
  match ← verifyAndExtract lower authorization tokenVerifier with
  | .error response => return (response, events)
  | .ok claims =>
      match ← readNotification body with
      | .error response => return (response, events)
      | .ok (eventClass, resourceId) =>
          let event : NotificationEvent :=
            { id, tenantId := extractTenantId lower claims
              userId := claims.subject, eventClass, resourceId
              createdAt := now, readAt := none }
          return ((.created, event.toApiDict), events.publish event)

/-! ## Appending a message -/

/-- `_VALID_ROLES` of `conversations.py`. -/
def messageRoles : List String := ["user", "assistant", "system"]

/-- Role and content of the body of `build_conversation_append_response`, or the
response that refuses it. -/
def readMessage (body : Except PyException Json) :
    Except PyException (Except JsonResponse (String × String)) := do
  match body with
  | .ok (.obj data) =>
      let role := Json.get data "role"
      if !(← inNames messageRoles role) then
        return .error (badRequest "role must be user|assistant|system")
      match role, Json.get data "content" with
      | .str role, .str content =>
          if content = "" then
            return .error (badRequest "'content' is required.")
          if maxContentLen < content.length then
            return .error (.requestEntityTooLarge, barePayload "content_too_large")
          return .ok (role, content)
      | _, _ => return .error (badRequest "'content' is required.")
  | _ => return .error (.badRequest, barePayload "bad_request")

/-- `build_conversation_append_response` with a generated id at a time, on the
store in memory. -/
def buildConversationAppendResponse (lower : String → String)
    (authorization : Option String) (conversationId : String)
    (body : Except PyException Json) (tokenVerifier : Option TokenVerifier)
    (id : String) (now : DateTime) (convs : InMemoryConversationStore) :
    Except PyException (JsonResponse × InMemoryConversationStore) := do
  match ← verifyAndExtract lower authorization tokenVerifier with
  | .error response => return (response, convs)
  | .ok claims =>
      match ← readMessage body with
      | .error response => return (response, convs)
      | .ok (role, content) =>
          let appended := convs.append (extractTenantId lower claims)
            claims.subject conversationId role content id now
          match appended.1 with
          | none => return ((.notFound, barePayload "not_found"), appended.2)
          | some message =>
              return ((.created, .obj [("id", .str message.id),
                ("role", .str message.role),
                ("created_at", .str message.createdAt.isoformat)]), appended.2)

/-! ## Bodies that raise -/

/-- A request is answered with a success or an error of the client. -/
def AnswersClient {σ : Type} (result : Except PyException (JsonResponse × σ)) :
    Prop :=
  ∃ response store, result = .ok (response, store) ∧
    (response.1.code / 100 = 2 ∨ response.1.code / 100 = 4)

/-- A message `_parse_chat_request` takes. -/
def TakenMessage (message : Json) : Prop :=
  ∃ fields name role content, message = .obj fields ∧
    Json.getOr fields "role" (.str "") = .str name ∧ roleOf name = some role ∧
    Json.getOr fields "content" (.str "") = .str content

/-- The first message that is not taken has a role that can be looked up. -/
def LookableRoles (messages : List Json) : Prop :=
  ∀ before fields after, messages = before ++ .obj fields :: after →
    (∀ earlier ∈ before, TakenMessage earlier) →
    isHashable (Json.getOr fields "role" (.str "")) = true

/-- When a body gives a model, its messages have roles that can be looked up. -/
def LookableChat (body : Json) : Prop :=
  ∀ data, body = .obj data →
    ∀ model, Json.getOr data "model" (.str "") = .str model →
    Str.strip model ≠ "" →
    ∀ messages, Json.get data "messages" = .arr messages → LookableRoles messages

/-- When a body is an object, a field of it can be looked up. -/
def LookableField (field : String) (default body : Json) : Prop :=
  ∀ data, body = .obj data → isHashable (Json.getOr data field default) = true

theorem inNames_eq {names : List String} {value : Json}
    (hashable : isHashable value = true) :
    ∃ found, inNames names value = .ok found := by
  simp only [inNames, hashable, if_true]
  split <;> exact ⟨_, rfl⟩

theorem inNames_of_not {names : List String} {value : Json}
    (unhashable : ¬isHashable value = true) :
    inNames names value = .error .typeError := by
  simp only [inNames, unhashable, if_false, Bool.false_eq_true]

/-! ### Chat -/

/-- A message is read exactly when its role can be looked up. -/
theorem parseMessage_ok_iff (index : Nat) (message : Json) :
    (∃ result, parseMessage index message = .ok result) ↔
      ∀ fields, message = .obj fields →
        isHashable (Json.getOr fields "role" (.str "")) = true := by
  cases message with
  | obj fields =>
      simp only [parseMessage, Json.obj.injEq, forall_eq']
      cases Json.getOr fields "role" (.str "") with
      | arr _ | obj _ => exact iff_of_false nofun nofun
      | str role =>
          refine iff_of_true ?_ rfl
          dsimp only
          split <;> exact ⟨_, rfl⟩
      | _ => exact iff_of_true ⟨_, rfl⟩ rfl
  | _ => exact iff_of_true ⟨_, rfl⟩ nofun

theorem parseMessage_taken_iff (index : Nat) (message : Json) :
    (∃ taken, parseMessage index message = .ok (.ok taken)) ↔
      TakenMessage message := by
  cases message with
  | obj fields =>
      simp only [parseMessage, TakenMessage, Json.obj.injEq, exists_and_left,
        exists_eq_left']
      cases Json.getOr fields "role" (.str "") with
      | str name =>
          simp only [Json.str.injEq, exists_eq_left']
          cases roleOf name with
          | none => exact iff_of_false nofun nofun
          | some role =>
              cases Json.getOr fields "content" (.str "") with
              | str content =>
                  exact iff_of_true ⟨⟨role, content⟩, rfl⟩ ⟨role, rfl, content, rfl⟩
              | _ => exact iff_of_false nofun nofun
      | _ => exact iff_of_false nofun nofun
  | _ => exact iff_of_false nofun nofun

theorem lookableRoles_cons {message : Json} {messages : List Json} :
    LookableRoles (message :: messages) ↔
      (∀ fields, message = .obj fields →
        isHashable (Json.getOr fields "role" (.str "")) = true) ∧
      (TakenMessage message → LookableRoles messages) := by
  constructor
  · intro lookable
    constructor
    · intro fields same
      exact lookable [] fields messages (by rw [same]; rfl) (fun _ none =>
        (List.not_mem_nil none).elim)
    · intro taken before fields after same earlier
      apply lookable (message :: before) fields after (by rw [same]; rfl)
      exact List.forall_mem_cons.mpr ⟨taken, earlier⟩
  · intro lookable before fields after same earlier
    cases before with
    | nil => exact lookable.1 fields (List.cons.inj same).1
    | cons first before =>
        rcases List.cons.inj same with ⟨rfl, rfl⟩
        rcases List.forall_mem_cons.mp earlier with ⟨taken, earlier⟩
        exact lookable.2 taken before fields after rfl earlier

/-- The loop over the messages ends without an exception exactly when it meets
no role that cannot be looked up. -/
theorem parseMessages_ok_iff (index : Nat) (messages : List Json) :
    (∃ result, parseMessages index messages = .ok result) ↔
      LookableRoles messages := by
  induction messages generalizing index with
  | nil =>
      refine iff_of_true ⟨_, rfl⟩ ?_
      intro before fields after same
      cases before <;> cases same
  | cons message messages ih =>
      rw [lookableRoles_cons, ← parseMessage_ok_iff index, ← ih (index + 1),
        ← parseMessage_taken_iff index, parseMessages]
      cases parseMessage index message with
      | error error => exact iff_of_false nofun nofun
      | ok result =>
          cases result with
          | error detail => exact iff_of_true ⟨_, rfl⟩ ⟨⟨_, rfl⟩, nofun⟩
          | ok taken =>
              cases parseMessages (index + 1) messages with
              | error error =>
                  exact iff_of_false nofun fun both =>
                    nomatch (both.2 ⟨_, rfl⟩)
              | ok rest => exact iff_of_true ⟨_, rfl⟩ ⟨⟨_, rfl⟩, fun _ => ⟨_, rfl⟩⟩

/-- `_parse_chat_request` returns exactly when the body can be looked up. -/
theorem parseChatRequest_ok_iff (body : Json) :
    (∃ result, parseChatRequest (.ok body) = .ok result) ↔ LookableChat body := by
  cases body with
  | obj data =>
      simp only [LookableChat, Json.obj.injEq, forall_eq']
      rw [parseChatRequest]
      cases Json.getOr data "model" (.str "") with
      | str model =>
          simp only [Json.str.injEq, forall_eq']
          by_cases blank : Str.strip model = ""
          · simp only [blank, if_true]
            exact iff_of_true ⟨_, rfl⟩ fun named => absurd rfl named
          · simp only [blank, if_false, ne_eq, not_false_eq_true, true_implies]
            cases Json.get data "messages" with
            | arr messages =>
                simp only [Json.arr.injEq, forall_eq']
                rw [← parseMessages_ok_iff 0]
                cases messages with
                | nil => exact iff_of_true ⟨_, rfl⟩ ⟨_, rfl⟩
                | cons message messages =>
                    simp only [bind, Except.bind]
                    cases parseMessages 0 (message :: messages) with
                    | error error => exact iff_of_false nofun nofun
                    | ok result =>
                        refine iff_of_true ?_ ⟨_, rfl⟩
                        cases result with
                        | error detail => exact ⟨_, rfl⟩
                        | ok taken =>
                            dsimp only
                            split <;> exact ⟨_, rfl⟩
            | _ => exact iff_of_true ⟨_, rfl⟩ nofun
      | _ =>
          refine iff_of_true ⟨_, rfl⟩ ?_
          intro model different
          cases different
  | _ => exact iff_of_true ⟨_, rfl⟩ nofun

/-! ### Notifications and messages -/

/-- A body is taken, or refused with an error of the client. -/
def Reads {α : Type} (result : Except PyException (Except JsonResponse α)) : Prop :=
  ∃ read, result = .ok read ∧
    ∀ response, read = .error response → response.1.code / 100 = 4

theorem reads_ok {α : Type} (read : α) : Reads (.ok (.ok read)) :=
  ⟨_, rfl, nofun⟩

theorem reads_error {α : Type} {response : JsonResponse}
    (client : response.1.code / 100 = 4) :
    Reads (.ok (.error response) : Except PyException (Except JsonResponse α)) :=
  ⟨_, rfl, fun _ same => Except.error.inj same ▸ client⟩

/-- What follows the look-up of a field reads the body, or the look-up raises. -/
theorem reads_lookup {α : Type} {names : List String} {value : Json}
    {rest : Bool → Except PyException (Except JsonResponse α)}
    (reads : ∀ found, Reads (rest found)) :
    (isHashable value = true ∧ Reads ((inNames names value).bind rest)) ∨
      (isHashable value = false ∧
        (inNames names value).bind rest = .error .typeError) := by
  by_cases hashable : isHashable value = true
  · rcases @inNames_eq names value hashable with ⟨found, looked⟩
    rw [looked]
    exact Or.inl ⟨hashable, reads found⟩
  · rw [inNames_of_not hashable]
    exact Or.inr ⟨by simpa using hashable, rfl⟩

/-- The body of a notification is read when its class can be looked up, and
raises otherwise. -/
theorem readNotification_cases (body : Json) :
    (LookableField "event_class" (.str "") body ∧
      Reads (readNotification (.ok body))) ∨
    (¬LookableField "event_class" (.str "") body ∧
      readNotification (.ok body) = .error .typeError) := by
  cases body with
  | obj data =>
      simp only [LookableField, Json.obj.injEq, forall_eq', Bool.not_eq_true]
      apply reads_lookup
      intro found
      cases found with
      | false => exact reads_error rfl
      | true =>
          simp only [Bool.not_true, Bool.false_eq_true, if_false]
          split
          · split
            · exact reads_error rfl
            · split
              · exact reads_error rfl
              · split
                · exact reads_error rfl
                · exact reads_ok _
          · exact reads_error rfl
  | _ => exact Or.inl ⟨nofun, reads_error rfl⟩

/-- The body of a message is read when its role can be looked up, and raises
otherwise. -/
theorem readMessage_cases (body : Json) :
    (LookableField "role" .null body ∧ Reads (readMessage (.ok body))) ∨
    (¬LookableField "role" .null body ∧
      readMessage (.ok body) = .error .typeError) := by
  cases body with
  | obj data =>
      simp only [LookableField, Json.obj.injEq, forall_eq', Bool.not_eq_true]
      apply reads_lookup
      intro found
      cases found with
      | false => exact reads_error rfl
      | true =>
          simp only [Bool.not_true, Bool.false_eq_true, if_false]
          split
          · split
            · exact reads_error rfl
            · split
              · exact reads_error rfl
              · exact reads_ok _
          · exact reads_error rfl
  | _ => exact Or.inl ⟨nofun, reads_error rfl⟩

theorem code_created : HttpStatus.created.code / 100 = 2 := by decide

theorem code_notFound : HttpStatus.notFound.code / 100 = 4 := by decide

section Authenticated

variable {lower : String → String} {authorization : Option String}
  {tokenVerifier : Option TokenVerifier} {claims : TokenClaims}

theorem answersClient_publish_iff
    (authenticated : verifyAndExtract lower authorization tokenVerifier =
      .ok (.ok claims))
    (body : Json) (id : String) (now : DateTime)
    (events : InMemoryNotificationStore) :
    AnswersClient (buildNotificationPublishResponse lower authorization (.ok body)
        tokenVerifier id now events) ↔
      LookableField "event_class" (.str "") body := by
  rw [buildNotificationPublishResponse, authenticated]
  simp only [bind, Except.bind]
  rcases readNotification_cases body with
    ⟨lookable, read, taken, client⟩ | ⟨unlookable, raised⟩
  · refine iff_of_true ?_ lookable
    rw [taken]
    cases read with
    | error response => exact ⟨response, events, rfl, Or.inr (client response rfl)⟩
    | ok read => exact ⟨_, _, rfl, Or.inl code_created⟩
  · refine iff_of_false ?_ unlookable
    rw [raised]
    exact nofun

theorem answersClient_append_iff
    (authenticated : verifyAndExtract lower authorization tokenVerifier =
      .ok (.ok claims))
    (body : Json) (conversationId id : String) (now : DateTime)
    (convs : InMemoryConversationStore) :
    AnswersClient (buildConversationAppendResponse lower authorization
        conversationId (.ok body) tokenVerifier id now convs) ↔
      LookableField "role" .null body := by
  rw [buildConversationAppendResponse, authenticated]
  simp only [bind, Except.bind]
  rcases readMessage_cases body with
    ⟨lookable, read, taken, client⟩ | ⟨unlookable, raised⟩
  · refine iff_of_true ?_ lookable
    rw [taken]
    cases read with
    | error response => exact ⟨response, convs, rfl, Or.inr (client response rfl)⟩
    | ok read =>
        dsimp only
        split
        · exact ⟨_, _, rfl, Or.inr code_notFound⟩
        · exact ⟨_, _, rfl, Or.inl code_created⟩
  · refine iff_of_false ?_ unlookable
    rw [raised]
    exact nofun

end Authenticated

/-- The three validators settle every body, with a success or an error of the
client, but one that holds a list or an object where they look up a name: the
role of the first message of a chat that is not taken, the class of a
notification, or the role of a message. -/
theorem bodies_settled_iff (lower : String → String)
    (authorization : Option String) (tokenVerifier : Option TokenVerifier)
    (claims : TokenClaims)
    (authenticated : verifyAndExtract lower authorization tokenVerifier =
      .ok (.ok claims))
    (body : Json) (conversationId id : String) (now : DateTime)
    (events : InMemoryNotificationStore) (convs : InMemoryConversationStore) :
    ((∃ result, parseChatRequest (.ok body) = .ok result) ↔ LookableChat body) ∧
    (AnswersClient (buildNotificationPublishResponse lower authorization
        (.ok body) tokenVerifier id now events) ↔
      LookableField "event_class" (.str "") body) ∧
    (AnswersClient (buildConversationAppendResponse lower authorization
        conversationId (.ok body) tokenVerifier id now convs) ↔
      LookableField "role" .null body) :=
  ⟨parseChatRequest_ok_iff body,
    answersClient_publish_iff authenticated body id now events,
    answersClient_append_iff authenticated body conversationId id now convs⟩

section Unhashable

/-- A verifier that takes every token. -/
def openVerifier : TokenVerifier := fun _ => .ok ⟨"user", "user@a.com", []⟩

theorem openVerifier_authenticates :
    verifyAndExtract Str.asciiLower (some "Bearer token") (some openVerifier) =
      .ok (.ok ⟨"user", "user@a.com", []⟩) := by
  have token : bearerToken Str.asciiLower (some "Bearer token") =
      some "token" := by
    have words : Str.splitWord "Bearer token" = ["Bearer", "token"] := by
      decide
    have scheme : Str.asciiLower "Bearer" = "bearer" := by decide +kernel
    simp only [bearerToken, Option.getD_some, words, scheme, if_true]
    decide
  rw [verifyAndExtract, token]
  rfl

/-- A time of day. -/
def someTime : DateTime := .fullHour 9

/-- A body whose role is a list. -/
def listedRole : Json := .obj [("role", .arr [.str "user"]), ("content", .str "hi")]

theorem bodies_settled_iff_listedRole :
    ¬AnswersClient (buildConversationAppendResponse Str.asciiLower
      (some "Bearer token") "c" (.ok listedRole) (some openVerifier) "m" someTime
      .empty) := by
  have settled := bodies_settled_iff Str.asciiLower (some "Bearer token")
    (some openVerifier) _ openVerifier_authenticates listedRole "c" "m" someTime
    .empty .empty
  rw [settled.2.2]
  intro lookable
  cases lookable _ rfl

/-- A list where a name is looked up makes each of the three raise. -/
theorem unhashable_raises :
    parseChatRequest (.ok (.obj [("model", .str "m"),
      ("messages", .arr [listedRole])])) = .error .typeError ∧
    buildNotificationPublishResponse Str.asciiLower (some "Bearer token")
      (.ok (.obj [("event_class", .arr [])])) (some openVerifier) "n" someTime
      .empty = .error .typeError ∧
    buildConversationAppendResponse Str.asciiLower (some "Bearer token") "c"
      (.ok listedRole) (some openVerifier) "m" someTime .empty =
        .error .typeError := by
  refine ⟨?_, ?_, ?_⟩
  · have named : ¬Str.strip "m" = "" := by decide
    simp [parseChatRequest, Json.getOr, Json.lookup, named]
    rfl
  · rw [buildNotificationPublishResponse, openVerifier_authenticates]
    rfl
  · rw [buildConversationAppendResponse, openVerifier_authenticates]
    rfl

end Unhashable

end PrivateAiWorkspace.ControlPlane
