import PrivateAiWorkspace.ControlPlane.Auth
import PrivateAiWorkspace.ControlPlane.Notifications
import PrivateAiWorkspace.ControlPlane.RateLimiter
import PrivateAiWorkspace.ControlPlane.ModelRequests.Store

/-!
# Endpoints of the model install requests

The handlers of `model_requests.py` that users and the reconciler call, as
programs over the store, the clock, the source of ids and the notification
store. What `json.loads(body)` returned or raised is an argument, as is
`str.lower`.

`Permitted` collects what a handler has done before each write; every fact
about the interleavings of handlers starts from `guarded_of_startable`.
-/

namespace PrivateAiWorkspace.ControlPlane

open Effects Python

/-- Settings read by the handlers of install requests. -/
structure ModelInstallConfig where
  modelInstallEnabled : Bool
  modelInstallAllowlist : Option String
  modelInstallMaxOpenPerTenant : Int
  modelInstallGroup : Option String
  modelInstallAllowAllUsers : Bool
  modelInstallerToken : Option String
  adminGroup : Option String

/-- Calls of the handlers. -/
inductive ModelRequestCall where
  | nowUtc
  | uuid4
  | countOpenForTenant (tenant : String)
  | create (item : ModelInstallRequest)
  | listPending (limit : Nat)
  | updateStatus (requestId : String) (status : Status) (errorClass : String)
  | publish (event : NotificationEvent)

/-- The calls with their answers. -/
def ModelRequestBackend : Interface where
  Call := ModelRequestCall
  Answer
    | .nowUtc => DateTime
    | .uuid4 => String
    | .countOpenForTenant _ => Nat
    | .create _ => Unit
    | .listPending _ => List ModelInstallRequest
    | .updateStatus _ _ _ => Option ModelInstallRequest
    | .publish _ => Unit

/-- A call of these handlers with its answer. -/
abbrev ModelRequestEvent := Event (Limited ModelRequestBackend) PyException

namespace ModelRequests

/-! ## Permissions and the allow-list -/

/-- `_MAX_REPO_CHARS`. -/
def maxRepoChars : Nat := 200

/-- `_MAX_REVISION_CHARS`. -/
def maxRevisionChars : Nat := 100

/-- `_REVISION_RE`: a letter or digit, then letters, digits and any of `.`, `_`,
`/` and `-`. -/
def revisionRe : RegularExpression Char :=
  Pattern.run Pattern.alphanumeric
    (Pattern.alphanumeric ++ ['.', '_', '/', '-'])

/-- `parse_repo_allowlist`. -/
def parseRepoAllowlist (raw : Option String) : List String :=
  ((Str.splitOn ',' (raw.getD "")).map Str.strip).filter (· ≠ "")

/-- `is_repo_allowed`. -/
def isRepoAllowed (allowlist : List String) (repoId : String) : Bool :=
  repoAllowed allowlist repoId

/-- `_is_admin`. -/
def isAdmin (claims : TokenClaims) (config : ModelInstallConfig) : Bool :=
  let adminGroup := config.adminGroup.getD ""
  claims.hasGroup (if adminGroup = "" then "admin" else adminGroup)

/-- `user_can_request_install`. -/
def userCanRequestInstall (claims : TokenClaims)
    (config : ModelInstallConfig) : Bool :=
  let group := config.modelInstallGroup.getD ""
  config.modelInstallAllowAllUsers || (group != "" && claims.hasGroup group) ||
    isAdmin claims config

/-! ## Reading a request -/

/-- `_bad`. -/
def bad (detail : String) : JsonResponse :=
  (.badRequest, errorPayload "bad_request" detail)

/-- The `hf_repo_id` of a body, without surrounding white space. -/
def readRepo : Json → Except JsonResponse String
  | .str repo =>
      if maxRepoChars < repo.length || !matchesRepo (Str.strip repo) then
        .error (bad "'hf_repo_id' must look like 'org/model'.")
      else
        .ok (Str.strip repo)
  | _ => .error (bad "'hf_repo_id' must look like 'org/model'.")

/-- The `revision` of a body, empty when unspecified. -/
def readRevision (value : Json) : Except JsonResponse String :=
  if !value.truthy then .ok ""
  else
    match value with
    | .str revision =>
        if maxRevisionChars < revision.length || Str.contains revision ".." ||
            !Pattern.matchesWhole revisionRe revision then
          .error (bad "'revision' is not a valid ref.")
        else
          .ok revision
    | _ => .error (bad "'revision' is not a valid ref.")

/-- Repository and revision of an acceptable body. -/
def readInstallRequest (config : ModelInstallConfig) :
    Json → Except JsonResponse (String × String)
  | .obj data => do
      let repo ← readRepo (Json.get data "hf_repo_id")
      let revision ← readRevision (Json.get data "revision")
      if isRepoAllowed (parseRepoAllowlist config.modelInstallAllowlist) repo then
        return (repo, revision)
      else
        throw (.forbidden, errorPayload "repo_not_allowed"
          "This model's org/repo is not on the operator allow-list.")
  | _ => .error (bad "Body must be a JSON object.")

/-- Status and error class of an acceptable status post. -/
def readStatusPost : Json → Except JsonResponse (Status × String)
  | .obj data =>
      match Status.ofReconciler (Json.get data "status") with
      | none => .error (bad
          "'status' must be one of ['installing', 'applied', 'failed'].")
      | some status =>
          let errorClass := Json.get data "error_class"
          if !errorClass.truthy then .ok (status, "")
          else
            match errorClass with
            | .str text =>
                if 100 < text.length then
                  .error (bad "'error_class' must be a short string.")
                else
                  .ok (status, text)
            | _ => .error (bad "'error_class' must be a short string.")
  | _ => .error (bad "Body must be a JSON object.")

/-- `json.loads(body)` inside the `try` of the handlers: a `ValueError` is
answered, any other exception goes on. -/
def loadBody {α : Type} (read : Json → Except JsonResponse α)
    (body : Except PyException Json) :
    Handler ModelRequestBackend (Except JsonResponse α) :=
  match body with
  | .ok data => .ret (read data)
  | .error .valueError => .ret (.error (bad "Body is not valid JSON."))
  | .error error => .raise error

/-! ## Calls -/

/-- `_now_utc()`. -/
def nowUtc : Handler ModelRequestBackend DateTime :=
  .call (.backend ModelRequestCall.nowUtc) Program.ofExcept

/-- `str(uuid.uuid4())`. -/
def uuid4 : Handler ModelRequestBackend String :=
  .call (.backend ModelRequestCall.uuid4) Program.ofExcept

/-- `store.count_open_for_tenant(tenant_id=tenant)`. -/
def countOpenForTenant (tenant : String) : Handler ModelRequestBackend Nat :=
  .call (.backend (ModelRequestCall.countOpenForTenant tenant))
    Program.ofExcept

/-- `store.create(item)`. -/
def create (item : ModelInstallRequest) : Handler ModelRequestBackend Unit :=
  .call (.backend (ModelRequestCall.create item)) Program.ofExcept

/-- `store.list_pending(limit=limit)`. -/
def listPending (limit : Nat) :
    Handler ModelRequestBackend (List ModelInstallRequest) :=
  .call (.backend (ModelRequestCall.listPending limit)) Program.ofExcept

/-- `store.update_status(request_id=..., status=..., error_class=...)`. -/
def updateStatus (requestId : String) (status : Status) (errorClass : String) :
    Handler ModelRequestBackend (Option ModelInstallRequest) :=
  .call (.backend (ModelRequestCall.updateStatus requestId status errorClass))
    Program.ofExcept

/-- `store.publish(event)` of the notification store. -/
def publish (event : NotificationEvent) : Handler ModelRequestBackend Unit :=
  .call (.backend (ModelRequestCall.publish event)) Program.ofExcept

/-! ## Handlers -/

/-- `_notify`: best effort, never breaks the request. -/
def notify (store : Bool) (tenantId userId eventClass resourceId : String) :
    Handler ModelRequestBackend Unit :=
  if !store || eventClass ∉ allowedEventClasses then return
  else
    Program.tryCatch
      (do
        let id ← uuid4
        let createdAt ← nowUtc
        publish
          { id, tenantId, userId, eventClass, resourceId, createdAt,
            readAt := none })
      fun _ => return

/-- The part of `build_model_request_create_response` that holds the rate
limiter's permit. -/
def recordInstallRequest (body : Except PyException Json)
    (config : ModelInstallConfig) (notificationStore : Bool)
    (tenantId userId : String) : Handler ModelRequestBackend JsonResponse := do
  match ← loadBody (readInstallRequest config) body with
  | .error response => return response
  | .ok (repo, revision) =>
      let cap := config.modelInstallMaxOpenPerTenant
      let openCount ← countOpenForTenant tenantId
      if (openCount : Int) ≥ cap then
        return (.tooManyRequests, errorPayload "too_many_open_requests"
          ("Too many open install requests (max " ++ toString cap ++
            "). Wait for an operator to review."))
      else
        let now ← nowUtc
        let id ← uuid4
        let item : ModelInstallRequest :=
          { id, tenantId, userId, hfRepoId := repo, revision,
            status := .requested, errorClass := "", createdAt := now,
            updatedAt := now }
        create item
        notify notificationStore tenantId userId "model_install_requested"
          item.id
        return (.accepted, item.toApiDict)

section Lower

variable (lower : String → String)

/-- `build_model_request_create_response`: record an install request. -/
def buildModelRequestCreateResponse (authorization : Option String)
    (body : Except PyException Json) (tokenVerifier : Option TokenVerifier)
    (config : ModelInstallConfig) (notificationStore rateLimiter : Bool) :
    Handler ModelRequestBackend JsonResponse := do
  match ← Program.ofExcept
      (verifyAndExtract lower authorization tokenVerifier) with
  | .error response => return response
  | .ok claims =>
      if !config.modelInstallEnabled then
        return (.forbidden, errorPayload "model_install_disabled"
          "Self-serve model install is not enabled on this workspace.")
      else if !userCanRequestInstall claims config then
        return (.forbidden, errorPayload "permission_denied"
          "You don't have permission to request model installs.")
      else
        let tenantId := extractTenantId lower claims
        let work := recordInstallRequest body config notificationStore tenantId
          claims.subject
        if rateLimiter then
          Handler.withPermit tenantId
            (return (.tooManyRequests, errorPayload "rate_limited"
              "Too many install requests right now — please slow down."))
            work
        else
          work

/-- `_verify_reconciler_token`: `hmac.compare_digest` refuses text outside
ASCII, which counts as a mismatch. -/
def verifyReconcilerToken (authorization : Option String)
    (config : ModelInstallConfig) : Bool :=
  match config.modelInstallerToken, bearerToken lower authorization with
  | some expected, some token =>
      expected != "" && Str.isAscii token && Str.isAscii expected &&
        token == expected
  | _, _ => false

/-- The answer to a caller without the shared token. -/
def notFound : JsonResponse := (.notFound, .obj [("error", .str "not_found")])

/-- Payload listing pending requests. -/
def pendingPayload (items : List ModelInstallRequest) : Json :=
  .obj [("requests", .arr (items.map ModelInstallRequest.toAdminDict)),
    ("count", .int items.length)]

/-- `build_reconciler_pending_response`. -/
def buildReconcilerPendingResponse (authorization : Option String)
    (config : ModelInstallConfig) :
    Handler ModelRequestBackend JsonResponse := do
  if !verifyReconcilerToken lower authorization config then return notFound
  else if !config.modelInstallEnabled then return (.ok, pendingPayload [])
  else
    let items ← listPending 50
    return (.ok, pendingPayload items)

/-- The part of `build_reconciler_status_response` after the update: tell the
owner, unless there is no such request. -/
def answerStatusUpdate (notificationStore : Bool) :
    Option ModelInstallRequest → Handler ModelRequestBackend JsonResponse
  | none => return notFound
  | some updated => do
      notify notificationStore updated.tenantId updated.userId
        "model_install_updated" updated.id
      return (.ok, updated.toAdminDict)

/-- `build_reconciler_status_response`. -/
def buildReconcilerStatusResponse (authorization : Option String)
    (requestId : String) (body : Except PyException Json)
    (config : ModelInstallConfig) (notificationStore : Bool) :
    Handler ModelRequestBackend JsonResponse := do
  if !verifyReconcilerToken lower authorization config then return notFound
  else
    match ← loadBody readStatusPost body with
    | .error response => return response
    | .ok (status, errorClass) =>
        let updated ← updateStatus requestId status errorClass
        answerStatusUpdate notificationStore updated

end Lower

/-! ## What precedes each write -/

/-- A body that is not acceptable is answered with 400. -/
theorem readStatusPost_error {value : Json} {response : JsonResponse}
    (refused : readStatusPost value = .error response) :
    response.1 = .badRequest := by
  cases value with
  | obj data =>
      simp only [readStatusPost] at refused
      repeat' split at refused
      all_goals cases refused
      all_goals rfl
  | null | bool | int | float | str | arr =>
      cases refused
      rfl

/-- The call leaves the rows of the store alone. -/
def Quiet : (Limited ModelRequestBackend).Call → Prop
  | .backend (.create _) => False
  | .backend (.updateStatus _ _ _) => False
  | _ => True

/-- The event stores a row. -/
def IsCreate (event : ModelRequestEvent) : Prop :=
  ∃ item, event.call = .backend (ModelRequestCall.create item)

/-- What a handler has done when it issues a call: a row is created once, as
requested, under an id and a time obtained last, directly after a count that is
below the cap; a status update never sets `requested`. -/
def Permitted (config : ModelInstallConfig) (past : List ModelRequestEvent) :
    (Limited ModelRequestBackend).Call → Prop
  | .backend (.create item) =>
      item.status = .requested ∧
        ∃ (earlier : List ModelRequestEvent) (count : Nat),
          past = earlier ++
            [⟨.backend (ModelRequestCall.countOpenForTenant item.tenantId),
                .ok count⟩,
              ⟨.backend ModelRequestCall.nowUtc, .ok item.createdAt⟩,
              ⟨.backend ModelRequestCall.uuid4, .ok item.id⟩] ∧
          (count : Int) < config.modelInstallMaxOpenPerTenant ∧
          ∀ event ∈ earlier, ¬ IsCreate event
  | .backend (.updateStatus _ status _) => status ≠ .requested
  | _ => True

/-- The handlers a request can start. -/
inductive Startable (lower : String → String) (config : ModelInstallConfig) :
    Handler ModelRequestBackend JsonResponse → Prop where
  | create (authorization : Option String) (body : Except PyException Json)
      (tokenVerifier : Option TokenVerifier)
      (notificationStore rateLimiter : Bool) :
      Startable lower config
        (buildModelRequestCreateResponse lower authorization body tokenVerifier
          config notificationStore rateLimiter)
  | pending (authorization : Option String) :
      Startable lower config
        (buildReconcilerPendingResponse lower authorization config)
  | status (authorization : Option String) (requestId : String)
      (body : Except PyException Json) (notificationStore : Bool) :
      Startable lower config
        (buildReconcilerStatusResponse lower authorization requestId body config
          notificationStore)

section Guards

variable {config : ModelInstallConfig}

theorem readStatusPost_ne_requested {value : Json} {status : Status}
    {errorClass : String}
    (accepted : readStatusPost value = .ok (status, errorClass)) :
    status ≠ .requested := by
  cases value with
  | obj data =>
      simp only [readStatusPost] at accepted
      cases read : Status.ofReconciler (Json.get data "status") with
      | none => simp [read] at accepted
      | some posted =>
          have settable := Status.ofReconciler_ne_requested read
          simp only [read] at accepted
          repeat' split at accepted
          all_goals cases accepted
          all_goals exact settable
  | _ => cases accepted

/-- A notification writes to no row. -/
theorem quiet_notify (past : List ModelRequestEvent) (store : Bool)
    (tenantId userId eventClass resourceId : String) :
    Program.Guarded (fun _ => Quiet) past
      (notify store tenantId userId eventClass resourceId) := by
  simp only [notify]
  split
  · trivial
  · apply Program.Guarded.tryCatch
    · apply Program.Guarded.callThen trivial
      intro id
      apply Program.Guarded.callThen trivial
      intro createdAt
      refine ⟨trivial, fun published => ?_⟩
      cases published <;> trivial
    · intros
      trivial

theorem quiet_answerStatusUpdate (past : List ModelRequestEvent) (store : Bool)
    (updated : Option ModelInstallRequest) :
    Program.Guarded (fun _ => Quiet) past (answerStatusUpdate store updated) := by
  cases updated with
  | none => trivial
  | some updated =>
      exact (quiet_notify _ _ _ _ _ _).bind fun _ _ _ => trivial

theorem permitted_of_quiet {past : List ModelRequestEvent}
    {request : (Limited ModelRequestBackend).Call} (quiet : Quiet request) :
    Permitted config past request := by
  cases request with
  | time | tryAcquire | release => trivial
  | backend request =>
      cases request with
      | create | updateStatus => exact quiet.elim
      | nowUtc | uuid4 | countOpenForTenant | listPending | publish => trivial

theorem guarded_notify (past : List ModelRequestEvent) (store : Bool)
    (tenantId userId eventClass resourceId : String) :
    Program.Guarded (Permitted config) past
      (notify store tenantId userId eventClass resourceId) :=
  (quiet_notify past store tenantId userId eventClass resourceId).mono
    fun _ _ => permitted_of_quiet

/-- What a body is read as decides the rest of a handler; reading it issues no
call. -/
theorem guarded_loadBody {α β : Type} {read : Json → Except JsonResponse α}
    {body : Except PyException Json} {past : List ModelRequestEvent}
    {rest : Except JsonResponse α → Handler ModelRequestBackend β}
    (guarded : ∀ outcome,
      (∀ value, outcome = .ok value → ∃ data, read data = .ok value) →
      Program.Guarded (Permitted config) past (rest outcome)) :
    Program.Guarded (Permitted config) past
      ((loadBody read body).bind rest) := by
  cases body with
  | ok data =>
      apply guarded
      intro value read
      exact ⟨data, read⟩
  | error error =>
      simp only [loadBody]
      split
      next data loaded => cases loaded
      next =>
        apply guarded
        intro value read
        cases read
      next => trivial

/-- The limiter adds no write before, between or after those it admits. -/
theorem guarded_withPermit {tenant : String}
    {refused work : Handler ModelRequestBackend JsonResponse}
    (guardedRefused : ∀ past, Program.Guarded (Permitted config) past refused)
    (guardedWork : ∀ past, (∀ event ∈ past, ¬ IsCreate event) →
      Program.Guarded (Permitted config) past work) :
    Program.Guarded (Permitted config) []
      (Handler.withPermit tenant refused work) := by
  apply Program.Guarded.callThen trivial
  intro now
  apply Program.Guarded.callThen trivial
  intro granted
  split
  · apply Program.Guarded.tryFinally
    · apply guardedWork
      intro event member created
      rcases created with ⟨item, call⟩
      simp only [List.nil_append, List.cons_append, List.mem_cons,
        List.not_mem_nil, or_false] at member
      rcases member with equal | equal
      · rw [equal] at call
        cases call
      · rw [equal] at call
        cases call
    · intro later
      refine ⟨trivial, fun released => ?_⟩
      cases released <;> trivial
  · exact guardedRefused _

theorem guarded_recordInstallRequest (body : Except PyException Json)
    (notificationStore : Bool) (tenantId userId : String)
    {past : List ModelRequestEvent}
    (unstored : ∀ event ∈ past, ¬ IsCreate event) :
    Program.Guarded (Permitted config) past
      (recordInstallRequest body config notificationStore tenantId userId) := by
  apply guarded_loadBody
  intro outcome _
  cases outcome with
  | error response => trivial
  | ok parsed =>
      apply Program.Guarded.callThen trivial
      intro count
      split
      · trivial
      next room =>
        apply Program.Guarded.callThen trivial
        intro now
        apply Program.Guarded.callThen trivial
        intro id
        apply Program.Guarded.callThen
        · exact ⟨rfl, past, count, by simp, Int.not_le.mp room, unstored⟩
        · intro stored
          exact (guarded_notify _ _ _ _ _ _).bind fun _ _ _ => trivial

/-- Every handler issues its writes as permitted. -/
theorem guarded_of_startable {lower : String → String}
    {program : Handler ModelRequestBackend JsonResponse}
    (startable : Startable lower config program) :
    Program.Guarded (Permitted config) [] program := by
  cases startable with
  | create authorization body tokenVerifier notificationStore rateLimiter =>
      simp only [buildModelRequestCreateResponse, Program.bind_eq]
      cases verifyAndExtract lower authorization tokenVerifier with
      | error error => trivial
      | ok verified =>
          cases verified with
          | error response => trivial
          | ok claims =>
              simp only [Program.ofExcept_ok, Program.ret_bind]
              split
              · trivial
              · split
                · trivial
                · split
                  · apply guarded_withPermit fun _ => Program.guarded_ret _
                    intro past unstored
                    exact guarded_recordInstallRequest _ _ _ _ unstored
                  · exact guarded_recordInstallRequest _ _ _ _ (by simp)
  | pending authorization =>
      simp only [buildReconcilerPendingResponse]
      split
      · trivial
      · split
        · trivial
        · refine ⟨trivial, fun items => ?_⟩
          cases items <;> trivial
  | status authorization requestId body notificationStore =>
      simp only [buildReconcilerStatusResponse]
      split
      · trivial
      · apply guarded_loadBody
        intro outcome accepted
        cases outcome with
        | error response => trivial
        | ok parsed =>
            rcases accepted parsed rfl with ⟨data, read⟩
            apply Program.Guarded.callThen (readStatusPost_ne_requested read)
            intro updated
            exact (quiet_answerStatusUpdate _ _ _).mono
              fun _ _ => permitted_of_quiet

end Guards

end ModelRequests

end PrivateAiWorkspace.ControlPlane
