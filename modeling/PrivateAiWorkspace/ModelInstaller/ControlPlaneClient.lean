import PrivateAiWorkspace.Effects.Answered
import PrivateAiWorkspace.ControlPlane.ModelRequests.System
import PrivateAiWorkspace.ModelInstaller.Reconciler

/-!
# The reconciler's channel to the control plane

`ControlPlaneClient` sends each call as one HTTP request, which a handler of the
control plane serves over the store while other handlers run. `HttpWorld` is
that composition; a message may be lost on the way, or be served with its
response lost. `Channel` says what the composition amounts to on the store
alone, and `channel_of_http` that nothing else can happen.
-/

namespace PrivateAiWorkspace.ModelInstaller

open Effects Python ControlPlane ControlPlane.ModelRequests
open Reconciler (sent listed)

/-! ## The client -/

namespace ControlPlaneClient

/-- The `Authorization` header of every request. -/
def authorization (token : String) : String := "Bearer " ++ token

/-- Body of a status post, as `json.loads` gives it back. -/
def statusBody (status : Status) (errorClass : String) : Json :=
  .obj [("status", .str status.text), ("error_class", .str errorClass)]

/-- `urlopen`: a response outside 2xx is raised. -/
def opened (response : JsonResponse) : Except PyException Json :=
  if 200 ≤ response.1.code ∧ response.1.code < 300 then .ok response.2
  else .error (.httpError response.1.code)

/-- `data.get("requests", [])`. -/
def requestsOf : Json → Except PyException Json
  | .obj fields => .ok ((Json.lookup "requests" fields).getD (.arr []))
  | _ => .error .attributeError

/-- What `list_pending` makes of a response. -/
def listPendingAnswer (response : JsonResponse) : Except PyException Json :=
  (opened response).bind requestsOf

/-- What `set_status` makes of a response. -/
def setStatusAnswer (response : JsonResponse) : Except PyException Unit :=
  (opened response).map fun _ => ()

end ControlPlaneClient

/-- The two ends of the channel: the client's token, the control plane's
settings and whether it has a notification store. -/
structure Link where
  lower : String → String
  token : String
  config : ModelInstallConfig
  notificationStore : Bool

namespace Link

variable (link : Link)

/-- The handler that serves `list_pending`. -/
def pendingHandler : Handler ModelRequestBackend JsonResponse :=
  buildReconcilerPendingResponse link.lower
    (some (ControlPlaneClient.authorization link.token)) link.config

/-- The handler that serves `set_status`. -/
def statusHandler (requestId : String) (status : Status)
    (errorClass : String) : Handler ModelRequestBackend JsonResponse :=
  buildReconcilerStatusResponse link.lower
    (some (ControlPlaneClient.authorization link.token)) requestId
    (.ok (ControlPlaneClient.statusBody status errorClass)) link.config
    link.notificationStore

end Link

section World

variable (link : Link)
  (interference : Shared ModelRequestState → Shared ModelRequestState → Prop)

/-- The store as a handler sees it while others run. -/
abbrev HandlerWorld : World (Limited ModelRequestBackend) PyException
    (Shared ModelRequestState) :=
  World.disturbed interference (LimitedWorld ModelRequestWorld)

/-- What a client call can come to. EKS and Kubernetes answer anything. -/
inductive HttpWorld :
    World Installer PyException (Shared ModelRequestState) where
  | pending {source target : Shared ModelRequestState}
      {events : List ModelRequestEvent} {response : JsonResponse} :
      Served (HandlerWorld interference) link.pendingHandler source events
        (.ok response) target →
      HttpWorld source
        ⟨InstallerCall.listPending,
          ControlPlaneClient.listPendingAnswer response⟩ target
  | pendingFailed {source : Shared ModelRequestState} (error : PyException) :
      HttpWorld source ⟨InstallerCall.listPending, .error error⟩ source
  | delivered {source target : Shared ModelRequestState}
      {events : List ModelRequestEvent} {response : JsonResponse}
      (requestId : String) (status : Status) (errorClass : String) :
      Served (HandlerWorld interference)
        (link.statusHandler requestId status errorClass) source events
        (.ok response) target →
      HttpWorld source
        (sent (.str requestId) status errorClass
          (ControlPlaneClient.setStatusAnswer response)) target
  | responseLost {source target : Shared ModelRequestState}
      {events : List ModelRequestEvent}
      {outcome : Except PyException JsonResponse} (requestId : String)
      (status : Status) (errorClass : String) (error : PyException) :
      Served (HandlerWorld interference)
        (link.statusHandler requestId status errorClass) source events outcome
        target →
      HttpWorld source (sent (.str requestId) status errorClass (.error error))
        target
  | lost {source : Shared ModelRequestState} (rid : Json) (status : Status)
      (errorClass : String) (error : PyException) :
      HttpWorld source (sent rid status errorClass (.error error)) source
  | scaleNodegroup {source : Shared ModelRequestState}
      (cluster nodegroup : String) (desired : Nat)
      (answer : Except PyException Unit) :
      HttpWorld source
        ⟨InstallerCall.scaleNodegroup cluster nodegroup desired, answer⟩ source
  | getModel {source : Shared ModelRequestState}
      (vllmNamespace configmap : String) (answer : Except PyException String) :
      HttpWorld source
        ⟨InstallerCall.getModel vllmNamespace configmap, answer⟩ source
  | setModel {source : Shared ModelRequestState}
      (vllmNamespace configmap deployment repoId : String)
      (answer : Except PyException Unit) :
      HttpWorld source
        ⟨InstallerCall.setModel vllmNamespace configmap deployment repoId,
          answer⟩ source
  | waitReady {source : Shared ModelRequestState}
      (vllmNamespace deployment : String) (timeoutS : PyFloat)
      (answer : Except PyException Bool) :
      HttpWorld source
        ⟨InstallerCall.waitReady vllmNamespace deployment timeoutS, answer⟩
        source

end World

/-! ## The channel on the store -/

/-- A store gains a request under a new id. -/
inductive Creates :
    InMemoryModelRequestStore → InMemoryModelRequestStore → Prop where
  | create (store : InMemoryModelRequestStore) (item : ModelInstallRequest) :
      item.status = .requested → store.get? item.id = none →
      Creates store (store.create item)

/-- What a client call can do to the store. -/
inductive Channel (installEnabled : Bool) :
    World Installer PyException InMemoryModelRequestStore where
  | listed {store : InMemoryModelRequestStore} :
      installEnabled = true →
      Channel installEnabled store
        (listed (.arr
          ((store.listPending 50).map ModelInstallRequest.toAdminDict))) store
  | paused {store : InMemoryModelRequestStore} :
      installEnabled = false →
      Channel installEnabled store (listed (.arr [])) store
  | listFailed {store : InMemoryModelRequestStore} (error : PyException) :
      Channel installEnabled store
        ⟨InstallerCall.listPending, .error error⟩ store
  | delivered {store : InMemoryModelRequestStore} (requestId : String)
      (status : Status) (errorClass : String) (now : DateTime) :
      status ≠ .requested → store.get? requestId ≠ none →
      Channel installEnabled store
        (sent (.str requestId) status errorClass (.ok ()))
        (store.updateStatus requestId status errorClass now).2
  | responseLost {store : InMemoryModelRequestStore} (requestId : String)
      (status : Status) (errorClass : String) (error : PyException)
      (now : DateTime) :
      status ≠ .requested →
      Channel installEnabled store
        (sent (.str requestId) status errorClass (.error error))
        (store.updateStatus requestId status errorClass now).2
  | lost {store : InMemoryModelRequestStore} (rid : Json) (status : Status)
      (errorClass : String) (error : PyException) :
      Channel installEnabled store (sent rid status errorClass (.error error))
        store
  | other {store : InMemoryModelRequestStore} (event : InstallerEvent) :
      event.call ≠ InstallerCall.listPending →
      (∀ rid status errorClass,
        event.call ≠ InstallerCall.setStatus rid status errorClass) →
      Channel installEnabled store event store

/-! ## The composition refines the channel -/

section Refinement

variable {link : Link}
  {interference : Shared ModelRequestState → Shared ModelRequestState → Prop}
  {grows : InMemoryModelRequestStore → InMemoryModelRequestStore → Prop}
  {source target : Shared ModelRequestState}

/-- What other handlers do in a state, `grows` allows on its store. -/
def Tracked
    (interference : Shared ModelRequestState → Shared ModelRequestState → Prop)
    (grows : InMemoryModelRequestStore → InMemoryModelRequestStore → Prop) :
    Prop :=
  ∀ source target, interference source target →
    Relation.ReflTransGen grows source.backend.store target.backend.store

/-- The store grew from one state to the other. -/
abbrev Grown
    (grows : InMemoryModelRequestStore → InMemoryModelRequestStore → Prop)
    (source target : Shared ModelRequestState) : Prop :=
  Relation.ReflTransGen grows source.backend.store target.backend.store

theorem grown_of_interference (tracked : Tracked interference grows)
    (steps : Relation.ReflTransGen interference source target) :
    Grown grows source target := by
  induction steps with
  | refl => exact .refl
  | tail _ step ih => exact ih.trans (tracked _ _ step)

/-- A quiet call leaves the store alone. -/
theorem store_of_quiet {event : ModelRequestEvent} (quiet : Quiet event.call)
    (answered : LimitedWorld ModelRequestWorld source event target) :
    target.backend.store = source.backend.store := by
  cases answered with
  | time | tryAcquire | release => rfl
  | backend request answer next answered =>
      cases answered with
      | create | updateStatus => exact quiet.elim
      | nowUtc | uuid4 | countOpenForTenant | listPending | publish => rfl

theorem grown_of_quiet (tracked : Tracked interference grows)
    {events : List ModelRequestEvent}
    (quiet : ∀ event ∈ events, Quiet event.call)
    (answered : Answered (HandlerWorld interference) source events target) :
    Grown grows source target := by
  apply answered.invariant (Grown grows source) .refl
  intro event member first last step grown
  rcases step with ⟨before, after, earlier, answer, later⟩
  have first := grown.trans (grown_of_interference tracked earlier)
  have last := grown_of_interference tracked later
  rw [Grown, store_of_quiet (quiet event member) answer] at last
  exact first.trans last

/-- After its update the status handler is quiet. -/
theorem quiet_of_answerStatusUpdate {store : Bool}
    {updated : Option ModelInstallRequest} {events : List ModelRequestEvent}
    {outcome : Except PyException JsonResponse}
    (run : Program.Run (answerStatusUpdate store updated) events outcome) :
    ∀ event ∈ events, Quiet event.call := by
  intro event member
  rcases List.append_of_mem member with ⟨before, after, split⟩
  exact (quiet_answerStatusUpdate [] store updated).of_run run split

/-- The one call of the pending handler that reads the store. -/
theorem listed_of_answered {limit : Nat}
    {items : Except PyException (List ModelInstallRequest)}
    (answered : LimitedWorld ModelRequestWorld source
      ⟨.backend (ModelRequestCall.listPending limit), items⟩ target) :
    items = .ok (source.backend.store.listPending limit) ∧
      target.backend.store = source.backend.store := by
  cases answered with
  | backend request answer next answered =>
      cases answered
      exact ⟨rfl, rfl⟩

theorem updated_of_answered {requestId : String} {status : Status}
    {errorClass : String}
    {updated : Except PyException (Option ModelInstallRequest)}
    (answered : LimitedWorld ModelRequestWorld source
      ⟨.backend (ModelRequestCall.updateStatus requestId status errorClass),
        updated⟩ target) :
    ∃ now, updated = .ok (source.backend.store.updateStatus requestId status
        errorClass now).1 ∧
      target.backend.store = (source.backend.store.updateStatus requestId status
        errorClass now).2 := by
  cases answered with
  | backend request answer next answered =>
      cases answered with
      | updateStatus requestId status errorClass now => exact ⟨now, rfl, rfl⟩

/-- How a post with a status the reconciler may set is read. -/
theorem readStatusPost_settable {status : Status} (settable : status ≠ .requested)
    (errorClass : String) :
    readStatusPost (ControlPlaneClient.statusBody status errorClass) =
      if 100 < errorClass.length then
        .error (bad "'error_class' must be a short string.")
      else .ok (status, errorClass) := by
  have stored : Status.ofReconciler (Json.get
      [("status", .str status.text), ("error_class", .str errorClass)]
      "status") = some status := by
    rw [Json.get, Json.lookup_self]
    exact Status.ofReconciler_text settable
  have reason : Json.get
      [("status", .str status.text), ("error_class", .str errorClass)]
      "error_class" = .str errorClass := by
    rw [Json.get, Json.lookup_ne (by decide), Json.lookup_self]
    rfl
  simp only [ControlPlaneClient.statusBody, readStatusPost, stored, reason]
  split
  next empty =>
    simp only [Json.truthy, Bool.not_eq_true', bne_eq_false_iff_eq] at empty
    rw [empty]
    rfl
  next => rfl

/-- The post a client sends is read back as it was sent, if it is accepted. -/
theorem readStatusPost_statusBody {status posted : Status}
    {errorClass text : String}
    (read : readStatusPost (ControlPlaneClient.statusBody status errorClass) =
      .ok (posted, text)) :
    posted = status ∧ text = errorClass ∧ status ≠ .requested := by
  cases decEq status .requested with
  | isTrue requested =>
      rw [requested] at read
      cases read
  | isFalse settable =>
      rw [readStatusPost_settable settable] at read
      split at read
      · cases read
      · cases read
        exact ⟨rfl, rfl, settable⟩

/-- What serving a status post does to the store: nothing, or the update it
asks for, whose row exists when the client sees success. -/
theorem store_of_statusHandler (tracked : Tracked interference grows)
    {requestId : String} {status : Status} {errorClass : String}
    {events : List ModelRequestEvent} {outcome : Except PyException JsonResponse}
    (served : Served (HandlerWorld interference)
      (link.statusHandler requestId status errorClass) source events outcome
      target) :
    (Grown grows source target ∧ ∀ response, outcome = .ok response →
      ∃ error, ControlPlaneClient.setStatusAnswer response = .error error) ∨
    ∃ store now, Relation.ReflTransGen grows source.backend.store store ∧
      Relation.ReflTransGen grows
        (store.updateStatus requestId status errorClass now).2
        target.backend.store ∧
      status ≠ .requested ∧
      (∀ response, outcome = .ok response →
        ControlPlaneClient.setStatusAnswer response = .ok () →
        store.get? requestId ≠ none) := by
  rcases served with ⟨run, answered⟩
  simp only [Link.statusHandler, buildReconcilerStatusResponse] at run
  split at run
  next refused =>
    rcases Program.run_ret_iff.mp run with ⟨events_eq, outcome_eq⟩
    left
    rw [events_eq] at answered
    rw [answered_nil.mp answered, outcome_eq]
    refine ⟨.refl, ?_⟩
    intro response response_eq
    cases response_eq
    exact ⟨_, rfl⟩
  next verified =>
    simp only [loadBody, Program.bind_eq, Program.ret_bind] at run
    cases parsed : readStatusPost
        (ControlPlaneClient.statusBody status errorClass) with
    | error refusal =>
        rw [parsed] at run
        rcases Program.run_ret_iff.mp run with ⟨events_eq, outcome_eq⟩
        left
        rw [events_eq] at answered
        rw [answered_nil.mp answered, outcome_eq]
        refine ⟨.refl, ?_⟩
        intro response response_eq
        cases response_eq
        simp only [ControlPlaneClient.setStatusAnswer, ControlPlaneClient.opened,
          readStatusPost_error parsed]
        exact ⟨_, rfl⟩
    | ok post =>
        rcases readStatusPost_statusBody parsed with ⟨posted, text, settable⟩
        rw [parsed] at run
        dsimp only at run
        rw [posted, text] at run
        right
        rcases Program.run_callThen_iff.mp run with
          ⟨error, events_eq, _⟩ | ⟨updated, more, events_eq, run⟩
        · rw [events_eq] at answered
          rcases answered with ⟨_, ⟨_, _, _, answer, _⟩, _⟩
          rcases updated_of_answered answer with ⟨now, raised, _⟩
          cases raised
        rw [events_eq] at answered
        rcases answered with ⟨_, ⟨before, after, earlier, answer, later⟩, rest⟩
        rcases updated_of_answered answer with ⟨now, updated_eq, stored⟩
        refine ⟨before.backend.store, now,
          grown_of_interference tracked earlier, ?_, settable, ?_⟩
        · rw [← stored]
          exact (grown_of_interference tracked later).trans
            (grown_of_quiet tracked (quiet_of_answerStatusUpdate run) rest)
        · intro response response_eq success missing
          have updated_eq := Except.ok.inj updated_eq
          rw [InMemoryModelRequestStore.updateStatus_missing missing]
            at updated_eq
          rw [updated_eq] at run
          rcases Program.run_ret_iff.mp run with ⟨_, outcome_eq⟩
          rw [outcome_eq] at response_eq
          cases response_eq
          cases success

/-- What serving the pending list answers. -/
theorem listed_of_pendingHandler (tracked : Tracked interference grows)
    {events : List ModelRequestEvent} {response : JsonResponse}
    (served : Served (HandlerWorld interference) link.pendingHandler source
      events (.ok response) target) :
    ∃ store, Relation.ReflTransGen grows source.backend.store store ∧
      Relation.ReflTransGen grows store target.backend.store ∧
      Channel link.config.modelInstallEnabled store
        ⟨InstallerCall.listPending,
          ControlPlaneClient.listPendingAnswer response⟩ store := by
  rcases served with ⟨run, answered⟩
  simp only [Link.pendingHandler, buildReconcilerPendingResponse] at run
  split at run
  next refused =>
    rcases Program.run_ret_iff.mp run with ⟨events_eq, outcome_eq⟩
    rw [events_eq] at answered
    rw [← answered_nil.mp answered]
    cases outcome_eq
    exact ⟨_, .refl, .refl, .listFailed _⟩
  next verified =>
    split at run
    next off =>
      rcases Program.run_ret_iff.mp run with ⟨events_eq, outcome_eq⟩
      rw [events_eq] at answered
      rw [← answered_nil.mp answered]
      cases outcome_eq
      exact ⟨_, .refl, .refl, .paused (by simpa using off)⟩
    next on =>
      rcases Program.run_callThen_iff.mp run with
        ⟨error, _, raised⟩ | ⟨items, more, events_eq, run⟩
      · cases raised
      rcases Program.run_ret_iff.mp run with ⟨more_eq, outcome_eq⟩
      rw [events_eq, more_eq] at answered
      rcases answered with ⟨_, ⟨before, after, earlier, answer, later⟩, ended⟩
      rcases listed_of_answered answer with ⟨items_eq, same⟩
      have later := grown_of_interference tracked later
      rw [Grown, same] at later
      rw [← answered_nil.mp ended]
      cases outcome_eq
      cases items_eq
      exact ⟨before.backend.store, grown_of_interference tracked earlier, later,
        .listed (by simpa using on)⟩

/-- Whatever a client call comes to while other handlers run, the channel allows on
the store. -/
theorem channel_of_http (tracked : Tracked interference grows)
    {event : InstallerEvent}
    (answered : World.disturbed interference (HttpWorld link interference)
      source event target) :
    World.disturbed grows (Channel link.config.modelInstallEnabled)
      source.backend.store event target.backend.store := by
  rcases answered with ⟨before, after, earlier, answer, later⟩
  have earlier := grown_of_interference tracked earlier
  have later := grown_of_interference tracked later
  cases answer with
  | pending served =>
      rcases listed_of_pendingHandler tracked served with
        ⟨store, grew, grown, channel⟩
      exact ⟨store, store, earlier.trans grew, channel, grown.trans later⟩
  | pendingFailed error => exact ⟨_, _, earlier, .listFailed error, later⟩
  | delivered requestId status errorClass served =>
      rename_i response
      rcases store_of_statusHandler tracked served with
        ⟨grown, refused⟩ | ⟨store, now, grew, grown, settable, found⟩
      · rcases refused _ rfl with ⟨error, raised⟩
        rw [raised]
        exact ⟨_, _, earlier.trans grown, .lost _ _ _ error, later⟩
      · cases answer : ControlPlaneClient.setStatusAnswer response with
        | ok done =>
            exact ⟨store, _, earlier.trans grew,
              .delivered requestId status errorClass now settable
                (found _ rfl answer), grown.trans later⟩
        | error error =>
            exact ⟨store, _, earlier.trans grew,
              .responseLost requestId status errorClass error now settable,
              grown.trans later⟩
  | responseLost requestId status errorClass error served =>
      rcases store_of_statusHandler tracked served with
        ⟨grown, _⟩ | ⟨store, now, grew, grown, settable, _⟩
      · exact ⟨_, _, earlier.trans grown, .lost _ _ _ error, later⟩
      · exact ⟨store, _, earlier.trans grew,
          .responseLost requestId status errorClass error now settable,
          grown.trans later⟩
  | lost rid status errorClass error =>
      exact ⟨_, _, earlier, .lost rid status errorClass error, later⟩
  | scaleNodegroup | getModel | setModel | waitReady =>
      exact ⟨_, _, earlier, .other _ nofun nofun, later⟩

theorem answered_channel_of_http (tracked : Tracked interference grows)
    {events : List InstallerEvent}
    (answered : Answered
      (World.disturbed interference (HttpWorld link interference)) source events
      target) :
    Answered (World.disturbed grows (Channel link.config.modelInstallEnabled))
      source.backend.store events target.backend.store :=
  answered.map (fun state => state.backend.store)
    fun _ _ _ => channel_of_http tracked

end Refinement

/-! ## The channel is what the composition can do -/

/-- The control plane accepts the client's token and keeps no notifications. -/
structure Link.Trusted (link : Link) : Prop where
  verified : verifyReconcilerToken link.lower
    (some (ControlPlaneClient.authorization link.token)) link.config = true
  unnotified : link.notificationStore = false

section Realization

variable {link : Link}
  {interference : Shared ModelRequestState → Shared ModelRequestState → Prop}

/-- The state of the control plane around a store. -/
def around (limiter : RateLimiter) (issued : List String)
    (store : InMemoryModelRequestStore) : Shared ModelRequestState :=
  ⟨limiter, ⟨store, issued⟩⟩

/-- A status the reconciler may set is accepted with a short error class. -/
theorem readStatusPost_posted {status : Status} {errorClass : String}
    (settable : status ≠ .requested) (short : errorClass.length ≤ 100) :
    readStatusPost (ControlPlaneClient.statusBody status errorClass) =
      .ok (status, errorClass) := by
  rw [readStatusPost_settable settable, if_neg (Nat.not_lt.mpr short)]

/-- A pending list is served while nothing else happens. -/
theorem served_pendingHandler (trusted : link.Trusted)
    (limiter : RateLimiter) (issued : List String)
    (store : InMemoryModelRequestStore) :
    ∃ events, Served (HandlerWorld interference) link.pendingHandler
      (around limiter issued store) events
      (.ok (.ok, pendingPayload (if link.config.modelInstallEnabled
        then store.listPending 50 else [])))
      (around limiter issued store) := by
  simp only [Link.pendingHandler, buildReconcilerPendingResponse,
    trusted.verified]
  cases link.config.modelInstallEnabled with
  | false => exact ⟨[], .ret _, rfl⟩
  | true =>
      refine ⟨[⟨.backend (ModelRequestCall.listPending 50),
        .ok (store.listPending 50)⟩], .call _ (.ret _), _, ?_, rfl⟩
      exact ⟨_, _, .refl, .backend _ _ _ (.listPending 50), .refl⟩

/-- A status post is served while nothing else happens. -/
theorem served_statusHandler (trusted : link.Trusted)
    (limiter : RateLimiter) (issued : List String)
    (store : InMemoryModelRequestStore) (requestId : String) {status : Status}
    {errorClass : String} (now : DateTime) (settable : status ≠ .requested)
    (short : errorClass.length ≤ 100) :
    ∃ events response, Served (HandlerWorld interference)
      (link.statusHandler requestId status errorClass)
      (around limiter issued store) events (.ok response)
      (around limiter issued
        (store.updateStatus requestId status errorClass now).2) ∧
      (store.get? requestId ≠ none →
        ControlPlaneClient.setStatusAnswer response = .ok ()) := by
  have answered : Answered (HandlerWorld interference)
      (around limiter issued store)
      [⟨.backend (ModelRequestCall.updateStatus requestId status errorClass),
        .ok (store.updateStatus requestId status errorClass now).1⟩]
      (around limiter issued
        (store.updateStatus requestId status errorClass now).2) :=
    ⟨_, ⟨_, _, .refl, .backend _ _ _ (.updateStatus _ _ _ now), .refl⟩, rfl⟩
  simp only [Link.statusHandler, buildReconcilerStatusResponse,
    trusted.verified, trusted.unnotified, loadBody,
    readStatusPost_posted settable short]
  cases found : store.get? requestId with
  | none =>
      rw [InMemoryModelRequestStore.updateStatus_missing found] at answered ⊢
      refine ⟨_, notFound, ⟨?_, answered⟩, fun present => absurd rfl present⟩
      exact Program.run_callThen_iff.mpr (.inr ⟨_, [], rfl, .ret notFound⟩)
  | some request =>
      rw [InMemoryModelRequestStore.updateStatus_found found] at answered ⊢
      let row := InMemoryModelRequestStore.updated request status errorClass now
      refine ⟨_, (.ok, row.toAdminDict), ⟨?_, answered⟩, fun _ => rfl⟩
      exact Program.run_callThen_iff.mpr (.inr ⟨_, [], rfl, .ret _⟩)

/-- Whatever the channel allows, a trusted client and a control plane without other
handlers do. -/
theorem http_of_channel (trusted : link.Trusted) (limiter : RateLimiter)
    (issued : List String) {store next : InMemoryModelRequestStore}
    {event : InstallerEvent}
    (channel : Channel link.config.modelInstallEnabled store event next)
    (short : ∀ rid status errorClass,
      event.call = InstallerCall.setStatus rid status errorClass →
      errorClass.length ≤ 100) :
    HttpWorld link interference (around limiter issued store) event
      (around limiter issued next) := by
  cases channel with
  | listed enabled =>
      rcases served_pendingHandler trusted limiter issued store with
        ⟨events, served⟩
      rw [if_pos enabled] at served
      exact .pending served
  | paused disabled =>
      rcases served_pendingHandler trusted limiter issued store with
        ⟨events, served⟩
      rw [disabled, if_neg Bool.false_ne_true] at served
      exact .pending served
  | listFailed error => exact .pendingFailed error
  | delivered requestId status errorClass now settable found =>
      rcases served_statusHandler trusted limiter issued store requestId now
        settable (short _ _ _ rfl) with ⟨events, response, served, accepted⟩
      rw [← accepted found]
      exact .delivered requestId status errorClass served
  | responseLost requestId status errorClass error now settable =>
      rcases served_statusHandler trusted limiter issued store requestId now
        settable (short _ _ _ rfl) with ⟨events, response, served, _⟩
      exact .responseLost requestId status errorClass error served
  | lost rid status errorClass error => exact .lost rid status errorClass error
  | other event notListing notStatus =>
      rcases event with ⟨request, answer⟩
      cases request with
      | listPending => exact absurd rfl notListing
      | setStatus rid status errorClass =>
          exact absurd rfl (notStatus rid status errorClass)
      | scaleNodegroup => exact .scaleNodegroup _ _ _ answer
      | getModel => exact .getModel _ _ answer
      | setModel => exact .setModel _ _ _ _ answer
      | waitReady => exact .waitReady _ _ _ answer

end Realization

end PrivateAiWorkspace.ModelInstaller
