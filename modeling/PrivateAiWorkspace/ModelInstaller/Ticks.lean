import PrivateAiWorkspace.Effects.Execution
import PrivateAiWorkspace.ModelInstaller.ControlPlaneClient
import PrivateAiWorkspace.ModelInstaller.DenyByDefault

/-!
# Ticks of the reconciler over the control plane's store

One reconciler ticks again and again over the store of the control plane,
through the channel. `TickStep` is one such tick while other handlers run, and
`StoreTick` what it comes to on the store alone.

`Reports` says how a tick that was offered a request reports on it; the other
ticks report nothing. What the store holds after a tick follows from the
reports and from what the channel does with each.
-/

namespace PrivateAiWorkspace.ModelInstaller.Reconciler

open Effects Python ControlPlane ControlPlane.ModelRequests

/-- The client calls of a tick and how it ended. -/
structure TickRecord where
  events : List InstallerEvent
  result : Except PyException Bool

/-- A tick between two states of the control plane. -/
abbrev TickTransition := Transition (Shared ModelRequestState) TickRecord

/-- One tick over the control plane, while other handlers run before it and
around each of its calls. -/
def TickStep (cfg : InstallerConfig) (link : Link)
    (interference : Shared ModelRequestState → Shared ModelRequestState → Prop)
    (source : Shared ModelRequestState) (tick : TickRecord)
    (target : Shared ModelRequestState) : Prop :=
  ∃ middle, Relation.ReflTransGen interference source middle ∧
    Served (World.disturbed interference (HttpWorld link interference))
      (runOnce cfg) middle tick.events tick.result target

/-- One tick over the store. -/
structure StoreTick (cfg : InstallerConfig) (installEnabled : Bool)
    (grows : InMemoryModelRequestStore → InMemoryModelRequestStore → Prop)
    (source : InMemoryModelRequestStore) (tick : TickRecord)
    (target : InMemoryModelRequestStore) : Prop where
  run : Program.Run (runOnce cfg) tick.events tick.result
  answered : ∃ middle, Relation.ReflTransGen grows source middle ∧
    Answered (World.disturbed grows (Channel installEnabled)) middle
      tick.events target

/-- A tick over the control plane is a tick over its store. -/
theorem storeTick_of_tickStep {cfg : InstallerConfig} {link : Link}
    {interference : Shared ModelRequestState → Shared ModelRequestState → Prop}
    {grows : InMemoryModelRequestStore → InMemoryModelRequestStore → Prop}
    (tracked : Tracked interference grows)
    {source target : Shared ModelRequestState} {tick : TickRecord}
    (taken : TickStep cfg link interference source tick target) :
    StoreTick cfg link.config.modelInstallEnabled grows source.backend.store tick
      target.backend.store := by
  rcases taken with ⟨middle, earlier, run, answered⟩
  exact ⟨run, middle.backend.store, grown_of_interference tracked earlier,
    answered_channel_of_http tracked answered⟩

/-! ## What other handlers do -/

/-- Other handlers do nothing but create requests. -/
def Creating (source target : Shared ModelRequestState) : Prop :=
  target.backend.store = source.backend.store ∨
    Creates source.backend.store target.backend.store

theorem tracked_creating : Tracked Creating Creates := by
  intro source target step
  rcases step with same | created
  · rw [same]
  · exact .single created

/-! ## What a tick reports -/

/-- The node group was scaled, then the repository written, then the deployment
was ready. -/
def Earned (cfg : InstallerConfig) (repo : Json)
    (work : List InstallerEvent) : Prop :=
  ∃ name, repo = .str name ∧
    [scaled cfg (.ok ()), wrote cfg name (.ok ()),
      waited cfg (.ok true)].Sublist work

/-- How a tick reports on the request it was offered: as failed at once, or as
installing and, unless that call raises, by a final status after the work. -/
inductive Reports (cfg : InstallerConfig) (rid repo : Json) :
    List InstallerEvent → Except PyException Bool → Prop where
  | denied (errorClass : String) (answer : Except PyException Unit) :
      Reports cfg rid repo [sent rid .failed errorClass answer]
        (finished answer)
  | markRaised (error : PyException) :
      Reports cfg rid repo [sent rid .installing "" (.error error)]
        (.error error)
  | worked (work : List InstallerEvent) (status : Status) (errorClass : String)
      (answer : Except PyException Unit) :
      (∀ event ∈ work, IsInfrastructure event.call) → status.isOpen = false →
      (status = .applied → Earned cfg repo work) →
      Reports cfg rid repo
        (sent rid .installing "" (.ok ()) ::
          (work ++ [sent rid status errorClass answer]))
        (finished answer)

section Reports

variable {cfg : InstallerConfig} {events : List InstallerEvent}
  {result : Except PyException Bool}

theorem reports_of_installation {rid : Json} {repo : String}
    (installation : Installation cfg rid repo events result) :
    Reports cfg rid (.str repo) events result := by
  cases installation with
  | markRaised error => exact .markRaised error
  | scaleRaised error answer =>
      refine .worked [scaled cfg (.error error)] .failed errScale answer ?_ rfl
        nofun
      intro event member
      rw [List.mem_singleton.mp member]
      trivial
  | applyRaised previous error answer =>
      refine .worked [scaled cfg (.ok ()), read cfg previous,
        wrote cfg repo (.error error)] .failed errApply answer ?_ rfl nofun
      simp [IsInfrastructure, scaled, read, wrote]
  | notReady previous ready errorClass restored answer why rolled =>
      have restoring : ∀ event ∈ restored, IsInfrastructure event.call := by
        cases rolled with
        | nothing => nofun
        | written answer =>
            intro event member
            rw [List.mem_singleton.mp member]
            trivial
      have applying : ∀ event ∈ [scaled cfg (.ok ()), read cfg previous,
          wrote cfg repo (.ok ()), waited cfg ready],
          IsInfrastructure event.call := by
        simp [IsInfrastructure, scaled, read, wrote, waited]
      refine .worked ([scaled cfg (.ok ()), read cfg previous,
        wrote cfg repo (.ok ()), waited cfg ready] ++ restored) .failed
        errorClass answer ?_ rfl nofun
      exact List.forall_mem_append.mpr ⟨applying, restoring⟩
  | ready previous answer =>
      refine .worked [scaled cfg (.ok ()), read cfg previous,
        wrote cfg repo (.ok ()), waited cfg (.ok true)] .applied "" answer ?_ rfl
        fun _ => ⟨repo, rfl, ?_⟩
      · simp [IsInfrastructure, scaled, read, wrote, waited]
      · exact .cons_cons _ (.cons _ (List.Sublist.refl _))

/-- A tick sends and touches nothing, or reports on the request it was
offered. -/
theorem silent_or_reports (run : Program.Run (runOnce cfg) events result) :
    (∀ event ∈ events, event.call = InstallerCall.listPending) ∨
      ∃ pending rid repo rest, events = listed pending :: rest ∧
        headRequest pending = .ok (rid, repo) ∧
        Reports cfg rid repo rest result := by
  cases tick_of_run run with
  | disabled => exact Or.inl nofun
  | pendingRaised | noPending | malformed =>
      left
      intro event member
      exact congrArg Event.call (List.mem_singleton.mp member)
  | denied pending rid repo errorClass answer _ _ head =>
      exact Or.inr ⟨pending, rid, repo, _, rfl, head, .denied errorClass answer⟩
  | install pending rid repo events result _ _ head _ installation =>
      exact Or.inr ⟨pending, rid, .str repo, events, rfl, head,
        reports_of_installation installation⟩

end Reports

/-! ## What the channel does to the store -/

section Store

variable {installEnabled : Bool} {store next : InMemoryModelRequestStore}
  {event : InstallerEvent}

/-- A client call leaves the store alone unless it sends a status that the
reconciler may set. -/
theorem store_of_channel (channel : Channel installEnabled store event next) :
    next = store ∨ ∃ requestId status errorClass now,
      event.call = InstallerCall.setStatus (.str requestId) status errorClass ∧
        status ≠ .requested ∧
        next = (store.updateStatus requestId status errorClass now).2 := by
  cases channel with
  | listed | paused | listFailed | lost | other => exact Or.inl rfl
  | delivered requestId status errorClass now settable =>
      exact Or.inr ⟨requestId, status, errorClass, now, rfl, settable, rfl⟩
  | responseLost requestId status errorClass _ now settable =>
      exact Or.inr ⟨requestId, status, errorClass, now, rfl, settable, rfl⟩

/-- A client call leaves a row alone or gives it a status that the reconciler may
set. -/
theorem get?_of_channel (channel : Channel installEnabled store event next)
    {requestId : String} {request : ModelInstallRequest}
    (found : store.get? requestId = some request) :
    next.get? requestId = some request ∨ ∃ status errorClass now,
      status ≠ .requested ∧ next.get? requestId = some
        (InMemoryModelRequestStore.updated request status errorClass now) := by
  rcases store_of_channel channel with
    same | ⟨other, status, errorClass, now, _, settable, updated⟩
  · rw [same]
    exact Or.inl found
  rw [updated]
  cases decEq requestId other with
  | isTrue same =>
      refine Or.inr ⟨status, errorClass, now, settable, ?_⟩
      rw [← same, InMemoryModelRequestStore.get?_updateStatus_self, found]
      rfl
  | isFalse different =>
      left
      rw [InMemoryModelRequestStore.get?_updateStatus_of_ne _ _ _ different]
      exact found

/-- A status whose call returned is stored. -/
theorem statusOf_of_delivered {rid : Json} {status : Status}
    {errorClass : String}
    (channel : Channel installEnabled store
      (sent rid status errorClass (.ok ())) next) :
    ∃ requestId, rid = .str requestId ∧ next.statusOf requestId = some status := by
  cases channel with
  | delivered requestId _ _ now _ found =>
      refine ⟨requestId, rfl, ?_⟩
      rw [InMemoryModelRequestStore.statusOf_updateStatus_self,
        InMemoryModelRequestStore.statusOf]
      cases stored : store.get? requestId with
      | none => exact absurd stored found
      | some request => rfl
  | other _ _ notStatus => exact absurd rfl (notStatus _ _ _)

/-- The head of a list that was read is a stored request. -/
theorem head_of_listed {pending rid repo : Json}
    (channel : Channel installEnabled store (listed pending) next)
    (head : headRequest pending = .ok (rid, repo)) :
    next = store ∧ ∃ request ∈ store.waiting,
      rid = .str request.id ∧ repo = .str request.hfRepoId := by
  cases channel with
  | listed =>
      cases queue : store.listPending 50 with
      | nil =>
          rw [queue] at head
          cases head
      | cons request rest =>
          rw [queue] at head
          cases head
          have first : request ∈ store.listPending 50 := by
            rw [queue]
            exact List.mem_cons_self
          exact ⟨rfl, request,
            InMemoryModelRequestStore.mem_waiting_of_mem_listPending first, rfl,
            rfl⟩
  | paused => cases head
  | other _ notListing => exact absurd rfl notListing

/-- A new request changes the row of no stored one. -/
theorem get?_of_creates {requestId : String} {request : ModelInstallRequest}
    (created : Creates store next)
    (found : store.get? requestId = some request) :
    next.get? requestId = some request := by
  cases created with
  | create item requested fresh =>
      rw [InMemoryModelRequestStore.get?_create]
      split
      next same =>
        rw [same, fresh] at found
        cases found
      next => exact found

/-- A new request is requested; all other statuses are kept. -/
theorem statusOf_of_creates (created : Creates store next)
    (requestId : String) :
    next.statusOf requestId = store.statusOf requestId ∨
      next.statusOf requestId = some .requested := by
  cases created with
  | create item requested fresh =>
      simp only [InMemoryModelRequestStore.statusOf,
        InMemoryModelRequestStore.get?_create]
      split
      · exact Or.inr (congrArg some requested)
      · exact Or.inl rfl

end Store

/-! ## What a tick finds -/

section Found

variable {cfg : InstallerConfig} {installEnabled : Bool}
  {grows : InMemoryModelRequestStore → InMemoryModelRequestStore → Prop}
  {source target : InMemoryModelRequestStore} {tick : TickRecord}

/-- A tick that reads a list is offered its head. -/
theorem offered_of_listed {events rest : List InstallerEvent}
    {pending rid repo : Json} (shown : events = listed pending :: rest)
    (head : headRequest pending = .ok (rid, repo)) : Offered events rid repo :=
  ⟨pending, by rw [shown]; rfl, head⟩

/-- What other handlers and every client call of a tick keep, the tick keeps. -/
theorem StoreTick.kept
    (taken : StoreTick cfg installEnabled grows source tick target)
    (invariant : InMemoryModelRequestStore → Prop)
    (undisturbed : ∀ source target, grows source target → invariant source →
      invariant target)
    (preserved : ∀ event ∈ tick.events, ∀ source target,
      Channel installEnabled source event target → invariant source →
      invariant target)
    (initial : invariant source) : invariant target := by
  rcases taken.answered with ⟨middle, earlier, answered⟩
  exact answered.kept invariant undisturbed preserved
    (kept_of_reflTransGen undisturbed earlier initial)

/-- The request a tick is offered waited in the store when the list was read. -/
theorem StoreTick.found
    (taken : StoreTick cfg installEnabled grows source tick target)
    {pending rid repo : Json} {rest : List InstallerEvent}
    (events : tick.events = listed pending :: rest)
    (head : headRequest pending = .ok (rid, repo)) :
    ∃ store request later, Relation.ReflTransGen grows source store ∧
      request ∈ InMemoryModelRequestStore.waiting store ∧
      rid = .str request.id ∧ repo = .str request.hfRepoId ∧
      Relation.ReflTransGen grows store later ∧
      Answered (World.disturbed grows (Channel installEnabled)) later rest
        target := by
  rcases taken.answered with ⟨middle, earlier, answered⟩
  rw [events] at answered
  rcases answered with ⟨later, ⟨store, next, sooner, channel, after⟩, rest⟩
  rcases head_of_listed channel head with ⟨same, request, waits, id, name⟩
  rw [same] at after
  exact ⟨store, request, later, earlier.trans sooner, waits, id, name, after,
    rest⟩

/-- The store holds a final report that returned. -/
theorem StoreTick.lastReport
    (taken : StoreTick cfg installEnabled grows source tick target)
    {rid : Json} {status : Status} {errorClass : String}
    {before : List InstallerEvent}
    (events : tick.events = before ++ [sent rid status errorClass (.ok ())]) :
    ∃ requestId stored, rid = .str requestId ∧
      InMemoryModelRequestStore.statusOf stored requestId = some status ∧
      Relation.ReflTransGen grows stored target := by
  rcases taken.answered with ⟨middle, _, answered⟩
  rw [events] at answered
  rcases answered_append.mp answered with
    ⟨_, _, _, ⟨_, stored, _, channel, after⟩, ended⟩
  rcases statusOf_of_delivered channel with ⟨requestId, same, reported⟩
  rw [answered_nil.mp ended] at after
  exact ⟨requestId, stored, same, reported, after⟩

/-- A tick posts on the request it was offered only. -/
theorem StoreTick.posts_offered
    (taken : StoreTick cfg installEnabled grows source tick target)
    {event : InstallerEvent} (member : event ∈ tick.events)
    {rid other repo : Json} {status : Status} {errorClass : String}
    (posts : event.call = InstallerCall.setStatus other status errorClass)
    (offered : Offered tick.events rid repo) : other = rid := by
  rcases offered_of_run taken.run member posts with ⟨value, posted⟩
  exact (posted.unique offered).1

end Found

/-! ## Playing ticks -/

/-- What becomes of a status message. -/
inductive Delivery where
  | delivered
  | responseLost
  | lost

/-- What a tick meets: the time, what becomes of its status messages, and whether
the model it writes becomes ready. -/
structure Weather where
  now : DateTime
  delivery : String → Status → Delivery
  ready : Bool

/-- Answers of the store and of the clients in a weather. -/
def respondChannel (weather : Weather) (store : InMemoryModelRequestStore) :
    (request : Installer.Call) →
      Except PyException (Installer.Answer request) × InMemoryModelRequestStore
  | .listPending =>
      (.ok (.arr ((store.listPending 50).map ModelInstallRequest.toAdminDict)),
        store)
  | .setStatus (.str requestId) status errorClass =>
      if status ≠ .requested ∧ errorClass.length ≤ 100 then
        let updated :=
          (store.updateStatus requestId status errorClass weather.now).2
        match weather.delivery requestId status with
        | .delivered =>
            if store.get? requestId = none then
              (.error (.httpError HttpStatus.notFound.code), store)
            else (.ok (), updated)
        | .responseLost => (.error .timeoutError, updated)
        | .lost => (.error .urlError, store)
      else (.error (.httpError HttpStatus.badRequest.code), store)
  | .setStatus _ _ _ => (.error .urlError, store)
  | .scaleNodegroup _ _ _ => (.ok (), store)
  | .getModel _ _ => (.ok "", store)
  | .setModel _ _ _ _ => (.ok (), store)
  | .waitReady _ _ _ => (.ok weather.ready, store)

/-- Ticks in one weather after another, from a store. -/
def playTicks (cfg : InstallerConfig) (limiter : RateLimiter)
    (issued : List String) :
    List Weather → InMemoryModelRequestStore →
      List TickTransition × InMemoryModelRequestStore
  | [], store => ([], store)
  | weather :: later, store =>
      let tick : TickRecord :=
        ⟨(runOnce cfg).trace (respondChannel weather) store,
          ((runOnce cfg).eval (respondChannel weather) store).1⟩
      let next := ((runOnce cfg).eval (respondChannel weather) store).2
      let rest := playTicks cfg limiter issued later next
      (⟨around limiter issued store, tick, around limiter issued next⟩ :: rest.1,
        rest.2)

section Played

variable {link : Link}
  {interference : Shared ModelRequestState → Shared ModelRequestState → Prop}

theorem http_of_respondChannel (trusted : link.Trusted)
    (enabled : link.config.modelInstallEnabled = true) (limiter : RateLimiter)
    (issued : List String) {weather : Weather}
    {store next : InMemoryModelRequestStore} {event : InstallerEvent}
    (answered : World.ofRespond (respondChannel weather) store event next) :
    HttpWorld link interference (around limiter issued store) event
      (around limiter issued next) := by
  rcases event with ⟨request, answer⟩
  cases request with
  | listPending =>
      cases answered
      exact http_of_channel trusted limiter issued (.listed enabled) nofun
  | setStatus rid status errorClass =>
      cases rid with
      | str requestId =>
          simp only [World.ofRespond, respondChannel] at answered
          split at answered
          next accepted =>
            have short : ∀ rid other text,
                InstallerCall.setStatus (.str requestId) status errorClass =
                  InstallerCall.setStatus rid other text →
                text.length ≤ 100 := by
              intro rid other text same
              cases same
              exact accepted.2
            split at answered
            · split at answered
              · cases answered
                exact .lost _ _ _ _
              next found =>
                cases answered
                exact http_of_channel trusted limiter issued
                  (.delivered _ _ _ _ accepted.1 found) short
            · cases answered
              exact http_of_channel trusted limiter issued
                (.responseLost _ _ _ _ _ accepted.1) short
            · cases answered
              exact .lost _ _ _ _
          next =>
            cases answered
            exact .lost _ _ _ _
      | null | bool | int | float | arr | obj =>
          cases answered
          exact .lost _ _ _ _
  | scaleNodegroup =>
      cases answered
      exact .scaleNodegroup _ _ _ _
  | getModel =>
      cases answered
      exact .getModel _ _ _
  | setModel =>
      cases answered
      exact .setModel _ _ _ _ _
  | waitReady =>
      cases answered
      exact .waitReady _ _ _ _

/-- Ticks that are played are ticks over the control plane. -/
theorem playTicks_execution (cfg : InstallerConfig) (trusted : link.Trusted)
    (enabled : link.config.modelInstallEnabled = true) (limiter : RateLimiter)
    (issued : List String) (weathers : List Weather)
    (store : InMemoryModelRequestStore) :
    Execution (TickStep cfg link interference) (around limiter issued store)
      (playTicks cfg limiter issued weathers store).1
      (around limiter issued (playTicks cfg limiter issued weathers store).2) := by
  induction weathers generalizing store with
  | nil => exact .nil _
  | cons weather later ih =>
      have served := served_eval (respondChannel weather) (runOnce cfg) store
      refine .cons ⟨_, .refl, served.1, ?_⟩ (ih _)
      apply served.2.map (around limiter issued)
      intro source event target answered
      exact ⟨_, _, .refl,
        http_of_respondChannel trusted enabled limiter issued answered, .refl⟩

end Played

/-! ## A store and a channel to play in -/

/-- A request for a Qwen model. -/
def qwenRequest (id repo : String) (createdAt : DateTime) :
    ModelInstallRequest where
  id := id
  tenantId := "acme.com"
  userId := "u1"
  hfRepoId := repo
  revision := ""
  status := .requested
  errorClass := ""
  createdAt := createdAt
  updatedAt := createdAt

/-- Two requests of one tenant, the first created an hour before the second. -/
def twoRequests : InMemoryModelRequestStore :=
  (InMemoryModelRequestStore.empty.create
      (qwenRequest "r1" "Qwen/Qwen2.5" (.fullHour 1))).create
    (qwenRequest "r2" "Qwen/Qwen3" (.fullHour 2))

/-- A control plane with installs enabled and a client that holds its token. -/
def qwenLink : Link where
  lower := Str.asciiLower
  token := "t0ken"
  config :=
    { modelInstallEnabled := true
      modelInstallAllowlist := some "Qwen"
      modelInstallMaxOpenPerTenant := 5
      modelInstallGroup := none
      modelInstallAllowAllUsers := true
      modelInstallerToken := some "t0ken"
      adminGroup := none }
  notificationStore := false

theorem qwenLink_trusted : qwenLink.Trusted := ⟨by decide, rfl⟩

end PrivateAiWorkspace.ModelInstaller.Reconciler
