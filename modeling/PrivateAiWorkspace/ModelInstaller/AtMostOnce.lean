import PrivateAiWorkspace.ModelInstaller.Ticks

/-!
# At most one installation of a request

A request is marked as installing before its repository is written, and a tick
whose mark is not acknowledged writes nothing. So the store knows of every
installation that was begun, however messages are lost, and never offers the
request again.
-/

namespace PrivateAiWorkspace.ModelInstaller.Reconciler

open Effects Python ControlPlane ControlPlane.ModelRequests

/-- The tick wrote the repository of the request it was offered. -/
def InstallWrites (cfg : InstallerConfig) (events : List InstallerEvent)
    (rid : Json) : Prop :=
  ∃ repo answer, Offered events rid (.str repo) ∧ wrote cfg repo answer ∈ events

/-- The request is stored and no longer waits for the reconciler. -/
def Taken (requestId : String) (store : InMemoryModelRequestStore) : Prop :=
  ∃ status, store.statusOf requestId = some status ∧ status ≠ .requested

/-- The request is stored with this repository. -/
def Names (requestId repo : String) (store : InMemoryModelRequestStore) : Prop :=
  ∃ request, store.get? requestId = some request ∧ request.hfRepoId = repo

section Store

variable {installEnabled : Bool} {store next : InMemoryModelRequestStore}
  {event : InstallerEvent} {requestId repo : String}

theorem taken_iff : Taken requestId store ↔
    ∃ request, store.get? requestId = some request ∧
      request.status ≠ .requested := by
  constructor
  · intro taken
    rcases taken with ⟨status, stored, settled⟩
    rcases Option.map_eq_some_iff.mp stored with ⟨request, found, same⟩
    exact ⟨request, found, same ▸ settled⟩
  · intro stored
    rcases stored with ⟨request, found, settled⟩
    exact ⟨request.status, Option.map_eq_some_iff.mpr ⟨request, found, rfl⟩,
      settled⟩

theorem taken_of_creates (created : Creates store next)
    (taken : Taken requestId store) : Taken requestId next := by
  rcases taken_iff.mp taken with ⟨request, found, settled⟩
  exact taken_iff.mpr ⟨request, get?_of_creates created found, settled⟩

theorem taken_of_channel (channel : Channel installEnabled store event next)
    (taken : Taken requestId store) : Taken requestId next := by
  rcases taken_iff.mp taken with ⟨request, found, settled⟩
  rcases get?_of_channel channel found with
    kept | ⟨status, errorClass, now, settable, posted⟩
  · exact taken_iff.mpr ⟨request, kept, settled⟩
  · exact taken_iff.mpr ⟨_, posted, settable⟩

theorem names_of_creates (created : Creates store next)
    (names : Names requestId repo store) : Names requestId repo next := by
  rcases names with ⟨request, found, same⟩
  exact ⟨request, get?_of_creates created found, same⟩

theorem names_of_channel (channel : Channel installEnabled store event next)
    (names : Names requestId repo store) : Names requestId repo next := by
  rcases names with ⟨request, found, same⟩
  rcases get?_of_channel channel found with
    kept | ⟨status, errorClass, now, _, posted⟩
  · exact ⟨request, kept, same⟩
  · exact ⟨_, posted, same⟩

end Store

/-! ## One tick -/

section Tick

variable {cfg : InstallerConfig} {installEnabled : Bool}
  {source target : InMemoryModelRequestStore} {tick : TickRecord}

/-- An offered tick read a list first. -/
theorem listed_of_offered {events : List InstallerEvent} {rid repo : Json}
    (offered : Offered events rid repo) :
    ∃ pending rest, events = listed pending :: rest ∧
      headRequest pending = .ok (rid, repo) := by
  rcases offered with ⟨pending, first, head⟩
  cases events with
  | nil => cases first
  | cons event rest =>
      cases first
      exact ⟨pending, rest, rfl, head⟩

/-- A request that was taken is not offered. -/
theorem not_offered_of_taken {requestId : String} {repo : Json}
    (taken : StoreTick cfg installEnabled Creates source tick target)
    (before : Taken requestId source) :
    ¬ Offered tick.events (.str requestId) repo := by
  intro offered
  rcases listed_of_offered offered with ⟨pending, rest, events, head⟩
  rcases taken.found events head with
    ⟨store, request, _, earlier, waits, same, _, _, _⟩
  have now := kept_of_reflTransGen
    (fun _ _ created before => taken_of_creates created before) earlier before
  rcases InMemoryModelRequestStore.mem_waiting_iff.mp waits with
    ⟨found, requested⟩
  cases same
  rcases taken_iff.mp now with ⟨other, stored, settled⟩
  rw [found] at stored
  cases stored
  exact settled requested

/-- A status other than `requested` is kept by every tick. -/
theorem statusOf_kept {requestId : String} {status : Status}
    (taken : StoreTick cfg installEnabled Creates source tick target)
    (settled : status ≠ .requested)
    (before : source.statusOf requestId = some status) :
    target.statusOf requestId = some status := by
  apply taken.kept (fun store => store.statusOf requestId = some status) ?_ ?_
    before
  · intro source target created stored
    rcases Option.map_eq_some_iff.mp stored with ⟨request, found, same⟩
    rw [InMemoryModelRequestStore.statusOf, get?_of_creates created found,
      ← same]
    rfl
  · intro event member earlier later channel stored
    rcases store_of_channel channel with
      same | ⟨other, posted, errorClass, now, posts, _, updated⟩
    · rw [same]
      exact stored
    -- Statuses are posted on the offered request, and this one was not offered.
    rcases offered_of_run taken.run member posts with ⟨repo, offered⟩
    have different : requestId ≠ other := by
      intro same
      rw [← same] at offered
      exact not_offered_of_taken taken ⟨status, before, settled⟩ offered
    rw [updated,
      InMemoryModelRequestStore.statusOf_updateStatus_of_ne _ _ _ different]
    exact stored

/-- A request that was taken stays taken. -/
theorem taken_kept {requestId : String}
    (taken : StoreTick cfg installEnabled Creates source tick target)
    (before : Taken requestId source) : Taken requestId target := by
  rcases before with ⟨status, stored, settled⟩
  exact ⟨status, statusOf_kept taken settled stored, settled⟩

/-- A write comes after a mark that was acknowledged. -/
theorem marked_of_wrote {rid repo : Json} {rest : List InstallerEvent}
    {result : Except PyException Bool} {name : String}
    {answer : Except PyException Unit}
    (reports : Reports cfg rid repo rest result)
    (written : wrote cfg name answer ∈ rest) :
    ∃ more, rest = sent rid .installing "" (.ok ()) :: more := by
  cases reports with
  | denied | markRaised => cases List.mem_singleton.mp written
  | worked => exact ⟨_, rfl⟩

/-- A tick that writes the repository of a request has had it marked. -/
theorem taken_of_writes {rid : Json}
    (taken : StoreTick cfg installEnabled Creates source tick target)
    (writes : InstallWrites cfg tick.events rid) :
    ∃ requestId, rid = .str requestId ∧ Taken requestId target := by
  rcases writes with ⟨repo, answer, offered, written⟩
  rcases silent_or_reports taken.run with
    silent | ⟨pending, other, name, rest, events, head, reports⟩
  · cases silent _ written
  have same := offered.unique (offered_of_listed events head)
  have working : wrote cfg repo answer ∈ rest := by
    rw [events] at written
    rcases List.mem_cons.mp written with listing | working
    · cases listing
    · exact working
  rcases marked_of_wrote reports working with ⟨more, marking⟩
  rcases taken.found events head with ⟨_, _, later, _, _, _, _, _, answered⟩
  rw [marking] at answered
  rcases answered with ⟨middle, ⟨_, marked, _, channel, after⟩, answered⟩
  rcases statusOf_of_delivered channel with ⟨requestId, id, stored⟩
  refine ⟨requestId, same.1.trans id, ?_⟩
  have undisturbed : ∀ source target, Creates source target →
      Taken requestId source → Taken requestId target :=
    fun _ _ => taken_of_creates
  apply answered.kept (Taken requestId) undisturbed
    (fun _ _ _ _ => taken_of_channel)
  exact kept_of_reflTransGen undisturbed after ⟨.installing, stored, nofun⟩

/-- What stands before an item that occurs only at the end of a list. -/
theorem init_of_split {α : Type} {init before after : List α} {last item : α}
    (split : init ++ [last] = before ++ item :: after) (absent : item ∉ init) :
    before = init ∧ item = last := by
  rcases List.eq_nil_or_concat after with ended | ⟨more, final, ended⟩
  · rw [ended] at split
    rcases List.append_inj' split rfl with ⟨same, final⟩
    cases final
    exact ⟨same.symm, rfl⟩
  · rw [ended, List.concat_eq_append, ← List.cons_append, ← List.append_assoc]
      at split
    rcases List.append_inj' split rfl with ⟨same, _⟩
    rw [same] at absent
    exact absurd (List.mem_append_right _ List.mem_cons_self) absent

/-- A report of success was earned. -/
theorem earned_of_reports {rid repo other : Json}
    {rest before after : List InstallerEvent} {errorClass : String}
    {result : Except PyException Bool} {answer : Except PyException Unit}
    (reports : Reports cfg rid repo rest result)
    (split : rest = before ++ sent other .applied errorClass answer :: after) :
    other = rid ∧ Earned cfg repo before := by
  have reported : sent other .applied errorClass answer ∈ rest := by
    rw [split]
    exact List.mem_append_right _ List.mem_cons_self
  cases reports with
  | denied | markRaised => cases List.mem_singleton.mp reported
  | worked work status finalClass final working _ earned =>
      rw [← List.cons_append] at split
      have absent : sent other .applied errorClass answer ∉
          sent rid .installing "" (.ok ()) :: work := by
        intro member
        rcases List.mem_cons.mp member with marked | member
        · cases marked
        · exact working _ member
      rcases init_of_split split absent with ⟨same, last⟩
      cases last
      rcases earned rfl with ⟨name, repo_eq, order⟩
      rw [same]
      exact ⟨rfl, name, repo_eq, order.cons _⟩

/-- The repository a tick takes from the pending list is the stored one. -/
theorem names_of_offered {rid repo : Json}
    (taken : StoreTick cfg installEnabled Creates source tick target)
    (offered : Offered tick.events rid repo) :
    ∃ requestId name, rid = .str requestId ∧ repo = .str name ∧
      Names requestId name target := by
  rcases listed_of_offered offered with ⟨pending, rest, events, head⟩
  rcases taken.found events head with
    ⟨store, request, later, _, waits, id, name, after, answered⟩
  refine ⟨request.id, request.hfRepoId, id, name, ?_⟩
  rcases InMemoryModelRequestStore.mem_waiting_iff.mp waits with ⟨found, _⟩
  have undisturbed : ∀ source target, Creates source target →
      Names request.id request.hfRepoId source →
      Names request.id request.hfRepoId target :=
    fun _ _ => names_of_creates
  exact answered.kept _ undisturbed (fun _ _ _ _ => names_of_channel)
    (kept_of_reflTransGen undisturbed after ⟨request, found, rfl⟩)

theorem earned_of_applied {before after : List InstallerEvent} {rid : Json}
    {errorClass : String} {answer : Except PyException Unit}
    (taken : StoreTick cfg installEnabled Creates source tick target)
    (split : tick.events =
      before ++ sent rid .applied errorClass answer :: after) :
    ∃ requestId repo, rid = .str requestId ∧ Names requestId repo target ∧
      [scaled cfg (.ok ()), wrote cfg repo (.ok ()),
        waited cfg (.ok true)].Sublist before := by
  rcases silent_or_reports taken.run with
    silent | ⟨pending, own, name, rest, events, head, reports⟩
  · have reported := silent (sent rid .applied errorClass answer) (by simp [split])
    cases reported
  rcases names_of_offered taken (offered_of_listed events head) with
    ⟨requestId, repo, own_eq, repo_eq, names⟩
  rw [events] at split
  cases before with
  | nil => cases split
  | cons first before =>
      rcases List.cons.inj split with ⟨_, split⟩
      rcases earned_of_reports reports split with ⟨same, stored, text, order⟩
      rw [repo_eq] at text
      cases text
      exact ⟨requestId, repo, same.trans own_eq, names, order.cons _⟩

end Tick

/-! ## Every run -/

/-- The repository of a request is written for its installation in at most one
tick. -/
def InstalledOnce (cfg : InstallerConfig) (transitions : List TickTransition) :
    Prop :=
  ∀ rid, transitions.Pairwise fun earlier later =>
    ¬ (InstallWrites cfg earlier.label.events rid ∧
      InstallWrites cfg later.label.events rid)

/-- A tick that sends `applied` for a request has before, in this order, scaled
the node group, written the repository stored for the request and found the
deployment ready. -/
def AppliedEarned (cfg : InstallerConfig) (transitions : List TickTransition) :
    Prop :=
  ∀ transition ∈ transitions, ∀ before rid errorClass answer after,
    transition.label.events =
      before ++ sent rid .applied errorClass answer :: after →
    ∃ requestId repo, rid = .str requestId ∧
      Names requestId repo transition.target.backend.store ∧
      [scaled cfg (.ok ()), wrote cfg repo (.ok ()),
        waited cfg (.ok true)].Sublist before

/-- At most one installation, and no false success, however messages are lost and
clients fail, while other handlers create requests. -/
theorem installedOnce_appliedEarned {cfg : InstallerConfig} {link : Link}
    {source target : Shared ModelRequestState}
    {transitions : List TickTransition}
    (execution : Execution (TickStep cfg link Creating) source transitions
      target) :
    InstalledOnce cfg transitions ∧ AppliedEarned cfg transitions := by
  constructor
  · intro rid
    apply execution.once (fun tick => InstallWrites cfg tick.events rid)
      fun state => ∃ requestId, rid = .str requestId ∧
        Taken requestId state.backend.store
    · intro source tick target step writes
      exact taken_of_writes (storeTick_of_tickStep tracked_creating step) writes
    · intro source tick target step spent
      rcases spent with ⟨requestId, same, taken⟩
      exact ⟨requestId, same,
        taken_kept (storeTick_of_tickStep tracked_creating step) taken⟩
    · intro source tick target step spent writes
      rcases spent with ⟨requestId, same, taken⟩
      rcases writes with ⟨repo, answer, offered, _⟩
      rw [same] at offered
      exact not_offered_of_taken (storeTick_of_tickStep tracked_creating step)
        taken offered
  · intro transition member before rid errorClass answer after split
    exact earned_of_applied
      (storeTick_of_tickStep tracked_creating (execution.step_of_mem member))
      split

/-- The response to every message about the first request is lost; all else
succeeds. -/
def firstResponsesLost : Weather where
  now := .fullHour 3
  delivery requestId _ := if requestId = "r1" then .responseLost else .delivered
  ready := true

/-- Three ticks over two requests. -/
def threeTicks : List TickTransition :=
  (playTicks qwenInstaller (RateLimiter.init 60 8) []
    (List.replicate 3 firstResponsesLost) twoRequests).1

theorem installedOnce_appliedEarned_threeTicks :
    InstalledOnce qwenInstaller threeTicks ∧
      AppliedEarned qwenInstaller threeTicks :=
  installedOnce_appliedEarned
    (playTicks_execution qwenInstaller qwenLink_trusted rfl
      (RateLimiter.init 60 8) [] (List.replicate 3 firstResponsesLost)
      twoRequests)

end PrivateAiWorkspace.ModelInstaller.Reconciler
