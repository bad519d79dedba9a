import PrivateAiWorkspace.ModelInstaller.AtMostOnce

/-!
# Requests left installing

Every branch of a tick that marked a request goes on to report a final status,
so a request is left installing only when one of the calls that report on it
raised. It then stays so, as every status but `requested` does.
-/

namespace PrivateAiWorkspace.ModelInstaller.Reconciler

open Effects Python ControlPlane ControlPlane.ModelRequests

/-- A call of the tick that sent a status of the request raised. -/
def ReportRaised (requestId : String) (tick : TickRecord) : Prop :=
  ∃ status errorClass error,
    sent (.str requestId) status errorClass (.error error) ∈ tick.events

/-- The event does not mark the request as installing. -/
def Unmarked (requestId : String) (event : InstallerEvent) : Prop :=
  ∀ errorClass, event.call ≠
    InstallerCall.setStatus (.str requestId) .installing errorClass

section Store

variable {installEnabled : Bool} {store next : InMemoryModelRequestStore}
  {event : InstallerEvent} {requestId : String}

theorem notInstalling_of_creates (created : Creates store next)
    (before : store.statusOf requestId ≠ some .installing) :
    next.statusOf requestId ≠ some .installing := by
  rcases statusOf_of_creates created requestId with same | requested
  · rw [same]
    exact before
  · rw [requested]
    nofun

theorem notInstalling_of_channel
    (channel : Channel installEnabled store event next)
    (unmarked : Unmarked requestId event)
    (before : store.statusOf requestId ≠ some .installing) :
    next.statusOf requestId ≠ some .installing := by
  rcases store_of_channel channel with
    same | ⟨other, status, errorClass, now, posts, _, updated⟩
  · rw [same]
    exact before
  rw [updated]
  cases decEq requestId other with
  | isTrue same =>
      rw [← same, InMemoryModelRequestStore.statusOf_updateStatus_self]
      intro installing
      rcases Option.map_eq_some_iff.mp installing with ⟨_, _, posted⟩
      rw [← same, posted] at posts
      exact unmarked errorClass posts
  | isFalse different =>
      rw [InMemoryModelRequestStore.statusOf_updateStatus_of_ne _ _ _ different]
      exact before

end Store

/-! ## One tick -/

section Tick

variable {cfg : InstallerConfig} {installEnabled : Bool}
  {source target : InMemoryModelRequestStore} {tick : TickRecord}
  {requestId : String}

/-- A request that no call of a tick marks does not become installing. -/
theorem notInstalling_of_unmarked
    (taken : StoreTick cfg installEnabled Creates source tick target)
    (unmarked : ∀ event ∈ tick.events, Unmarked requestId event)
    (before : source.statusOf requestId ≠ some .installing) :
    target.statusOf requestId ≠ some .installing := by
  apply taken.kept (fun store => store.statusOf requestId ≠ some .installing) ?_
    ?_ before
  · intro source target created before
    exact notInstalling_of_creates created before
  · intro event member source target channel before
    exact notInstalling_of_channel channel (unmarked event member) before

/-- Reports on another request do not mark this one. -/
theorem unmarked_of_reports {rid repo : Json} {rest : List InstallerEvent}
    {result : Except PyException Bool}
    (reports : Reports cfg rid repo rest result)
    (other : rid ≠ .str requestId) :
    ∀ event ∈ rest, Unmarked requestId event := by
  have unmarked : ∀ status errorClass answer,
      Unmarked requestId (sent rid status errorClass answer) := by
    intro status errorClass answer text same
    cases same
    exact other rfl
  cases reports with
  | denied errorClass answer =>
      intro event member
      rw [List.mem_singleton.mp member]
      exact unmarked _ _ _
  | markRaised error =>
      intro event member
      rw [List.mem_singleton.mp member]
      exact unmarked _ _ _
  | worked work status errorClass answer working =>
      intro event member
      rcases List.mem_cons.mp member with mark | member
      · rw [mark]
        exact unmarked _ _ _
      rcases List.mem_append.mp member with touched | report
      · intro text same
        have infrastructure := working event touched
        rw [same] at infrastructure
        exact infrastructure
      · rw [List.mem_singleton.mp report]
        exact unmarked _ _ _

/-- A final status that was reported and returned is not installing. -/
theorem notInstalling_of_lastReport {status : Status} {errorClass : String}
    {before : List InstallerEvent}
    (taken : StoreTick cfg installEnabled Creates source tick target)
    (final : status.isOpen = false)
    (events : tick.events =
      before ++ [sent (.str requestId) status errorClass (.ok ())]) :
    target.statusOf requestId ≠ some .installing := by
  rcases taken.lastReport events with ⟨own, stored, same, reported, after⟩
  cases same
  apply kept_of_reflTransGen
    (fun _ _ created before => notInstalling_of_creates created before) after
  rw [reported]
  intro installing
  cases installing
  cases final

/-- A tick whose reports on its own request all return does not leave it
installing. -/
theorem notInstalling_of_ownReports {pending repo : Json}
    {rest : List InstallerEvent} {result : Except PyException Bool}
    (taken : StoreTick cfg installEnabled Creates source tick target)
    (events : tick.events = listed pending :: rest)
    (reports : Reports cfg (.str requestId) repo rest result)
    (returned : ¬ ReportRaised requestId tick)
    (before : source.statusOf requestId ≠ some .installing) :
    target.statusOf requestId ≠ some .installing := by
  cases reports with
  | denied errorClass answer =>
      apply notInstalling_of_unmarked taken ?_ before
      rw [events]
      intro event member text same
      rcases List.mem_cons.mp member with listing | report
      · rw [listing] at same
        cases same
      · rw [List.mem_singleton.mp report] at same
        cases same
  | markRaised error =>
      refine absurd ⟨.installing, "", error, ?_⟩ returned
      rw [events]
      exact List.mem_cons_of_mem _ List.mem_cons_self
  | worked work status errorClass answer _ final =>
      rw [← List.cons_append, ← List.cons_append] at events
      cases answer with
      | ok done => exact notInstalling_of_lastReport taken final events
      | error error =>
          refine absurd ⟨status, errorClass, error, ?_⟩ returned
          rw [events]
          exact List.mem_append_right _ List.mem_cons_self

/-- A tick whose reports on a request all return does not leave it
installing. -/
theorem notInstalling_of_reported
    (taken : StoreTick cfg installEnabled Creates source tick target)
    (returned : ¬ ReportRaised requestId tick)
    (before : source.statusOf requestId ≠ some .installing) :
    target.statusOf requestId ≠ some .installing := by
  rcases silent_or_reports taken.run with
    silent | ⟨pending, rid, repo, rest, events, _, reports⟩
  · apply notInstalling_of_unmarked taken ?_ before
    intro event member errorClass same
    rw [silent event member] at same
    cases same
  rcases Classical.em (rid = .str requestId) with own | other
  · rw [own] at reports
    exact notInstalling_of_ownReports taken events reports returned before
  · apply notInstalling_of_unmarked taken ?_ before
    rw [events]
    intro event member
    rcases List.mem_cons.mp member with listing | member
    · rw [listing]
      intro errorClass same
      cases same
    · exact unmarked_of_reports reports other event member

end Tick

/-! ## Every run -/

/-- After every tick, a request is installing only if a call that sent one of its
statuses raised in this tick or an earlier one. -/
def InstallingOnlyIfRaised (transitions : List TickTransition) : Prop :=
  ∀ before transition after, transitions = before ++ transition :: after →
    ∀ requestId,
      transition.target.backend.store.statusOf requestId = some .installing →
      ∃ earlier ∈ before ++ [transition], ReportRaised requestId earlier.label

/-- No request of the store is installing. -/
def NoneInstalling (store : InMemoryModelRequestStore) : Prop :=
  ∀ request ∈ store.values, request.status ≠ .installing

instance : DecidablePred NoneInstalling := fun store =>
  inferInstanceAs (Decidable (∀ request ∈ store.values, _))

theorem statusOf_of_noneInstalling {store : InMemoryModelRequestStore}
    (none : NoneInstalling store) (requestId : String) :
    store.statusOf requestId ≠ some .installing := by
  intro installing
  rcases Option.map_eq_some_iff.mp installing with ⟨request, found, status⟩
  exact none request (Dict.mem_values_of_get? found) status

/-- From a store without installing requests no request is stranded silently,
however ticks end and messages are lost, while other handlers create requests. -/
theorem installingOnlyIfRaised {cfg : InstallerConfig} {link : Link}
    {source target : Shared ModelRequestState}
    {transitions : List TickTransition}
    (execution : Execution (TickStep cfg link Creating) source transitions
      target)
    (fresh : NoneInstalling source.backend.store) :
    InstallingOnlyIfRaised transitions := by
  intro before transition after split
  rw [split] at execution
  rcases execution.split with ⟨first, step, _⟩
  apply (first.snoc step).history_invariant
    fun past state => ∀ requestId,
      state.backend.store.statusOf requestId = some .installing →
      ∃ earlier ∈ past, ReportRaised requestId earlier.label
  · intro requestId installing
    exact absurd installing (statusOf_of_noneInstalling fresh requestId)
  · intro past taken _ step earlier requestId installing
    have tick := storeTick_of_tickStep tracked_creating step
    rcases Classical.em (ReportRaised requestId taken.label) with
      raised | returned
    · exact ⟨taken, List.mem_append_right _ List.mem_cons_self, raised⟩
    · have already : taken.source.backend.store.statusOf requestId =
          some .installing := by
        apply Classical.byContradiction
        intro before
        exact notInstalling_of_reported tick returned before installing
      rcases earlier requestId already with ⟨blamed, member, raised⟩
      exact ⟨blamed, List.mem_append_left _ member, raised⟩

/-- Every mark is applied, but its response is lost. -/
def marksLost : Weather where
  now := .fullHour 3
  delivery _ status :=
    if status = .installing then .responseLost else .delivered
  ready := true

/-- Two ticks over two requests, in which each mark is applied with its response
lost. -/
def twoTicks : List TickTransition × InMemoryModelRequestStore :=
  playTicks qwenInstaller (RateLimiter.init 60 8) [] [marksLost, marksLost]
    twoRequests

theorem installingOnlyIfRaised_twoTicks : InstallingOnlyIfRaised twoTicks.1 :=
  installingOnlyIfRaised
    (playTicks_execution qwenInstaller qwenLink_trusted rfl
      (RateLimiter.init 60 8) [] [marksLost, marksLost] twoRequests)
    (by decide)

/-- Both requests are installing after the two ticks. -/
theorem marksLost_strands :
    ∃ transitions target,
      Execution (TickStep qwenInstaller qwenLink Creating)
        (around (RateLimiter.init 60 8) [] twoRequests) transitions target ∧
      NoneInstalling twoRequests ∧
      target.backend.store.statusOf "r1" = some .installing ∧
      target.backend.store.statusOf "r2" = some .installing :=
  ⟨twoTicks.1, around (RateLimiter.init 60 8) [] twoTicks.2,
    playTicks_execution qwenInstaller qwenLink_trusted rfl _ _ _ _, by decide +kernel,
    by decide +kernel, by decide +kernel⟩

end PrivateAiWorkspace.ModelInstaller.Reconciler
