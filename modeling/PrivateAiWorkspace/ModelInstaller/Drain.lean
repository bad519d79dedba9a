import PrivateAiWorkspace.ModelInstaller.AtMostOnce

/-!
# The queue is drained first in, first out

When the channel is reliable and nobody creates requests, every branch of a tick
brings the oldest waiting request to a final status and touches no other, so
each tick takes the queue to its tail.
-/

namespace PrivateAiWorkspace.ModelInstaller.Reconciler

open Effects Python ControlPlane ControlPlane.ModelRequests

instance decidableInfrastructure (event : InstallerEvent) :
    Decidable (IsInfrastructure event.call) := by
  rcases event with ⟨request, answer⟩
  cases request <;> unfold IsInfrastructure <;> infer_instance

/-- Every call of the tick to the control plane returned. -/
def Reliable (tick : TickRecord) : Prop :=
  ∀ event ∈ tick.events, IsInfrastructure event.call ∨ event.answer.isOk

instance : DecidablePred Reliable := fun tick =>
  inferInstanceAs (Decidable (∀ event ∈ tick.events, _))

/-- Other handlers leave the store alone. -/
def Alone (source target : Shared ModelRequestState) : Prop :=
  target.backend.store = source.backend.store

/-- The store gains nothing. -/
def Never (_ _ : InMemoryModelRequestStore) : Prop := False

theorem tracked_alone
    (grows : InMemoryModelRequestStore → InMemoryModelRequestStore → Prop) :
    Tracked Alone grows := by
  intro source target same
  rw [same]

/-- The waiting requests were created one after another. -/
def CreatedInOrder (store : InMemoryModelRequestStore) : Prop :=
  store.waiting.Pairwise fun earlier later =>
    earlier.createdAt.instant < later.createdAt.instant

instance : DecidablePred CreatedInOrder := fun store =>
  inferInstanceAs (Decidable (List.Pairwise _ store.waiting))

theorem listPending_of_createdInOrder {store : InMemoryModelRequestStore}
    (ordered : CreatedInOrder store) (limit : Nat) :
    store.listPending limit = store.waiting.take limit :=
  InMemoryModelRequestStore.listPending_of_ordered
    (ordered.imp fun earlier => Nat.le_of_lt earlier)

/-- The request at the head of the queue has an id of its own. -/
theorem distinct_of_createdInOrder {store : InMemoryModelRequestStore}
    {head : ModelInstallRequest} {rest : List ModelInstallRequest}
    (ordered : CreatedInOrder store) (queue : store.waiting = head :: rest) :
    ∀ request ∈ rest, request.id ≠ head.id := by
  intro request member same
  rw [CreatedInOrder, queue] at ordered
  have later := (List.pairwise_cons.mp ordered).1 request member
  have first : head ∈ store.waiting := by
    rw [queue]
    exact List.mem_cons_self
  have second : request ∈ store.waiting := by
    rw [queue]
    exact List.mem_cons_of_mem _ member
  rw [InMemoryModelRequestStore.mem_waiting_iff] at first second
  rw [same, first.1] at second
  cases second.1
  exact Nat.lt_irrefl _ later

/-! ## One tick -/

section Tick

variable {cfg : InstallerConfig} {source target : InMemoryModelRequestStore}
  {tick : TickRecord}

theorem eq_of_never
    (steps : Relation.ReflTransGen Never source target) : target = source := by
  induction steps with
  | refl => rfl
  | tail _ step _ => exact step.elim

/-- A reliable tick of an enabled reconciler reads the pending list. -/
theorem lists_of_reliable
    (taken : StoreTick cfg true Never source tick target)
    (enabled : cfg.enabled = true) (reliable : Reliable tick) :
    ∃ pending rest, tick.events = listed pending :: rest := by
  rcases tick with ⟨events, result⟩
  cases tick_of_run taken.run with
  | disabled off =>
      rw [enabled] at off
      cases off
  | pendingRaised error =>
      rcases reliable _ List.mem_cons_self with infrastructure | answered
      · exact infrastructure.elim
      · cases answered
  | noPending pending => exact ⟨pending, [], rfl⟩
  | malformed pending => exact ⟨pending, [], rfl⟩
  | denied pending => exact ⟨pending, _, rfl⟩
  | install pending => exact ⟨pending, _, rfl⟩

/-- What it reads is the queue. -/
theorem pending_of_listed {pending : Json} {rest : List InstallerEvent}
    (taken : StoreTick cfg true Never source tick target)
    (events : tick.events = listed pending :: rest) :
    pending = .arr
      ((source.listPending 50).map ModelInstallRequest.toAdminDict) ∧
      Answered (World.disturbed Never (Channel true)) source rest target := by
  rcases taken.answered with ⟨first, before, answered⟩
  rw [events] at answered
  rcases answered with ⟨later, ⟨store, next, sooner, channel, after⟩, rest⟩
  rw [eq_of_never after] at rest
  rw [eq_of_never sooner, eq_of_never before] at channel
  cases channel with
  | listed => exact ⟨rfl, rest⟩
  | paused disabled => cases disabled
  | other _ notListing => exact absurd rfl notListing

/-- With nobody waiting a tick returns `False` and does nothing else. -/
theorem idle_of_empty (taken : StoreTick cfg true Never source tick target)
    (enabled : cfg.enabled = true) (reliable : Reliable tick)
    (empty : source.waiting = []) :
    tick.result = .ok false ∧ tick.events = [listed (.arr [])] ∧
      target = source := by
  rcases lists_of_reliable taken enabled reliable with ⟨pending, rest, events⟩
  rcases pending_of_listed taken events with ⟨queue, answered⟩
  have nobody : source.listPending 50 = [] := by
    rw [InMemoryModelRequestStore.listPending, empty]
    rfl
  rw [nobody] at queue
  rcases tick with ⟨shown, result⟩
  dsimp only at events
  rw [events, queue] at taken
  cases tick_of_run taken.run with
  | noPending =>
      rw [events, queue, answered_nil.mp answered]
      exact ⟨rfl, rfl, rfl⟩
  | malformed _ _ _ nonempty => cases nonempty
  | denied _ _ _ _ _ _ nonempty => cases nonempty
  | install _ _ _ _ _ _ nonempty => cases nonempty

/-- A tick reports on the head of a list that is not empty. -/
theorem reports_of_head {events : List InstallerEvent}
    {result : Except PyException Bool} {pending rid repo : Json}
    {rest : List InstallerEvent}
    (run : Program.Run (runOnce cfg) events result)
    (shown : events = listed pending :: rest) (nonempty : pending.truthy = true)
    (head : headRequest pending = .ok (rid, repo)) :
    Reports cfg rid repo rest result := by
  rw [shown] at run
  cases tick_of_run run with
  | noPending _ _ falsy =>
      rw [nonempty] at falsy
      cases falsy
  | malformed _ _ _ _ raised =>
      rw [head] at raised
      cases raised
  | denied _ _ _ errorClass answer _ _ request =>
      rw [head] at request
      cases request
      exact .denied errorClass answer
  | install _ _ _ _ _ _ _ request _ installation =>
      rw [head] at request
      cases request
      exact reports_of_installation installation

/-- A reliable report ends with a final status. -/
theorem closing_of_reports {rid repo : Json} {rest : List InstallerEvent}
    {result : Except PyException Bool}
    (reports : Reports cfg rid repo rest result)
    (reliable : ∀ event ∈ rest, IsInfrastructure event.call ∨
      event.answer.isOk) :
    result = .ok true ∧ ∃ before status errorClass,
      rest = before ++ [sent rid status errorClass (.ok ())] ∧
        status.isOpen = false := by
  have returned : ∀ status errorClass answer,
      sent rid status errorClass answer ∈ rest → answer = .ok () := by
    intro status errorClass answer member
    rcases reliable _ member with infrastructure | answered
    · exact infrastructure.elim
    · cases answer with
      | ok done => rfl
      | error error => cases answered
  cases reports with
  | denied errorClass answer =>
      rw [returned _ _ _ List.mem_cons_self]
      exact ⟨rfl, [], .failed, errorClass, rfl, rfl⟩
  | markRaised error => cases returned _ _ _ List.mem_cons_self
  | worked work status errorClass answer _ final =>
      have last := returned status errorClass answer
        (List.mem_cons_of_mem _ (List.mem_append_right _ List.mem_cons_self))
      rw [last]
      exact ⟨rfl, _ :: work, status, errorClass, rfl, final⟩

/-- A tick takes the queue to its tail: it returns `True`, brings the head to a
final status and leaves all other rows as they are. -/
theorem advanced_of_waiting {head : ModelInstallRequest}
    {rest : List ModelInstallRequest}
    (taken : StoreTick cfg true Never source tick target)
    (enabled : cfg.enabled = true) (reliable : Reliable tick)
    (ordered : CreatedInOrder source) (queue : source.waiting = head :: rest) :
    tick.result = .ok true ∧ target.waiting = rest ∧
      (∃ status, target.statusOf head.id = some status ∧
        status.isOpen = false) ∧
      target.others head.id = source.others head.id := by
  rcases lists_of_reliable taken enabled reliable with ⟨pending, more, events⟩
  rcases pending_of_listed taken events with ⟨listing, _⟩
  rw [listPending_of_createdInOrder ordered, queue] at listing
  have first : headRequest pending = .ok (.str head.id, .str head.hfRepoId) := by
    rw [listing]
    rfl
  have offered := offered_of_listed events first
  have untouched : target.others head.id = source.others head.id := by
    apply taken.kept (fun store => store.others head.id = source.others head.id)
      (fun _ _ grown => grown.elim) ?_ rfl
    intro event member before after channel same
    rcases store_of_channel channel with
      unchanged | ⟨other, status, errorClass, now, posts, _, updated⟩
    · rw [unchanged]
      exact same
    · cases taken.posts_offered member posts offered
      rw [updated, InMemoryModelRequestStore.others_updateStatus]
      exact same
  have reports : Reports cfg (.str head.id) (.str head.hfRepoId) more
      tick.result := by
    apply reports_of_head taken.run events ?_ first
    rw [listing]
    rfl
  have reliable : ∀ event ∈ more, IsInfrastructure event.call ∨
      event.answer.isOk := by
    intro event member
    apply reliable
    rw [events]
    exact List.mem_cons_of_mem _ member
  rcases closing_of_reports reports reliable with
    ⟨result, before, status, errorClass, last, final⟩
  rw [last, ← List.cons_append] at events
  rcases taken.lastReport events with ⟨own, stored, same, reported, after⟩
  cases same
  rw [← eq_of_never after] at reported
  refine ⟨result, ?_, ⟨status, reported, final⟩, untouched⟩
  apply InMemoryModelRequestStore.waiting_of_others queue
    (distinct_of_createdInOrder ordered queue) untouched
  rw [reported]
  intro requested
  cases requested
  cases final

end Tick

/-! ## Every run -/

/-- What any number of ticks makes of a queue: its first requests, as many as
there were ticks, have a final status and the others are as they were; a tick
returned `True` while there was a request for it, and later ones returned
`False` after reading an empty list and left the store alone. -/
structure Drained (queue : List ModelInstallRequest)
    (transitions : List TickTransition) (target : InMemoryModelRequestStore) :
    Prop where
  closed : ∀ request ∈ queue.take transitions.length,
    ∃ status, target.statusOf request.id = some status ∧ status.isOpen = false
  waiting : target.waiting = queue.drop transitions.length
  worked : ∀ index transition, transitions[index]? = some transition →
    index < queue.length → transition.label.result = .ok true
  idle : ∀ index transition, transitions[index]? = some transition →
    queue.length ≤ index →
    transition.label.result = .ok false ∧
      transition.label.events = [listed (.arr [])] ∧
      transition.target.backend.store = transition.source.backend.store

section Run

variable {cfg : InstallerConfig} {link : Link}
  {source target : Shared ModelRequestState}
  {transitions : List TickTransition}

/-- A status other than `requested` is kept by any number of ticks. -/
theorem statusOf_kept_run
    (execution : Execution (TickStep cfg link Alone) source transitions target)
    {requestId : String} {status : Status} (settled : status ≠ .requested)
    (before : source.backend.store.statusOf requestId = some status) :
    target.backend.store.statusOf requestId = some status := by
  apply execution.invariant_target
    (fun state => state.backend.store.statusOf requestId = some status) before
  intro transition _ taken before
  exact statusOf_kept (storeTick_of_tickStep (tracked_alone Creates) taken)
    settled before

/-- With a reliable channel, installs enabled on both sides and no creations, ticks
drain the queue in the order of creation, whatever the infrastructure clients do. -/
theorem drained (enabled : cfg.enabled = true)
    (installEnabled : link.config.modelInstallEnabled = true)
    (execution : Execution (TickStep cfg link Alone) source transitions target)
    (reliable : ∀ transition ∈ transitions, Reliable transition.label)
    (ordered : CreatedInOrder source.backend.store) :
    Drained source.backend.store.waiting transitions target.backend.store := by
  induction execution with
  | nil => exact ⟨nofun, rfl, nofun, nofun⟩
  | @cons source middle target act rest taken execution ih =>
      have tick := storeTick_of_tickStep (tracked_alone Never) taken
      rw [installEnabled] at tick
      have first : Reliable act := reliable _ List.mem_cons_self
      have reliable : ∀ transition ∈ rest, Reliable transition.label :=
        fun transition member =>
          reliable transition (List.mem_cons_of_mem _ member)
      cases queue : source.backend.store.waiting with
      | nil =>
          rcases idle_of_empty tick enabled first queue with
            ⟨result, events, same⟩
          rw [same] at ih
          have later := ih reliable ordered
          rw [queue] at later
          refine ⟨nofun, later.waiting.trans ?_, ?_, ?_⟩
          · rw [List.drop_nil, List.drop_nil]
          · nofun
          · intro index transition found long
            cases index with
            | zero =>
                cases found
                exact ⟨result, events, same⟩
            | succ index =>
                exact later.idle index transition found (Nat.zero_le index)
      | cons head tail =>
          rcases advanced_of_waiting tick enabled first ordered queue with
            ⟨result, advanced, ⟨status, stored, final⟩, _⟩
          have ordered : CreatedInOrder middle.backend.store := by
            rw [CreatedInOrder, queue] at ordered
            rw [CreatedInOrder, advanced]
            exact ordered.of_cons
          have later := ih reliable ordered
          rw [advanced] at later
          constructor
          · intro request member
            rcases List.mem_cons.mp member with same | member
            · have settled : status ≠ .requested := by
                intro requested
                rw [requested] at final
                cases final
              rw [same]
              exact ⟨status, statusOf_kept_run execution settled stored, final⟩
            · exact later.closed request member
          · exact later.waiting
          · intro index transition found short
            cases index with
            | zero =>
                cases found
                exact result
            | succ index =>
                exact later.worked index transition found
                  (Nat.lt_of_succ_lt_succ short)
          · intro index transition found long
            cases index with
            | zero => cases long
            | succ index =>
                exact later.idle index transition found
                  (Nat.le_of_succ_le_succ long)

end Run

/-- A reliable channel to a model that does not become ready. -/
def notReadyInTime : Weather where
  now := .fullHour 3
  delivery _ _ := .delivered
  ready := false

/-- A reliable channel to a model that becomes ready. -/
def readyInTime : Weather := { notReadyInTime with ready := true }

/-- Three ticks over two requests, the first of which does not become ready. -/
def drainTicks : List TickTransition × InMemoryModelRequestStore :=
  playTicks qwenInstaller (RateLimiter.init 60 8) []
    [notReadyInTime, readyInTime, readyInTime] twoRequests

theorem drained_drainTicks :
    Drained twoRequests.waiting drainTicks.1 drainTicks.2 :=
  drained rfl rfl
    (playTicks_execution qwenInstaller qwenLink_trusted rfl
      (RateLimiter.init 60 8) [] [notReadyInTime, readyInTime, readyInTime]
      twoRequests)
    (by decide) (by decide)

end PrivateAiWorkspace.ModelInstaller.Reconciler
