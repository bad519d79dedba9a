import PrivateAiWorkspace.Dispatcher.Cluster
import PrivateAiWorkspace.Dispatcher.JobPolls

/-!
# When a run of a Job is closed

A run returns an outcome, every Job that the API server has accepted gets a delete
request of its name, and the run has looked at its Job no more often than its
timeout allows exactly when no answer is unforeseen, no Job was accepted behind a
failed create request and no delete request is lost on its way.
-/

namespace PrivateAiWorkspace.Dispatcher

open Effects Python K8sClient

/-! ## Ledgers and events -/

theorem after_upset (builtins : Builtins) (start : JobLedger)
    (events : List DispatchEvent) :
    ((jobLedger builtins).after start events).upset ↔
      start.upset ∨ ¬ Foreseen builtins start.succeeded events := by
  induction events generalizing start with
  | nil => simp [Foreseen]
  | cons event events ih =>
      rw [Discipline.after_cons, ih]
      simp only [jobLedger, Foreseen, not_and_or, not_not, or_assoc]

theorem after_changes (builtins : Builtins) (start : JobLedger)
    (events : List DispatchEvent) :
    ((jobLedger builtins).after start events).changes =
      start.changes ++ events.filter changesJobs := by
  induction events generalizing start with
  | nil => exact (List.append_nil _).symm
  | cons event events ih =>
      rw [Discipline.after_cons, ih, ← List.singleton_append, List.filter_append,
        ← List.append_assoc]
      rfl

/-! ## What the API server gets -/

/-- An answered call, with what only the API server knows: whether it has got the
request and carried it out. -/
structure Delivery where
  event : DispatchEvent
  received : Bool

/-- The calls of a run, as the run knows them. -/
abbrev eventsOf (deliveries : List Delivery) : List DispatchEvent :=
  deliveries.map Delivery.event

/-- A response with a body comes from the API server. -/
def Delivery.Genuine (delivery : Delivery) : Prop :=
  ∀ (request : ApiRequest) (payload : Bytes),
    delivery.event = ⟨.urlopen request, (.ok payload : Except PyException Bytes)⟩ →
    delivery.received = true

/-- The name of the Job that a request creates. -/
def createdName : DispatchEvent → Option Json
  | ⟨.urlopen (.createJob manifest), _⟩ => some (manifestName manifest)
  | _ => none

/-- The name of the Job that a request deletes. -/
def deletedName : DispatchEvent → Option Json
  | ⟨.urlopen (.deleteJob name), _⟩ => some (.str name)
  | _ => none

/-- The name of the Job that the API server has accepted. -/
def Delivery.acceptedJob (delivery : Delivery) : Option Json :=
  if delivery.received then createdName delivery.event else none

/-- The name of the Job that the API server has been asked to delete. -/
def Delivery.deletedJob (delivery : Delivery) : Option Json :=
  if delivery.received then deletedName delivery.event else none

/-- Answered calls of which those that pass a test arrive. -/
def sent (arrives : DispatchEvent → Bool) (events : List DispatchEvent) :
    List Delivery :=
  events.map fun event => ⟨event, arrives event⟩

theorem eventsOf_sent (arrives : DispatchEvent → Bool)
    (events : List DispatchEvent) : eventsOf (sent arrives events) = events := by
  rw [eventsOf, sent, List.map_map]
  exact List.map_id events

/-- Every Job that is accepted gets a delete request later on. -/
def Reaped (deliveries : List Delivery) : Prop :=
  ∀ before delivery after, deliveries = before ++ delivery :: after →
    ∀ name, delivery.acceptedJob = some name →
      ∃ later ∈ after, later.deletedJob = some name

/-- Only a create request that has arrived is accepted. -/
theorem changesJobs_of_acceptedJob {delivery : Delivery} {name : Json}
    (accepted : delivery.acceptedJob = some name) :
    changesJobs delivery.event = true ∧ isDelete delivery.event = false ∧
      delivery.received = true := by
  rw [Delivery.acceptedJob] at accepted
  split at accepted
  next received =>
    rcases delivery with ⟨⟨call, answer⟩, _⟩
    rcases call with (_ | _ | _ | _ | _) | _ | _
    · exact ⟨rfl, rfl, received⟩
    all_goals cases accepted
  next => cases accepted

/-- Only a delete request that has arrived deletes. -/
theorem isDelete_of_deletedJob {delivery : Delivery} {name : Json}
    (deleted : delivery.deletedJob = some name) :
    isDelete delivery.event = true ∧ delivery.received = true := by
  rw [Delivery.deletedJob] at deleted
  split at deleted
  next received =>
    rcases delivery with ⟨⟨call, answer⟩, _⟩
    rcases call with (_ | _ | _ | _ | _) | _ | _
    · cases deleted
    · cases deleted
    · exact ⟨rfl, received⟩
    all_goals cases deleted
  next => cases deleted

theorem changesJobs_of_isDelete {event : DispatchEvent}
    (deletes : isDelete event = true) : changesJobs event = true := by
  rcases event with ⟨call, answer⟩
  rcases call with (_ | _ | _ | _ | _) | _ | _
  · cases deletes
  · cases deletes
  · rfl
  all_goals cases deletes

theorem changesJobs_of_isFailedCreate {event : DispatchEvent}
    (failed : isFailedCreate event = true) : changesJobs event = true := by
  rcases event with ⟨call, answer⟩
  rcases call with (_ | _ | _ | _ | _) | _ | _
  · rfl
  all_goals cases failed

/-! ## Closure -/

/-- The clock moves with the sleeps, wherever it started. -/
def Advances (events : List DispatchEvent) : Prop := ∃ now, Advancing now events

/-- What a run comes to: an outcome, a delete request for every accepted Job, and no
more looks at the Job than the timeout allows. -/
structure Closed (cfg : JobConfig) (deliveries : List Delivery)
    (result : Except PyException (Option JobOutcome)) : Prop where
  returned : ∃ outcome, result = .ok (some outcome)
  reaped : Reaped deliveries
  polled : Advances (eventsOf deliveries) →
    ((eventsOf deliveries).countP isGetJob : Int) ≤
      (cfg.overallTimeout / cfg.pollInterval).ceil + 2

/-- No Job was accepted behind a failed create request, and no delete request is
lost on its way. -/
structure Delivered (deliveries : List Delivery) : Prop where
  created : ∀ delivery ∈ deliveries, isFailedCreate delivery.event = true →
    delivery.received = false
  deleted : ∀ delivery ∈ deliveries, isDelete delivery.event = true →
    delivery.received = true

/-- The answers are foreseen, the requests are delivered, and a timeout below zero
leaves room for the one look that is always taken. -/
structure Unspoiled (builtins : Builtins) (cfg : JobConfig)
    (deliveries : List Delivery) : Prop where
  foreseen : Foreseen builtins False (eventsOf deliveries)
  delivered : Delivered deliveries
  timed : Advances (eventsOf deliveries) →
    (if (eventsOf deliveries).any isGetJob then -1 else -2) ≤
      (cfg.overallTimeout / cfg.pollInterval).ceil

section Reaping

variable {builtins : Builtins} {cfg : JobConfig} {runId tenantId tool : String}
  {arguments : List (String × Json)} {deliveries : List Delivery} {upset : Prop}

/-- A delivery that matters is among those that are kept. -/
theorem mem_changes {changes : List Delivery} {delivery : Delivery}
    (changed : deliveries.filter (fun delivery => changesJobs delivery.event) =
      changes) (member : delivery ∈ deliveries)
    (matters : changesJobs delivery.event = true) : delivery ∈ changes :=
  changed ▸ List.mem_filter.mpr ⟨member, matters⟩

/-- Of a create request that has failed nothing is reaped: it must not have been
accepted. -/
theorem reaped_iff_of_refused {create : Delivery} {manifest : Json}
    {error : PyException} (caught : isApiError error = true)
    (created : create.event = ⟨.urlopen (.createJob manifest), .error error⟩)
    (changed : deliveries.filter (fun delivery => changesJobs delivery.event) =
      [create]) : Reaped deliveries ↔ Delivered deliveries := by
  have failed : isFailedCreate create.event = true := by
    rw [created]
    exact caught
  have undeleted : ∀ delivery ∈ deliveries, isDelete delivery.event = false := by
    intro delivery member
    cases deletes : isDelete delivery.event with
    | false => rfl
    | true =>
        have same := List.mem_singleton.mp
          (mem_changes changed member (changesJobs_of_isDelete deletes))
        rw [same, created] at deletes
        cases deletes
  constructor
  · intro reaped
    constructor
    · intro delivery member failed
      have same := List.mem_singleton.mp
        (mem_changes changed member (changesJobs_of_isFailedCreate failed))
      rcases List.append_of_mem member with ⟨before, after, split⟩
      cases received : delivery.received with
      | false => rfl
      | true =>
          have accepted : delivery.acceptedJob = some (manifestName manifest) := by
            rw [Delivery.acceptedJob, if_pos received, same, created]
            rfl
          rcases reaped before delivery after split _ accepted with
            ⟨later, within, deleted⟩
          have member : later ∈ deliveries := by
            rw [split]
            exact List.mem_append_right before (List.mem_cons_of_mem _ within)
          cases (isDelete_of_deletedJob deleted).1.symm.trans (undeleted later member)
    · intro delivery member deletes
      cases deletes.symm.trans (undeleted delivery member)
  · intro delivered before delivery after split name accepted
    have member : delivery ∈ deliveries := by
      rw [split]
      exact List.mem_append_right before List.mem_cons_self
    have matters := changesJobs_of_acceptedJob accepted
    have same := List.mem_singleton.mp (mem_changes changed member matters.1)
    have lost := delivered.created delivery member (same ▸ failed)
    cases lost.symm.trans matters.2.2

/-- Of two items that are kept, the second one stands behind the first. -/
theorem mem_after_of_filter {α : Type} {keep : α → Bool}
    {items before after : List α} {one other : α}
    (kept : items.filter keep = [one, other]) (split : items = before ++ one :: after)
    (keeps : keep one = true) (differ : one ≠ other) : other ∈ after := by
  rw [split, List.filter_append, List.filter_cons, if_pos keeps] at kept
  cases first : before.filter keep with
  | nil =>
      rw [first, List.nil_append, List.cons.injEq] at kept
      exact List.mem_of_mem_filter (kept.2 ▸ List.mem_cons_self)
  | cons head tail =>
      rw [first] at kept
      cases tail with
      | nil =>
          simp only [List.cons_append, List.nil_append, List.cons.injEq] at kept
          exact absurd kept.2.1 differ
      | cons next tail => simp at kept

/-- A Job that was created is reaped exactly when its delete request arrives. -/
theorem reaped_iff_of_created {create delete : Delivery} {manifest : Json}
    {name : String} {payload : Bytes} {answer : Except PyException Bytes}
    (named : manifestName manifest = .str name)
    (genuine : ∀ delivery ∈ deliveries, delivery.Genuine)
    (created : create.event = ⟨.urlopen (.createJob manifest), .ok payload⟩)
    (deleted : delete.event = ⟨.urlopen (.deleteJob name), answer⟩)
    (changed : deliveries.filter (fun delivery => changesJobs delivery.event) =
      [create, delete]) : Reaped deliveries ↔ Delivered deliveries := by
  have kept {delivery : Delivery} (member : delivery ∈ deliveries)
      (matters : changesJobs delivery.event = true) :
      delivery = create ∨ delivery = delete := by
    simpa using mem_changes changed member matters
  have present : create ∈ deliveries :=
    List.mem_of_mem_filter (changed ▸ List.mem_cons_self)
  have received := genuine create present _ _ created
  have accepted : create.acceptedJob = some (.str name) := by
    rw [Delivery.acceptedJob, if_pos received, created, ← named]
    rfl
  constructor
  · intro reaped
    constructor
    · intro delivery member failed
      rcases kept member (changesJobs_of_isFailedCreate failed) with rfl | rfl
      · rw [created] at failed
        cases failed
      · rw [deleted] at failed
        cases failed
    · intro delivery member deletes
      rcases kept member (changesJobs_of_isDelete deletes) with rfl | rfl
      · rw [created] at deletes
        cases deletes
      · rcases List.append_of_mem present with ⟨before, after, split⟩
        rcases reaped before create after split _ accepted with
          ⟨later, within, asked⟩
        have member : later ∈ deliveries := by
          rw [split]
          exact List.mem_append_right before (List.mem_cons_of_mem _ within)
        have asked := isDelete_of_deletedJob asked
        rcases kept member (changesJobs_of_isDelete asked.1) with rfl | rfl
        · rw [created] at asked
          cases asked.1
        · exact asked.2
  · intro delivered before delivery after split job accepted'
    have matters := changesJobs_of_acceptedJob accepted'
    have member : delivery ∈ deliveries := by
      rw [split]
      exact List.mem_append_right before List.mem_cons_self
    rcases kept member matters.1 with rfl | rfl
    · have within : delete ∈ after := by
        apply mem_after_of_filter changed split matters.1
        intro same
        rw [same, deleted] at created
        cases created
      refine ⟨delete, within, ?_⟩
      have member : delete ∈ deliveries :=
        List.mem_of_mem_filter
          (changed ▸ List.mem_cons_of_mem _ List.mem_cons_self)
      have arrived := delivered.deleted delete member (by rw [deleted]; rfl)
      cases accepted.symm.trans accepted'
      rw [Delivery.deletedJob, if_pos arrived, deleted]
      rfl
    · rw [deleted] at matters
      cases matters.2.1

/-- A run that has come to nothing unforeseen has its Jobs reaped exactly when its
requests are delivered. -/
theorem reaped_iff
    (genuine : ∀ delivery ∈ deliveries, delivery.Genuine) (calm : ¬ upset)
    (life : JobLife (buildJobManifest builtins cfg runId tenantId tool arguments)
      (jobName builtins runId) upset ((eventsOf deliveries).filter changesJobs)) :
    Reaped deliveries ↔ Delivered deliveries := by
  rw [eventsOf, List.filter_map] at life
  generalize changed : deliveries.filter
    (changesJobs ∘ Delivery.event) = changes at life
  generalize shape : changes.map Delivery.event = events at life
  cases life with
  | unforeseen answer upset => exact absurd upset calm
  | refused error caught _ =>
      rcases List.map_eq_singleton_iff.mp shape with ⟨create, rfl, created⟩
      exact reaped_iff_of_refused caught created changed
  | reaped payload answer =>
      rcases List.map_eq_cons_iff.mp shape with ⟨create, rest, rfl, created, shape⟩
      rcases List.map_eq_singleton_iff.mp shape with ⟨delete, rfl, deleted⟩
      exact reaped_iff_of_created (manifestName_buildJobManifest _ _ _ _ _ _) genuine
        created deleted changed

end Reaping

/-- There is a look at the Job exactly when one is counted. -/
theorem any_isGetJob_iff (events : List DispatchEvent) :
    events.any isGetJob = true ↔ 0 < events.countP isGetJob := by
  simp [List.countP_pos_iff]

/-- As many looks as there are sleeps before the deadline, and one more: they
meet the bound exactly when there is room for the first. -/
theorem looks_le_iff {cfg : JobConfig} {events : List DispatchEvent}
    (looks : events.countP isGetJob ≤ sleepLimit cfg + 1) :
    (events.countP isGetJob : Int) ≤
        (cfg.overallTimeout / cfg.pollInterval).ceil + 2 ↔
      (if events.any isGetJob then -1 else -2) ≤
        (cfg.overallTimeout / cfg.pollInterval).ceil := by
  unfold sleepLimit at looks
  have counted := any_isGetJob_iff events
  split
  · have some : 0 < events.countP isGetJob := counted.mp ‹_›
    omega
  · have none : ¬ 0 < events.countP isGetJob := fun some =>
      absurd (counted.mpr some) ‹_›
    omega

/-- A run ends when the clock moves, and a run that has ended is closed exactly
when it is unspoiled. -/
theorem runToolJob_closed_iff (builtins : Builtins)
    (foreign : ∀ data, builtins.loadsBytes data ≠ .error k8sError)
    (cfg : JobConfig) (positive : 0 < cfg.pollInterval) (polls : Nat)
    (runId tenantId tool : String) (arguments : List (String × Json))
    (deliveries : List Delivery)
    (genuine : ∀ delivery ∈ deliveries, delivery.Genuine)
    (result : Except PyException (Option JobOutcome))
    (run : Program.Run (runToolJob builtins cfg polls runId tenantId tool
      arguments) (eventsOf deliveries) result)
    (regular : ∀ event ∈ eventsOf deliveries, Regular event) :
    (Advances (eventsOf deliveries) → sleepLimit cfg < polls → result ≠ .ok none) ∧
      (result ≠ .ok none →
        (Closed cfg deliveries result ↔ Unspoiled builtins cfg deliveries)) := by
  have bounded (advances : Advances (eventsOf deliveries)) :
      (eventsOf deliveries).countP isGetJob ≤ sleepLimit cfg + 1 ∧
        (sleepLimit cfg < polls → result ≠ .ok none) := by
    rcases advances with ⟨now, advancing⟩
    have kept := (@bounded_runToolJob builtins ⟨now, True, 0⟩ cfg positive polls
      runId tenantId tool arguments).of_run run regular
    rcases kept ((after_advancing _ _).mpr ⟨trivial, advancing⟩) with
      ⟨_, looks, ended⟩
    rw [after_polls, Nat.zero_add, Nat.zero_add] at looks
    exact ⟨looks, ended⟩
  refine ⟨fun advances => (bounded advances).2, fun ended => ?_⟩
  have ending := (ending_runToolJob foreign cfg polls runId tenantId tool
    arguments).of_run run regular
  have upset := after_upset builtins .blank (eventsOf deliveries)
  have life := ending.life
  rw [after_changes] at life
  simp only [JobLedger.blank, false_or] at upset
  constructor
  · intro closed
    rcases closed.returned with ⟨outcome, returned⟩
    have calm : ¬ ((jobLedger builtins).after .blank (eventsOf deliveries)).upset := by
      intro raised
      rcases ending.raised.mp raised with ⟨_, impossible⟩
      cases returned.symm.trans impossible
    constructor
    · exact not_not.mp fun unforeseen => calm (upset.mpr unforeseen)
    · exact (reaped_iff genuine calm life).mp closed.reaped
    · intro advances
      exact (looks_le_iff (bounded advances).1).mp (closed.polled advances)
  · intro unspoiled
    have calm : ¬ ((jobLedger builtins).after .blank (eventsOf deliveries)).upset :=
      fun raised => upset.mp raised unspoiled.foreseen
    constructor
    · rcases result with error | outcome
      · exact absurd (ending.raised.mpr ⟨error, rfl⟩) calm
      · cases outcome with
        | none => exact absurd rfl ended
        | some outcome => exact ⟨outcome, rfl⟩
    · exact (reaped_iff genuine calm life).mpr unspoiled.delivered
    · intro advances
      exact (looks_le_iff (bounded advances).1).mpr (unspoiled.timed advances)

/-! ## Runs against an API server -/

/-- Built-in functions that read the bodies `j` and `p` as a job that has succeeded
and the list of its pod, and the log `log` as a result. -/
def podBodies : Builtins :=
  { Builtins.sample [("log", .obj [("ok", .bool true), ("result", .int 3)])] with
    loadsBytes := fun body =>
      match body with
      | [106] => .ok (.obj [("status", .obj [("succeeded", .int 1)])])
      | [112] => .ok (.obj [("items", .arr [.obj [("metadata",
          .obj [("name", .str "pod-1")])]])])
      | [123, 125] => .ok (.obj [])
      | _ => .error .valueError }

theorem podBodies_foreign (data : Bytes) :
    podBodies.loadsBytes data ≠ .error k8sError := by
  simp only [podBodies]
  split <;> exact nofun

/-- An API server whose Job succeeds at once. A create request, a look at the Job
and a delete request are answered as given, and the clock moves with the sleeps. -/
def promptServer (created seen deleted : Except PyException Bytes) :
    Rat → (request : DispatcherCalls.Call) →
      Except PyException (DispatcherCalls.Answer request) × Rat
  | clock, .urlopen (.createJob _) => (created, clock)
  | clock, .urlopen (.getJob _) => (seen, clock)
  | clock, .urlopen (.listPods _) => (.ok [112], clock)
  | clock, .urlopen (.readPodLog _ _) => (.ok [108, 111, 103], clock)
  | clock, .urlopen (.deleteJob _) => (deleted, clock)
  | clock, .monotonic => (.ok clock, clock)
  | clock, .sleep seconds => (.ok (), clock + seconds)

theorem regular_promptServer {created seen deleted : Except PyException Bytes}
    {clock : Rat} {program : Dispatch (Option JobOutcome)} :
    ∀ event ∈ program.trace (promptServer created seen deleted) clock,
      Regular event := by
  intro event member
  rcases Program.answered_of_trace member with ⟨_, same⟩
  rcases event with ⟨call, answer⟩
  cases call with
  | urlopen request => trivial
  | monotonic | sleep =>
      cases same
      rfl

/-- The defaults of the dispatcher. -/
def defaultConfig : JobConfig :=
  { image := "runner", namespaceName := "tools", runnerServiceAccount := "runner" }

/-- A call of the calculator. -/
def calculatorRun : Dispatch (Option JobOutcome) :=
  runToolJob podBodies defaultConfig 1 "r1" "t1" "calculator" []

theorem trace_calculatorRun :
    calculatorRun.trace (promptServer (.ok []) (.ok [106]) (.ok [])) 0 =
      [⟨.urlopen (.createJob (buildJobManifest podBodies defaultConfig "r1" "t1"
          "calculator" [])), .ok []⟩,
        ⟨.monotonic, .ok (0 : Rat)⟩,
        ⟨.urlopen (.getJob (jobName podBodies "r1")), .ok [106]⟩,
        ⟨.urlopen (.listPods (runSelector "r1")), .ok [112]⟩,
        ⟨.urlopen (.readPodLog (.str "pod-1") limitBytes), .ok [108, 111, 103]⟩,
        ⟨.urlopen (.deleteJob (jobName podBodies "r1")), .ok []⟩] := rfl

/-- Every body is read. -/
theorem foreseen_calculatorRun :
    Foreseen podBodies False
      (calculatorRun.trace (promptServer (.ok []) (.ok [106]) (.ok [])) 0) := by
  rw [trace_calculatorRun]
  have none : podBodies.loadsBytes (orEmptyObject []) = .ok (.obj []) := rfl
  have job : podBodies.loadsBytes (orEmptyObject [106]) =
      .ok (.obj [("status", .obj [("succeeded", .int 1)])]) := rfl
  have pods : podBodies.loadsBytes (orEmptyObject [112]) =
      .ok (.obj [("items", .arr [.obj [("metadata",
        .obj [("name", .str "pod-1")])]])]) := rfl
  have created : ¬ (Escapes (.ok []) ∨ Garbled podBodies (.ok [])) := by
    simp [not_garbled_loaded none]
  have looked : ¬ (Escapes (.ok [106]) ∨ Garbled podBodies (.ok [106]) ∨
      Misshapen podBodies ReadableJob (.ok [106])) := by
    have readable : ReadableJob
        (.obj [("status", .obj [("succeeded", .int 1)])]) :=
      ⟨_, _, rfl, rfl, Or.inl rfl⟩
    simp [not_garbled_loaded job, misshapen_loaded_iff job, readable]
  have sees : ReportsSuccess podBodies (.ok [106]) :=
    (reportsSuccess_loaded_iff job).mpr ⟨_, _, rfl, rfl, rfl⟩
  have listed (succeeded : Prop) (seen : succeeded) :
      ¬ (Escapes (.ok [112]) ∨ Garbled podBodies (.ok [112]) ∨
        Misshapen podBodies (ReadablePods succeeded) (.ok [112])) := by
    have readable : ReadablePods succeeded (.obj [("items", .arr [.obj
        [("metadata", .obj [("name", .str "pod-1")])]])]) :=
      ⟨_, rfl, fun _ => Or.inr ⟨_, _, rfl, _, rfl⟩, fun unseen => absurd seen unseen⟩
    simp [not_garbled_loaded pods, misshapen_loaded_iff pods, readable]
  have logged : ¬ (Escapes (.ok [108, 111, 103]) ∨
      ChokingLog podBodies (.ok [108, 111, 103])) := by
    simp only [not_escapes_ok, false_or]
    intro choking
    rcases choking with ⟨_, error, same, choked, _⟩
    cases same
    have read : (.ok (.obj [("ok", .bool true), ("result", .int 3)]) :
        Except PyException Json) = .error error := choked
    cases read
  exact ⟨created, id, looked, listed _ (Or.inr sees), logged, created, trivial⟩

/-- Every request of the run arrives, and it is closed. -/
theorem runToolJob_closed_prompt :
    Closed defaultConfig
      (sent (fun _ => true)
        (calculatorRun.trace (promptServer (.ok []) (.ok [106]) (.ok [])) 0))
      (.ok (some ⟨.success, .int 3, .int 0⟩)) := by
  have run : Program.Run calculatorRun
      (calculatorRun.trace (promptServer (.ok []) (.ok [106]) (.ok [])) 0)
      (.ok (some ⟨.success, .int 3, .int 0⟩)) := Program.run_trace calculatorRun 0
  have events := eventsOf_sent (fun _ => true)
    (calculatorRun.trace (promptServer (.ok []) (.ok [106]) (.ok [])) 0)
  refine ((runToolJob_closed_iff podBodies podBodies_foreign defaultConfig
    (by decide +kernel) 1 "r1" "t1" "calculator" []
    (sent (fun _ => true)
      (calculatorRun.trace (promptServer (.ok []) (.ok [106]) (.ok [])) 0))
    ?_ (.ok (some ⟨.success, .int 3, .int 0⟩)) (events.symm ▸ run)
    (events.symm ▸ regular_promptServer)).2 nofun).mpr ?_
  · intro delivery member _ _ _
    rcases List.mem_map.mp member with ⟨_, _, rfl⟩
    rfl
  · constructor
    · rw [events]
      exact foreseen_calculatorRun
    · constructor
      · intro delivery member failed
        have none : (sent (fun _ => true) (calculatorRun.trace
            (promptServer (.ok []) (.ok [106]) (.ok [])) 0)).all
              (fun delivery => !isFailedCreate delivery.event) = true := by
          decide
        have calm := List.all_eq_true.mp none delivery member
        rw [failed] at calm
        cases calm
      · intro delivery member _
        rcases List.mem_map.mp member with ⟨_, _, rfl⟩
        rfl
    · intro _
      rw [events]
      decide +kernel

/-- The response to an accepted create request is lost, a look at the Job times
out, or the delete request does not get through. -/
theorem runToolJob_not_closed :
    (calculatorRun.eval (promptServer (.error .urlError) (.ok [106]) (.ok [])) 0).1 =
        .ok (some (.bare .toolError)) ∧
      ¬ Closed defaultConfig (sent (fun _ => true) (calculatorRun.trace
          (promptServer (.error .urlError) (.ok [106]) (.ok [])) 0))
        (.ok (some (.bare .toolError))) ∧
      (calculatorRun.eval
          (promptServer (.ok []) (.error .timeoutError) (.ok [])) 0).1 =
        .error .timeoutError ∧
      ¬ Closed defaultConfig (sent (fun _ => true) (calculatorRun.trace
          (promptServer (.ok []) (.error .timeoutError) (.ok [])) 0))
        (.error .timeoutError) ∧
      (calculatorRun.eval
          (promptServer (.ok []) (.ok [106]) (.error .urlError)) 0).1 =
        .ok (some ⟨.success, .int 3, .int 0⟩) ∧
      ¬ Closed defaultConfig (sent (fun event => !isDelete event)
          (calculatorRun.trace
            (promptServer (.ok []) (.ok [106]) (.error .urlError)) 0))
        (.ok (some ⟨.success, .int 3, .int 0⟩)) := by
  refine ⟨rfl, fun closed => ?_, rfl, fun closed => ?_, rfl, fun closed => ?_⟩
  · rcases closed.reaped [] _ [] rfl _ rfl with ⟨_, none, _⟩
    cases none
  · rcases closed.returned with ⟨_, impossible⟩
    cases impossible
  · rcases closed.reaped [] _ _ rfl _ rfl with ⟨later, within, deleted⟩
    have all : ((sent (fun event => !isDelete event) (calculatorRun.trace
        (promptServer (.ok []) (.ok [106]) (.error .urlError)) 0)).tail.all
          fun delivery => delivery.deletedJob.isNone) = true := by
      decide
    have none := List.all_eq_true.mp all later within
    rw [deleted] at none
    cases none

end PrivateAiWorkspace.Dispatcher
