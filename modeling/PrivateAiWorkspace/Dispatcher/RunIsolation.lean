import PrivateAiWorkspace.Dispatcher.RunPhases
import PrivateAiWorkspace.Effects.Execution

/-!
# Isolation of runs

Any number of runs share one cluster, and their requests come in any order. Runs
whose identifiers have different labels never see a pod of one another. Neither
deletes a Job of the other when their Jobs have different names, or when no Job
is reaped before its run has ended.
-/

namespace PrivateAiWorkspace.Dispatcher

open Effects Python K8sClient

/-! ## The system -/

/-- A run that has been accepted: what has been answered so far, what is left of
it, the pods it has been shown and the Jobs it has deleted. -/
structure RunThread where
  run : RunRequest
  past : List DispatchEvent
  rest : Dispatch (Option JobOutcome)
  seen : List Pod
  deleted : List Job

/-- The cluster and the runs of the dispatcher. -/
structure RunSystem where
  cluster : Cluster
  threads : List RunThread

/-- No objects and no runs. -/
def RunSystem.empty : RunSystem := ⟨.empty, []⟩

/-- A run at its beginning. -/
def RunThread.start (builtins : Builtins) (config : DispatcherConfig)
    (run : RunRequest) (polls : Nat) : RunThread :=
  ⟨run, [], runRequest builtins config polls run, [], []⟩

/-- A run after an answered call. -/
def RunThread.answered (thread : RunThread) (event : DispatchEvent)
    (effect : Effect) (rest : Dispatch (Option JobOutcome)) : RunThread :=
  { thread with
    past := thread.past ++ [event]
    rest
    seen := effect.shown ++ thread.seen
    deleted := effect.deleted ++ thread.deleted }

/-- What happens next. -/
inductive RunAction where
  | accept (run : RunRequest)
  | move
  | reap (job : Job)
  | call (thread : Nat) (event : DispatchEvent)

/-- One step of the system. -/
inductive RunStep (builtins : Builtins) (config : DispatcherConfig) :
    RunSystem → RunAction → RunSystem → Prop where
  | accept {system : RunSystem} {authorization : Option String} {body : Bytes}
      {run : RunRequest} (polls : Nat) :
      prepareRun builtins authorization body config = .ok (.ok run) →
      RunStep builtins config system (.accept run)
        { system with
          threads := system.threads ++ [.start builtins config run polls] }
  | move {system : RunSystem} {cluster : Cluster} :
      system.cluster.Moves cluster →
      RunStep builtins config system .move { system with cluster }
  | reap {system : RunSystem} {job : Job} :
      job ∈ system.cluster.jobs →
      RunStep builtins config system (.reap job)
        { system with cluster := system.cluster.without job.name }
  | call {system : RunSystem} {place : Nat} {thread : RunThread}
      {request : DispatcherCall}
      {next : Except PyException (DispatcherCalls.Answer request) →
        Dispatch (Option JobOutcome)}
      (answer : Except PyException (DispatcherCalls.Answer request))
      {effect : Effect} {cluster : Cluster} :
      system.threads[place]? = some thread → thread.rest = .call request next →
      Answers builtins place system.cluster ⟨request, answer⟩ effect cluster →
      RunStep builtins config system (.call place ⟨request, answer⟩)
        { cluster
          threads := system.threads.set place
            (thread.answered ⟨request, answer⟩ effect (next answer)) }

/-- A Job is reaped although its run has not ended. -/
def Untimely (transition : Transition RunSystem RunAction) : Prop :=
  match transition.label with
  | .reap job => ∃ thread,
      transition.source.threads[job.creator]? = some thread ∧ ¬ thread.rest.Ended
  | _ => False

/-- The run at a place. -/
def RunSystem.runAt (system : RunSystem) (place : Nat) : Option RunRequest :=
  system.threads[place]?.map RunThread.run

section Isolation

variable {builtins : Builtins} {config : DispatcherConfig}

/-- Runs keep their places. -/
theorem runAt_step {source target : RunSystem} {action : RunAction}
    (taken : RunStep builtins config source action target) {place : Nat}
    {run : RunRequest} (found : source.runAt place = some run) :
    target.runAt place = some run := by
  cases taken with
  | accept polls prepared =>
      rcases Option.map_eq_some_iff.mp found with ⟨thread, there, rfl⟩
      have inside := (List.getElem?_eq_some_iff.mp there).1
      simp [RunSystem.runAt, List.getElem?_append_left inside, there]
  | move moved => exact found
  | reap present => exact found
  | @call place' thread request next answer effect cluster there issued answered =>
      by_cases same : place' = place
      · subst same
        have inside := (List.getElem?_eq_some_iff.mp there).1
        simp only [RunSystem.runAt, there, Option.map_some, Option.some.injEq] at found
        simp [RunSystem.runAt, RunThread.answered, inside, found]
      · simpa [RunSystem.runAt, List.getElem?_set_ne same] using found

/-! ## Whose objects there are -/

/-- The objects of the cluster carry the name and the labels of the run that has
created them, and a name belongs to pods of one run. -/
structure Labelled (builtins : Builtins) (config : DispatcherConfig)
    (cluster : Cluster) (runAt : Nat → Option RunRequest) : Prop where
  jobs : ∀ job ∈ cluster.jobs, ∃ run, runAt job.creator = some run ∧
    job.name = jobName builtins run.runId ∧
    job.labels = templateLabels (run.manifest builtins config)
  pods : ∀ pod ∈ cluster.pods, (pod.name, pod.creator) ∈ cluster.names ∧
    ∃ run, runAt pod.creator = some run ∧
      pod.labels = templateLabels (run.manifest builtins config)
  names : (cluster.names.map Prod.fst).Nodup

/-- The phase a run has reached. -/
def RunThread.phase (builtins : Builtins) (config : DispatcherConfig)
    (thread : RunThread) : RunPhase :=
  (runDiscipline builtins config thread.run).after .initial thread.past

theorem phase_answered (thread : RunThread) (event : DispatchEvent)
    (effect : Effect) (rest : Dispatch (Option JobOutcome)) :
    (thread.answered event effect rest).phase builtins config =
      (runDiscipline builtins config thread.run).advance
        (thread.phase builtins config) event := by
  simp [RunThread.phase, RunThread.answered]

/-- What a run has seen and deleted: pods with its own label, and Jobs with its own
name. -/
structure Confined (builtins : Builtins) (config : DispatcherConfig)
    (names : List (String × Nat)) (runAt : Nat → Option RunRequest)
    (thread : RunThread) : Prop where
  follows : Program.Follows (runDiscipline builtins config thread.run)
    (fun _ _ => True) (thread.phase builtins config) thread.rest
  listed : ∀ name ∈ (thread.phase builtins config).listed,
    ∃ pod ∈ thread.seen, name = .str pod.name
  seen : ∀ pod ∈ thread.seen, (pod.name, pod.creator) ∈ names ∧
    ∃ run, runAt pod.creator = some run ∧
      safeLabel run.runId = safeLabel thread.run.runId
  deleted : ∀ job ∈ thread.deleted, ∃ run, runAt job.creator = some run ∧
    jobName builtins run.runId = jobName builtins thread.run.runId

section Objects

variable {cluster after : Cluster} {runAt later : Nat → Option RunRequest}
  {names : List (String × Nat)} {thread : RunThread} {place : Nat}
  {event : DispatchEvent} {effect : Effect}

theorem Labelled.mono (labelled : Labelled builtins config cluster runAt)
    (kept : ∀ place run, runAt place = some run → later place = some run) :
    Labelled builtins config cluster later := by
  constructor
  · intro job present
    rcases labelled.jobs job present with ⟨run, there, facts⟩
    exact ⟨run, kept _ _ there, facts⟩
  · intro pod present
    rcases labelled.pods pod present with ⟨named, run, there, labels⟩
    exact ⟨named, run, kept _ _ there, labels⟩
  · exact labelled.names

theorem Confined.mono {more : List (String × Nat)}
    (confined : Confined builtins config names runAt thread)
    (grown : names ⊆ more)
    (kept : ∀ place run, runAt place = some run → later place = some run) :
    Confined builtins config more later thread := by
  constructor
  · exact confined.follows
  · exact confined.listed
  · intro pod seen
    rcases confined.seen pod seen with ⟨named, run, there, label⟩
    exact ⟨grown named, run, kept _ _ there, label⟩
  · intro job deleted
    rcases confined.deleted job deleted with ⟨run, there, name⟩
    exact ⟨run, kept _ _ there, name⟩

theorem Labelled.without (labelled : Labelled builtins config cluster runAt)
    (name : String) :
    Labelled builtins config (cluster.without name) runAt :=
  ⟨fun job present => labelled.jobs job (List.mem_of_mem_filter present),
    labelled.pods, labelled.names⟩

/-- A pod is labelled as its Job is, and its name is new. -/
theorem Labelled.moves (labelled : Labelled builtins config cluster runAt)
    (moved : cluster.Moves after) :
    Labelled builtins config after runAt ∧ cluster.names ⊆ after.names := by
  cases moved with
  | @start job name status log present fresh =>
      refine ⟨⟨labelled.jobs, ?_, ?_⟩, List.subset_cons_self _ _⟩
      · intro pod member
        rcases List.mem_cons.mp member with rfl | member
        · rcases labelled.jobs job present with ⟨run, there, _, labels⟩
          exact ⟨List.mem_cons_self, run, there, labels⟩
        · rcases labelled.pods pod member with ⟨named, facts⟩
          exact ⟨List.mem_cons_of_mem _ named, facts⟩
      · exact List.nodup_cons.mpr ⟨fresh, labelled.names⟩
  | @change earlier later pod status log split =>
      refine ⟨⟨labelled.jobs, ?_, labelled.names⟩, fun _ named => named⟩
      intro other member
      have facts := labelled.pods
      rw [split] at facts
      rcases List.mem_append.mp member with member | member
      · exact facts other (List.mem_append_left _ member)
      · rcases List.mem_cons.mp member with rfl | member
        · exact facts pod (List.mem_append_right _ List.mem_cons_self)
        · exact facts other
            (List.mem_append_right _ (List.mem_cons_of_mem _ member))
  | @collect earlier later pod split =>
      refine ⟨⟨labelled.jobs, ?_, labelled.names⟩, fun _ named => named⟩
      intro other member
      apply labelled.pods other
      rw [split]
      rcases List.mem_append.mp member with member | member
      · exact List.mem_append_left _ member
      · exact List.mem_append_right _ (List.mem_cons_of_mem _ member)

/-- A Job is created with the name and the labels of its run. -/
theorem Labelled.answers {phase : RunPhase} {run : RunRequest}
    (labelled : Labelled builtins config cluster runAt)
    (here : runAt place = some run)
    (allowed : (runDiscipline builtins config run).allowed phase event.call)
    (answered : Answers builtins place cluster event effect after) :
    Labelled builtins config after runAt ∧ after.names = cluster.names := by
  cases answered with
  | @created manifest name answer named fresh =>
      refine ⟨⟨?_, labelled.pods, labelled.names⟩, rfl⟩
      intro job member
      have same : manifest = run.manifest builtins config := allowed
      subst same
      rcases List.mem_cons.mp member with rfl | member
      · refine ⟨run, here, ?_, rfl⟩
        rw [RunRequest.manifest, manifestName_buildJobManifest] at named
        exact (Json.str.inj named).symm
      · exact labelled.jobs job member
  | deleted => exact ⟨labelled.without _, rfl⟩
  | seen | listed | logged | failed | monotonic | sleep => exact ⟨labelled, rfl⟩

/-- A name belongs to pods of one run. -/
theorem Labelled.creator_unique (labelled : Labelled builtins config cluster runAt)
    {name : String} {one other : Nat} (first : (name, one) ∈ cluster.names)
    (second : (name, other) ∈ cluster.names) : one = other := by
  have same := List.inj_on_of_nodup_map labelled.names first second rfl
  exact congrArg Prod.snd same

/-- What a request of a run shows are pods with its label. -/
theorem shown_of_answers (labelled : Labelled builtins config cluster runAt)
    (confined : Confined builtins config cluster.names runAt thread)
    (allowed : (runDiscipline builtins config thread.run).allowed
      (thread.phase builtins config) event.call)
    (answered : Answers builtins place cluster event effect after) :
    ∀ pod ∈ effect.shown, (pod.name, pod.creator) ∈ cluster.names ∧
      ∃ run, runAt pod.creator = some run ∧
        safeLabel run.runId = safeLabel thread.run.runId := by
  intro pod shown
  cases answered with
  | @listed selector listing payload document matching loaded lists =>
      have same : selector = runSelector thread.run.runId := allowed
      subst same
      rcases List.mem_filter.mp (matching.mem_iff.mp shown) with ⟨present, selected⟩
      rcases labelled.pods pod present with ⟨named, run, there, labels⟩
      rw [labels] at selected
      exact ⟨named, run, there, (selects_runSelector_iff ..).mp selected⟩
  | @logged read limit present =>
      have same : pod = read := List.mem_singleton.mp shown
      subst same
      rcases confined.listed _ allowed with ⟨first, seen, name⟩
      rcases confined.seen first seen with ⟨known, run, there, label⟩
      have named := (labelled.pods pod present).1
      rw [← Json.str.inj name] at known
      rw [labelled.creator_unique known named] at there
      exact ⟨named, run, there, label⟩
  | created | seen | deleted | failed | monotonic | sleep => cases shown

/-- The Jobs a request of a run deletes have its name. -/
theorem deleted_of_answers {phase : RunPhase} {run : RunRequest}
    (allowed : (runDiscipline builtins config run).allowed phase event.call)
    (answered : Answers builtins place cluster event effect after) :
    ∀ job ∈ effect.deleted, job ∈ cluster.jobs ∧
      job.name = jobName builtins run.runId := by
  intro job deleted
  cases answered with
  | @deleted name answer =>
      have same : name = jobName builtins run.runId := allowed.2
      subst same
      rcases List.mem_filter.mp deleted with ⟨present, named⟩
      exact ⟨present, of_decide_eq_true named⟩
  | created | seen | listed | logged | failed | monotonic | sleep => cases deleted

/-- The first pod of a list is one of the list. -/
theorem firstListed_of_listsPods {shown : List Pod} {payload : Bytes}
    {document name : Json}
    (loaded : builtins.loadsBytes (orEmptyObject payload) = .ok document)
    (lists : ListsPods shown document)
    (first : firstListed builtins payload = .ok name) :
    ∃ pod ∈ shown, name = .str pod.name := by
  rcases lists with ⟨fields, items, rfl, found, described⟩
  have listed := Json.getOr_of_get found (fun same => by cases same) (.arr [])
  cases described with
  | nil =>
      simp [firstListed, loaded, getAttrOr, listed, podName, Json.getFirst, bind,
        Except.bind] at first
  | @cons pod item others items describes _ =>
      rcases describes with ⟨fields, metadata, rfl, under, named, _⟩
      have under := Json.getOr_of_get under (fun same => by cases same) (.obj [])
      simp [firstListed, loaded, getAttrOr, listed, under, named, Json.getAttr,
        podName, Json.getFirst, bind, Except.bind] at first
      exact ⟨pod, List.mem_cons_self, first.symm⟩

/-- The names a run may read the log of are those it has been shown. -/
theorem listed_of_answers {phase : RunPhase} {run : RunRequest}
    (answered : Answers builtins place cluster event effect after) :
    ∀ name ∈ ((runDiscipline builtins config run).advance phase event).listed,
      name ∈ phase.listed ∨ ∃ pod ∈ effect.shown, name = .str pod.name := by
  intro name listed
  cases answered with
  | @listed selector shown payload document matching loaded lists =>
      cases first : firstListed builtins payload with
      | error error =>
          simp only [runDiscipline, first] at listed
          exact Or.inl listed
      | ok head =>
          simp only [runDiscipline, first, List.mem_cons] at listed
          rcases listed with rfl | listed
          · exact Or.inr (firstListed_of_listsPods loaded lists first)
          · exact Or.inl listed
  | @failed api error => cases api <;> exact Or.inl listed
  | created | seen | deleted | logged | monotonic | sleep => exact Or.inl listed

/-- A run stays confined by its calls. -/
theorem Confined.answers {request : DispatcherCall}
    {next : Except PyException (DispatcherCalls.Answer request) →
      Dispatch (Option JobOutcome)}
    {answer : Except PyException (DispatcherCalls.Answer request)}
    (labelled : Labelled builtins config cluster runAt)
    (confined : Confined builtins config cluster.names runAt thread)
    (issued : thread.rest = .call request next)
    (answered : Answers builtins place cluster ⟨request, answer⟩ effect after) :
    Confined builtins config cluster.names runAt
      (thread.answered ⟨request, answer⟩ effect (next answer)) := by
  have follows := confined.follows
  rw [issued] at follows
  constructor
  · rw [phase_answered]
    exact follows.2 answer trivial
  · intro name listed
    rw [phase_answered] at listed
    rcases listed_of_answers answered name listed with listed | ⟨pod, shown, same⟩
    · rcases confined.listed name listed with ⟨pod, seen, same⟩
      exact ⟨pod, List.mem_append_right _ seen, same⟩
    · exact ⟨pod, List.mem_append_left _ shown, same⟩
  · intro pod seen
    rcases List.mem_append.mp seen with shown | seen
    · exact shown_of_answers labelled confined follows.1 answered pod shown
    · exact confined.seen pod seen
  · intro job deleted
    rcases List.mem_append.mp deleted with removed | deleted
    · rcases deleted_of_answers follows.1 answered job removed with
        ⟨present, named⟩
      rcases labelled.jobs job present with ⟨run, there, name, _⟩
      exact ⟨run, there, name.symm.trans named⟩
    · exact confined.deleted job deleted

end Objects

/-! ## Every run of the system -/

/-- The objects are labelled and the runs are confined. -/
structure Sound (builtins : Builtins) (config : DispatcherConfig)
    (system : RunSystem) : Prop where
  labelled : Labelled builtins config system.cluster system.runAt
  confined : ∀ thread ∈ system.threads,
    Confined builtins config system.cluster.names system.runAt thread

theorem sound_empty : Sound builtins config .empty :=
  ⟨⟨nofun, nofun, List.nodup_nil⟩, nofun⟩

theorem Sound.step {source target : RunSystem} {action : RunAction}
    (sound : Sound builtins config source)
    (taken : RunStep builtins config source action target) :
    Sound builtins config target := by
  have kept : ∀ place run, source.runAt place = some run →
      target.runAt place = some run := fun _ _ => runAt_step taken
  cases taken with
  | @accept authorization body run polls prepared =>
      refine ⟨sound.labelled.mono kept, fun thread member => ?_⟩
      rcases List.mem_append.mp member with member | member
      · exact (sound.confined thread member).mono (fun _ named => named) kept
      · cases List.mem_singleton.mp member
        exact ⟨follows_runRequest polls, nofun, nofun, nofun⟩
  | @move cluster moved =>
      rcases sound.labelled.moves moved with ⟨labelled, grown⟩
      exact ⟨labelled, fun thread member =>
        (sound.confined thread member).mono grown kept⟩
  | @reap job present =>
      exact ⟨sound.labelled.without _, sound.confined⟩
  | @call place thread request next answer effect cluster there issued answered =>
      have here : source.runAt place = some thread.run := by
        simp [RunSystem.runAt, there]
      have confined := sound.confined thread (List.mem_of_getElem? there)
      have follows := confined.follows
      rw [issued] at follows
      rcases sound.labelled.answers here follows.1 answered with ⟨labelled, names⟩
      refine ⟨labelled.mono kept, fun other member => ?_⟩
      dsimp only at member ⊢
      rw [names]
      rcases List.mem_or_eq_of_mem_set member with member | rfl
      · exact (sound.confined other member).mono (fun _ named => named) kept
      · exact (confined.answers sound.labelled issued answered).mono
          (fun _ named => named) kept

/-! ## Runs whose Jobs are not reaped -/

/-- A run at a place was there before or has just been accepted. -/
theorem mem_snoc {threads : List RunThread} {fresh thread : RunThread} {place : Nat}
    (there : (threads ++ [fresh])[place]? = some thread) :
    threads[place]? = some thread ∨ thread = fresh := by
  rw [List.getElem?_append] at there
  split at there
  · exact Or.inl there
  · exact Or.inr (List.mem_singleton.mp (List.mem_of_getElem? there))

/-- A run at a place is as it was, or it is the one that has just made a call. -/
theorem mem_set {threads : List RunThread} {fresh thread : RunThread}
    {called place : Nat} (there : (threads.set called fresh)[place]? = some thread) :
    (place ≠ called ∧ threads[place]? = some thread) ∨
      (place = called ∧ thread = fresh) := by
  by_cases same : called = place
  · subst same
    rcases List.getElem?_eq_some_iff.mp there with ⟨inside, set⟩
    rw [List.getElem_set_self] at set
    exact Or.inr ⟨rfl, set.symm⟩
  · rw [List.getElem?_set_ne same] at there
    exact Or.inl ⟨fun impossible => same impossible.symm, there⟩

/-- Names of Jobs are unique, a run that answers for a Job has one, and the Jobs a
run has deleted are its own. -/
structure Held (builtins : Builtins) (config : DispatcherConfig)
    (system : RunSystem) : Prop where
  names : (system.cluster.jobs.map Job.name).Nodup
  jobs : ∀ (place : Nat) (thread : RunThread),
    system.threads[place]? = some thread → ¬ thread.rest.Ended →
      (thread.phase builtins config).held = true →
      ∃ job ∈ system.cluster.jobs, job.creator = place
  deleted : ∀ (place : Nat) (thread : RunThread),
    system.threads[place]? = some thread → ∀ job ∈ thread.deleted, job.creator = place

theorem held_empty : Held builtins config .empty := by
  constructor
  · exact List.nodup_nil
  · intro place thread there
    cases there
  · intro place thread there
    cases there

theorem nodup_without {cluster : Cluster}
    (unique : (cluster.jobs.map Job.name).Nodup) (name : String) :
    ((cluster.without name).jobs.map Job.name).Nodup :=
  unique.sublist (List.filter_sublist.map Job.name)

/-- What an answered request does to the Jobs. -/
theorem jobs_of_answers {cluster after : Cluster} {place : Nat}
    {event : DispatchEvent} {effect : Effect} {run : RunRequest}
    (answered : Answers builtins place cluster event effect after) :
    (∃ job, after.jobs = job :: cluster.jobs ∧ job.creator = place ∧
        job.name ∉ cluster.jobs.map Job.name ∧ effect.deleted = []) ∨
      (∃ name, event.call = .urlopen (.deleteJob name) ∧
        after = cluster.without name ∧
        effect.deleted = cluster.jobs.filter (·.name = name)) ∨
      (after.jobs = cluster.jobs ∧ effect.deleted = [] ∧
        ∀ phase : RunPhase, ((runDiscipline builtins config run).advance phase
          event).held = true → phase.held = true) := by
  cases answered with
  | @created manifest name answer named fresh =>
      exact Or.inl ⟨_, rfl, rfl, fresh, rfl⟩
  | @deleted name answer => exact Or.inr (Or.inl ⟨name, rfl, rfl, rfl⟩)
  | listed =>
      exact Or.inr (Or.inr ⟨rfl, rfl, fun phase held =>
        (held_listPods _ _).symm.trans held⟩)
  | @failed api error =>
      refine Or.inr (Or.inr ⟨rfl, rfl, fun phase held => ?_⟩)
      cases api with
      | createJob manifest => simpa [runDiscipline, Except.isOk, Except.toBool]
          using held
      | deleteJob name => cases held
      | getJob | listPods | readPodLog => exact held
  | seen | logged | monotonic | sleep =>
      exact Or.inr (Or.inr ⟨rfl, rfl, fun _ held => held⟩)

theorem moves_jobs {cluster after : Cluster} (moved : cluster.Moves after) :
    after.jobs = cluster.jobs := by
  cases moved <;> rfl

/-- Two Jobs with one name are one. -/
theorem Held.eq_of_name {system : RunSystem} (held : Held builtins config system)
    {one other : Job} (first : one ∈ system.cluster.jobs)
    (second : other ∈ system.cluster.jobs) (same : one.name = other.name) :
    one = other :=
  List.inj_on_of_nodup_map held.names first second same

/-- The Job of a run that answers for one has the name of the run. -/
theorem Held.named {system : RunSystem} (held : Held builtins config system)
    (sound : Sound builtins config system) {place : Nat} {thread : RunThread}
    (there : system.threads[place]? = some thread) (going : ¬ thread.rest.Ended)
    (holds : (thread.phase builtins config).held = true) :
    ∃ job ∈ system.cluster.jobs, job.creator = place ∧
      job.name = jobName builtins thread.run.runId := by
  rcases held.jobs place thread there going holds with ⟨job, present, creator⟩
  rcases sound.labelled.jobs job present with ⟨run, here, name, _⟩
  rw [creator, RunSystem.runAt, there] at here
  cases here
  exact ⟨job, present, creator, name⟩

theorem Held.step {source target : RunSystem} {action : RunAction}
    (held : Held builtins config source) (sound : Sound builtins config source)
    (taken : RunStep builtins config source action target)
    (timely : ¬ Untimely ⟨source, action, target⟩) :
    Held builtins config target := by
  cases taken with
  | @accept authorization body run polls prepared =>
      refine ⟨held.names, fun place thread there going holds => ?_,
        fun place thread there => ?_⟩
      · rcases mem_snoc there with there | rfl
        · exact held.jobs place thread there going holds
        · cases holds
      · rcases mem_snoc there with there | rfl
        · exact held.deleted place thread there
        · exact nofun
  | @move cluster moved =>
      have jobs := moves_jobs moved
      refine ⟨?_, fun place thread there going holds => ?_, held.deleted⟩
      · rw [jobs]
        exact held.names
      · rw [jobs]
        exact held.jobs place thread there going holds
  | @reap job present =>
      refine ⟨nodup_without held.names _, fun place thread there going holds => ?_,
        held.deleted⟩
      rcases held.jobs place thread there going holds with ⟨own, here, creator⟩
      refine ⟨own, List.mem_filter.mpr ⟨here, ?_⟩, creator⟩
      rw [decide_eq_true_iff]
      intro same
      -- The Job that is reaped would be that of a run which has not ended.
      have reaped := held.eq_of_name here present same
      subst reaped
      exact timely ⟨thread, creator ▸ there, going⟩
  | @call caller thread request next answer effect cluster there issued answered =>
      have going : ¬ thread.rest.Ended := by
        rw [issued]
        exact id
      have follows := (sound.confined thread (List.mem_of_getElem? there)).follows
      rw [issued] at follows
      rcases jobs_of_answers answered with
        ⟨job, jobs, creator, fresh, removed⟩ | ⟨name, asked, rfl, removed⟩ |
          ⟨jobs, removed, kept⟩
      · -- A Job is created.
        refine ⟨?_, fun place other here running holds => ?_,
          fun place other here => ?_⟩
        · rw [jobs, List.map_cons]
          exact List.nodup_cons.mpr ⟨fresh, held.names⟩
        · rw [jobs]
          rcases mem_set here with ⟨_, here⟩ | ⟨rfl, rfl⟩
          · rcases held.jobs place other here running holds with ⟨own, present, same⟩
            exact ⟨own, List.mem_cons_of_mem _ present, same⟩
          · exact ⟨job, List.mem_cons_self, creator⟩
        · rcases mem_set here with ⟨_, here⟩ | ⟨rfl, rfl⟩
          · exact held.deleted place other here
          · simp only [RunThread.answered, removed, List.nil_append]
            exact held.deleted place thread there
      · -- The one Job of the name is deleted, and it is that of the caller.
        change request = _ at asked
        subst asked
        rcases follows.1 with ⟨holding, rfl⟩
        rcases held.named sound there going holding with ⟨own, present, mine, named⟩
        refine ⟨nodup_without held.names _, fun place other here running holds => ?_,
          fun place other here => ?_⟩
        · rcases mem_set here with ⟨different, here⟩ | ⟨rfl, rfl⟩
          · rcases held.jobs place other here running holds with
              ⟨job, stays, creator⟩
            refine ⟨job, List.mem_filter.mpr ⟨stays, ?_⟩, creator⟩
            rw [decide_eq_true_iff]
            intro same
            have shared := held.eq_of_name stays present (same.trans named.symm)
            exact different (by rw [← creator, shared, mine])
          · rw [phase_answered] at holds
            cases holds
        · rcases mem_set here with ⟨_, here⟩ | ⟨rfl, rfl⟩
          · exact held.deleted place other here
          · simp only [RunThread.answered, removed]
            intro job member
            rcases List.mem_append.mp member with member | member
            · rcases List.mem_filter.mp member with ⟨stays, same⟩
              have name := of_decide_eq_true same
              rw [held.eq_of_name stays present (name.trans named.symm), mine]
            · exact held.deleted place thread there job member
      · -- The Jobs are left alone.
        refine ⟨?_, fun place other here running holds => ?_,
          fun place other here => ?_⟩
        · rw [jobs]
          exact held.names
        · rw [jobs]
          rcases mem_set here with ⟨_, here⟩ | ⟨rfl, rfl⟩
          · exact held.jobs place other here running holds
          · rw [phase_answered] at holds
            exact held.jobs place thread there going (kept _ holds)
        · rcases mem_set here with ⟨_, here⟩ | ⟨rfl, rfl⟩
          · exact held.deleted place other here
          · simp only [RunThread.answered, removed, List.nil_append]
            exact held.deleted place thread there

/-- Runs with different labels are isolated: neither sees a pod of the other, and
neither deletes a Job of the other when their names differ, or when no Job is
reaped before its run has ended. -/
theorem runs_isolated {transitions : List (Transition RunSystem RunAction)}
    {system : RunSystem}
    (execution : Execution (RunStep builtins config) .empty transitions system)
    {one other : Nat} {thread peer : RunThread}
    (first : system.threads[one]? = some thread)
    (second : system.threads[other]? = some peer)
    (labels : safeLabel thread.run.runId ≠ safeLabel peer.run.runId)
    (names : jobName builtins thread.run.runId ≠ jobName builtins peer.run.runId ∨
      ∀ transition ∈ transitions, ¬ Untimely transition) :
    (∀ pod ∈ thread.seen, pod.creator ≠ other) ∧
      ∀ job ∈ thread.deleted, job.creator ≠ other := by
  have sound : Sound builtins config system :=
    execution.invariant_target (Sound builtins config) sound_empty
      fun _ _ taken sound => sound.step taken
  have confined := sound.confined thread (List.mem_of_getElem? first)
  have there : system.runAt other = some peer.run := by
    simp [RunSystem.runAt, second]
  constructor
  · intro pod seen
    rcases confined.seen pod seen with ⟨_, run, found, label⟩
    intro same
    rw [same, there] at found
    cases found
    exact labels label.symm
  · intro job deleted same
    rcases names with different | timely
    · rcases confined.deleted job deleted with ⟨run, found, name⟩
      rw [same, there] at found
      cases found
      exact different name.symm
    · have held : Sound builtins config system ∧ Held builtins config system :=
        execution.invariant_target
          (fun system => Sound builtins config system ∧ Held builtins config system)
          ⟨sound_empty, held_empty⟩ fun transition member taken kept =>
            ⟨kept.1.step taken, kept.2.step kept.1 taken (timely transition member)⟩
      have own := held.2.deleted one thread first job deleted
      rw [← same, own, first] at second
      cases second
      exact labels rfl

/-! ## Two runs -/

/-- A run of the Job tool. -/
def jobRun (runId : String) (runId_ne : runId ≠ "") : RunRequest where
  runId
  tenantId := "t1"
  tool := "text_stats_job"
  arguments := []
  runId_ne
  tenantId_ne := by decide
  executor := by decide

/-- The body of such a run. -/
def runBody (runId : String) : Json :=
  .obj [("tool", .str "text_stats_job"), ("run_id", .str runId),
    ("tenant_id", .str "t1")]

/-- A deployment with its token. -/
def tokenConfig : DispatcherConfig := { token := some "s3cret", image := "runner" }

/-- The pod of a run that was accepted first. -/
def podOf (runId : String) : Pod where
  name := "pod-1"
  labels := templateLabels (buildJobManifest (Builtins.sample [])
    tokenConfig.jobConfig runId "t1" "text_stats_job" [])
  status := .null
  log := [108, 111, 103]
  creator := 0

/-- Built-in functions that read the bodies of two runs, of a Job that has
succeeded and of a list of the pod of the first. -/
def twoRuns (first second : String) : Builtins :=
  { Builtins.sample [("log", .obj [("ok", .bool true), ("result", .int 3)])] with
    loadsBytes := fun body =>
      match body with
      | [1] => .ok (runBody first)
      | [2] => .ok (runBody second)
      | [106] => .ok (.obj [("status", .obj [("succeeded", .int 1)])])
      | [112] => .ok (podList [podOf first])
      | _ => .ok (.obj []) }

/-- The pod is selected by every run with the label. -/
theorem selected_podOf {first second : String}
    (same : safeLabel first = safeLabel second) :
    [podOf first].Perm ([podOf first].filter fun pod =>
      selects (runSelector second) pod.labels) := by
  have selected : selects (runSelector second) (podOf first).labels = true :=
    (selects_runSelector_iff (Builtins.sample []) tokenConfig.jobConfig _ _ _ _
      []).mpr same
  simp [selected]

section Requests

variable {system : RunSystem} {thread : RunThread}

/-- A request of the run at a place. -/
theorem RunStep.ask (place : Nat) {api : ApiRequest}
    {next : Except PyException Bytes → Dispatch (Option JobOutcome)}
    (answer : Except PyException Bytes) {effect : Effect} {cluster : Cluster}
    (there : system.threads[place]? = some thread)
    (issued : thread.rest = .call (.urlopen api) next)
    (answered : Answers builtins place system.cluster ⟨.urlopen api, answer⟩ effect
      cluster) :
    RunStep builtins config system (.call place ⟨.urlopen api, answer⟩)
      { cluster
        threads := system.threads.set place
          (thread.answered ⟨.urlopen api, answer⟩ effect (next answer)) } :=
  @RunStep.call builtins config system place thread (.urlopen api) next answer
    effect cluster there issued answered

/-- A look at the clock. -/
theorem RunStep.tick (place : Nat)
    {next : Except PyException Rat → Dispatch (Option JobOutcome)}
    (answer : Except PyException Rat)
    (there : system.threads[place]? = some thread)
    (issued : thread.rest = .call .monotonic next) :
    RunStep builtins config system (.call place ⟨.monotonic, answer⟩)
      { system with
        threads := system.threads.set place
          (thread.answered ⟨.monotonic, answer⟩ {} (next answer)) } :=
  @RunStep.call builtins config system place thread .monotonic next answer {}
    system.cluster there issued (.monotonic answer)

end Requests

end Isolation

/-- The first of two runs succeeds while the second has been accepted. -/
theorem runs_isolated_pair :
    ∃ transitions system thread,
      Execution (RunStep (twoRuns "r1" "r2") tokenConfig) .empty transitions
        system ∧
      system.threads[0]? = some thread ∧ podOf "r1" ∈ thread.seen ∧
      thread.deleted.map Job.creator = [0] ∧
      (∀ pod ∈ thread.seen, pod.creator ≠ 1) ∧
        ∀ job ∈ thread.deleted, job.creator ≠ 1 := by
  have first : prepareRun (twoRuns "r1" "r2") (some "Bearer s3cret") [1]
      tokenConfig = .ok (.ok (jobRun "r1" (by decide))) := rfl
  have second : prepareRun (twoRuns "r1" "r2") (some "Bearer s3cret") [2]
      tokenConfig = .ok (.ok (jobRun "r2" (by decide))) := rfl
  have execution : Execution (RunStep (twoRuns "r1" "r2") tokenConfig) .empty _ _ :=
    .cons (.accept 1 first) <| .cons (.accept 1 second) <|
    .cons (.ask 0 (.ok []) rfl rfl (.created _ rfl List.not_mem_nil)) <|
    .cons (.move (.start .null [108, 111, 103] List.mem_cons_self
      List.not_mem_nil)) <|
    .cons (.tick 0 (.ok 0) rfl rfl) <|
    .cons (.ask 0 (.ok [106]) rfl rfl (.seen _)) <|
    .cons (.ask 0 (.ok [112]) rfl rfl
      (.listed (selected_podOf rfl) rfl (listsPods_podList _))) <|
    .cons (.ask 0 (.ok [108, 111, 103]) rfl rfl (.logged List.mem_cons_self)) <|
    .cons (.ask 0 (.ok []) rfl rfl (.deleted _)) (.nil _)
  refine ⟨_, _, _, execution, rfl, List.mem_cons_self, rfl, ?_⟩
  have labels : safeLabel "r1" ≠ safeLabel "r2" := by decide
  have names : jobName (twoRuns "r1" "r2") "r1" ≠ jobName (twoRuns "r1" "r2") "r2" :=
    by decide
  exact @runs_isolated _ _ _ _ execution 0 1 _ _ rfl rfl labels (Or.inl names)

/-- An identifier whose label is cut off before its first letter. -/
def dotted (text : String) : String := String.ofList (List.replicate 63 '.') ++ text

/-- Two runs with one label, whose Jobs have different names: the second returns
the result of the first. -/
theorem not_runs_isolated :
    ∃ transitions system thread,
      Execution (RunStep (twoRuns (dotted "1") (dotted "2")) tokenConfig) .empty
        transitions system ∧
      system.runAt 0 = some (jobRun (dotted "1") (by decide)) ∧
      system.threads[1]? = some thread ∧
      thread.run = jobRun (dotted "2") (by decide) ∧
      thread.rest = .ret (some ⟨.success, .int 3, .int 0⟩) ∧
      thread.seen.map Pod.creator = [0, 0] := by
  have first : prepareRun (twoRuns (dotted "1") (dotted "2"))
      (some "Bearer s3cret") [1] tokenConfig =
        .ok (.ok (jobRun (dotted "1") (by decide))) := rfl
  have second : prepareRun (twoRuns (dotted "1") (dotted "2"))
      (some "Bearer s3cret") [2] tokenConfig =
        .ok (.ok (jobRun (dotted "2") (by decide))) := rfl
  have label : safeLabel (dotted "1") = safeLabel (dotted "2") := by decide +kernel
  have names : jobName (twoRuns (dotted "1") (dotted "2")) (dotted "2") ≠
      jobName (twoRuns (dotted "1") (dotted "2")) (dotted "1") := by decide +kernel
  have execution : Execution (RunStep (twoRuns (dotted "1") (dotted "2"))
      tokenConfig) .empty _ _ :=
    .cons (.accept 1 first) <| .cons (.accept 1 second) <|
    .cons (.ask 0 (.ok []) rfl rfl (.created _ rfl List.not_mem_nil)) <|
    .cons (.move (.start .null [108, 111, 103] List.mem_cons_self
      List.not_mem_nil)) <|
    .cons (.ask 1 (.ok []) rfl rfl (.created _ rfl
      fun taken => names (List.mem_singleton.mp taken))) <|
    .cons (.tick 1 (.ok 0) rfl rfl) <|
    .cons (.ask 1 (.ok [106]) rfl rfl (.seen _)) <|
    -- The pod of the first run is the only one with the label yet.
    .cons (.ask 1 (.ok [112]) rfl rfl
      (.listed (selected_podOf label) rfl (listsPods_podList _))) <|
    .cons (.ask 1 (.ok [108, 111, 103]) rfl rfl (.logged List.mem_cons_self)) <|
    .cons (.ask 1 (.ok []) rfl rfl (.deleted _)) (.nil _)
  exact ⟨_, _, _, execution, rfl, rfl, rfl, rfl, rfl⟩

end PrivateAiWorkspace.Dispatcher
