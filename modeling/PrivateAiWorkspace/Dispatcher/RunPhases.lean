import PrivateAiWorkspace.Dispatcher.Cluster
import PrivateAiWorkspace.Effects.Discipline

/-!
# What a run asks for

A run asks for its own Job and its own pods only: the names and the selector of
its requests are those of its identifier, it deletes a Job only after its create
request has been answered and only once, and it reads the log of no pod that it
has not been shown.
-/

namespace PrivateAiWorkspace.Dispatcher

open Effects Python K8sClient

/-- How far a run has got: whether it answers for a Job, and the names it has been
shown first in a list of pods. -/
structure RunPhase where
  held : Bool
  listed : List Json

/-- The name of the first pod in a response. -/
def firstListed (builtins : Builtins) (payload : Bytes) :
    Except PyException Json := do
  let out ← builtins.loadsBytes (orEmptyObject payload)
  let pods ← getAttrOr "items" (.arr []) out
  podName pods

/-- The manifest of a run. -/
def RunRequest.manifest (builtins : Builtins) (config : DispatcherConfig)
    (run : RunRequest) : Json :=
  buildJobManifest builtins config.jobConfig run.runId run.tenantId run.tool
    run.arguments

/-- The requests a run makes, and what their answers change. -/
def runDiscipline (builtins : Builtins) (config : DispatcherConfig)
    (run : RunRequest) : Discipline DispatcherCalls PyException RunPhase where
  expected _ := True
  allowed phase
    | .urlopen (.createJob manifest) => manifest = run.manifest builtins config
    | .urlopen (.getJob name) => name = jobName builtins run.runId
    | .urlopen (.deleteJob name) =>
        phase.held = true ∧ name = jobName builtins run.runId
    | .urlopen (.listPods selector) => selector = runSelector run.runId
    | .urlopen (.readPodLog name _) => name ∈ phase.listed
    | _ => True
  advance phase
    | ⟨.urlopen (.createJob _), answer⟩ =>
        { phase with held := phase.held || answer.isOk }
    | ⟨.urlopen (.deleteJob _), _⟩ => { phase with held := false }
    | ⟨.urlopen (.listPods _), answer⟩ =>
        match (answer : Except PyException Bytes) with
        | .ok payload =>
            match firstListed builtins payload with
            | .ok name => { phase with listed := name :: phase.listed }
            | .error _ => phase
        | .error _ => phase
    | _ => phase

/-- A run starts without a Job. -/
def RunPhase.initial : RunPhase := ⟨false, []⟩

section Follows

variable {builtins : Builtins} {config : DispatcherConfig} {run : RunRequest}
  {phase : RunPhase}

/-- What a request comes to, with the phase its answer leads to. -/
theorem follows_asked (api : ApiRequest)
    (allowed : (runDiscipline builtins config run).allowed phase (.urlopen api)) :
    Program.Follows (runDiscipline builtins config run)
      (fun reached result => ∃ answer : Except PyException Bytes,
        reached = (runDiscipline builtins config run).advance phase
          ⟨.urlopen api, answer⟩ ∧ (∀ payload, result = .ok payload →
            answer = .ok payload))
      phase (request api) := by
  apply Program.Follows.attemptThen allowed
  intro answer _
  cases answer with
  | ok payload => exact ⟨.ok payload, rfl, fun _ same => same⟩
  | error error => cases error <;> exact ⟨.error _, rfl, nofun⟩

/-- The same for a request whose response is JSON. -/
theorem follows_askedJson (api : ApiRequest)
    (allowed : (runDiscipline builtins config run).allowed phase (.urlopen api)) :
    Program.Follows (runDiscipline builtins config run)
      (fun reached result => ∃ answer : Except PyException Bytes,
        reached = (runDiscipline builtins config run).advance phase
          ⟨.urlopen api, answer⟩ ∧ (∀ document, result = .ok document →
            ∃ payload, answer = .ok payload ∧
              builtins.loadsBytes (orEmptyObject payload) = .ok document))
      phase (requestJson builtins api) := by
  apply (follows_asked api allowed).bind
  · intro reached payload asked
    rcases asked with ⟨answer, same, answered⟩
    cases loaded : builtins.loadsBytes (orEmptyObject payload) with
    | ok document =>
        refine ⟨answer, same, fun _ same => ?_⟩
        cases same
        exact ⟨payload, answered payload rfl, loaded⟩
    | error error => exact ⟨answer, same, nofun⟩
  · intro reached error asked
    rcases asked with ⟨answer, same, _⟩
    exact ⟨answer, same, nofun⟩

/-- The run answers for a Job. -/
def Holds {α : Type} (reached : RunPhase) (_ : Except PyException α) : Prop :=
  reached.held = true

theorem holds_orOnK8sError {α : Type} {default : α} {program : Dispatch α}
    (follows : Program.Follows (runDiscipline builtins config run) Holds phase
      program) :
    Program.Follows (runDiscipline builtins config run) Holds phase
      (orOnK8sError default program) := by
  have attempted : Program.Follows (runDiscipline builtins config run) Holds phase
      program.attempt := follows.attempt fun _ _ held => held
  apply attempted.bind
  · intro reached outcome held
    cases outcome with
    | ok value => exact held
    | error error =>
        dsimp only
        split <;> exact held
  · exact fun _ _ held => held

theorem holds_ofExcept {α : Type} (held : phase.held = true)
    (outcome : Except PyException α) :
    Program.Follows (runDiscipline builtins config run) Holds phase
      (Program.ofExcept outcome) := by
  cases outcome <;> exact held

theorem holds_getJob (held : phase.held = true) :
    Program.Follows (runDiscipline builtins config run) Holds phase
      (getJob builtins (jobName builtins run.runId)) := by
  apply (follows_askedJson (.getJob _) rfl).mono
  intro reached result asked
  rcases asked with ⟨_, rfl, _⟩
  exact held

/-- A list of pods leaves the Job to the run. -/
theorem held_listPods (selector : String) (answer : Except PyException Bytes) :
    ((runDiscipline builtins config run).advance phase
      ⟨.urlopen (.listPods selector), answer⟩).held = phase.held := by
  simp only [runDiscipline]
  split
  · split <;> rfl
  · rfl

/-- The first pod of a list has been shown to the run. -/
theorem mem_listed {selector : String} {payload : Bytes} {name : Json}
    (first : firstListed builtins payload = .ok name) :
    name ∈ ((runDiscipline builtins config run).advance phase
      ⟨.urlopen (.listPods selector), .ok payload⟩).listed := by
  simp [runDiscipline, first]

theorem follows_listPods (held : phase.held = true) :
    Program.Follows (runDiscipline builtins config run)
      (fun reached result => reached.held = true ∧
        ∀ pods name, result = .ok pods → podName pods = .ok name →
          name ∈ reached.listed)
      phase (listPods builtins (runSelector run.runId)) := by
  apply (follows_askedJson (.listPods _) rfl).bind
  · intro reached out asked
    rcases asked with ⟨answer, rfl, answered⟩
    rcases answered out rfl with ⟨payload, rfl, loaded⟩
    have kept := (@held_listPods builtins config run phase
      (runSelector run.runId) (.ok payload)).trans held
    cases items : getAttrOr "items" (.arr []) out with
    | ok pods =>
        refine ⟨kept, fun listed name same named => ?_⟩
        cases same
        apply mem_listed
        simp [firstListed, loaded, items, named, bind, Except.bind]
    | error error => exact ⟨kept, fun _ _ => nofun⟩
  · intro reached error asked
    rcases asked with ⟨answer, rfl, _⟩
    exact ⟨(held_listPods _ _).trans held, fun _ _ => nofun⟩

theorem holds_readPodLog {name : Json} (held : phase.held = true)
    (shown : name ∈ phase.listed) :
    Program.Follows (runDiscipline builtins config run) Holds phase
      (readPodLog name) := by
  apply (follows_asked (.readPodLog name limitBytes) shown).bind
  · intro reached payload asked
    rcases asked with ⟨_, rfl, _⟩
    exact held
  · intro reached error asked
    rcases asked with ⟨_, rfl, _⟩
    exact held

theorem holds_readPodResult (held : phase.held = true) :
    Program.Follows (runDiscipline builtins config run) Holds phase
      (readPodResult builtins (runSelector run.runId)) := by
  have read : Program.Follows (runDiscipline builtins config run) Holds phase
      (orOnK8sError none do
        let pods ← listPods builtins (runSelector run.runId)
        if !pods.truthy then return none
        else
          let name ← Program.ofExcept (podName pods)
          let log ← readPodLog name
          return some log) := by
    apply holds_orOnK8sError
    apply (follows_listPods held).bind
    · intro reached pods listed
      split
      · exact listed.1
      · apply Program.Follows.ofExceptThen
        · intro name named
          apply (holds_readPodLog listed.1 (listed.2 pods name rfl named)).bind
          · exact fun _ _ held => held
          · exact fun _ _ held => held
        · exact fun _ _ => listed.1
    · exact fun _ _ listed => listed.1
  apply read.bind
  · intro reached log held
    cases log with
    | none => exact held
    | some log => exact holds_ofExcept held _
  · exact fun _ _ held => held

theorem holds_podExitCode (held : phase.held = true) :
    Program.Follows (runDiscipline builtins config run) Holds phase
      (podExitCode builtins (runSelector run.runId)) := by
  apply holds_orOnK8sError
  apply (follows_listPods held).bind
  · intro reached pods listed
    split
    · exact listed.1
    · exact holds_ofExcept listed.1 _
  · exact fun _ _ listed => listed.1

/-- The loop makes the requests of the run and leaves it its Job. -/
theorem holds_poll (held : phase.held = true) (deadline : Rat) (polls : Nat) :
    Program.Follows (runDiscipline builtins config run) Holds phase
      (poll builtins config.jobConfig (jobName builtins run.runId)
        (runSelector run.runId) deadline polls) := by
  induction polls generalizing phase with
  | zero => exact held
  | succ polls ih =>
      have looked : Program.Follows (runDiscipline builtins config run) Holds
          phase (getJob builtins (jobName builtins run.runId)).attempt :=
        (holds_getJob held).attempt fun _ _ held => held
      apply looked.bind
      · intro reached outcome held
        cases outcome with
        | error error =>
            dsimp only
            split <;> exact held
        | ok job =>
            apply Program.Follows.ofExceptThen
            · intro status _
              apply Program.Follows.ofExceptThen
              · intro succeeded _
                split
                · apply (holds_readPodResult held).bind
                  · exact fun _ _ held => held
                  · exact fun _ _ held => held
                · apply Program.Follows.ofExceptThen
                  · intro failed _
                    split
                    · apply Program.Follows.ofExceptThen
                      · intro reason _
                        apply (holds_podExitCode held).bind
                        · exact fun _ _ held => held
                        · exact fun _ _ held => held
                      · exact fun _ _ => held
                    · apply Program.Follows.callThen trivial
                      · intro now _
                        split
                        · exact held
                        · apply Program.Follows.callThen trivial
                          · exact fun _ _ => ih held
                          · exact fun _ _ => held
                      · exact fun _ _ => held
                  · exact fun _ _ => held
              · exact fun _ _ => held
            · exact fun _ _ => held
      · exact fun _ _ held => held

/-- A run asks for its own Job and its own pods only. -/
theorem follows_runRequest (polls : Nat) :
    Program.Follows (runDiscipline builtins config run) (fun _ _ => True)
      .initial (runRequest builtins config polls run) := by
  have created : Program.Follows (runDiscipline builtins config run)
      (fun reached outcome => ∀ document, outcome = .ok (.ok document) →
        reached.held = true)
      .initial (createJob builtins (run.manifest builtins config)).attempt := by
    apply (follows_askedJson (.createJob _) rfl).attempt
    intro reached result asked document same
    cases same
    rcases asked with ⟨answer, rfl, answered⟩
    rcases answered document rfl with ⟨payload, rfl, _⟩
    rfl
  apply created.bind
  · intro reached outcome held
    cases outcome with
    | error error =>
        dsimp only
        split <;> trivial
    | ok document =>
        have worked : Program.Follows (runDiscipline builtins config run) Holds
            reached (do
              let started ← monotonic
              poll builtins config.jobConfig (jobName builtins run.runId)
                (runSelector run.runId)
                (started + config.jobConfig.overallTimeout) polls) := by
          apply Program.Follows.callThen trivial
          · exact fun started _ => holds_poll (held document rfl) _ _
          · exact fun _ _ => held document rfl
        apply worked.tryFinally
        intro ended result held
        -- The clean-up is the one request to delete the Job.
        have reaped : Program.Follows (runDiscipline builtins config run)
            (fun _ _ => True) ended
            (deleteJob builtins (jobName builtins run.runId)) := by
          apply (follows_askedJson (.deleteJob _) ⟨held, rfl⟩).bind
          · exact fun _ _ _ => trivial
          · exact fun _ _ _ => trivial
        have attempted : Program.Follows (runDiscipline builtins config run)
            (fun _ _ => True) ended
            (deleteJob builtins (jobName builtins run.runId)).attempt :=
          reaped.attempt fun _ _ _ => trivial
        apply attempted.bind
        · intro final outcome _
          cases outcome with
          | ok value => trivial
          | error error =>
              dsimp only
              split <;> trivial
        · exact fun _ _ _ => trivial
  · exact fun _ _ _ => trivial

end Follows

end PrivateAiWorkspace.Dispatcher
