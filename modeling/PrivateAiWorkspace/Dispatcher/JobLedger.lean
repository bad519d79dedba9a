import PrivateAiWorkspace.Dispatcher.JobReading
import PrivateAiWorkspace.Effects.Discipline

/-!
# How a run of a Job ends

What makes a run of a Job raise is named here: exceptions of the HTTP layer that
are not `K8sError`, and bodies that are no JSON or cannot be taken apart. A ledger
kept along the calls tells whether one of them has come up and how the Job has been
asked to be created and to be deleted.
-/

namespace PrivateAiWorkspace.Dispatcher

open Effects Python K8sClient

/-! ## What nobody catches -/

/-- Exceptions that reach the runner as `K8sError`. -/
def isApiError : PyException → Bool
  | .httpError _ => true
  | .urlError => true
  | error => error = k8sError

/-- The HTTP layer raises an exception that is let through. -/
def Escapes (answer : Except PyException Bytes) : Prop :=
  ∃ error, answer = .error error ∧ isApiError error = false

/-- The body of a response is no JSON. -/
def Garbled (builtins : Builtins) (answer : Except PyException Bytes) : Prop :=
  ∃ payload error, answer = .ok payload ∧
    builtins.loadsBytes (orEmptyObject payload) = .error error

/-- The body of a response is JSON, but not of a shape the runner can read. -/
def Misshapen (builtins : Builtins) (readable : Json → Prop)
    (answer : Except PyException Bytes) : Prop :=
  ∃ payload document, answer = .ok payload ∧
    builtins.loadsBytes (orEmptyObject payload) = .ok document ∧
    ¬ readable document

/-- `json.loads` raises something else than `ValueError` on a log. -/
def ChokingLog (builtins : Builtins) (answer : Except PyException Bytes) : Prop :=
  ∃ payload error, answer = .ok payload ∧
    builtins.loads (if Utf8.decodeReplace payload = "" then "\x7b\x7d"
      else Utf8.decodeReplace payload) = .error error ∧ error ≠ .valueError

/-- The answer reports a job that has succeeded. -/
def ReportsSuccess (builtins : Builtins) (answer : Except PyException Bytes) :
    Prop :=
  ∃ payload fields status, answer = .ok payload ∧
    builtins.loadsBytes (orEmptyObject payload) = .ok (.obj fields) ∧
    Json.getOr fields "status" (.obj []) = .obj status ∧
    (Json.get status "succeeded").truthy = true

/-- An answer that makes the run raise. `succeeded` says whether the Job has been
seen to succeed, so that pods are listed for a result and not for an exit
code. -/
def Unforeseen (builtins : Builtins) (succeeded : Prop) : DispatchEvent → Prop
  | ⟨.urlopen request, answer⟩ =>
      let answer : Except PyException Bytes := answer
      Escapes answer ∨
        match request with
        | .createJob _ | .deleteJob _ => Garbled builtins answer
        | .getJob _ => Garbled builtins answer ∨ Misshapen builtins ReadableJob answer
        | .listPods _ =>
            Garbled builtins answer ∨
              Misshapen builtins (ReadablePods succeeded) answer
        | .readPodLog _ _ => ChokingLog builtins answer
  | _ => False

/-- The event is the answer to a look at the job that reports success. -/
def SeesSuccess (builtins : Builtins) : DispatchEvent → Prop
  | ⟨.urlopen (.getJob _), answer⟩ =>
      ReportsSuccess builtins (answer : Except PyException Bytes)
  | _ => False

/-- No answer is unforeseen. -/
def Foreseen (builtins : Builtins) : Prop → List DispatchEvent → Prop
  | _, [] => True
  | succeeded, event :: later =>
      ¬ Unforeseen builtins succeeded event ∧
        Foreseen builtins (succeeded ∨ SeesSuccess builtins event) later

/-- A request to create a Job that comes back as `K8sError`. -/
def isFailedCreate : DispatchEvent → Bool
  | ⟨.urlopen (.createJob _), answer⟩ =>
      match (answer : Except PyException Bytes) with
      | .ok _ => false
      | .error error => isApiError error
  | _ => false

/-- A request to delete a Job. -/
def isDelete : DispatchEvent → Bool
  | ⟨.urlopen (.deleteJob _), _⟩ => true
  | _ => false

/-- A request to create or to delete a Job. -/
def changesJobs : DispatchEvent → Bool
  | ⟨.urlopen (.createJob _), _⟩ => true
  | ⟨.urlopen (.deleteJob _), _⟩ => true
  | _ => false

/-- A look at the Job. -/
def isGetJob : DispatchEvent → Bool
  | ⟨.urlopen (.getJob _), _⟩ => true
  | _ => false

/-- The clock and the sleep answer. -/
def Regular : DispatchEvent → Prop
  | ⟨.urlopen _, _⟩ => True
  | ⟨_, answer⟩ => answer.isOk

/-! ## The ledger of a run -/

/-- What the events so far amount to; those that create or delete Jobs are kept. -/
structure JobLedger where
  succeeded : Prop
  upset : Prop
  changes : List DispatchEvent

/-- The ledger at the start of a run. -/
def JobLedger.blank : JobLedger := ⟨False, False, []⟩

/-- Keep the ledger of a run. -/
def jobLedger (builtins : Builtins) :
    Discipline DispatcherCalls PyException JobLedger where
  expected := Regular
  allowed _ _ := True
  advance ledger event :=
    { succeeded := ledger.succeeded ∨ SeesSuccess builtins event
      upset := ledger.upset ∨ Unforeseen builtins ledger.succeeded event
      changes := ledger.changes ++ [event].filter changesJobs }

section JobLedger

variable {builtins : Builtins} {seen : Prop} {changes : List DispatchEvent}
  {start : JobLedger}

/-- Nothing unforeseen has come up. -/
structure Clean (seen : Prop) (changes : List DispatchEvent) (reached : JobLedger) :
    Prop where
  succeeded_eq : reached.succeeded = seen
  changes_eq : reached.changes = changes
  calm : ¬ reached.upset

/-- Something unforeseen has come up. -/
structure Upset (changes : List DispatchEvent) (reached : JobLedger) : Prop where
  changes_eq : reached.changes = changes
  upset : reached.upset

/-- An event that is foreseen and does not see success. -/
theorem Clean.quiet (clean : Clean seen changes start) {event : DispatchEvent}
    (unchanged : changesJobs event = false) (unseen : ¬ SeesSuccess builtins event)
    (foreseen : ¬ Unforeseen builtins seen event) :
    Clean seen changes ((jobLedger builtins).advance start event) := by
  rcases clean with ⟨rfl, rfl, calm⟩
  constructor
  · simp [jobLedger, unseen]
  · simp [jobLedger, unchanged]
  · simp [jobLedger, calm, foreseen]

/-- A look at the Job that sees success. -/
theorem Clean.success (clean : Clean seen changes start) {event : DispatchEvent}
    (unchanged : changesJobs event = false) (sees : SeesSuccess builtins event)
    (foreseen : ¬ Unforeseen builtins seen event) :
    Clean True changes ((jobLedger builtins).advance start event) := by
  rcases clean with ⟨rfl, rfl, calm⟩
  constructor
  · simp [jobLedger, sees]
  · simp [jobLedger, unchanged]
  · simp [jobLedger, calm, foreseen]

theorem Clean.upset (clean : Clean seen changes start) {event : DispatchEvent}
    (unchanged : changesJobs event = false)
    (unforeseen : Unforeseen builtins seen event) :
    Upset changes ((jobLedger builtins).advance start event) := by
  rcases clean with ⟨rfl, rfl, _⟩
  constructor
  · simp [jobLedger, unchanged]
  · exact Or.inr unforeseen

/-- A value is returned from a clean ledger, an exception is unforeseen. -/
def Settled {α : Type} (changes : List DispatchEvent) (reached : JobLedger) :
    Except PyException α → Prop
  | .ok _ => ∃ seen, Clean seen changes reached
  | .error _ => Upset changes reached

/-! ## Requests -/

/-- What `_request` makes of an answer of the HTTP layer. -/
def receive (answer : Except PyException Bytes) : Except PyException Bytes :=
  match answer with
  | .ok payload => .ok payload
  | .error (.httpError _) | .error .urlError => .error k8sError
  | .error error => .error error

/-- The same for a request whose response is JSON. -/
def receiveJson (builtins : Builtins) (answer : Except PyException Bytes) :
    Except PyException Json :=
  (receive answer).bind fun payload => builtins.loadsBytes (orEmptyObject payload)

theorem follows_request (api : ApiRequest) :
    Program.Follows (jobLedger builtins)
      (fun reached result => ∃ answer : Except PyException Bytes,
        reached = (jobLedger builtins).advance start ⟨.urlopen api, answer⟩ ∧
          result = receive answer)
      start (request api) := by
  apply Program.Follows.attemptThen trivial
  intro answer _
  cases answer with
  | ok payload => exact ⟨.ok payload, rfl, rfl⟩
  | error error => cases error <;> exact ⟨.error _, rfl, rfl⟩

theorem follows_requestJson (api : ApiRequest) :
    Program.Follows (jobLedger builtins)
      (fun reached result => ∃ answer : Except PyException Bytes,
        reached = (jobLedger builtins).advance start ⟨.urlopen api, answer⟩ ∧
          result = receiveJson builtins answer)
      start (requestJson builtins api) := by
  apply (follows_request api).bind
  · intro reached payload asked
    rcases asked with ⟨answer, rfl, received⟩
    cases loaded : builtins.loadsBytes (orEmptyObject payload) with
    | ok document =>
        exact ⟨answer, rfl, by simp [receiveJson, ← received, Except.bind, loaded]⟩
    | error error =>
        exact ⟨answer, rfl, by simp [receiveJson, ← received, Except.bind, loaded]⟩
  · intro reached error asked
    rcases asked with ⟨answer, rfl, received⟩
    exact ⟨answer, rfl, by simp [receiveJson, ← received, Except.bind]⟩

@[simp] theorem not_escapes_ok {payload : Bytes} : ¬ Escapes (.ok payload) := by
  intro escapes
  rcases escapes with ⟨_, impossible, _⟩
  cases impossible

@[simp] theorem escapes_error_iff {error : PyException} :
    Escapes (.error error) ↔ isApiError error = false := by
  simp [Escapes]

@[simp] theorem not_garbled_error {error : PyException} :
    ¬ Garbled builtins (.error error) := by
  simp [Garbled]

@[simp] theorem not_misshapen_error {readable : Json → Prop}
    {error : PyException} : ¬ Misshapen builtins readable (.error error) := by
  simp [Misshapen]

@[simp] theorem not_choking_error {error : PyException} :
    ¬ ChokingLog builtins (.error error) := by
  simp [ChokingLog]

@[simp] theorem not_reportsSuccess_error {error : PyException} :
    ¬ ReportsSuccess builtins (.error error) := by
  simp [ReportsSuccess]

/-- A response, a `K8sError`, or an exception that is let through. -/
theorem receive_cases (answer : Except PyException Bytes) :
    (∃ payload, answer = .ok payload ∧ receive answer = .ok payload) ∨
      (∃ error, answer = .error error ∧ isApiError error = true ∧
        receive answer = .error k8sError) ∨
      ∃ error, answer = .error error ∧ isApiError error = false ∧
        error ≠ k8sError ∧ receive answer = .error error := by
  cases answer with
  | ok payload => exact Or.inl ⟨payload, rfl, rfl⟩
  | error error =>
      cases error with
      | httpError | urlError => exact Or.inr (Or.inl ⟨_, rfl, rfl, rfl⟩)
      | other name =>
          by_cases same : name = "K8sError"
          · subst same
            exact Or.inr (Or.inl ⟨_, rfl, by decide, rfl⟩)
          · have different : PyException.other name ≠ k8sError := by
              intro impossible
              exact same (PyException.other.inj impossible)
            refine Or.inr (Or.inr ⟨_, rfl, ?_, different, rfl⟩)
            simp [isApiError, different]
      | _ => exact Or.inr (Or.inr ⟨_, rfl, rfl, nofun, rfl⟩)

/-- A document, a `K8sError`, or an exception that is let through. -/
theorem receiveJson_cases
    (foreign : ∀ data, builtins.loadsBytes data ≠ .error k8sError)
    (answer : Except PyException Bytes) :
    (∃ payload document, answer = .ok payload ∧
        builtins.loadsBytes (orEmptyObject payload) = .ok document ∧
        receiveJson builtins answer = .ok document) ∨
      (∃ error, answer = .error error ∧ isApiError error = true ∧
        receiveJson builtins answer = .error k8sError) ∨
      ∃ error, receiveJson builtins answer = .error error ∧ error ≠ k8sError ∧
        (Escapes answer ∨ Garbled builtins answer) := by
  unfold receiveJson
  rcases receive_cases answer with
    ⟨payload, rfl, received⟩ | ⟨error, rfl, caught, received⟩ |
      ⟨error, rfl, escapes, different, received⟩
  · rw [received]
    cases loaded : builtins.loadsBytes (orEmptyObject payload) with
    | ok document => exact Or.inl ⟨payload, document, rfl, loaded, loaded⟩
    | error error =>
        refine Or.inr (Or.inr ⟨error, loaded, ?_, Or.inr
          ⟨payload, error, rfl, loaded⟩⟩)
        intro same
        exact foreign _ (same ▸ loaded)
  · rw [received]
    exact Or.inr (Or.inl ⟨error, rfl, caught, rfl⟩)
  · rw [received]
    exact Or.inr (Or.inr ⟨error, rfl, different, Or.inl ⟨error, rfl, escapes⟩⟩)

section Loaded

variable {payload : Bytes} {document : Json}
  (loaded : builtins.loadsBytes (orEmptyObject payload) = .ok document)

include loaded

theorem not_garbled_loaded : ¬ Garbled builtins (.ok payload) := by
  intro garbled
  rcases garbled with ⟨_, _, same, failed⟩
  cases same
  cases loaded.symm.trans failed

theorem misshapen_loaded_iff {readable : Json → Prop} :
    Misshapen builtins readable (.ok payload) ↔ ¬ readable document := by
  constructor
  · intro misshapen
    rcases misshapen with ⟨_, _, same, other, unreadable⟩
    cases same
    cases loaded.symm.trans other
    exact unreadable
  · exact fun unreadable => ⟨payload, document, rfl, loaded, unreadable⟩

theorem reportsSuccess_loaded_iff :
    ReportsSuccess builtins (.ok payload) ↔ ∃ fields status,
      document = .obj fields ∧
      Json.getOr fields "status" (.obj []) = .obj status ∧
      (Json.get status "succeeded").truthy = true := by
  constructor
  · intro reports
    rcases reports with ⟨_, fields, status, same, other, found, succeeded⟩
    cases same
    cases loaded.symm.trans other
    exact ⟨fields, status, rfl, found, succeeded⟩
  · intro reports
    rcases reports with ⟨fields, status, rfl, found, succeeded⟩
    exact ⟨payload, fields, status, rfl, loaded, found, succeeded⟩

end Loaded

/-- A `try` that catches `K8sError`. -/
theorem follows_orOnK8sError {α : Type} {default : α} {program : Dispatch α}
    {post caught : JobLedger → Except PyException α → Prop}
    (follows : Program.Follows (jobLedger builtins) post start program)
    (returned : ∀ reached value, post reached (.ok value) →
      caught reached (.ok value))
    (rescued : ∀ reached, post reached (.error k8sError) →
      caught reached (.ok default))
    (raised : ∀ reached error, error ≠ k8sError → post reached (.error error) →
      caught reached (.error error)) :
    Program.Follows (jobLedger builtins) caught start
      (orOnK8sError default program) := by
  have attempted : Program.Follows (jobLedger builtins)
      (fun reached outcome => ∃ result, outcome = .ok result ∧
        post reached result) start program.attempt :=
    follows.attempt fun _ result reached => ⟨result, rfl, reached⟩
  apply attempted.bind
  · intro reached outcome kept
    rcases kept with ⟨_, same, kept⟩
    cases same
    cases outcome with
    | ok value => exact returned reached value kept
    | error error =>
        dsimp only
        split
        · rename_i same
          subst same
          exact rescued reached kept
        · rename_i different
          exact raised reached error different kept
  · intro reached error kept
    rcases kept with ⟨_, impossible, _⟩
    cases impossible

/-- A `K8sError` leaves the ledger clean, any other exception is unforeseen. -/
def Raised (changes : List DispatchEvent) (reached : JobLedger) (error : PyException) :
    Prop :=
  (error = k8sError → ∃ seen, Clean seen changes reached) ∧
    (error ≠ k8sError → Upset changes reached)

theorem Clean.raised (clean : Clean seen changes start) :
    Raised changes start k8sError :=
  ⟨fun _ => ⟨seen, clean⟩, fun impossible => absurd rfl impossible⟩

theorem Upset.raised {error : PyException} (upset : Upset changes start)
    (different : error ≠ k8sError) : Raised changes start error :=
  ⟨fun same => absurd same different, fun _ => upset⟩

/-! ## Pods -/

/-- The pods are listed: the ledger is clean when they can be read. -/
def Listed (seen : Prop) (changes : List DispatchEvent) (reached : JobLedger) :
    Except PyException Json → Prop
  | .ok pods =>
      ((seen → NamesPod pods) ∧ (¬ seen → ReportsExit pods) →
        Clean seen changes reached) ∧
      (¬ ((seen → NamesPod pods) ∧ (¬ seen → ReportsExit pods)) →
        Upset changes reached)
  | .error error => Raised changes reached error

theorem listed_listPods
    (foreign : ∀ data, builtins.loadsBytes data ≠ .error k8sError)
    (clean : Clean seen changes start) (selector : String) :
    Program.Follows (jobLedger builtins) (Listed seen changes) start
      (listPods builtins selector) := by
  apply (follows_requestJson (.listPods selector)).bind
  · intro reached out asked
    rcases asked with ⟨answer, rfl, received⟩
    rcases receiveJson_cases foreign answer with
      ⟨payload, document, rfl, loaded, same⟩ | ⟨_, _, _, failed⟩ | ⟨_, failed, _⟩
    · cases received.trans same
      have shape : Unforeseen builtins seen
          ⟨.urlopen (.listPods selector), .ok payload⟩ ↔
          ¬ ReadablePods seen out := by
        change Escapes (.ok payload) ∨ Garbled builtins (.ok payload) ∨
          Misshapen builtins (ReadablePods seen) (.ok payload) ↔ _
        simp only [not_escapes_ok, not_garbled_loaded loaded,
          misshapen_loaded_iff loaded, false_or]
      cases out with
      | obj fields =>
          simp only [ReadablePods, Json.obj.injEq, exists_eq_left'] at shape
          constructor
          · intro readable
            exact clean.quiet rfl id fun unforeseen =>
              shape.mp unforeseen readable
          · intro unreadable
            exact clean.upset rfl (shape.mpr unreadable)
      | null | bool | int | float | str | arr =>
          have unforeseen := shape.mpr (by simp [ReadablePods])
          exact (clean.upset rfl unforeseen).raised nofun
    · cases received.trans failed
    · cases received.trans failed
  · intro reached error asked
    rcases asked with ⟨answer, rfl, received⟩
    rcases receiveJson_cases foreign answer with
      ⟨payload, document, rfl, loaded, same⟩ | ⟨_, rfl, caught, failed⟩ |
        ⟨_, failed, different, unforeseen⟩
    · cases received.trans same
    · cases received.trans failed
      apply Clean.raised
      exact clean.quiet rfl id (by simp [Unforeseen, caught])
    · cases received.trans failed
      apply Upset.raised _ different
      exact clean.upset rfl (unforeseen.imp id Or.inl)

/-- Where the request for a log can end: whether it can be classified has shown
by then. -/
def Logged (builtins : Builtins) (changes : List DispatchEvent) (reached : JobLedger)
    (log : String) : Prop :=
  (Reads (classifyLog builtins log) → ∃ seen, Clean seen changes reached) ∧
    (¬ Reads (classifyLog builtins log) → Upset changes reached)

theorem reads_classifyLog_iff (log : String) :
    Reads (classifyLog builtins log) ↔
      ¬ ∃ error, builtins.loads (if log = "" then "\x7b\x7d" else log) =
        .error error ∧ error ≠ .valueError := by
  unfold classifyLog
  generalize builtins.loads _ = loaded
  cases loaded with
  | error error => cases error <;> simp
  | ok document =>
      cases document with
      | obj data =>
          dsimp only
          split
          · simp
          · split <;> simp
      | _ => simp

theorem logged_readPodLog (clean : Clean seen changes start) (name : Json) :
    Program.Follows (jobLedger builtins)
      (fun reached result =>
        match result with
        | .ok log => Logged builtins changes reached log
        | .error error => Raised changes reached error)
      start (readPodLog name) := by
  apply (follows_request (.readPodLog name limitBytes)).bind
  · intro reached payload asked
    rcases asked with ⟨answer, rfl, received⟩
    rcases receive_cases answer with
      ⟨payload, rfl, same⟩ | ⟨_, _, _, failed⟩ | ⟨_, _, _, _, failed⟩
    · cases received.trans same
      have chokes : ChokingLog builtins (.ok payload) ↔
          ¬ Reads (classifyLog builtins (Utf8.decodeReplace payload)) := by
        rw [reads_classifyLog_iff, not_not]
        simp [ChokingLog]
      have unforeseen : Unforeseen builtins seen
          ⟨.urlopen (.readPodLog name limitBytes), .ok payload⟩ ↔
          ¬ Reads (classifyLog builtins (Utf8.decodeReplace payload)) := by
        rw [← chokes]
        change Escapes (.ok payload) ∨ ChokingLog builtins (.ok payload) ↔ _
        simp only [not_escapes_ok, false_or]
      constructor
      · intro reads
        exact ⟨seen, clean.quiet rfl id fun upset =>
          unforeseen.mp upset reads⟩
      · intro unread
        exact clean.upset rfl (unforeseen.mpr unread)
    · cases received.trans failed
    · cases received.trans failed
  · intro reached error asked
    rcases asked with ⟨answer, rfl, received⟩
    rcases receive_cases answer with
      ⟨payload, rfl, same⟩ | ⟨_, rfl, caught, failed⟩ |
        ⟨_, rfl, escapes, different, failed⟩
    · cases received.trans same
    · cases received.trans failed
      apply Clean.raised
      exact clean.quiet rfl id (by simp [Unforeseen, caught])
    · cases received.trans failed
      apply Upset.raised _ different
      exact clean.upset rfl (Or.inl ⟨_, rfl, escapes⟩)

theorem settled_readPodResult
    (foreign : ∀ data, builtins.loadsBytes data ≠ .error k8sError)
    (clean : Clean True changes start) (selector : String) :
    Program.Follows (jobLedger builtins) (Settled changes) start
      (readPodResult builtins selector) := by
  -- What the `try` ends in: no pod, a log, or an exception.
  have tried : Program.Follows (jobLedger builtins)
      (fun reached result =>
        match result with
        | .ok none => ∃ seen, Clean seen changes reached
        | .ok (some log) => Logged builtins changes reached log
        | .error error => Raised changes reached error) start
      (do
        let pods ← listPods builtins selector
        if !pods.truthy then return none
        else
          let name ← Program.ofExcept (podName pods)
          let log ← readPodLog name
          return some log) := by
    apply (listed_listPods foreign clean selector).bind
    · intro reached pods listed
      cases some : pods.truthy with
      | false =>
          simp only [Bool.not_false, if_true]
          exact ⟨True, listed.1 ⟨fun _ => Or.inl some, fun absent => absurd trivial absent⟩⟩
      | true =>
          simp only [Bool.not_true, Bool.false_eq_true, if_false]
          have reads := reads_podName_iff some
          cases named : podName pods with
          | error error =>
              rw [named] at reads
              have unnamed : ¬ NamesPod pods := fun named =>
                not_reads_error error (reads.mpr named)
              have upset := listed.2 fun readable =>
                unnamed (readable.1 trivial)
              exact upset.raised fun same => plain_podName pods (same ▸ named)
          | ok name =>
              rw [named] at reads
              have clean := listed.1 ⟨fun _ => reads.mp (reads_ok name),
                fun absent => absurd trivial absent⟩
              apply (logged_readPodLog clean name).bind
              · exact fun _ _ logged => logged
              · exact fun _ _ raised => raised
    · exact fun _ _ raised => raised
  have caught : Program.Follows (jobLedger builtins)
      (fun reached result =>
        match result with
        | .ok none => ∃ seen, Clean seen changes reached
        | .ok (some log) => Logged builtins changes reached log
        | .error _ => Upset changes reached) start
      (orOnK8sError none do
        let pods ← listPods builtins selector
        if !pods.truthy then return none
        else
          let name ← Program.ofExcept (podName pods)
          let log ← readPodLog name
          return some log) :=
    follows_orOnK8sError tried (fun _ log kept => by cases log <;> exact kept)
      (fun _ raised => raised.1 rfl) fun _ _ different raised =>
      raised.2 different
  apply caught.bind
  · intro reached log logged
    cases log with
    | none => exact logged
    | some log =>
        dsimp only [Logged] at logged ⊢
        cases read : classifyLog builtins log with
        | ok outcome => exact logged.1 (read ▸ reads_ok outcome)
        | error error => exact logged.2 (read ▸ not_reads_error error)
  · exact fun _ _ upset => upset

theorem settled_podExitCode
    (foreign : ∀ data, builtins.loadsBytes data ≠ .error k8sError)
    (clean : Clean False changes start) (selector : String) :
    Program.Follows (jobLedger builtins) (Settled changes) start
      (podExitCode builtins selector) := by
  have tried : Program.Follows (jobLedger builtins)
      (fun reached result =>
        match result with
        | .ok _ => ∃ seen, Clean seen changes reached
        | .error error => Raised changes reached error) start
      (do
        let pods ← listPods builtins selector
        if !pods.truthy then return .null
        else Program.ofExcept (exitCodeOf pods)) := by
    apply (listed_listPods foreign clean selector).bind
    · intro reached pods listed
      cases some : pods.truthy with
      | false =>
          simp only [Bool.not_false, if_true]
          exact ⟨False, listed.1 ⟨False.elim, fun _ => Or.inl some⟩⟩
      | true =>
          simp only [Bool.not_true, Bool.false_eq_true, if_false]
          have reads := reads_exitCodeOf_iff some
          cases read : exitCodeOf pods with
          | error error =>
              rw [read] at reads
              have unread : ¬ ReportsExit pods := fun reports =>
                not_reads_error error (reads.mpr reports)
              have upset := listed.2 fun readable => unread (readable.2 id)
              exact upset.raised fun same => plain_exitCodeOf pods (same ▸ read)
          | ok exitCode =>
              rw [read] at reads
              exact ⟨False, listed.1
                ⟨False.elim, fun _ => reads.mp (reads_ok exitCode)⟩⟩
    · exact fun _ _ raised => raised
  exact follows_orOnK8sError tried (fun _ _ kept => kept)
    (fun _ raised => raised.1 rfl) fun _ _ different raised => raised.2 different

/-! ## The loop -/

theorem readableJob_iff {fields status : List (String × Json)}
    (found : Json.getOr fields "status" (.obj []) = .obj status) :
    ReadableJob (.obj fields) ↔ ReadableStatus status := by
  simp [ReadableJob, found]

theorem not_readableJob {fields : List (String × Json)}
    (other : ¬ IsDict (Json.getOr fields "status" (.obj []))) :
    ¬ ReadableJob (.obj fields) := by
  intro readable
  rcases readable with ⟨_, status, same, found, _⟩
  cases same
  exact other ⟨status, found⟩

/-- A job has been looked at that the API server has described. -/
theorem unforeseen_getJob_iff {payload : Bytes} {job : Json} {name : String}
    (loaded : builtins.loadsBytes (orEmptyObject payload) = .ok job) :
    Unforeseen builtins seen ⟨.urlopen (.getJob name), .ok payload⟩ ↔
      ¬ ReadableJob job := by
  change Escapes (.ok payload) ∨ Garbled builtins (.ok payload) ∨
    Misshapen builtins ReadableJob (.ok payload) ↔ _
  simp only [not_escapes_ok, not_garbled_loaded loaded,
    misshapen_loaded_iff loaded, false_or]

theorem seesSuccess_getJob_iff {payload : Bytes} {name : String}
    {fields status : List (String × Json)}
    (loaded : builtins.loadsBytes (orEmptyObject payload) = .ok (.obj fields))
    (found : Json.getOr fields "status" (.obj []) = .obj status) :
    SeesSuccess builtins ⟨.urlopen (.getJob name), .ok payload⟩ ↔
      (Json.get status "succeeded").truthy = true := by
  change ReportsSuccess builtins (.ok payload) ↔ _
  rw [reportsSuccess_loaded_iff loaded]
  simp [found]

/-- The clock and the sleep change nothing. -/
theorem settled_tick {α : Type} {call : DispatcherCall}
    {rest : DispatcherCalls.Answer call → Dispatch α}
    (clean : Clean seen changes start)
    (local' : ∀ request, call ≠ .urlopen request)
    (answered : ∀ value reached, Clean seen changes reached →
      Program.Follows (jobLedger builtins) (Settled changes) reached
        (rest value)) :
    Program.Follows (jobLedger builtins) (Settled changes) start
      (.call call fun answer => (Program.ofExcept answer).bind rest) := by
  apply Program.Follows.callThen trivial
  · intro value _
    apply answered
    cases call with
    | urlopen request => exact absurd rfl (local' request)
    | monotonic | sleep => exact clean.quiet rfl id id
  · intro error regular
    cases call with
    | urlopen request => exact absurd rfl (local' request)
    | monotonic | sleep => cases regular

theorem settled_poll
    (foreign : ∀ data, builtins.loadsBytes data ≠ .error k8sError)
    (clean : Clean False changes start) (cfg : JobConfig)
    (name selector : String) (deadline : Rat) (polls : Nat) :
    Program.Follows (jobLedger builtins) (Settled changes) start
      (poll builtins cfg name selector deadline polls) := by
  induction polls generalizing start with
  | zero => exact ⟨False, clean⟩
  | succ polls ih =>
      have looked : Program.Follows (jobLedger builtins)
          (fun reached outcome => ∃ answer : Except PyException Bytes,
            reached = (jobLedger builtins).advance start
              ⟨.urlopen (.getJob name), answer⟩ ∧
            outcome = .ok (receiveJson builtins answer))
          start (getJob builtins name).attempt := by
        apply (follows_requestJson (.getJob name)).attempt
        intro reached result asked
        rcases asked with ⟨answer, rfl, rfl⟩
        exact ⟨answer, rfl, rfl⟩
      apply looked.bind
      · intro reached outcome asked
        rcases asked with ⟨answer, rfl, same⟩
        cases same
        rcases receiveJson_cases foreign answer with
          ⟨payload, job, rfl, loaded, received⟩ | ⟨_, rfl, caught, received⟩ |
            ⟨error, received, different, unforeseen⟩
        · rw [received]
          have shape := @unforeseen_getJob_iff builtins False _ _ name loaded
          cases job with
          | obj fields =>
              cases found : Json.getOr fields "status" (.obj []) with
              | obj status =>
                  rw [readableJob_iff found] at shape
                  have sees := @seesSuccess_getJob_iff builtins _ name _ _ loaded
                    found
                  simp only [getAttrOr, found, Json.getAttr, Program.ofExcept_ok,
                    Program.bind_eq, Program.ret_bind]
                  split
                  · rename_i succeeded
                    have clean := clean.success rfl (sees.mpr succeeded)
                      fun unforeseen => shape.mp unforeseen (Or.inl succeeded)
                    apply (settled_readPodResult foreign clean selector).bind
                    · exact fun _ _ kept => kept
                    · exact fun _ _ upset => upset
                  · rename_i running
                    have unseen : ¬ SeesSuccess builtins
                        ⟨.urlopen (.getJob name), .ok payload⟩ := fun seen =>
                      running (sees.mp seen)
                    split
                    · rename_i failed
                      have reads := reads_jobFailedReason_iff found
                      cases reason : jobFailedReason (.obj fields) with
                      | ok reason' =>
                          rw [reason] at reads
                          have readable := reads.mp (reads_ok reason')
                          have clean := clean.quiet rfl unseen fun upset =>
                            shape.mp upset (Or.inr (Or.inr readable))
                          apply (settled_podExitCode foreign clean selector).bind
                          · exact fun _ _ kept => kept
                          · exact fun _ _ upset => upset
                      | error error =>
                          rw [reason] at reads
                          refine clean.upset rfl (shape.mpr fun readable => ?_)
                          rcases readable with succeeded | quiet | readable
                          · exact running succeeded
                          · exact Bool.noConfusion (quiet.symm.trans failed)
                          · exact not_reads_error error (reads.mpr readable)
                    · rename_i unfailed
                      have readable : ReadableStatus status :=
                        Or.inr (Or.inl (Bool.eq_false_iff.mpr unfailed))
                      have clean := clean.quiet rfl unseen fun upset =>
                        shape.mp upset readable
                      apply settled_tick clean
                      · intro _ impossible
                        cases impossible
                      · intro now _ clean
                        split
                        · exact ⟨False, clean⟩
                        · apply settled_tick clean
                          · intro _ impossible
                            cases impossible
                          · exact fun _ _ clean => ih clean
              | null | bool | int | float | str | arr =>
                  have unreadable : ¬ ReadableJob (.obj fields) :=
                    not_readableJob (by simp [found, IsDict])
                  simp only [getAttrOr, found, Json.getAttr, Program.ofExcept_ok,
                    Program.ofExcept_error, Program.bind_eq, Program.ret_bind,
                    Program.raise_bind]
                  exact clean.upset rfl (shape.mpr unreadable)
          | null | bool | int | float | str | arr =>
              exact clean.upset rfl (shape.mpr (by simp [ReadableJob]))
        · rw [received]
          exact ⟨False, clean.quiet rfl (by simp [SeesSuccess])
            (by simp [Unforeseen, caught])⟩
        · rw [received]
          dsimp only
          rw [if_neg different]
          exact clean.upset rfl (unforeseen.imp id Or.inl)
      · intro reached error asked
        rcases asked with ⟨_, _, impossible⟩
        cases impossible

/-! ## Runs -/

/-- The Job is asked to be deleted, whatever comes of it. -/
theorem follows_reap
    (foreign : ∀ data, builtins.loadsBytes data ≠ .error k8sError)
    (name : String) :
    Program.Follows (jobLedger builtins)
      (fun reached result => (∃ answer : Except PyException Bytes,
          reached.changes =
            start.changes ++ [⟨.urlopen (.deleteJob name), answer⟩]) ∧
        match result with
        | .ok _ => (reached.upset ↔ start.upset)
        | .error _ => reached.upset)
      start (reap builtins name) := by
  have deleted : Program.Follows (jobLedger builtins)
      (fun reached result => ∃ answer : Except PyException Bytes,
        reached = (jobLedger builtins).advance start
          ⟨.urlopen (.deleteJob name), answer⟩ ∧
        result = (receiveJson builtins answer).map fun _ => ())
      start (deleteJob builtins name) := by
    apply (follows_requestJson (.deleteJob name)).bind
    · intro reached document asked
      rcases asked with ⟨answer, rfl, received⟩
      exact ⟨answer, rfl, by rw [← received]; rfl⟩
    · intro reached error asked
      rcases asked with ⟨answer, rfl, received⟩
      exact ⟨answer, rfl, by rw [← received]; rfl⟩
  apply follows_orOnK8sError deleted
  · intro reached _ asked
    rcases asked with ⟨answer, rfl, received⟩
    rcases receiveJson_cases foreign answer with
      ⟨payload, document, rfl, loaded, _⟩ | ⟨_, _, _, failed⟩ | ⟨_, failed, _⟩
    · refine ⟨⟨_, rfl⟩, or_iff_left ?_⟩
      change ¬ (Escapes (.ok payload) ∨ Garbled builtins (.ok payload))
      simp [not_garbled_loaded loaded]
    · rw [failed] at received
      cases received
    · rw [failed] at received
      cases received
  · intro reached asked
    rcases asked with ⟨answer, rfl, received⟩
    rcases receiveJson_cases foreign answer with
      ⟨_, _, _, _, succeeded⟩ | ⟨error, rfl, caught, _⟩ | ⟨_, failed, other, _⟩
    · rw [succeeded] at received
      cases received
    · refine ⟨⟨_, rfl⟩, or_iff_left ?_⟩
      simp [Unforeseen, caught]
    · rw [failed] at received
      cases received
      exact absurd rfl other
  · intro reached error different asked
    rcases asked with ⟨answer, rfl, received⟩
    rcases receiveJson_cases foreign answer with
      ⟨_, _, _, _, succeeded⟩ | ⟨_, _, _, failed⟩ | ⟨_, _, _, unforeseen⟩
    · rw [succeeded] at received
      cases received
    · rw [failed] at received
      cases received
      exact absurd rfl different
    · exact ⟨⟨_, rfl⟩, Or.inr unforeseen⟩

/-- How a run creates a Job and deletes it: a create request that is answered is
followed by a delete request, unless the answer is unforeseen. -/
inductive JobLife (manifest : Json) (name : String) (upset : Prop) :
    List DispatchEvent → Prop where
  | refused (error : PyException) : isApiError error = true → ¬ upset →
      JobLife manifest name upset [⟨.urlopen (.createJob manifest), .error error⟩]
  | unforeseen (answer : Except PyException Bytes) : upset →
      JobLife manifest name upset [⟨.urlopen (.createJob manifest), answer⟩]
  | reaped (payload : Bytes) (answer : Except PyException Bytes) :
      JobLife manifest name upset [⟨.urlopen (.createJob manifest), .ok payload⟩,
        ⟨.urlopen (.deleteJob name), answer⟩]

/-- Where a run can end. -/
structure Ending (manifest : Json) (name : String) (reached : JobLedger)
    (result : Except PyException (Option JobOutcome)) : Prop where
  raised : reached.upset ↔ ∃ error, result = .error error
  life : JobLife manifest name reached.upset reached.changes

theorem ending_await
    (foreign : ∀ data, builtins.loadsBytes data ≠ .error k8sError)
    {manifest : Json} {payload : Bytes}
    (clean : Clean False [⟨.urlopen (.createJob manifest), .ok payload⟩] start)
    (cfg : JobConfig) (polls : Nat) (runId : String) :
    Program.Follows (jobLedger builtins) (Ending manifest (jobName builtins runId))
      start (await builtins cfg polls runId) := by
  have worked : Program.Follows (jobLedger builtins)
      (Settled [⟨.urlopen (.createJob manifest), .ok payload⟩]) start
      (do
        let started ← monotonic
        poll builtins cfg (jobName builtins runId) (runSelector runId)
          (started + cfg.overallTimeout) polls) := by
    apply settled_tick clean
    · intro _ impossible
      cases impossible
    · exact fun _ _ clean => settled_poll foreign clean _ _ _ _ _
  apply worked.tryFinally
  intro reached result settled
  apply (follows_reap foreign (jobName builtins runId)).mono
  intro final outcome reaped
  rcases reaped with ⟨⟨answer, changed⟩, told⟩
  have life : JobLife manifest (jobName builtins runId) final.upset
      final.changes := by
    have created : reached.changes =
        [⟨.urlopen (.createJob manifest), .ok payload⟩] := by
      cases result with
      | ok value => exact settled.choose_spec.changes_eq
      | error error => exact settled.changes_eq
    rw [changed, created]
    exact .reaped payload answer
  cases outcome with
  | error error => exact ⟨iff_of_true told ⟨error, rfl⟩, life⟩
  | ok value =>
      refine ⟨told.trans ?_, life⟩
      cases result with
      | ok value =>
          refine iff_of_false settled.choose_spec.calm fun raised => ?_
          rcases raised with ⟨_, impossible⟩
          cases impossible
      | error error => exact iff_of_true settled.upset ⟨error, rfl⟩

theorem ending_runToolJob
    (foreign : ∀ data, builtins.loadsBytes data ≠ .error k8sError)
    (cfg : JobConfig) (polls : Nat) (runId tenantId tool : String)
    (arguments : List (String × Json)) :
    Program.Follows (jobLedger builtins)
      (Ending (buildJobManifest builtins cfg runId tenantId tool arguments)
        (jobName builtins runId)) .blank
      (runToolJob builtins cfg polls runId tenantId tool arguments) := by
  have created : Program.Follows (jobLedger builtins)
      (fun reached outcome => ∃ answer : Except PyException Bytes,
        reached = (jobLedger builtins).advance .blank
          ⟨.urlopen (.createJob (buildJobManifest builtins cfg runId tenantId
            tool arguments)), answer⟩ ∧
        outcome = .ok (receiveJson builtins answer))
      .blank (createJob builtins (buildJobManifest builtins cfg runId tenantId
        tool arguments)).attempt := by
    apply (follows_requestJson _).attempt
    intro reached result asked
    rcases asked with ⟨answer, rfl, rfl⟩
    exact ⟨answer, rfl, rfl⟩
  rw [runToolJob]
  generalize buildJobManifest builtins cfg runId tenantId tool arguments =
    manifest at created ⊢
  apply created.bind
  · intro reached outcome asked
    rcases asked with ⟨answer, rfl, same⟩
    cases same
    rcases receiveJson_cases foreign answer with
      ⟨payload, document, rfl, loaded, received⟩ | ⟨error, rfl, caught, received⟩ |
        ⟨error, received, different, unforeseen⟩
    · rw [received]
      apply ending_await foreign
      constructor
      · simp [jobLedger, JobLedger.blank, SeesSuccess]
      · rfl
      · change ¬ (False ∨ Escapes (.ok payload) ∨ Garbled builtins (.ok payload))
        simp [not_garbled_loaded loaded]
    · rw [received]
      have calm : ¬ ((jobLedger builtins).advance .blank
          ⟨.urlopen (.createJob manifest), .error error⟩).upset := by
        change ¬ (False ∨ Escapes (.error error) ∨
          Garbled builtins (.error error))
        simp [caught]
      refine ⟨iff_of_false calm ?_, .refused error caught calm⟩
      intro raised
      rcases raised with ⟨_, impossible⟩
      cases impossible
    · rw [received]
      dsimp only
      rw [if_neg different]
      -- The request has been let through, or a response has come.
      exact ⟨iff_of_true (Or.inr unforeseen) ⟨error, rfl⟩,
        .unforeseen answer (Or.inr unforeseen)⟩
  · intro reached error asked
    rcases asked with ⟨_, _, impossible⟩
    cases impossible

end JobLedger

end PrivateAiWorkspace.Dispatcher
