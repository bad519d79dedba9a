import PrivateAiWorkspace.ModelInstaller.Reconciler

/-!
# Effects of one tick of the reconciler

The second enforcement point: whatever the control plane sends and wherever a
client fails, a tick touches EKS and Kubernetes for an allowed repository of an
enabled installer only, and concerns one request.
-/

namespace PrivateAiWorkspace.ModelInstaller.Reconciler

open Effects Python
open ControlPlane (Status)

variable {cfg : InstallerConfig} {events : List InstallerEvent}
  {result : Except PyException Bool}

/-- A call of the EKS or the Kubernetes client. -/
def IsInfrastructure : InstallerCall → Prop
  | .listPending => False
  | .setStatus _ _ _ => False
  | .scaleNodegroup _ _ _ => True
  | .getModel _ _ => True
  | .setModel _ _ _ _ => True
  | .waitReady _ _ _ => True

/-- The tick took a request with this id and repository off the head of the
pending list it read. -/
def Offered (events : List InstallerEvent) (rid repo : Json) : Prop :=
  ∃ pending, events.head? = some (listed pending) ∧
    headRequest pending = .ok (rid, repo)

/-- The effects of a tick are those of one request id and one repository: EKS and
Kubernetes are called only when the installer is enabled and the request at the
head of the pending list names the repository, which passes both checks; every
model written is the repository or one read earlier in the tick; every status
sent is for the id. -/
structure Confined (cfg : InstallerConfig) (events : List InstallerEvent)
    (rid : Json) (repo : String) : Prop where
  infrastructure : ∀ event ∈ events, IsInfrastructure event.call →
    cfg.enabled = true ∧ Offered events rid (.str repo) ∧
      matchesRepo repo = true ∧ isRepoAllowed cfg.allowlist repo = true
  written : ∀ before event after, events = before ++ event :: after →
    ∀ vllmNamespace configmap deployment value,
      event.call =
        InstallerCall.setModel vllmNamespace configmap deployment value →
      value = repo ∨ read cfg (.ok value) ∈ before
  reported : ∀ event ∈ events, ∀ id status errorClass,
    event.call = InstallerCall.setStatus id status errorClass → id = rid

/-- The repository of an offered request, when it is text. -/
def repoText : Json → String
  | .str repo => repo
  | _ => ""

/-- The installer is enabled and the offered repository passes both checks. -/
def Authorized (cfg : InstallerConfig) (events : List InstallerEvent)
    (rid : Json) (repo : String) : Prop :=
  cfg.enabled = true ∧ Offered events rid (.str repo) ∧ Installable cfg repo

/-- What the tick has read and checked when it issues a call. -/
def Permitted (cfg : InstallerConfig) (past : List InstallerEvent) :
    InstallerCall → Prop
  | .listPending => True
  | .setStatus rid _ _ => ∃ repo, Offered past rid repo
  | .scaleNodegroup _ _ _ => ∃ rid repo, Authorized cfg past rid repo
  | .getModel _ _ => ∃ rid repo, Authorized cfg past rid repo
  | .setModel _ _ _ value =>
      ∃ rid repo, Authorized cfg past rid repo ∧
        (value = repo ∨ read cfg (.ok value) ∈ past)
  | .waitReady _ _ _ => ∃ rid repo, Authorized cfg past rid repo

section Past

variable {past : List InstallerEvent} {rid repo : Json}

theorem Offered.append (offered : Offered past rid repo)
    (more : List InstallerEvent) : Offered (past ++ more) rid repo := by
  rcases offered with ⟨pending, first, head⟩
  refine ⟨pending, ?_, head⟩
  rw [List.head?_append, first]
  rfl

/-- A tick is offered one request. -/
theorem Offered.unique {otherRid otherRepo : Json}
    (offered : Offered past rid repo)
    (other : Offered past otherRid otherRepo) :
    rid = otherRid ∧ repo = otherRepo := by
  rcases offered with ⟨pending, first, head⟩
  rcases other with ⟨again, same, otherHead⟩
  rw [first, Option.some.injEq] at same
  cases same
  rw [head] at otherHead
  cases otherHead
  exact ⟨rfl, rfl⟩

theorem Authorized.append {name : String}
    (authorized : Authorized cfg past rid name) (more : List InstallerEvent) :
    Authorized cfg (past ++ more) rid name :=
  ⟨authorized.1, authorized.2.1.append more, authorized.2.2⟩

end Past

/-! ## Every call is permitted -/

section Guards

variable {past : List InstallerEvent} {rid : Json} {repo : String}

/-- The last call of a tick reports the offered request. -/
theorem guarded_finish {value : Json} (offered : Offered past rid value)
    (status : Status) (errorClass : String) :
    Program.Guarded (Permitted cfg) past
      ((setStatus rid status errorClass).bind fun _ => .ret true) := by
  apply Program.Guarded.callThen ⟨value, offered⟩
  intro done
  trivial

/-- A rollback writes the model that was read. -/
theorem guarded_rollback (authorized : Authorized cfg past rid repo)
    {previous : Except PyException String} (seen : read cfg previous ∈ past)
    (status : Status) (errorClass : String) :
    Program.Guarded (Permitted cfg) past
      ((rollback cfg (previousModel previous) repo).bind fun _ =>
        (setStatus rid status errorClass).bind fun _ => .ret true) := by
  simp only [rollback]
  split
  · exact guarded_finish authorized.2.1 status errorClass
  next restorable =>
    cases previous with
    | error error => exact absurd (Or.inl rfl) restorable
    | ok previous =>
        refine ⟨⟨rid, repo, authorized, Or.inr seen⟩, fun answer => ?_⟩
        have later : Program.Guarded (Permitted cfg)
            (past ++ [wrote cfg previous answer])
            ((setStatus rid status errorClass).bind fun _ => .ret true) :=
          guarded_finish (authorized.2.1.append _) status errorClass
        cases answer with
        | ok value => exact later
        | error error => exact later

theorem guarded_applyModel (authorized : Authorized cfg past rid repo)
    {previous : Except PyException String} (seen : read cfg previous ∈ past) :
    Program.Guarded (Permitted cfg) past
      (applyModel cfg rid repo (previousModel previous)) := by
  apply Program.Guarded.attemptThen ⟨rid, repo, authorized, Or.inl rfl⟩
  intro applying
  have authorized := authorized.append [wrote cfg repo applying]
  have seen := List.mem_append_left [wrote cfg repo applying] seen
  cases applying with
  | error error => exact guarded_finish authorized.2.1 _ _
  | ok applied =>
      apply Program.Guarded.attemptThen ⟨rid, repo, authorized⟩
      intro waiting
      have authorized := authorized.append [waited cfg waiting]
      have seen := List.mem_append_left [waited cfg waiting] seen
      cases waiting with
      | error error => exact guarded_rollback authorized seen _ _
      | ok ready =>
          cases ready with
          | false => exact guarded_rollback authorized seen _ _
          | true => exact guarded_finish authorized.2.1 _ _

theorem guarded_install (authorized : Authorized cfg past rid repo) :
    Program.Guarded (Permitted cfg) past (install cfg rid repo) := by
  apply Program.Guarded.callThen ⟨_, authorized.2.1⟩
  intro marked
  have authorized := authorized.append [sent rid .installing "" (.ok marked)]
  apply Program.Guarded.attemptThen ⟨rid, repo, authorized⟩
  intro scaling
  have authorized := authorized.append [scaled cfg scaling]
  cases scaling with
  | error error => exact guarded_finish authorized.2.1 _ _
  | ok scaling =>
      refine ⟨⟨rid, repo, authorized⟩, fun previous => ?_⟩
      have rest := guarded_applyModel (authorized.append [read cfg previous])
        (List.mem_append_right _ List.mem_cons_self)
      cases previous with
      | error error => exact rest
      | ok previous => exact rest

theorem guarded_process {value : Json} (enabled : cfg.enabled = true)
    (offered : Offered past rid value) :
    Program.Guarded (Permitted cfg) past (process cfg rid value) := by
  cases value with
  | str repo =>
      simp only [process]
      split
      · exact guarded_finish offered _ _
      next matched =>
        split
        · exact guarded_finish offered _ _
        next listed =>
          exact guarded_install ⟨enabled, offered, by simpa using matched,
            by simpa using listed⟩
  | null | bool | int | float | arr | obj => exact guarded_finish offered _ _

/-- Every call of a tick is permitted by what the tick has read and checked. -/
theorem guarded_runOnce (cfg : InstallerConfig) :
    Program.Guarded (Permitted cfg) [] (runOnce cfg) := by
  simp only [runOnce]
  split
  · trivial
  next notDisabled =>
    apply Program.Guarded.callThen trivial
    intro pending
    split
    · trivial
    · cases head : headRequest pending with
      | error error => trivial
      | ok request =>
          exact guarded_process (by simpa using notDisabled)
            ⟨pending, rfl, head⟩

end Guards

/-! ## The effects of a run -/

section Run

variable (run : Program.Run (runOnce cfg) events result)

include run

theorem permitted_of_run {before after : List InstallerEvent}
    {event : InstallerEvent} (split : events = before ++ event :: after) :
    Permitted cfg before event.call := by
  simpa using (guarded_runOnce cfg).of_run run split

/-- A call of the EKS or Kubernetes client is authorized. -/
theorem authorized_of_run {event : InstallerEvent} (member : event ∈ events)
    (infrastructure : IsInfrastructure event.call) :
    ∃ rid repo, Authorized cfg events rid repo := by
  rcases List.append_of_mem member with ⟨before, after, split⟩
  have permitted := permitted_of_run run split
  rcases event with ⟨request, answer⟩
  rw [split]
  cases request with
  | listPending => exact infrastructure.elim
  | setStatus => exact infrastructure.elim
  | scaleNodegroup | getModel | waitReady =>
      rcases permitted with ⟨rid, repo, authorized⟩
      exact ⟨rid, repo, authorized.append _⟩
  | setModel =>
      rcases permitted with ⟨rid, repo, authorized, _⟩
      exact ⟨rid, repo, authorized.append _⟩

/-- A status is sent for a request that was offered. -/
theorem offered_of_run {event : InstallerEvent} (member : event ∈ events)
    {rid : Json} {status : Status} {errorClass : String}
    (reported : event.call = InstallerCall.setStatus rid status errorClass) :
    ∃ value, Offered events rid value := by
  rcases List.append_of_mem member with ⟨before, after, split⟩
  have permitted := permitted_of_run run split
  rw [reported] at permitted
  rcases permitted with ⟨value, offered⟩
  rw [split]
  exact ⟨value, offered.append _⟩

/-- A write is of the offered repository or of the model read before. -/
theorem written_of_run {rid : Json} {repo : String}
    (offered : Offered events rid (.str repo))
    {before after : List InstallerEvent} {event : InstallerEvent}
    (split : events = before ++ event :: after)
    {vllmNamespace configmap deployment value : String}
    (writes : event.call =
      InstallerCall.setModel vllmNamespace configmap deployment value) :
    value = repo ∨ read cfg (.ok value) ∈ before := by
  have permitted := permitted_of_run run split
  rw [writes] at permitted
  rcases permitted with ⟨otherRid, other, authorized, written⟩
  have same := offered.unique (split ▸ authorized.2.1.append (event :: after))
  cases same.2
  exact written

/-- The effects of every run of `run_once` are confined to one request and one
allowed repository. -/
theorem runOnce_confined : ∃ rid repo, Confined cfg events rid repo := by
  rcases Classical.em (∃ rid value, Offered events rid value) with
    ⟨rid, value, offered⟩ | nothing
  · refine ⟨rid, repoText value, ?_, ?_, ?_⟩
    · intro event member infrastructure
      rcases authorized_of_run run member infrastructure with
        ⟨otherRid, repo, enabled, other, installable⟩
      rcases offered.unique other with ⟨sameRid, sameRepo⟩
      cases sameRid
      cases sameRepo
      exact ⟨enabled, other, installable⟩
    · intro before event after split vllmNamespace configmap deployment written
        writes
      have infrastructure : IsInfrastructure event.call := by
        rw [writes]
        trivial
      rcases authorized_of_run run (split ▸ List.mem_append_right _
        List.mem_cons_self) infrastructure with ⟨otherRid, repo, authorized⟩
      rcases offered.unique authorized.2.1 with ⟨_, sameRepo⟩
      cases sameRepo
      exact written_of_run run authorized.2.1 split writes
    · intro event member id status errorClass reported
      rcases offered_of_run run member reported with ⟨_, other⟩
      exact (offered.unique other).1.symm
  · refine ⟨.null, "", ?_, ?_, ?_⟩
    · intro event member infrastructure
      rcases authorized_of_run run member infrastructure with
        ⟨rid, repo, authorized⟩
      exact absurd ⟨rid, _, authorized.2.1⟩ nothing
    · intro before event after split vllmNamespace configmap deployment value
        writes
      have permitted := permitted_of_run run split
      rw [writes] at permitted
      rcases permitted with ⟨rid, repo, authorized, _⟩
      exact absurd ⟨rid, _, split ▸ authorized.2.1.append _⟩ nothing
    · intro event member id status errorClass reported
      rcases offered_of_run run member reported with ⟨value, offered⟩
      exact absurd ⟨id, value, offered⟩ nothing

end Run

/-! ## A failed load -/

/-- Clients under which the offered model never becomes ready. -/
def neverReady (_ : Unit) :
    (request : Installer.Call) →
      Except PyException (Installer.Answer request) × Unit
  | .listPending =>
      (.ok (.arr [.obj
        [("id", .str "r1"), ("hf_repo_id", .str "Qwen/Qwen2.5")]]), ())
  | .setStatus _ _ _ => (.ok (), ())
  | .scaleNodegroup _ _ _ => (.ok (), ())
  | .getModel _ _ => (.ok "Qwen/Qwen2", ())
  | .setModel _ _ _ _ => (.ok (), ())
  | .waitReady _ _ _ => (.ok false, ())

theorem runOnce_confined_neverReady :
    ∃ rid repo, Confined qwenInstaller
      ((runOnce qwenInstaller).trace neverReady ()) rid repo :=
  runOnce_confined (Program.run_trace (runOnce qwenInstaller) ())

end PrivateAiWorkspace.ModelInstaller.Reconciler
