import Mathlib.Algebra.Order.Ring.Rat
import Mathlib.Tactic.FieldSimp
import Mathlib.Tactic.Linarith
import PrivateAiWorkspace.Dispatcher.JobLedger

/-!
# How long a Job is polled

Every turn of the polling loop sleeps, so a clock that moves with the sleeps runs
past the deadline after a number of turns that the configuration fixes.
-/

namespace PrivateAiWorkspace.Dispatcher

open Effects Python K8sClient

/-! ## The clock -/

/-- The clock never runs backwards, and a sleep moves it by as much as was asked
for. `now` is what it has got to at least. -/
def Advancing (now : Rat) : List DispatchEvent → Prop
  | [] => True
  | ⟨.monotonic, answer⟩ :: later =>
      match (answer : Except PyException Rat) with
      | .ok time => now ≤ time ∧ Advancing time later
      | .error _ => Advancing now later
  | ⟨.sleep seconds, _⟩ :: later => Advancing (now + seconds) later
  | ⟨.urlopen _, _⟩ :: later => Advancing now later

/-- What the clock has got to at least, whether it has behaved, and how often the
Job has been looked at. -/
structure PollLedger where
  now : Rat
  advancing : Prop
  polls : Nat

/-- Keep the ledger of the clock. -/
def pollLedger : Discipline DispatcherCalls PyException PollLedger where
  expected := Regular
  allowed _ _ := True
  advance ledger
    | ⟨.monotonic, answer⟩ =>
        match (answer : Except PyException Rat) with
        | .ok time => ⟨time, ledger.advancing ∧ ledger.now ≤ time, ledger.polls⟩
        | .error _ => ledger
    | ⟨.sleep seconds, _⟩ => { ledger with now := ledger.now + seconds }
    | ⟨.urlopen (.getJob _), _⟩ => { ledger with polls := ledger.polls + 1 }
    | ⟨.urlopen _, _⟩ => ledger

theorem after_advancing (start : PollLedger) (events : List DispatchEvent) :
    (pollLedger.after start events).advancing ↔
      start.advancing ∧ Advancing start.now events := by
  induction events generalizing start with
  | nil => simp [Advancing]
  | cons event events ih =>
      rw [Discipline.after_cons, ih]
      rcases event with ⟨call, answer⟩
      cases call with
      | monotonic =>
          cases answer with
          | ok time => simp [pollLedger, Advancing, and_assoc]
          | error error => simp [pollLedger, Advancing]
      | sleep seconds => simp [pollLedger, Advancing]
      | urlopen request => cases request <;> simp [pollLedger, Advancing]

theorem after_polls (start : PollLedger) (events : List DispatchEvent) :
    (pollLedger.after start events).polls =
      start.polls + events.countP isGetJob := by
  induction events generalizing start with
  | nil => rfl
  | cons event events ih =>
      rw [Discipline.after_cons, ih, List.countP_cons]
      rcases event with ⟨call, answer⟩
      cases call with
      | monotonic => cases answer <;> simp [pollLedger, isGetJob]
      | sleep seconds => simp [pollLedger, isGetJob]
      | urlopen request =>
          cases request <;> simp [pollLedger, isGetJob]
          omega

/-! ## Requests that are no look at the Job -/

/-- A request, but no look at the Job. -/
def Asks : DispatcherCalls.Call → Prop
  | .urlopen (.getJob _) => False
  | .urlopen _ => True
  | _ => False

section Guarded

variable {builtins : Builtins} {past : List DispatchEvent}

theorem guarded_request (api : ApiRequest) (asks : Asks (.urlopen api)) :
    Program.Guarded (fun _ => Asks) past (request api) := by
  apply Program.Guarded.attemptThen asks
  intro answer
  cases answer with
  | ok payload => trivial
  | error error => cases error <;> trivial

theorem guarded_requestJson (api : ApiRequest) (asks : Asks (.urlopen api)) :
    Program.Guarded (fun _ => Asks) past (requestJson builtins api) := by
  apply (guarded_request api asks).bind
  intro _ payload _
  generalize builtins.loadsBytes _ = loaded
  cases loaded <;> trivial

theorem guarded_ofExcept {α : Type} (outcome : Except PyException α) :
    Program.Guarded (fun _ => Asks) past (Program.ofExcept outcome : Dispatch α) := by
  cases outcome <;> trivial

theorem guarded_orOnK8sError {α : Type} {default : α} {program : Dispatch α}
    (guarded : Program.Guarded (fun _ => Asks) past program) :
    Program.Guarded (fun _ => Asks) past (orOnK8sError default program) := by
  apply guarded.attempt.bind
  intro _ outcome _
  cases outcome with
  | ok value => trivial
  | error error =>
      dsimp only
      split <;> trivial

theorem guarded_listPods (selector : String) :
    Program.Guarded (fun _ => Asks) past (listPods builtins selector) :=
  (guarded_requestJson (.listPods selector) trivial).bind fun _ _ _ =>
    guarded_ofExcept _

theorem guarded_readPodResult (selector : String) :
    Program.Guarded (fun _ => Asks) past (readPodResult builtins selector) := by
  apply Program.Guarded.bind
  · apply guarded_orOnK8sError
    apply (guarded_listPods selector).bind
    intro _ pods _
    split
    · trivial
    · apply (guarded_ofExcept _).bind
      intro _ name _
      apply Program.Guarded.bind
      · exact (guarded_request (.readPodLog name limitBytes) trivial).bind
          fun _ _ _ => trivial
      · exact fun _ _ _ => trivial
  · intro _ log _
    cases log with
    | none => trivial
    | some log => exact guarded_ofExcept _

theorem guarded_podExitCode (selector : String) :
    Program.Guarded (fun _ => Asks) past (podExitCode builtins selector) := by
  apply guarded_orOnK8sError
  apply (guarded_listPods selector).bind
  intro _ pods _
  split
  · trivial
  · exact guarded_ofExcept _

theorem guarded_reap (name : String) :
    Program.Guarded (fun _ => Asks) past (reap builtins name) :=
  guarded_orOnK8sError
    ((guarded_requestJson (.deleteJob name) trivial).bind fun _ _ _ => trivial)

/-- Such requests leave the clock and the count alone. -/
theorem still_of_guarded {α : Type} {program : Dispatch α} {start : PollLedger}
    (guarded : Program.Guarded (fun _ => Asks) past program) :
    Program.Follows pollLedger (fun reached _ => reached = start) start
      program := by
  induction program generalizing past with
  | ret value => rfl
  | raise error => rfl
  | call call next ih =>
      refine ⟨trivial, fun answer _ => ?_⟩
      have asks : Asks call := guarded.1
      have still : pollLedger.advance start ⟨call, answer⟩ = start := by
        cases call with
        | urlopen request =>
            cases request with
            | getJob => exact asks.elim
            | _ => rfl
        | monotonic | sleep => exact asks.elim
      rw [still]
      exact ih answer (guarded.2 answer)

end Guarded

/-! ## The loop -/

/-- A run of the loop that looks at the Job so often at most, and has an outcome
if it may take so many turns. -/
def Bounded (limit turns : Nat) (start reached : PollLedger)
    (result : Except PyException (Option JobOutcome)) : Prop :=
  reached.advancing →
    start.advancing ∧ reached.polls ≤ start.polls + limit ∧
      (limit ≤ turns → result ≠ .ok none)

section Loop

variable {builtins : Builtins} {start reached : PollLedger}

/-- One look at the Job, and the run is at its end. -/
theorem bounded_of_ended {sleeps turns : Nat}
    {result : Except PyException (Option JobOutcome)}
    (same : reached.advancing → start.advancing)
    (once : reached.polls = start.polls + 1) (ended : result ≠ .ok none) :
    Bounded (sleeps + 1) turns start reached result :=
  fun advancing => ⟨same advancing, by omega, fun _ => ended⟩

/-- A clock that has misbehaved has done so for good. -/
theorem follows_advancing {α : Type} (program : Dispatch α)
    (start : PollLedger) :
    Program.Follows pollLedger
      (fun reached _ => reached.advancing → start.advancing) start program := by
  induction program generalizing start with
  | ret value => exact id
  | raise error => exact id
  | call call next ih =>
      refine ⟨trivial, fun answer _ => ?_⟩
      apply (ih answer _).mono
      intro reached result kept advancing
      have earlier := kept advancing
      cases call with
      | monotonic =>
          cases answer with
          | ok time => exact earlier.1
          | error error => exact earlier
      | sleep seconds => exact earlier
      | urlopen request => cases request <;> exact earlier

/-- A look at the Job is counted. -/
theorem follows_getJob (name : String) :
    Program.Follows pollLedger
      (fun reached _ => reached = { start with polls := start.polls + 1 }) start
      (getJob builtins name).attempt := by
  have asked : Program.Follows pollLedger
      (fun reached _ => reached = { start with polls := start.polls + 1 }) start
      (request (.getJob name)) := by
    apply Program.Follows.attemptThen trivial
    intro answer _
    cases answer with
    | ok payload => rfl
    | error error => cases error <;> rfl
  have read : Program.Follows pollLedger
      (fun reached _ => reached = { start with polls := start.polls + 1 }) start
      (getJob builtins name) := by
    apply asked.bind
    · intro reached payload same
      cases builtins.loadsBytes (orEmptyObject payload) <;> exact same
    · exact fun _ _ same => same
  exact read.attempt fun _ _ same => same

/-- A turn that sleeps leaves one sleep less before the deadline has passed. -/
theorem bounded_again {cfg : JobConfig} {name selector : String}
    {deadline now : Rat} {turns sleeps : Nat}
    (passed : deadline < start.now + sleeps * cfg.pollInterval)
    (early : ¬ deadline < now)
    (again : ∀ {start : PollLedger} (sleeps : Nat),
      deadline < start.now + sleeps * cfg.pollInterval →
      Program.Follows pollLedger (Bounded (sleeps + 1) turns start) start
        (poll builtins cfg name selector deadline turns)) :
    Program.Follows pollLedger (Bounded (sleeps + 1) (turns + 1) start)
      ⟨now, start.advancing ∧ start.now ≤ now, start.polls + 1⟩
      (do
        sleep cfg.pollInterval
        poll builtins cfg name selector deadline turns) := by
  by_cases behaved : start.now ≤ now
  · cases sleeps with
    | zero =>
        have late : deadline < now := by
          simp only [Nat.cast_zero, zero_mul, add_zero] at passed
          linarith
        exact absurd late early
    | succ sleeps =>
        apply Program.Follows.callThen trivial
        · intro _ _
          have later : deadline <
              (now + cfg.pollInterval) + sleeps * cfg.pollInterval := by
            push_cast at passed
            linarith
          apply (@again ⟨now + cfg.pollInterval,
            start.advancing ∧ start.now ≤ now, start.polls + 1⟩ sleeps later).mono
          intro reached result bounded advancing
          rcases bounded advancing with ⟨earlier, polls, ended⟩
          dsimp only at polls
          exact ⟨earlier.1, by omega, fun enough => ended (by omega)⟩
        · intro _ impossible
          cases impossible
  · apply (follows_advancing _ _).mono
    intro reached result kept advancing
    exact absurd (kept advancing).2 behaved

/-- After a look at the Job: the run ends, or it sleeps and takes another turn. -/
theorem bounded_guide {cfg : JobConfig} {name : String} (selector : String)
    {deadline : Rat} {turns sleeps : Nat}
    (passed : deadline < start.now + sleeps * cfg.pollInterval) (job : Json)
    (again : ∀ {start : PollLedger} (sleeps : Nat),
      deadline < start.now + sleeps * cfg.pollInterval →
      Program.Follows pollLedger (Bounded (sleeps + 1) turns start) start
        (poll builtins cfg name selector deadline turns)) :
    Program.Follows pollLedger (Bounded (sleeps + 1) (turns + 1) start)
      { start with polls := start.polls + 1 }
      (do
        let status ← Program.ofExcept (getAttrOr "status" (.obj []) job)
        let succeeded ← Program.ofExcept (status.getAttr "succeeded")
        if succeeded.truthy then
          let outcome ← readPodResult builtins selector
          return some outcome
        else
          let failed ← Program.ofExcept (status.getAttr "failed")
          if failed.truthy then
            let reason ← Program.ofExcept (jobFailedReason job)
            let exitCode ← podExitCode builtins selector
            return some ⟨reason, .null, exitCode⟩
          else
            let now ← monotonic
            if deadline < now then return some (.bare .toolTimeout)
            else
              sleep cfg.pollInterval
              poll builtins cfg name selector deadline turns) := by
  apply Program.Follows.ofExceptThen
  · intro status _
    apply Program.Follows.ofExceptThen
    · intro succeeded _
      split
      · apply (still_of_guarded (@guarded_readPodResult builtins []
          selector)).bind
        · intro _ outcome still
          subst still
          exact bounded_of_ended id rfl nofun
        · intro _ error still
          subst still
          exact bounded_of_ended id rfl nofun
      apply Program.Follows.ofExceptThen
      · intro failed _
        split
        · apply Program.Follows.ofExceptThen
          · intro reason _
            apply (still_of_guarded (@guarded_podExitCode builtins []
              selector)).bind
            · intro _ exitCode still
              subst still
              exact bounded_of_ended id rfl nofun
            · intro _ error still
              subst still
              exact bounded_of_ended id rfl nofun
          · exact fun _ _ => bounded_of_ended id rfl nofun
        · apply Program.Follows.callThen trivial
          · intro now _
            split
            · exact bounded_of_ended And.left rfl nofun
            · rename_i early
              exact bounded_again passed early again
          · intro _ impossible
            cases impossible
      · exact fun _ _ => bounded_of_ended id rfl nofun
    · exact fun _ _ => bounded_of_ended id rfl nofun
  · exact fun _ _ => bounded_of_ended id rfl nofun

/-- While so many sleeps go past the deadline, there is one more look at most. -/
theorem bounded_poll (cfg : JobConfig) (name selector : String) (deadline : Rat)
    (turns sleeps : Nat)
    (passed : deadline < start.now + sleeps * cfg.pollInterval) :
    Program.Follows pollLedger (Bounded (sleeps + 1) turns start) start
      (poll builtins cfg name selector deadline turns) := by
  induction turns generalizing start sleeps with
  | zero => exact fun advancing => ⟨advancing, by omega, fun enough => by omega⟩
  | succ turns ih =>
      apply (follows_getJob name).bind
      · intro reached outcome looked
        subst looked
        cases outcome with
        | error error =>
            dsimp only
            split
            · exact bounded_of_ended id rfl nofun
            · exact bounded_of_ended id rfl nofun
        | ok job => exact bounded_guide selector passed job ih
      · intro reached error looked
        subst looked
        exact bounded_of_ended id rfl nofun

/-- How many sleeps go past the deadline. -/
def sleepLimit (cfg : JobConfig) : Nat :=
  ((cfg.overallTimeout / cfg.pollInterval).ceil + 1).toNat

/-- After so many sleeps the deadline has passed. -/
theorem passed_sleepLimit {cfg : JobConfig} (positive : 0 < cfg.pollInterval)
    (started : Rat) :
    started + cfg.overallTimeout <
      started + sleepLimit cfg * cfg.pollInterval := by
  have quotient : cfg.overallTimeout / cfg.pollInterval < (sleepLimit cfg : Rat) := by
    have above := Rat.le_ceil (x := cfg.overallTimeout / cfg.pollInterval)
    have next := Int.self_le_toNat
      ((cfg.overallTimeout / cfg.pollInterval).ceil + 1)
    have enough : ((cfg.overallTimeout / cfg.pollInterval).ceil : Rat) + 1 ≤
        (sleepLimit cfg : Rat) := by exact_mod_cast next
    linarith
  have timeout : cfg.overallTimeout < (sleepLimit cfg : Rat) * cfg.pollInterval :=
    (div_lt_iff₀ positive).mp quotient
  linarith

/-- The loop starts from a deadline that is a timeout away, and the clean-up asks
for no clock. -/
theorem bounded_await (cfg : JobConfig) (positive : 0 < cfg.pollInterval)
    (turns : Nat) (runId : String) :
    Program.Follows pollLedger (Bounded (sleepLimit cfg + 1) turns start) start
      (await builtins cfg turns runId) := by
  have work : Program.Follows pollLedger (Bounded (sleepLimit cfg + 1) turns start)
      start (do
        let started ← monotonic
        poll builtins cfg (jobName builtins runId) (runSelector runId)
          (started + cfg.overallTimeout) turns) := by
    apply Program.Follows.callThen trivial
    · intro (started : Rat) _
      apply (bounded_poll cfg _ _ _ turns (sleepLimit cfg)
        (passed_sleepLimit positive started)).mono
      intro reached result bounded advancing
      rcases bounded advancing with ⟨earlier, polls, ended⟩
      exact ⟨earlier.1, polls, ended⟩
    · intro _ impossible
      cases impossible
  apply work.tryFinally
  intro reached result bounded
  apply (still_of_guarded (@guarded_reap builtins [] _)).mono
  intro final outcome still
  subst still
  cases outcome with
  | ok value => exact bounded
  | error error =>
      intro advancing
      rcases bounded advancing with ⟨earlier, polls, _⟩
      exact ⟨earlier, polls, fun _ => nofun⟩

/-- Every run looks at the Job so often at most, and ends if it may. -/
theorem bounded_runToolJob (cfg : JobConfig) (positive : 0 < cfg.pollInterval)
    (turns : Nat) (runId tenantId tool : String)
    (arguments : List (String × Json)) :
    Program.Follows pollLedger (Bounded (sleepLimit cfg + 1) turns start) start
      (runToolJob builtins cfg turns runId tenantId tool arguments) := by
  apply (still_of_guarded (@guarded_requestJson builtins [] (.createJob
    (buildJobManifest builtins cfg runId tenantId tool arguments))
    trivial).attempt).bind
  · intro _ outcome still
    subst still
    cases outcome with
    | error error =>
        dsimp only
        split
        · exact fun advancing => ⟨advancing, by omega, fun _ => nofun⟩
        · exact fun advancing => ⟨advancing, by omega, fun _ => nofun⟩
    | ok document => exact bounded_await cfg positive turns runId
  · intro _ error still
    subst still
    exact fun advancing => ⟨advancing, by omega, fun _ => nofun⟩

end Loop

end PrivateAiWorkspace.Dispatcher
