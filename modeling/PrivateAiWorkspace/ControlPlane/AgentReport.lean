import PrivateAiWorkspace.ControlPlane.AgentEnd

/-!
# The report of an agent run

The audit records and the notifications of a run are a function of the responses
of the model and of the outcomes of the tools, its report.
-/

namespace PrivateAiWorkspace.ControlPlane

open Effects Python

/-- The outcome of a tool that is started. -/
def executionOf : ServiceEvent → Option (Except PyException SandboxOutcome)
  | ⟨.execute _ _, answer⟩ => some answer
  | ⟨.executeJob _ _ _ _, answer⟩ => some answer
  | _ => none

/-- The outcomes of the tools that are started. -/
abbrev executions (events : List ServiceEvent) :
    List (Except PyException SandboxOutcome) :=
  events.filterMap executionOf

/-- The records of a run, the class of its terminal notification unless it
raises, and the responses it has not got to. -/
structure Report where
  records : List AuditRecord
  terminal : Option String
  unread : List Json

/-- A record before the others. -/
def Report.write (record : AuditRecord) (report : Report) : Report :=
  { report with records := record :: report.records }

namespace AgentContext

variable (context : AgentContext)

/-- What is reported of responses and outcomes. -/
def report : List Json → List (Except PyException SandboxOutcome) → Report
  | [], _ => ⟨[], some (terminalClass .failed), []⟩
  | response :: rest, outcomes =>
      match context.readResponse response with
      | .error _ => ⟨[], none, rest⟩
      | .ok (_, .final _) => ⟨[], some (terminalClass .completed), rest⟩
      | .ok (_, .denied tool arguments) =>
          (report rest outcomes).write (context.deniedRecord tool arguments)
      | .ok (_, .accepted tool arguments) =>
          match context.placed tool arguments, outcomes with
          | none, outcomes =>
              (report rest outcomes).write
                (context.allowedRecord tool arguments .toolError)
          | some _, .ok outcome :: outcomes =>
              (report rest outcomes).write
                (context.allowedRecord tool arguments outcome)
          | some _, _ => ⟨[], none, rest⟩
      | .ok _ => report rest outcomes

variable {context} {events : List ServiceEvent}

theorem Announced.unexecuted {eventClass runId : String}
    (announced : context.Announced eventClass runId events) :
    executions events = [] := by
  cases announced <;> rfl

theorem Opened.unexecuted {runId : String}
    (opened : context.Opened runId events) : executions events = [] := by
  cases opened with
  | @opened announcement started announced =>
      exact List.filterMap_append.trans
        ((List.append_nil _).trans announced.unexecuted)

/-- A dispatch executes the tool where it is placed, or reports an error. -/
theorem Dispatched.executes {tool : String} {arguments : List (String × Json)}
    {answer : Except PyException SandboxOutcome}
    (dispatched : context.Dispatched tool arguments events answer) :
    (context.placed tool arguments = none ∧ executions events = [] ∧
        answer = .ok .toolError) ∨
      ∃ placement, context.placed tool arguments = some placement ∧
        executions events = [answer] := by
  cases dispatched with
  | subprocess _ executor =>
      refine Or.inr ⟨⟨.subprocess, tool, arguments⟩, ?_, rfl⟩
      simp only [placed, executor]
  | job _ _ executor available =>
      refine Or.inr ⟨⟨.job, tool, arguments⟩, ?_, rfl⟩
      simp only [placed, executor, available, if_true]
  | unavailable executor missing =>
      refine Or.inl ⟨?_, rfl, rfl⟩
      simp [placed, executor, missing]

/-- An accepted tool writes its record, and nothing else than its dispatch is
executed. -/
theorem Dispatched.audited {tool : String} {arguments : List (String × Json)}
    {outcome : SandboxOutcome}
    (dispatched : context.Dispatched tool arguments events (.ok outcome)) :
    let calls : List ServiceEvent := events ++
      [⟨ServiceCall.audit (context.allowedRecord tool arguments outcome),
        (.ok () : Except PyException Unit)⟩]
    records calls = [context.allowedRecord tool arguments outcome] ∧
      notifications calls = [] ∧ executions calls = executions events := by
  rcases dispatched.shows with ⟨_, _, unwritten, untold, _⟩
  refine ⟨?_, ?_, ?_⟩
  · simp [unwritten, recordOf]
  · simp [untold, notificationOf]
  · simp [executionOf]

/-- Some calls report what a report says. -/
structure Reports (events : List ServiceEvent) (report : Report) : Prop where
  records : records events = report.records
  notifications : (notifications events).map NotificationEvent.addressed =
    report.terminal.elim [] context.announcement
  read : report.unread = []

@[simp] theorem executions_asked (now : Rat) (request : ChatCompletionRequest)
    (answer : Except PyException Json) :
    executions (asked now request answer) = [] := rfl

theorem report_of_silent (silent : responses events = []) :
    context.report (responses events) (executions events) =
      ⟨[], some (terminalClass .failed), []⟩ := by
  rw [silent]
  rfl

/-- A run that ends without a further response reports that it has failed. -/
theorem Ended.reports {runId : String} {status : RunStatus}
    {result : Except PyException AgentRunOutcome}
    (ended : context.Ended runId status events result)
    (unfinished : status ≠ .completed) :
    context.Reports events
      (context.report (responses events) (executions events)) := by
  rcases ended.announced.shows with ⟨_, silent, _, unwritten, told⟩
  rw [report_of_silent silent]
  refine ⟨unwritten, ?_, rfl⟩
  rw [told, terminalClass, if_neg unfinished]
  rfl

section Turn

attribute [local simp] report

variable {response : Json} {used : Int} {rest : List Json}
  {outcomes : List (Except PyException SandboxOutcome)}

theorem report_unreadable {error : PyException}
    (unread : context.readResponse response = .error error) :
    context.report (response :: rest) outcomes = ⟨[], none, rest⟩ := by
  simp only [report, unread]

theorem report_final {answer : String}
    (read : context.readResponse response = .ok (used, .final answer)) :
    context.report (response :: rest) outcomes =
      ⟨[], some (terminalClass .completed), rest⟩ := by
  simp only [report, read]

theorem report_ignored
    (read : context.readResponse response = .ok (used, .ignored)) :
    context.report (response :: rest) outcomes = context.report rest outcomes := by
  simp only [report, read]

theorem report_malformed
    (read : context.readResponse response = .ok (used, .malformed)) :
    context.report (response :: rest) outcomes = context.report rest outcomes := by
  simp only [report, read]

theorem report_denied {tool arguments : Json}
    (read : context.readResponse response = .ok (used, .denied tool arguments)) :
    context.report (response :: rest) outcomes =
      (context.report rest outcomes).write
        (context.deniedRecord tool arguments) := by
  simp only [report, read]

theorem report_nowhere {tool : String} {arguments : List (String × Json)}
    (read : context.readResponse response =
      .ok (used, .accepted tool arguments))
    (nowhere : context.placed tool arguments = none) :
    context.report (response :: rest) outcomes =
      (context.report rest outcomes).write
        (context.allowedRecord tool arguments .toolError) := by
  simp only [report, read, nowhere]

theorem report_executed {tool : String} {arguments : List (String × Json)}
    {placement : Placement} {outcome : SandboxOutcome}
    (read : context.readResponse response =
      .ok (used, .accepted tool arguments))
    (somewhere : context.placed tool arguments = some placement) :
    context.report (response :: rest) (.ok outcome :: outcomes) =
      (context.report rest outcomes).write
        (context.allowedRecord tool arguments outcome) := by
  simp only [report, read, somewhere]

theorem report_starved {tool : String} {arguments : List (String × Json)}
    {placement : Placement}
    (read : context.readResponse response =
      .ok (used, .accepted tool arguments))
    (somewhere : context.placed tool arguments = some placement) :
    context.report (response :: rest) [] = ⟨[], none, rest⟩ := by
  simp only [report, read, somewhere]

theorem report_crashed {tool : String} {arguments : List (String × Json)}
    {placement : Placement} {error : PyException}
    (read : context.readResponse response =
      .ok (used, .accepted tool arguments))
    (somewhere : context.placed tool arguments = some placement) :
    context.report (response :: rest) (.error error :: outcomes) =
      ⟨[], none, rest⟩ := by
  simp only [report, read, somewhere]

end Turn

/-- Calls that write a record and tell nobody, before what others report. -/
theorem Reports.write {quiet : List ServiceEvent} {report : Report}
    {record : AuditRecord} (reports : context.Reports events report)
    (written : ControlPlane.records quiet = [record])
    (untold : ControlPlane.notifications quiet = []) :
    context.Reports (quiet ++ events) (report.write record) := by
  refine ⟨?_, ?_, reports.read⟩
  · simp only [List.filterMap_append, written, reports.records]
    rfl
  · simp only [List.filterMap_append, untold]
    exact reports.notifications

/-- Calls that neither write nor tell, before what others report. -/
theorem Reports.after {quiet : List ServiceEvent} {report : Report}
    (reports : context.Reports events report)
    (unwritten : ControlPlane.records quiet = [])
    (untold : ControlPlane.notifications quiet = []) :
    context.Reports (quiet ++ events) report := by
  refine ⟨?_, ?_, reports.read⟩
  · simp only [List.filterMap_append, unwritten, reports.records]
    rfl
  · simp only [List.filterMap_append, untold]
    exact reports.notifications

/-- Turns report what their responses and outcomes make of them. -/
theorem Turns.reports {runId : String} {remaining : Nat} {tokens : Int}
    {result : Except PyException AgentRunOutcome}
    (turns : context.Turns runId remaining tokens events result) :
    context.Reports events
      (context.report (responses events) (executions events)) := by
  induction turns with
  | exhausted ended => exact ended.reports (by decide)
  | stopped now ended =>
      have reports := ended.reports (by decide)
      exact ⟨reports.records, reports.notifications, reports.read⟩
  | unavailable now request error within ended =>
      have reports := ended.reports (by decide)
      exact ⟨reports.records, reports.notifications, reports.read⟩
  | unreadable now request response error within unread =>
      have report : context.report
          (responses (asked now request (.ok response)))
          (executions (asked now request (.ok response))) = ⟨[], none, []⟩ :=
        report_unreadable unread
      rw [report]
      exact ⟨rfl, rfl, rfl⟩
  | @finished _ _ _ events _ now request response text within read ended =>
      rcases ended.announced.shows with ⟨_, silent, _, unwritten, told⟩
      have report : context.report
          (responses (asked now request (.ok response) ++ events))
          (executions (asked now request (.ok response) ++ events)) =
            ⟨[], some (terminalClass .completed), responses events⟩ :=
        report_final read
      rw [report, silent]
      exact ⟨unwritten, told, rfl⟩
  | @crashed _ _ _ calls tool arguments now request response error within read
      dispatched =>
      rcases dispatched.shows with ⟨_, silent, unwritten, untold, _⟩
      rcases dispatched.executes with
        ⟨_, _, impossible⟩ | ⟨placement, somewhere, executed⟩
      · cases impossible
      · have report : context.report
            (responses (asked now request (.ok response) ++ calls))
            (executions (asked now request (.ok response) ++ calls)) =
              ⟨[], none, responses calls⟩ := by
          have outcomes : executions (asked now request (.ok response) ++ calls) =
              [.error error] := executed
          rw [outcomes]
          exact report_crashed read somewhere
        rw [report, silent]
        refine ⟨unwritten, ?_, rfl⟩
        exact congrArg (List.map NotificationEvent.addressed) untold
  | @turn _ _ _ verdict reaction rest _ now request response within read reacts _
      ih =>
      have answered : responses (asked now request (.ok response) ++
          (reaction ++ rest)) = response :: responses rest := by
        simp [reacts.shows.2.1, Except.toOption]
      have executed : executions (asked now request (.ok response) ++
          (reaction ++ rest)) = executions reaction ++ executions rest := by
        simp
      rw [answered, executed, ← List.append_assoc]
      cases reacts with
      | ignored =>
          have idle : executions [] = [] := rfl
          rw [idle, List.nil_append, report_ignored read]
          exact ih.after rfl rfl
      | malformed =>
          have idle : executions [] = [] := rfl
          rw [idle, List.nil_append, report_malformed read]
          exact ih.after rfl rfl
      | denied tool arguments =>
          have idle : executions [⟨ServiceCall.audit
              (context.deniedRecord tool arguments),
              (.ok () : Except PyException Unit)⟩] = [] := rfl
          rw [idle, List.nil_append, report_denied read]
          exact ih.write rfl rfl
      | @accepted tool arguments calls outcome dispatched =>
          rcases dispatched.audited with ⟨written, untold, ran⟩
          have reports := (ih.write written untold).after
            (records_asked now request (.ok response))
            (notifications_asked now request (.ok response))
          rw [← List.append_assoc] at reports
          rw [ran]
          rcases dispatched.executes with
            ⟨nowhere, idle, same⟩ | ⟨placement, somewhere, one⟩
          · cases same
            rw [idle, List.nil_append, report_nowhere read nowhere]
            exact reports
          · rw [one, List.singleton_append, report_executed read somewhere]
            exact reports

/-- A run reports what its responses and outcomes make of it. -/
theorem reported_of_run
    {task : String} {result : Except PyException AgentRunOutcome}
    (run : Program.Run (context.runAgentLoop task) events result)
    (undisturbed : Undisturbed events) :
    ∃ report, context.report (responses events) (executions events) = report ∧
      records events = report.records ∧
      (notifications events).map NotificationEvent.addressed =
        context.announcement "agent_task_progress" ++
          report.terminal.elim [] context.announcement ∧
      report.unread = [] := by
  rcases turns_of_runAgentLoop run undisturbed with
    ⟨runId, opening, taken, rfl, opened, turns⟩
  rcases opened.shows with ⟨_, silent, _, unwritten, announced⟩
  have reports := turns.reports
  refine ⟨context.report (responses taken) (executions taken), ?_, ?_, ?_,
    reports.read⟩
  · simp [silent, opened.unexecuted]
  · simp only [List.filterMap_append, unwritten, List.nil_append]
    exact reports.records
  · simp only [List.filterMap_append, List.map_append, announced]
    rw [reports.notifications]

end AgentContext

end PrivateAiWorkspace.ControlPlane
