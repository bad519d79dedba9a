import PrivateAiWorkspace.ControlPlane.AgentReport

/-!
# Content in the audit log

Two runs whose responses and outcomes agree in everything but content have the
same report, but for one field: the record of a refused tool has the text of
whatever value the model has given as the tool.
-/

namespace PrivateAiWorkspace.ControlPlane

open Effects Python

/-! ## Responses and outcomes that agree -/

/-- What a response asks for, apart from tools and arguments. -/
inductive ActionKind where
  | unreadable
  | missing
  | final
  | callTool
  | other
  deriving DecidableEq

/-- `action` of an action. -/
def kindOfAction (action : List (String × Json)) : ActionKind :=
  match Json.get action "action" with
  | .str "final" => .final
  | .str "call_tool" => .callTool
  | _ => .other

/-- Names, types and lengths of arguments, when they are an object. -/
def shapeOf : Json → Option (List ArgShape)
  | .obj fields => some (argShape fields)
  | _ => none

/-- A tool that is a string. -/
def nameOf : Json → Option String
  | .str name => some name
  | _ => none

theorem nameOf_eq_some {tool : Json} {name : String} :
    nameOf tool = some name ↔ tool = .str name := by
  constructor
  · intro named
    cases tool with
    | str given =>
        cases named
        rfl
    | null | bool | int | float | arr | obj => cases named
  · rintro rfl
    rfl

/-- Two calls have the same tool if one of them is a string, and arguments of the
same names, types and lengths. -/
structure CallsAgree (first second : Json × Json) : Prop where
  name : nameOf first.1 = nameOf second.1
  shape : shapeOf first.2 = shapeOf second.2

theorem CallsAgree.tool {first second : Json × Json}
    (agree : CallsAgree first second) (name : String) :
    first.1 = .str name ↔ second.1 = .str name := by
  rw [← nameOf_eq_some, ← nameOf_eq_some, agree.name]

instance : DecidableRel CallsAgree := fun first second =>
  decidable_of_iff
    (nameOf first.1 = nameOf second.1 ∧ shapeOf first.2 = shapeOf second.2)
    ⟨fun agree => ⟨agree.1, agree.2⟩, fun agree => ⟨agree.name, agree.shape⟩⟩

/-- Two tools have both raised, or have the same result class and exit code. -/
inductive OutcomesAgree :
    Except PyException SandboxOutcome → Except PyException SandboxOutcome →
      Prop where
  | raised (error other : PyException) :
      OutcomesAgree (.error error) (.error other)
  | returned {outcome other : SandboxOutcome} :
      outcome.resultClass = other.resultClass →
      outcome.exitCode = other.exitCode →
      OutcomesAgree (.ok outcome) (.ok other)

instance decidableOptionRel {α β : Type} {related : α → β → Prop}
    [∀ left right, Decidable (related left right)] :
    ∀ left right, Decidable (Option.Rel related left right)
  | none, none => .isTrue .none
  | none, some _ => .isFalse fun impossible => nomatch impossible
  | some _, none => .isFalse fun impossible => nomatch impossible
  | some left, some right =>
      decidable_of_iff (related left right)
        ⟨.some, fun | .some holds => holds⟩

namespace AgentContext

section Agrees

variable (context : AgentContext)

/-- The kind of the action of a response. -/
def kindOf (response : Json) : ActionKind :=
  match content response with
  | .error _ => .unreadable
  | .ok content =>
      match parseAction context.builtins content with
      | .error _ => .unreadable
      | .ok none => .missing
      | .ok (some action) => kindOfAction action

/-- Two responses agree on tokens, on the kind of their actions and on their
calls. -/
structure Agrees (first second : Json) : Prop where
  tokens : ControlPlane.tokens first = ControlPlane.tokens second
  kind : context.kindOf first = context.kindOf second
  call : Option.Rel CallsAgree (context.toolCall first) (context.toolCall second)

instance : DecidableRel context.Agrees := fun first second =>
  decidable_of_iff
    (ControlPlane.tokens first = ControlPlane.tokens second ∧
      context.kindOf first = context.kindOf second ∧
      Option.Rel CallsAgree (context.toolCall first) (context.toolCall second))
    ⟨fun agrees => ⟨agrees.1, agrees.2.1, agrees.2.2⟩,
      fun agrees => ⟨agrees.tokens, agrees.kind, agrees.call⟩⟩

/-- Two calls for a tool that is not a string name it by values of the same
text. -/
def SameText (first second : Json) : Prop :=
  Digestible context.builtins first →
    ∀ call other, context.toolCall first = some call →
      context.toolCall second = some other → (∀ name, call.1 ≠ .str name) →
      context.builtins.str call.1 = context.builtins.str other.1

/-- The verdict on a call. -/
def judgeCall : Json × Json → Verdict
  | (tool, arguments) =>
      match context.authorizedTool tool, arguments with
      | none, arguments => .denied tool arguments
      | some tool, .obj arguments => .accepted tool arguments
      | some _, _ => .malformed

/-- Two verdicts on actions that agree. -/
inductive VerdictsAgree : Verdict → Verdict → Prop where
  | ignored : VerdictsAgree .ignored .ignored
  | malformed : VerdictsAgree .malformed .malformed
  | final (answer other : String) : VerdictsAgree (.final answer) (.final other)
  | denied {tool arguments tool' arguments' : Json} :
      CallsAgree (tool, arguments) (tool', arguments') →
      VerdictsAgree (.denied tool arguments) (.denied tool' arguments')
  | accepted (tool : String) {arguments arguments' : List (String × Json)} :
      argShape arguments = argShape arguments' →
      VerdictsAgree (.accepted tool arguments) (.accepted tool arguments')

end Agrees

variable {context : AgentContext}

theorem authorizedTool_none {tool : Json} (nameless : ∀ name, tool ≠ .str name) :
    context.authorizedTool tool = none := by
  cases tool with
  | str name => exact absurd rfl (nameless name)
  | null | bool | int | float | arr | obj => rfl

/-- Calls that agree get verdicts that do. -/
theorem judgeCall_agree {first second : Json × Json}
    (agree : CallsAgree first second) :
    VerdictsAgree (context.judgeCall first) (context.judgeCall second) := by
  rcases first with ⟨tool, arguments⟩
  rcases second with ⟨other, arguments'⟩
  by_cases named : ∃ name, tool = .str name
  · rcases named with ⟨name, rfl⟩
    have same : other = .str name := (agree.tool name).mp rfl
    subst same
    cases authorized : context.authorizedTool (.str name) with
    | none =>
        simp only [judgeCall, authorized]
        exact .denied agree
    | some tool =>
        have shape := agree.shape
        cases arguments with
        | obj fields =>
            cases arguments' with
            | obj fields' =>
                simp only [judgeCall, authorized]
                exact .accepted tool (Option.some.inj shape)
            | null | bool | int | float | str | arr => cases shape
        | null | bool | int | float | str | arr =>
            cases arguments' with
            | obj => cases shape
            | null | bool | int | float | str | arr =>
                simp only [judgeCall, authorized]
                exact .malformed
  · have nameless : ∀ name, tool ≠ .str name :=
      fun name same => named ⟨name, same⟩
    have nameless' : ∀ name, other ≠ .str name :=
      fun name same => nameless name ((agree.tool name).mpr same)
    simp only [judgeCall, authorizedTool_none nameless,
      authorizedTool_none nameless']
    exact .denied agree

/-- The verdict on an action is the one on its call, if it has one. -/
theorem judge_cases (action : List (String × Json)) :
    (∃ call, callOf action = some call ∧ kindOfAction action = .callTool ∧
        context.judge action = context.judgeCall call) ∨
      (callOf action = none ∧ kindOfAction action = .final ∧
        ∃ answer, context.judge action = .final answer) ∨
      (callOf action = none ∧ kindOfAction action = .other ∧
        context.judge action = .ignored) := by
  unfold judge
  split
  next kind =>
    exact Or.inr (Or.inl ⟨by simp [callOf, kind], by simp [kindOfAction, kind],
      _, rfl⟩)
  next kind =>
    exact Or.inl ⟨(Json.get action "tool",
      Json.getOr action "arguments" (.obj [])), by simp only [callOf, kind],
      by simp [kindOfAction, kind], rfl⟩
  next notFinal notCall =>
    refine Or.inr (Or.inr ⟨?_, ?_, rfl⟩)
    · unfold callOf
      split
      next kind => exact absurd kind notCall
      next => rfl
    · unfold kindOfAction
      split
      next kind => exact absurd kind notFinal
      next kind => exact absurd kind notCall
      next => rfl

/-- The verdict of a response that is read is the one on its call, if it has
one. -/
theorem verdict_cases {response : Json} {used : Int} {verdict : Verdict}
    (read : context.readResponse response = .ok (used, verdict)) :
    (∃ call, context.toolCall response = some call ∧
        context.kindOf response = .callTool ∧
        verdict = context.judgeCall call) ∨
      (context.toolCall response = none ∧ context.kindOf response = .final ∧
        ∃ answer, verdict = .final answer) ∨
      (context.toolCall response = none ∧
        (context.kindOf response = .other ∨
          context.kindOf response = .missing) ∧
        verdict = .ignored) := by
  rcases of_readResponse read with ⟨text, action, found, _, parsed, rfl⟩
  rw [toolCall, kindOf, found]
  dsimp only
  rw [parsed]
  cases action with
  | none => exact Or.inr (Or.inr ⟨rfl, Or.inr rfl, rfl⟩)
  | some action =>
      rcases judge_cases action with
        ⟨call, called, kind, judged⟩ | ⟨uncalled, kind, answer, judged⟩ |
          ⟨uncalled, kind, judged⟩
      · exact Or.inl ⟨call, called, kind, judged⟩
      · exact Or.inr (Or.inl ⟨uncalled, kind, answer, judged⟩)
      · exact Or.inr (Or.inr ⟨uncalled, Or.inl kind, judged⟩)

theorem unreadable_of_tokens {response : Json} {error : PyException}
    (uncounted : ControlPlane.tokens response = .error error) :
    ∃ other, context.readResponse response = .error other := by
  unfold readResponse
  rw [content_eq, uncounted]
  exact ⟨error, rfl⟩

/-- A response whose tokens are counted is read unless its text is not. -/
theorem read_of_tokens {response : Json} {used : Int}
    (counted : ControlPlane.tokens response = .ok used) :
    (context.kindOf response = .unreadable ∧
        ∃ error, context.readResponse response = .error error) ∨
      ∃ verdict, context.readResponse response = .ok (used, verdict) := by
  unfold readResponse kindOf
  rw [content_eq, counted]
  simp only [bind, Except.bind]
  cases parsed : parseAction context.builtins (contentOf response) with
  | error error => exact Or.inl ⟨rfl, error, rfl⟩
  | ok action =>
      cases action with
      | none => exact Or.inr ⟨_, rfl⟩
      | some action => exact Or.inr ⟨_, rfl⟩

theorem kind_of_read {response : Json} {used : Int} {verdict : Verdict}
    (read : context.readResponse response = .ok (used, verdict)) :
    context.kindOf response ≠ .unreadable := by
  intro unreadable
  rcases verdict_cases read with
    ⟨_, _, kind, _⟩ | ⟨_, kind, _⟩ | ⟨_, kind | kind, _⟩ <;>
    cases unreadable.symm.trans kind

/-- Responses that agree are both unreadable, or are read with verdicts that
agree. -/
theorem Agrees.read {first second : Json} (agrees : context.Agrees first second) :
    (∃ error other, context.readResponse first = .error error ∧
        context.readResponse second = .error other) ∨
      ∃ used verdict other, context.readResponse first = .ok (used, verdict) ∧
        context.readResponse second = .ok (used, other) ∧
        VerdictsAgree verdict other := by
  have tokens := agrees.tokens
  cases counted : ControlPlane.tokens first with
  | error error =>
      rcases unreadable_of_tokens counted with ⟨unread, failed⟩
      rcases unreadable_of_tokens (tokens.symm.trans counted) with
        ⟨unread', failed'⟩
      exact Or.inl ⟨unread, unread', failed, failed'⟩
  | ok used =>
      have kind := agrees.kind
      have call := agrees.call
      rcases read_of_tokens counted with
        ⟨unreadable, error, failed⟩ | ⟨verdict, read⟩ <;>
      rcases read_of_tokens (tokens.symm.trans counted) with
        ⟨unreadable', error', failed'⟩ | ⟨other, read'⟩
      · exact Or.inl ⟨error, error', failed, failed'⟩
      · exact absurd (kind.symm.trans unreadable) (kind_of_read read')
      · exact absurd (kind.trans unreadable') (kind_of_read read)
      · refine Or.inr ⟨used, verdict, other, read, read', ?_⟩
        rcases verdict_cases read with
          ⟨asked, called, _, rfl⟩ | ⟨uncalled, final, answer, rfl⟩ |
            ⟨uncalled, ignored, rfl⟩ <;>
        rcases verdict_cases read' with
          ⟨asked', called', _, rfl⟩ | ⟨uncalled', final', answer', rfl⟩ |
            ⟨uncalled', ignored', rfl⟩
        · rw [called, called'] at call
          cases call with
          | some calls => exact judgeCall_agree calls
        · rw [called, uncalled'] at call
          cases call
        · rw [called, uncalled'] at call
          cases call
        · rw [uncalled, called'] at call
          cases call
        · exact .final answer answer'
        · rw [final] at kind
          rcases ignored' with ignored' | ignored' <;>
            cases kind.trans ignored'
        · rw [uncalled, called'] at call
          cases call
        · rw [final'] at kind
          rcases ignored with ignored | ignored <;>
            cases ignored.symm.trans kind
        · exact .ignored

/-- Whether a tool has a backend does not depend on its arguments. -/
theorem placed_none_iff {tool : String} (arguments arguments' :
    List (String × Json)) :
    context.placed tool arguments = none ↔
      context.placed tool arguments' = none := by
  unfold placed
  cases toolExecutor tool with
  | subprocess => exact ⟨(nomatch ·), (nomatch ·)⟩
  | job =>
      cases context.jobExecutor with
      | false => exact Iff.rfl
      | true => exact ⟨(nomatch ·), (nomatch ·)⟩

/-- Only a refused tool that is not a string can be named by different texts. -/
theorem sameText_of_verdict {first second : Json} {used : Int}
    {verdict : Verdict}
    (read : context.readResponse first = .ok (used, verdict))
    (accepted : ∀ tool arguments, verdict ≠ .denied tool arguments) :
    context.SameText first second := by
  intro _ call other called _ nameless
  rcases verdict_cases read with
    ⟨asked, found, _, rfl⟩ | ⟨uncalled, _⟩ | ⟨uncalled, _⟩
  · cases called.symm.trans found
    rcases call with ⟨tool, arguments⟩
    refine absurd ?_ (accepted tool arguments)
    simp only [judgeCall, authorizedTool_none nameless]
  · cases called.symm.trans uncalled
  · cases called.symm.trans uncalled

theorem SameText.of_named {first second : Json}
    (named : (context.toolCall first).all fun call => (nameOf call.1).isSome) :
    context.SameText first second := by
  intro _ call other called _ nameless
  rw [called] at named
  rcases Option.isSome_iff_exists.mp named with ⟨name, found⟩
  exact absurd (nameOf_eq_some.mp found) (nameless name)

theorem call_of_denied {response tool arguments : Json} {used : Int}
    (read : context.readResponse response = .ok (used, .denied tool arguments)) :
    context.toolCall response = some (tool, arguments) := by
  rcases verdict_cases read with
    ⟨⟨tool', arguments'⟩, called, _, judged⟩ | ⟨_, _, answer, impossible⟩ |
      ⟨_, _, impossible⟩
  · unfold judgeCall at judged
    dsimp only at judged
    split at judged
    · cases judged
      exact called
    · cases judged
    · cases judged
  · cases impossible
  · cases impossible

theorem deniedRecord_eq (tool arguments : Json) :
    context.deniedRecord tool arguments =
      { tenantId := context.tenantId
        userId := context.userId
        tool := context.builtins.str tool
        decision := .denied
        argShape := (shapeOf arguments).getD []
        resultClass := .null
        latencyMs := none
        exitCode := .null } := by
  cases arguments <;> rfl

/-- Two refusals write the same record exactly when they name the tool by the
same text. -/
theorem sameText_iff {first second tool arguments other arguments' : Json}
    {used : Int} (agree : CallsAgree (tool, arguments) (other, arguments'))
    (read : context.readResponse first = .ok (used, .denied tool arguments))
    (read' : context.readResponse second =
      .ok (used, .denied other arguments')) :
    context.SameText first second ↔
      context.deniedRecord tool arguments =
        context.deniedRecord other arguments' := by
  have digestible : Digestible context.builtins first :=
    (readable_iff context first).mp ⟨_, read⟩
  constructor
  · intro same
    have text : context.builtins.str tool = context.builtins.str other := by
      by_cases named : ∃ name, tool = .str name
      · rcases named with ⟨name, rfl⟩
        have equal : other = .str name := (agree.tool name).mp rfl
        rw [equal]
      · exact same digestible _ _ (call_of_denied read) (call_of_denied read')
          fun name equal => named ⟨name, equal⟩
    rw [deniedRecord_eq, deniedRecord_eq, text, agree.shape]
  · intro equal _ call call' called called' _
    cases called.symm.trans (call_of_denied read)
    cases called'.symm.trans (call_of_denied read')
    exact congrArg AuditRecord.tool equal

/-- What responses and outcomes that agree have reported. -/
structure Alike (first second : List Json) (report other : Report) : Prop where
  terminal : report.terminal = other.terminal
  records : report.unread = [] →
    (report.records = other.records ↔
      List.Forall₂ context.SameText first second)

theorem Alike.stopped {first second : Json} {rest rest' : List Json}
    {terminal : Option String}
    (agree : List.Forall₂ context.Agrees rest rest')
    (same : context.SameText first second) :
    context.Alike (first :: rest) (second :: rest') ⟨[], terminal, rest⟩
      ⟨[], terminal, rest'⟩ := by
  refine ⟨rfl, fun read => iff_of_true rfl (.cons same ?_)⟩
  cases agree with
  | nil => exact .nil
  | cons => cases read

section Alike

variable {first second : Json} {rest rest' : List Json}
  {report other : Report}

/-- Responses that write nothing. -/
theorem Alike.silent (alike : context.Alike rest rest' report other)
    (same : context.SameText first second) :
    context.Alike (first :: rest) (second :: rest') report other := by
  refine ⟨alike.terminal, fun read => ?_⟩
  rw [List.forall₂_cons, alike.records read]
  exact (and_iff_right same).symm

/-- Responses that write a record each. -/
theorem Alike.write {record record' : AuditRecord}
    (alike : context.Alike rest rest' report other)
    (same : context.SameText first second ↔ record = record') :
    context.Alike (first :: rest) (second :: rest') (report.write record)
      (other.write record') := by
  refine ⟨alike.terminal, fun read => ?_⟩
  rw [List.forall₂_cons, same, ← alike.records read]
  exact List.cons_eq_cons

end Alike

theorem allowedRecord_alike {tool : String}
    {arguments arguments' : List (String × Json)}
    {outcome outcome' : SandboxOutcome}
    (shape : argShape arguments = argShape arguments')
    (resultClass : outcome.resultClass = outcome'.resultClass)
    (exitCode : outcome.exitCode = outcome'.exitCode) :
    context.allowedRecord tool arguments outcome =
      context.allowedRecord tool arguments' outcome' := by
  simp only [allowedRecord, shape, resultClass, exitCode]

/-- The same tool with arguments of one shape. -/
theorem alike_accepted {response response' : Json} {rest rest' : List Json}
    {used : Int} {tool : String} {arguments arguments' : List (String × Json)}
    {before after : List (Except PyException SandboxOutcome)}
    (shape : argShape arguments = argShape arguments')
    (read : context.readResponse response =
      .ok (used, .accepted tool arguments))
    (read' : context.readResponse response' =
      .ok (used, .accepted tool arguments'))
    (agree : List.Forall₂ context.Agrees rest rest')
    (outcomes : List.Forall₂ OutcomesAgree before after)
    (later : ∀ {before after : List (Except PyException SandboxOutcome)},
      List.Forall₂ OutcomesAgree before after →
      context.Alike rest rest' (context.report rest before)
        (context.report rest' after)) :
    context.Alike (response :: rest) (response' :: rest')
      (context.report (response :: rest) before)
      (context.report (response' :: rest') after) := by
  have same : context.SameText response response' :=
    sameText_of_verdict read fun _ _ impossible => nomatch impossible
  cases placed : context.placed tool arguments with
  | none =>
      have placed' := (placed_none_iff arguments arguments').mp placed
      rw [report_nowhere read placed, report_nowhere read' placed']
      exact (later outcomes).write
        (iff_of_true same (allowedRecord_alike shape rfl rfl))
  | some placement =>
      cases placed' : context.placed tool arguments' with
      | none =>
          cases placed.symm.trans
            ((placed_none_iff arguments arguments').mpr placed')
      | some placement' =>
          cases outcomes with
          | nil =>
              rw [report_starved read placed, report_starved read' placed']
              exact .stopped agree same
          | cons outcome outcomes =>
              cases outcome with
              | raised error error' =>
                  rw [report_crashed read placed, report_crashed read' placed']
                  exact .stopped agree same
              | returned resultClass exitCode =>
                  rw [report_executed read placed,
                    report_executed read' placed']
                  exact (later outcomes).write (iff_of_true same
                    (allowedRecord_alike shape resultClass exitCode))

/-- Responses and outcomes that agree have the same end, and the same records
exactly when refused tools that are not strings have the same text. -/
theorem report_alike {first second : List Json}
    {before after : List (Except PyException SandboxOutcome)}
    (agree : List.Forall₂ context.Agrees first second)
    (outcomes : List.Forall₂ OutcomesAgree before after) :
    context.Alike first second (context.report first before)
      (context.report second after) := by
  induction agree generalizing before after with
  | nil => exact ⟨rfl, fun _ => iff_of_true rfl .nil⟩
  | @cons response response' rest rest' agrees agree ih =>
      rcases agrees.read with
        ⟨error, error', unread, unread'⟩ |
          ⟨used, verdict, other, read, read', verdicts⟩
      · rw [report_unreadable unread, report_unreadable unread']
        apply Alike.stopped agree
        intro digestible
        rcases (readable_iff context response).mpr digestible with ⟨_, read⟩
        cases unread.symm.trans read
      · cases verdicts with
        | ignored =>
            rw [report_ignored read, report_ignored read']
            exact (ih outcomes).silent (sameText_of_verdict read
              fun _ _ impossible => nomatch impossible)
        | malformed =>
            rw [report_malformed read, report_malformed read']
            exact (ih outcomes).silent (sameText_of_verdict read
              fun _ _ impossible => nomatch impossible)
        | final answer answer' =>
            rw [report_final read, report_final read']
            exact .stopped agree (sameText_of_verdict read
              fun _ _ impossible => nomatch impossible)
        | denied calls =>
            rw [report_denied read, report_denied read']
            exact (ih outcomes).write (sameText_iff calls read read')
        | @accepted tool arguments arguments' shape =>
            exact alike_accepted shape read read' agree outcomes ih

section Runs

variable {task task' : String} {first second : List ServiceEvent}
  {result result' : Except PyException AgentRunOutcome}

/-- Two runs whose responses and outcomes agree in all but content have the same
records and notifications exactly when the refused tools that are not strings
have the same text. -/
theorem agent_audit_iff
    (run : Program.Run (context.runAgentLoop task) first result)
    (run' : Program.Run (context.runAgentLoop task') second result')
    (undisturbed : Undisturbed first) (undisturbed' : Undisturbed second)
    (agree : List.Forall₂ context.Agrees (responses first) (responses second))
    (outcomes : List.Forall₂ OutcomesAgree (executions first)
      (executions second)) :
    (records first = records second ∧
        (notifications first).map NotificationEvent.addressed =
          (notifications second).map NotificationEvent.addressed) ↔
      List.Forall₂ context.SameText (responses first) (responses second) := by
  rcases reported_of_run run undisturbed with
    ⟨report, reported, written, told, read⟩
  rcases reported_of_run run' undisturbed' with
    ⟨report', reported', written', told', _⟩
  have alike := report_alike agree outcomes
  rw [reported, reported'] at alike
  rw [written, written', told, told', alike.terminal, alike.records read]
  exact and_iff_left rfl

end Runs

end AgentContext

/-! ## Conversations -/

/-- The calls of a run on a task in which the model writes some of the
documents. -/
def conversation (documents : List (String × Json)) (task : String)
    (texts : List String) : List ServiceEvent :=
  Program.trace (scripted ⟨.str "success", .null, .int 0⟩)
    ((wordCounter documents).runAgentLoop task)
    (texts.map fun text => reply text (.int 7))

theorem conversation_run (documents : List (String × Json)) (task : String)
    (texts : List String) :
    ∃ result, Program.Run ((wordCounter documents).runAgentLoop task)
      (conversation documents task texts) result :=
  ⟨_, Program.run_trace _ _⟩

/-- Every tool of a scripted run has the outcome of the script. -/
theorem executions_scripted {α : Type} (outcome : SandboxOutcome)
    (program : Service α) (script : List Json) :
    ∀ answer ∈ executions (program.trace (scripted outcome) script),
      answer = .ok outcome := by
  induction program generalizing script with
  | ret value => exact fun _ impossible => nomatch impossible
  | raise error => exact fun _ impossible => nomatch impossible
  | call request next ih =>
      intro answer member
      rcases List.mem_filterMap.mp member with ⟨event, among, found⟩
      rcases List.mem_cons.mp among with rfl | later
      · cases request with
        | execute | executeJob =>
            cases script <;> cases found <;> rfl
        | _ => cases found
      · exact ih _ _ answer (List.mem_filterMap.mpr ⟨event, later, found⟩)

theorem executions_conversation (documents : List (String × Json))
    (task : String) (texts : List String) :
    executions (conversation documents task texts) =
      List.replicate (executions (conversation documents task texts)).length
        (.ok ⟨.str "success", .null, .int 0⟩) :=
  List.eq_replicate_of_mem (executions_scripted _ _ _)

/-- Two conversations with as many tools agree on their outcomes. -/
theorem outcomes_agree {documents : List (String × Json)} {task task' : String}
    {texts texts' : List String}
    (count : (executions (conversation documents task texts)).length =
      (executions (conversation documents task' texts')).length) :
    List.Forall₂ OutcomesAgree (executions (conversation documents task texts))
      (executions (conversation documents task' texts')) := by
  rw [executions_conversation documents task texts,
    executions_conversation documents task' texts', count]
  exact List.forall₂_same.mpr fun outcome member => by
    cases List.eq_of_mem_replicate member
    exact .returned rfl rfl

/-- The `call_tool` action of the model, for some tool and arguments. -/
def callText (tool arguments : String) : String :=
  "\x7b\"action\": \"call_tool\", \"tool\": " ++ tool ++
    ", \"arguments\": " ++ arguments ++ "\x7d"

/-- Two texts of one length. -/
def twoTexts : List (String × Json) :=
  [(callText "\"text_stats\"" "\x7b\"text\": \"hi\"\x7d",
    .obj [("action", .str "call_tool"), ("tool", .str "text_stats"),
      ("arguments", .obj [("text", .str "hi")])]),
    (callText "\"text_stats\"" "\x7b\"text\": \"yo\"\x7d",
    .obj [("action", .str "call_tool"), ("tool", .str "text_stats"),
      ("arguments", .obj [("text", .str "yo")])])]

/-- The run in which the model has one of two texts counted. -/
def countRun (task arguments : String) : List ServiceEvent :=
  conversation twoTexts task [callText "\"text_stats\"" arguments]

theorem agent_audit_iff_twoTexts :
    records (countRun "Greet." "\x7b\"text\": \"hi\"\x7d") =
        records (countRun "Say it." "\x7b\"text\": \"yo\"\x7d") ∧
      (records (countRun "Greet." "\x7b\"text\": \"hi\"\x7d")).length = 1 := by
  rcases conversation_run twoTexts "Greet."
    [callText "\"text_stats\"" "\x7b\"text\": \"hi\"\x7d"] with ⟨_, run⟩
  rcases conversation_run twoTexts "Say it."
    [callText "\"text_stats\"" "\x7b\"text\": \"yo\"\x7d"] with ⟨_, run'⟩
  have same := (AgentContext.agent_audit_iff run run' (by decide +kernel)
    (by decide +kernel) (by decide +kernel)
    (outcomes_agree (by decide +kernel))).mpr ?_
  · exact ⟨same.1, by decide +kernel⟩
  · have named : List.Forall₂
        (fun response _ => ((wordCounter twoTexts).toolCall response).all
          fun call => (nameOf call.1).isSome)
        (responses (countRun "Greet." "\x7b\"text\": \"hi\"\x7d"))
        (responses (countRun "Say it." "\x7b\"text\": \"yo\"\x7d")) := by
      decide +kernel
    exact named.imp fun _ _ => AgentContext.SameText.of_named

/-- Two tools that are numbers. -/
def twoNumbers : List (String × Json) :=
  [(callText "4711" "\x7b\x7d",
    .obj [("action", .str "call_tool"), ("tool", .int 4711),
      ("arguments", .obj [])]),
    (callText "815" "\x7b\x7d",
    .obj [("action", .str "call_tool"), ("tool", .int 815),
      ("arguments", .obj [])])]

/-- The run in which the model calls one of two numbers. -/
def numberRun (tool : String) : List ServiceEvent :=
  conversation twoNumbers "Count the words." [callText tool "\x7b\x7d"]

/-- The runs agree in all but the content of the tool, which their records
have. -/
theorem numberRun_recorded :
    (∃ result result', Program.Run
        ((wordCounter twoNumbers).runAgentLoop "Count the words.")
        (numberRun "4711") result ∧
      Program.Run ((wordCounter twoNumbers).runAgentLoop "Count the words.")
        (numberRun "815") result') ∧
    Undisturbed (numberRun "4711") ∧ Undisturbed (numberRun "815") ∧
    List.Forall₂ (wordCounter twoNumbers).Agrees (responses (numberRun "4711"))
      (responses (numberRun "815")) ∧
    List.Forall₂ OutcomesAgree (executions (numberRun "4711"))
      (executions (numberRun "815")) ∧
    (records (numberRun "4711")).map AuditRecord.tool = ["4711"] ∧
    (records (numberRun "815")).map AuditRecord.tool = ["815"] := by
  rcases conversation_run twoNumbers "Count the words."
    [callText "4711" "\x7b\x7d"] with ⟨result, run⟩
  rcases conversation_run twoNumbers "Count the words."
    [callText "815" "\x7b\x7d"] with ⟨result', run'⟩
  exact ⟨⟨result, result', run, run'⟩, by decide +kernel, by decide +kernel,
    by decide +kernel, outcomes_agree (by decide +kernel), by decide +kernel,
    by decide +kernel⟩

end PrivateAiWorkspace.ControlPlane
