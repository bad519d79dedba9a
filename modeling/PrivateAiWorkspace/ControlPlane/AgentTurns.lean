import PrivateAiWorkspace.ControlPlane.AgentLoop

/-!
# The agent loop, turn by turn

What the loop does with a response of the model is a function of the response
alone, its verdict. A run is a sequence of turns, each with the calls its verdict
asks for, and one end. `Turns` says so as an inductive relation on the calls of a
run, so that what a run does is proved by induction on its turns and not on the
program.
-/

namespace PrivateAiWorkspace.ControlPlane

open Effects Python

/-! ## Verdicts -/

/-- What the loop does with a response: only nudge the model, refuse the tool,
run it, or finish. -/
inductive Verdict where
  | ignored
  | malformed
  | denied (tool arguments : Json)
  | accepted (tool : String) (arguments : List (String × Json))
  | final (answer : String)

namespace AgentContext

variable (context : AgentContext)

/-- The verdict on an action. -/
def judge (action : List (String × Json)) : Verdict :=
  match Json.get action "action" with
  | .str "final" => .final (context.finalAnswer (Json.get action "answer"))
  | .str "call_tool" =>
      let tool := Json.get action "tool"
      match context.authorizedTool tool,
          Json.getOr action "arguments" (.obj []) with
      | none, arguments => .denied tool arguments
      | some tool, .obj arguments => .accepted tool arguments
      | some _, _ => .malformed
  | _ => .ignored

/-- The tokens a response reports and the verdict on it. -/
def readResponse (response : Json) : Except PyException (Int × Verdict) := do
  let content ← content response
  let used ← tokens response
  match ← parseAction context.builtins content with
  | none => return (used, .ignored)
  | some action => return (used, context.judge action)

/-- What reading a response has gone through. -/
theorem of_readResponse {context : AgentContext} {response : Json} {used : Int}
    {verdict : Verdict}
    (read : context.readResponse response = .ok (used, verdict)) :
    ∃ text action, content response = .ok text ∧ tokens response = .ok used ∧
      parseAction context.builtins text = .ok action ∧
      verdict = action.elim .ignored context.judge := by
  unfold readResponse at read
  cases found : content response with
  | error error => simp [found, bind, Except.bind] at read
  | ok text =>
      cases counted : tokens response with
      | error error => simp [found, counted, bind, Except.bind] at read
      | ok total =>
          cases parsed : parseAction context.builtins text with
          | error error =>
              simp [found, counted, parsed, bind, Except.bind] at read
          | ok action =>
              simp only [found, counted, parsed, bind, Except.bind] at read
              refine ⟨text, action, rfl, ?_, parsed, ?_⟩
              · cases action <;> cases read <;> rfl
              · cases action <;> cases read <;> rfl

/-! ## What a verdict asks for -/

/-- The record of a refused tool. -/
def deniedRecord (tool arguments : Json) : AuditRecord :=
  { tenantId := context.tenantId
    userId := context.userId
    tool := context.builtins.str tool
    decision := .denied
    argShape :=
      match arguments with
      | .obj fields => argShape fields
      | _ => []
    resultClass := .null
    latencyMs := none
    exitCode := .null }

/-- The record of a tool that has run. -/
def allowedRecord (tool : String) (arguments : List (String × Json))
    (outcome : SandboxOutcome) : AuditRecord :=
  { tenantId := context.tenantId
    userId := context.userId
    tool
    decision := .allowed
    argShape := argShape arguments
    resultClass := outcome.resultClass
    latencyMs := none
    exitCode := outcome.exitCode }

/-- The calls that run a tool, and what comes of them. -/
inductive Dispatched (tool : String) (arguments : List (String × Json)) :
    List ServiceEvent → Except PyException SandboxOutcome → Prop where
  | subprocess (answer : Except PyException SandboxOutcome) :
      toolExecutor tool = .subprocess →
      Dispatched tool arguments [⟨ServiceCall.execute tool arguments, answer⟩]
        answer
  | job (runId : String) (answer : Except PyException SandboxOutcome) :
      toolExecutor tool = .job → context.jobExecutor = true →
      Dispatched tool arguments
        [⟨ServiceCall.uuid4, (.ok runId : Except PyException String)⟩,
          ⟨ServiceCall.executeJob tool arguments context.tenantId runId, answer⟩]
        answer
  | unavailable :
      toolExecutor tool = .job → context.jobExecutor = false →
      Dispatched tool arguments [] (.ok .toolError)

/-- The calls of a turn after its response. -/
inductive Reacts : Verdict → List ServiceEvent → Prop where
  | ignored : Reacts .ignored []
  | malformed : Reacts .malformed []
  | denied (tool arguments : Json) :
      Reacts (.denied tool arguments)
        [⟨ServiceCall.audit (context.deniedRecord tool arguments),
          (.ok () : Except PyException Unit)⟩]
  | accepted {tool : String} {arguments : List (String × Json)}
      {calls : List ServiceEvent} {outcome : SandboxOutcome} :
      context.Dispatched tool arguments calls (.ok outcome) →
      Reacts (.accepted tool arguments)
        (calls ++
          [⟨ServiceCall.audit (context.allowedRecord tool arguments outcome),
            (.ok () : Except PyException Unit)⟩])

/-- The calls that publish a notification, if there is a store. -/
inductive Announced (eventClass runId : String) : List ServiceEvent → Prop where
  | silent : context.notificationStore = false → Announced eventClass runId []
  | published (id : String) (createdAt : DateTime)
      (answer : Except PyException Unit) :
      context.notificationStore = true →
      Announced eventClass runId
        [⟨ServiceCall.uuid4, (.ok id : Except PyException String)⟩,
          ⟨ServiceCall.nowUtc, (.ok createdAt : Except PyException DateTime)⟩,
          ⟨ServiceCall.publish
            { id, tenantId := context.tenantId, userId := context.userId,
              eventClass, resourceId := runId, createdAt, readAt := none },
            answer⟩]

/-- The calls before the first turn of a run, around its announcement. -/
def opening (runId : String) (announcement : List ServiceEvent)
    (started : Rat) : List ServiceEvent :=
  ⟨ServiceCall.uuid4, (.ok runId : Except PyException String)⟩ ::
    (announcement ++
      [⟨ServiceCall.monotonic, (.ok started : Except PyException Rat)⟩])

/-- A run has announced itself. -/
inductive Opened (runId : String) : List ServiceEvent → Prop where
  | opened {announcement : List ServiceEvent} (started : Rat) :
      context.Announced "agent_task_progress" runId announcement →
      Opened runId (opening runId announcement started)

/-- The class of the notification that ends a run. -/
def terminalClass (status : RunStatus) : String :=
  if status = .completed then "agent_task_completed" else "agent_task_failed"

/-- The end of a run: a status and its notification. -/
structure Ended (runId : String) (status : RunStatus)
    (events : List ServiceEvent) (result : Except PyException AgentRunOutcome) :
    Prop where
  returned : ∃ outcome, result = .ok outcome ∧ outcome.status = status
  announced : context.Announced (terminalClass status) runId events

/-- A question to the model and its answer, at a time. -/
def asked (now : Rat) (request : ChatCompletionRequest)
    (answer : Except PyException Json) : List ServiceEvent :=
  [⟨ServiceCall.monotonic, (.ok now : Except PyException Rat)⟩,
    ⟨ServiceCall.chatCompletions request, answer⟩]

/-- The calls and the result of the turns that remain, after some tokens. -/
inductive Turns (runId : String) : Nat → Int → List ServiceEvent →
    Except PyException AgentRunOutcome → Prop where
  | exhausted {tokens : Int} {events : List ServiceEvent}
      {result : Except PyException AgentRunOutcome} :
      context.Ended runId .budgetExhausted events result →
      Turns runId 0 tokens events result
  | stopped {remaining : Nat} {tokens : Int} {events : List ServiceEvent}
      {result : Except PyException AgentRunOutcome} (now : Rat) :
      context.Ended runId .budgetExhausted events result →
      Turns runId (remaining + 1) tokens
        (⟨ServiceCall.monotonic, (.ok now : Except PyException Rat)⟩ :: events)
        result
  | unavailable {remaining : Nat} {tokens : Int} {events : List ServiceEvent}
      {result : Except PyException AgentRunOutcome} (now : Rat)
      (request : ChatCompletionRequest) (error : PyException) :
      tokens ≤ context.budgets.maxTotalTokens →
      context.Ended runId .failed events result →
      Turns runId (remaining + 1) tokens
        (asked now request (.error error) ++ events) result
  | unreadable {remaining : Nat} {tokens : Int} (now : Rat)
      (request : ChatCompletionRequest) (response : Json)
      (error : PyException) :
      tokens ≤ context.budgets.maxTotalTokens →
      context.readResponse response = .error error →
      Turns runId (remaining + 1) tokens (asked now request (.ok response))
        (.error error)
  | finished {remaining : Nat} {tokens used : Int}
      {events : List ServiceEvent}
      {result : Except PyException AgentRunOutcome} (now : Rat)
      (request : ChatCompletionRequest) (response : Json) (answer : String) :
      tokens ≤ context.budgets.maxTotalTokens →
      context.readResponse response = .ok (used, .final answer) →
      context.Ended runId .completed events result →
      Turns runId (remaining + 1) tokens
        (asked now request (.ok response) ++ events) result
  | crashed {remaining : Nat} {tokens used : Int} {calls : List ServiceEvent}
      {tool : String} {arguments : List (String × Json)} (now : Rat)
      (request : ChatCompletionRequest) (response : Json)
      (error : PyException) :
      tokens ≤ context.budgets.maxTotalTokens →
      context.readResponse response = .ok (used, .accepted tool arguments) →
      context.Dispatched tool arguments calls (.error error) →
      Turns runId (remaining + 1) tokens
        (asked now request (.ok response) ++ calls) (.error error)
  | turn {remaining : Nat} {tokens used : Int} {verdict : Verdict}
      {reaction rest : List ServiceEvent}
      {result : Except PyException AgentRunOutcome} (now : Rat)
      (request : ChatCompletionRequest) (response : Json) :
      tokens ≤ context.budgets.maxTotalTokens →
      context.readResponse response = .ok (used, verdict) →
      context.Reacts verdict reaction →
      Turns runId remaining (tokens + used) rest result →
      Turns runId (remaining + 1) tokens
        (asked now request (.ok response) ++ (reaction ++ rest)) result

end AgentContext

/-! ## A run is a sequence of turns -/

/-- Clocks, ids and the log of the interpreter. -/
def Dependable : Services.Call → Prop
  | .monotonic => True
  | .nowUtc => True
  | .uuid4 => True
  | .audit _ => True
  | _ => False

instance : DecidablePred Dependable := fun request => by
  cases request <;> unfold Dependable <;> infer_instance

/-- Clocks, ids and the log have not failed. -/
def Undisturbed (events : List ServiceEvent) : Prop :=
  ∀ event ∈ events, Dependable event.call → event.answer.isOk

instance (events : List ServiceEvent) : Decidable (Undisturbed events) :=
  inferInstanceAs
    (Decidable (∀ event ∈ events, Dependable event.call → event.answer.isOk))

theorem Undisturbed.of_append {before after : List ServiceEvent}
    (undisturbed : Undisturbed (before ++ after)) :
    Undisturbed before ∧ Undisturbed after :=
  ⟨fun event member => undisturbed event (List.mem_append_left _ member),
    fun event member => undisturbed event (List.mem_append_right _ member)⟩

theorem Undisturbed.of_cons {event : ServiceEvent} {events : List ServiceEvent}
    (undisturbed : Undisturbed (event :: events)) :
    (Dependable event.call → event.answer.isOk) ∧ Undisturbed events :=
  ⟨undisturbed event List.mem_cons_self,
    fun other member => undisturbed other (List.mem_cons_of_mem _ member)⟩

/-- A dependable call has an answer, and the run goes on. -/
theorem Undisturbed.answered {request : Services.Call} {α : Type}
    {next : Except PyException (Services.Answer request) → Service α}
    {events : List ServiceEvent} {result : Except PyException α}
    (undisturbed : Undisturbed events)
    (run : Program.Run (.call request next) events result)
    (dependable : Dependable request) :
    ∃ value more, events = ⟨request, .ok value⟩ :: more ∧
      Program.Run (next (.ok value)) more result ∧ Undisturbed more := by
  rcases Program.run_call_iff.mp run with ⟨answer, more, rfl, later⟩
  rcases undisturbed.of_cons with ⟨isOk, calm⟩
  cases answer with
  | ok value => exact ⟨value, more, rfl, later, calm⟩
  | error error => cases isOk dependable

theorem Undisturbed.answeredThen {request : Services.Call} {α : Type}
    {rest : Services.Answer request → Service α} {events : List ServiceEvent}
    {result : Except PyException α} (undisturbed : Undisturbed events)
    (run : Program.Run
      (.call request fun answer => (Program.ofExcept answer).bind rest) events
      result)
    (dependable : Dependable request) :
    ∃ value more, events = ⟨request, .ok value⟩ :: more ∧
      Program.Run (rest value) more result ∧ Undisturbed more :=
  undisturbed.answered run dependable

namespace AgentContext

variable {context : AgentContext} {runId : String}
  {events : List ServiceEvent}

theorem announced_of_run {eventClass : String} {result : Except PyException Unit}
    (allowed : eventClass ∈ allowedEventClasses)
    (run : Program.Run (context.emit eventClass runId) events result)
    (undisturbed : Undisturbed events) :
    result = .ok () ∧ context.Announced eventClass runId events := by
  unfold emit Service.emit at run
  cases store : context.notificationStore with
  | false =>
      simp only [store, Bool.not_false, Bool.true_or, if_true] at run
      rcases Program.run_ret_iff.mp run with ⟨rfl, rfl⟩
      exact ⟨rfl, .silent store⟩
  | true =>
      have passes : ¬ ((!true || decide (eventClass ∉ allowedEventClasses)) =
          true) := by simp [allowed]
      rw [store, if_neg passes] at run
      rcases undisturbed.answered run trivial with ⟨id, _, rfl, named, calm⟩
      rcases calm.answered named trivial with ⟨createdAt, _, rfl, dated, _⟩
      rcases Program.run_call_iff.mp dated with ⟨answer, last, rfl, published⟩
      have ended : last = [] ∧ result = .ok () := by
        cases answer with
        | ok value => exact Program.run_ret_iff.mp published
        | error error => exact Program.run_ret_iff.mp published
      rcases ended with ⟨rfl, rfl⟩
      exact ⟨rfl, .published id createdAt answer store⟩

theorem ended_of_run {status : RunStatus} {answer : Option String} {steps : Int}
    {detail : Option String} {result : Except PyException AgentRunOutcome}
    (run : Program.Run (context.terminal runId status answer steps detail)
      events result)
    (undisturbed : Undisturbed events) :
    context.Ended runId status events result := by
  have allowed : terminalClass status ∈ allowedEventClasses := by
    cases status <;> decide
  rcases Program.run_bind_iff.mp run with
    ⟨error, raised, rfl⟩ | ⟨_, before, after, rfl, emitted, returned⟩
  · cases (announced_of_run allowed raised undisturbed).1
  · rcases Program.run_ret_iff.mp returned with ⟨rfl, rfl⟩
    rw [List.append_nil] at undisturbed ⊢
    exact ⟨⟨_, rfl, rfl⟩, (announced_of_run allowed emitted undisturbed).2⟩

theorem dispatched_of_run {tool : String} {arguments : List (String × Json)}
    {result : Except PyException SandboxOutcome}
    (run : Program.Run (context.dispatch tool arguments) events result)
    (undisturbed : Undisturbed events) :
    context.Dispatched tool arguments events result := by
  unfold dispatch at run
  cases executor : toolExecutor tool with
  | subprocess =>
      rw [executor] at run
      rcases Program.run_call_iff.mp run with ⟨answer, _, rfl, ended⟩
      rcases Program.run_ofExcept_iff.mp ended with ⟨rfl, rfl⟩
      exact .subprocess _ executor
  | job =>
      rw [executor] at run
      cases available : context.jobExecutor with
      | false =>
          simp only [available, Bool.false_eq_true, if_false] at run
          rcases Program.run_ret_iff.mp run with ⟨rfl, rfl⟩
          exact .unavailable executor available
      | true =>
          simp only [available, if_true] at run
          rcases undisturbed.answered run trivial with
            ⟨jobId, _, rfl, named, _⟩
          rcases Program.run_call_iff.mp named with ⟨answer, _, rfl, ended⟩
          rcases Program.run_ofExcept_iff.mp ended with ⟨rfl, rfl⟩
          exact .job jobId _ executor available

/-- The branch for `call_tool` does what the verdict asks for, or the tool
raises. -/
theorem reacts_of_run {action : List (String × Json)}
    {result : Except PyException ChatMessage}
    (kind : Json.get action "action" = .str "call_tool")
    (run : Program.Run (context.callTool action) events result)
    (undisturbed : Undisturbed events) :
    (∃ reply, result = .ok reply ∧
        context.Reacts (context.judge action) events) ∨
      ∃ tool arguments error, context.judge action = .accepted tool arguments ∧
        result = .error error ∧
        context.Dispatched tool arguments events (.error error) := by
  unfold callTool at run
  dsimp only at run
  simp only [judge, kind]
  cases authorized : context.authorizedTool (Json.get action "tool") with
  | none =>
      rw [authorized] at run
      rcases undisturbed.answered run trivial with ⟨_, _, rfl, replied, _⟩
      rcases Program.run_ret_iff.mp replied with ⟨rfl, rfl⟩
      exact Or.inl ⟨_, rfl, .denied _ _⟩
  | some tool =>
      rw [authorized] at run
      cases given : Json.getOr action "arguments" (.obj []) with
      | obj arguments =>
          rw [given] at run
          rcases Program.run_bind_iff.mp run with
            ⟨error, raised, rfl⟩ | ⟨outcome, calls, after, rfl, returned, later⟩
          · exact Or.inr ⟨tool, arguments, error, rfl, rfl,
              dispatched_of_run raised undisturbed⟩
          · rcases undisturbed.of_append with ⟨first, second⟩
            rcases second.answered later trivial with ⟨_, _, rfl, replied, _⟩
            rcases Program.run_ret_iff.mp replied with ⟨rfl, rfl⟩
            exact Or.inl ⟨_, rfl, .accepted (dispatched_of_run returned first)⟩
      | null | bool | int | float | str | arr =>
          rw [given] at run
          rcases Program.run_ret_iff.mp run with ⟨rfl, rfl⟩
          exact Or.inl ⟨_, rfl, .malformed⟩

/-- What the loop reads of a response, and what it goes on with. -/
theorem reads_of_run {response : Json} {α : Type}
    {rest : String → Int → Option (List (String × Json)) → Service α}
    {result : Except PyException α}
    (run : Program.Run
      (do
        let content ← Program.ofExcept (content response)
        let used ← Program.ofExcept (tokens response)
        let action ← Program.ofExcept (parseAction context.builtins content)
        rest content used action)
      events result) :
    (∃ error, context.readResponse response = .error error ∧ events = [] ∧
        result = .error error) ∨
      ∃ content used action,
        context.readResponse response = .ok (used,
          match action with
          | none => .ignored
          | some action => context.judge action) ∧
        Program.Run (rest content used action) events result := by
  revert run
  unfold readResponse
  cases content response with
  | error error =>
      exact fun run => Or.inl ⟨error, rfl, Program.run_raise_iff.mp run⟩
  | ok content =>
      cases tokens response with
      | error error =>
          exact fun run => Or.inl ⟨error, rfl, Program.run_raise_iff.mp run⟩
      | ok used =>
          dsimp only [Program.bind_eq, Program.ofExcept_ok, Program.ret_bind, bind,
            Except.bind]
          cases parseAction context.builtins content with
          | error error =>
              exact fun run => Or.inl ⟨error, rfl, Program.run_raise_iff.mp run⟩
          | ok action =>
              intro run
              refine Or.inr ⟨content, used, action, ?_, run⟩
              cases action <;> rfl

/-- A run of the rounds is a sequence of turns and an end. -/
theorem turns_of_run {started : Rat} {remaining : Nat} {steps tokens : Int}
    {messages : List ChatMessage} {result : Except PyException AgentRunOutcome}
    (run : Program.Run
      (context.rounds runId started remaining steps tokens messages) events
      result)
    (undisturbed : Undisturbed events) :
    context.Turns runId remaining tokens events result := by
  induction remaining generalizing steps tokens messages events with
  | zero => exact .exhausted (ended_of_run run undisturbed)
  | succ remaining ih =>
      rcases undisturbed.answered run trivial with ⟨now, more, rfl, timed, calm⟩
      change Program.Run (ite _ _ _) more result at timed
      split at timed
      · exact .stopped now (ended_of_run timed calm)
      split at timed
      · exact .stopped now (ended_of_run timed calm)
      next within =>
        have within := Int.not_lt.mp within
        rcases Program.run_attemptThen_iff.mp timed with
          ⟨answer, later, rfl, answered⟩
        cases answer with
        | error error =>
            exact .unavailable now _ error within
              (ended_of_run answered calm.of_cons.2)
        | ok response =>
            rcases reads_of_run answered with
              ⟨error, unreadable, rfl, rfl⟩ | ⟨content, used, action, read, next⟩
            · exact .unreadable now _ response error within unreadable
            · have calm := calm.of_cons.2
              cases action with
              | none =>
                  exact .turn now _ response within read .ignored (ih next calm)
              | some action =>
                  dsimp only at read next
                  split at next
                  next kind =>
                    have final : context.judge action = .final
                        (context.finalAnswer (Json.get action "answer")) := by
                      simp only [judge, kind]
                    rw [final] at read
                    exact .finished now _ response _ within read
                      (ended_of_run next calm)
                  next kind =>
                    rcases Program.run_bind_iff.mp next with
                      ⟨error, raised, rfl⟩ |
                        ⟨reply, calls, rest, rfl, replied, later⟩
                    · rcases reacts_of_run kind raised calm with
                        ⟨_, impossible, _⟩ |
                          ⟨tool, arguments, _, accepted, same, dispatched⟩
                      · cases impossible
                      · cases same
                        rw [accepted] at read
                        exact .crashed now _ response error within read
                          dispatched
                    · rcases reacts_of_run kind replied calm.of_append.1 with
                        ⟨_, _, reacts⟩ | ⟨_, _, _, _, impossible, _⟩
                      · exact .turn now _ response within read reacts
                          (ih later calm.of_append.2)
                      · cases impossible
                  next noFinal noCall =>
                    have ignored : context.judge action = .ignored := by
                      unfold judge
                      split
                      next kind => exact absurd kind noFinal
                      next kind => exact absurd kind noCall
                      next => rfl
                    rw [ignored] at read
                    exact .turn now _ response within read .ignored
                      (ih next calm)

/-- A run of the loop announces itself and takes its turns. -/
theorem turns_of_runAgentLoop {task : String}
    {result : Except PyException AgentRunOutcome}
    (run : Program.Run (context.runAgentLoop task) events result)
    (undisturbed : Undisturbed events) :
    ∃ (runId : String) (opening turns : List ServiceEvent),
      events = opening ++ turns ∧ context.Opened runId opening ∧
      context.Turns runId context.budgets.maxSteps.toNat 0 turns result := by
  rcases undisturbed.answeredThen run trivial with ⟨runId, _, rfl, named, calm⟩
  rcases Program.run_bind_iff.mp named with
    ⟨error, raised, rfl⟩ | ⟨_, announcement, _, rfl, emitted, timed⟩
  · cases (announced_of_run (by decide) raised calm).1
  · rcases calm.of_append with ⟨first, second⟩
    rcases second.answeredThen timed trivial with ⟨started, turns, rfl, begun, last⟩
    have announced := (announced_of_run (by decide) emitted first).2
    refine ⟨runId, opening runId announcement started, turns, ?_,
      .opened started announced, turns_of_run begun last⟩
    exact congrArg (List.cons _) (List.append_assoc announcement [_] turns).symm

end AgentContext

/-! ## What a run shows -/

/-- A tool that is started somewhere. -/
structure Placement where
  executor : ToolExecutor
  tool : String
  arguments : List (String × Json)

/-- The request of a question to the model. -/
def questionOf : ServiceEvent → Option ChatCompletionRequest
  | ⟨.chatCompletions request, _⟩ => some request
  | _ => none

/-- The response to a question. -/
def responseOf : ServiceEvent → Option Json
  | ⟨.chatCompletions _, .ok response⟩ => some response
  | _ => none

/-- The tool that a call starts. -/
def toolOf : Services.Call → Option Placement
  | .execute tool arguments => some ⟨.subprocess, tool, arguments⟩
  | .executeJob tool arguments _ _ => some ⟨.job, tool, arguments⟩
  | _ => none

/-- The tool that an answered call has started. -/
def placementOf (event : ServiceEvent) : Option Placement := toolOf event.call

/-- The record that a call writes. -/
def recordOf : ServiceEvent → Option AuditRecord
  | ⟨.audit record, _⟩ => some record
  | _ => none

/-- The notification that a call publishes. -/
def notificationOf : ServiceEvent → Option NotificationEvent
  | ⟨.publish event, _⟩ => some event
  | _ => none

/-- The questions to the model. -/
abbrev questions (events : List ServiceEvent) : List ChatCompletionRequest :=
  events.filterMap questionOf

/-- The responses of the model. -/
abbrev responses (events : List ServiceEvent) : List Json :=
  events.filterMap responseOf

/-- The tools that are started. -/
abbrev placements (events : List ServiceEvent) : List Placement :=
  events.filterMap placementOf

/-- The records that are written. -/
abbrev records (events : List ServiceEvent) : List AuditRecord :=
  events.filterMap recordOf

/-- The notifications that are published. -/
abbrev notifications (events : List ServiceEvent) : List NotificationEvent :=
  events.filterMap notificationOf

/-- A record apart from what the tool has reported. -/
def AuditRecord.withoutOutcome (record : AuditRecord) : AuditRecord :=
  { record with resultClass := .null, exitCode := .null }

/-- To whom a notification goes, and its class. -/
def NotificationEvent.addressed (event : NotificationEvent) :
    String × String × String :=
  (event.tenantId, event.userId, event.eventClass)

namespace AgentContext

variable (context : AgentContext)

/-- Where an authorized tool is started, if anywhere. -/
def placed (tool : String) (arguments : List (String × Json)) :
    Option Placement :=
  match toolExecutor tool with
  | .subprocess => some ⟨.subprocess, tool, arguments⟩
  | .job =>
      if context.jobExecutor then some ⟨.job, tool, arguments⟩ else none

/-- The tool that a verdict starts. -/
def started : Verdict → Option Placement
  | .accepted tool arguments => context.placed tool arguments
  | _ => none

/-- The record that a verdict has written, apart from what the tool reports. -/
def recorded : Verdict → Option AuditRecord
  | .denied tool arguments => some (context.deniedRecord tool arguments)
  | .accepted tool arguments =>
      some (context.allowedRecord tool arguments .toolError).withoutOutcome
  | _ => none

/-- The notification of a class, if there is a store. -/
def announcement (eventClass : String) : List (String × String × String) :=
  if context.notificationStore then
    [(context.tenantId, context.userId, eventClass)]
  else []

variable {context} {events : List ServiceEvent}

theorem Dispatched.shows {tool : String} {arguments : List (String × Json)}
    {answer : Except PyException SandboxOutcome}
    (dispatched : context.Dispatched tool arguments events answer) :
    questions events = [] ∧ responses events = [] ∧ records events = [] ∧
      notifications events = [] ∧
      placements events = (context.placed tool arguments).toList := by
  cases dispatched with
  | subprocess _ executor =>
      refine ⟨rfl, rfl, rfl, rfl, ?_⟩
      simp only [placed, executor]
      rfl
  | job _ _ executor available =>
      refine ⟨rfl, rfl, rfl, rfl, ?_⟩
      simp only [placed, executor, available, if_true]
      rfl
  | unavailable executor missing => simp [placed, executor, missing]

theorem Reacts.shows {verdict : Verdict}
    (reacts : context.Reacts verdict events) :
    questions events = [] ∧ responses events = [] ∧ notifications events = [] ∧
      placements events = (context.started verdict).toList ∧
      (records events).map AuditRecord.withoutOutcome =
        (context.recorded verdict).toList := by
  cases reacts with
  | ignored | malformed => exact ⟨rfl, rfl, rfl, rfl, rfl⟩
  | denied tool arguments => exact ⟨rfl, rfl, rfl, rfl, rfl⟩
  | accepted dispatched =>
      rcases dispatched.shows with ⟨asked, answered, written, told, placed⟩
      simp only [List.filterMap_append, asked, answered, written, told, placed]
      exact ⟨rfl, rfl, rfl, by simp [placementOf, toolOf, started], rfl⟩

theorem Announced.shows {eventClass runId : String}
    (announced : context.Announced eventClass runId events) :
    questions events = [] ∧ responses events = [] ∧ placements events = [] ∧
      records events = [] ∧
      (notifications events).map NotificationEvent.addressed =
        context.announcement eventClass := by
  cases announced with
  | silent missing => simp [announcement, missing]
  | published id createdAt answer store =>
      refine ⟨rfl, rfl, rfl, rfl, ?_⟩
      rw [announcement, if_pos store]
      rfl

theorem Opened.shows {runId : String} (opened : context.Opened runId events) :
    questions events = [] ∧ responses events = [] ∧ placements events = [] ∧
      records events = [] ∧
      (notifications events).map NotificationEvent.addressed =
        context.announcement "agent_task_progress" := by
  cases opened with
  | @opened announcement started announced =>
      rcases announced.shows with ⟨asked, answered, placed, written, told⟩
      refine ⟨?_, ?_, ?_, ?_, ?_⟩
      · exact List.filterMap_append.trans ((List.append_nil _).trans asked)
      · exact List.filterMap_append.trans ((List.append_nil _).trans answered)
      · exact List.filterMap_append.trans ((List.append_nil _).trans placed)
      · exact List.filterMap_append.trans ((List.append_nil _).trans written)
      · have shown : notifications (opening runId announcement started) =
            notifications announcement :=
          List.filterMap_append.trans (List.append_nil _)
        rw [shown, told]

end AgentContext

section Asked

variable (now : Rat) (request : ChatCompletionRequest)
  (answer : Except PyException Json)

@[simp] theorem questions_asked :
    questions (AgentContext.asked now request answer) = [request] := rfl

@[simp] theorem responses_asked :
    responses (AgentContext.asked now request answer) =
      answer.toOption.toList := by
  cases answer <;> rfl

@[simp] theorem placements_asked :
    placements (AgentContext.asked now request answer) = [] := rfl

@[simp] theorem records_asked :
    records (AgentContext.asked now request answer) = [] := rfl

@[simp] theorem notifications_asked :
    notifications (AgentContext.asked now request answer) = [] := rfl

end Asked

end PrivateAiWorkspace.ControlPlane
