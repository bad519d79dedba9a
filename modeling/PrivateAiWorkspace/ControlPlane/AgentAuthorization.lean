import PrivateAiWorkspace.ControlPlane.AgentTurns
import Mathlib.Algebra.Ring.Int.Defs

/-!
# What an agent run starts and records

The tools that a run starts and the records that it writes are those the
responses of the model ask for, in order: at every question to the model, and at
the end, and each record says what its tool came to. A tool that is started
therefore is one the tenant may use; that its arguments are valid is not checked on
this path.
-/

namespace PrivateAiWorkspace.ControlPlane

open Effects Python

namespace AgentContext

variable (context : AgentContext)

/-- The tool that a response starts. -/
def startedBy (response : Json) : Option Placement :=
  match context.readResponse response with
  | .ok reading => context.started reading.2
  | .error _ => none

/-- The record that a response has written, apart from what the tool reports. -/
def recordedBy (response : Json) : Option AuditRecord :=
  match context.readResponse response with
  | .ok reading => context.recorded reading.2
  | .error _ => none

/-- The tools started and the records written are those of the responses. -/
structure Matched (events : List ServiceEvent) : Prop where
  placements : placements events =
    (responses events).filterMap context.startedBy
  records : (records events).map AuditRecord.withoutOutcome =
    (responses events).filterMap context.recordedBy

/-- The tokens a response reports. -/
def reportedTokens (response : Json) : Int :=
  match tokens response with
  | .ok total => total
  | .error _ => 0

/-- The tokens some responses report. -/
def usedTokens (responses : List Json) : Int :=
  (responses.map reportedTokens).sum

section Matched

variable {context} {events before after : List ServiceEvent}

theorem placements_append
    (first : placements before =
      (responses before).filterMap context.startedBy)
    (second : placements after =
      (responses after).filterMap context.startedBy) :
    placements (before ++ after) =
      (responses (before ++ after)).filterMap context.startedBy := by
  simp [first, second]

theorem records_append
    (first : (records before).map AuditRecord.withoutOutcome =
      (responses before).filterMap context.recordedBy)
    (second : (records after).map AuditRecord.withoutOutcome =
      (responses after).filterMap context.recordedBy) :
    (records (before ++ after)).map AuditRecord.withoutOutcome =
      (responses (before ++ after)).filterMap context.recordedBy := by
  simp [first, second]

theorem Matched.append (first : context.Matched before)
    (second : context.Matched after) : context.Matched (before ++ after) :=
  ⟨placements_append first.placements second.placements,
    records_append first.records second.records⟩

theorem Matched.of_quiet (answered : responses events = [])
    (placed : ControlPlane.placements events = [])
    (written : ControlPlane.records events = []) : context.Matched events := by
  constructor
  · rw [placed, answered]
    rfl
  · rw [written, answered]
    rfl

theorem Announced.matched {eventClass runId : String}
    (announced : context.Announced eventClass runId events) :
    context.Matched events := by
  rcases announced.shows with ⟨_, answered, placed, written, _⟩
  exact .of_quiet answered placed written

/-- A question whose answer asks for nothing. -/
theorem matched_asked {now : Rat} {request : ChatCompletionRequest}
    {answer : Except PyException Json}
    (nothing : ∀ response, answer = .ok response →
      context.startedBy response = none ∧ context.recordedBy response = none) :
    context.Matched (asked now request answer) := by
  cases answer with
  | error error => exact ⟨rfl, rfl⟩
  | ok response =>
      rcases nothing response rfl with ⟨started, recorded⟩
      constructor
      · simp [Except.toOption, started]
      · simp [Except.toOption, recorded]

theorem matched_unanswered {now : Rat} {request : ChatCompletionRequest}
    {error : PyException} : context.Matched (asked now request (.error error)) :=
  matched_asked fun _ impossible => by cases impossible

theorem matched_unreadable {now : Rat} {request : ChatCompletionRequest}
    {response : Json} {error : PyException}
    (unread : context.readResponse response = .error error) :
    context.Matched (asked now request (.ok response)) := by
  apply matched_asked
  rintro _ ⟨⟩
  simp [startedBy, recordedBy, unread]

theorem matched_final {now : Rat} {request : ChatCompletionRequest}
    {response : Json} {used : Int} {answer : String}
    (read : context.readResponse response = .ok (used, .final answer)) :
    context.Matched (asked now request (.ok response)) := by
  apply matched_asked
  rintro _ ⟨⟩
  simp [startedBy, recordedBy, read, started, recorded]

/-- A turn does what its response asks for. -/
theorem matched_turn {now : Rat} {request : ChatCompletionRequest}
    {response : Json} {used : Int} {verdict : Verdict}
    (read : context.readResponse response = .ok (used, verdict))
    (reacts : context.Reacts verdict events) :
    context.Matched (asked now request (.ok response) ++ events) := by
  rcases reacts.shows with ⟨_, answered, _, placed, written⟩
  have starts : context.startedBy response = context.started verdict := by
    simp only [startedBy, read]
  have writes : context.recordedBy response = context.recorded verdict := by
    simp only [recordedBy, read]
  constructor
  · simp only [List.filterMap_append, placements_asked, placed,
      responses_asked, answered, List.append_nil, List.nil_append]
    cases started : context.started verdict <;>
      simp [Except.toOption, starts, started]
  · simp only [List.filterMap_append, records_asked, written,
      responses_asked, answered, List.append_nil, List.nil_append]
    cases recorded : context.recorded verdict <;>
      simp [Except.toOption, writes, recorded]

theorem usedTokens_append (first second : List Json) :
    usedTokens (first ++ second) = usedTokens first + usedTokens second := by
  simp [usedTokens]

/-- A response that is read reports the tokens that are counted. -/
theorem reportedTokens_of_read {response : Json} {used : Int}
    {verdict : Verdict}
    (read : context.readResponse response = .ok (used, verdict)) :
    reportedTokens response = used := by
  rcases of_readResponse read with ⟨_, _, _, counted, _⟩
  rw [reportedTokens, counted]

end Matched

/-! ## At every question -/

section Question

variable {context} {events before after : List ServiceEvent}
  {request other : ChatCompletionRequest}
  {answer reply : Except PyException Json}

/-- A question does not stand among calls without one. -/
theorem question_after {quiet rest : List ServiceEvent}
    (silent : questions quiet = [])
    (split : quiet ++ rest =
      before ++ ⟨ServiceCall.chatCompletions request, answer⟩ :: after) :
    ∃ later, before = quiet ++ later ∧
      rest = later ++ ⟨ServiceCall.chatCompletions request, answer⟩ :: after := by
  rcases List.append_eq_append_iff.mp split with
    ⟨later, rfl, same⟩ | ⟨inner, rfl, same⟩
  · exact ⟨later, rfl, same⟩
  · cases inner with
    | nil => exact ⟨[], by simp, by simpa using same.symm⟩
    | cons event inner =>
        cases same
        simp [questions, questionOf] at silent

theorem not_question {quiet : List ServiceEvent} (silent : questions quiet = [])
    (split : quiet =
      before ++ ⟨ServiceCall.chatCompletions request, answer⟩ :: after) :
    False := by
  rw [split] at silent
  simp [questionOf] at silent

/-- A question is the first one or comes after it. -/
theorem question_of_asked {now : Rat} {tail : List ServiceEvent}
    (split : asked now other reply ++ tail =
      before ++ ⟨ServiceCall.chatCompletions request, answer⟩ :: after) :
    before = [⟨ServiceCall.monotonic, (.ok now : Except PyException Rat)⟩] ∨
      ∃ later, before = asked now other reply ++ later ∧
        tail =
          later ++ ⟨ServiceCall.chatCompletions request, answer⟩ :: after := by
  cases before with
  | nil => cases split
  | cons first before =>
      cases before with
      | nil =>
          cases split
          exact Or.inl rfl
      | cons second later =>
          cases split
          exact Or.inr ⟨later, rfl, rfl⟩

theorem Announced.unasked {eventClass runId : String}
    (announced : context.Announced eventClass runId events) :
    questions events = [] := announced.shows.1

/-- A question is asked after turns that have done what their responses ask for,
and within the budget. -/
theorem Turns.before_question {runId : String} {remaining : Nat} {tokens : Int}
    {result : Except PyException AgentRunOutcome}
    (turns : context.Turns runId remaining tokens events result)
    (split : events =
      before ++ ⟨ServiceCall.chatCompletions request, answer⟩ :: after) :
    context.Matched before ∧
      tokens + usedTokens (responses before) ≤
        context.budgets.maxTotalTokens := by
  have first : ∀ {tokens : Int} (now : Rat),
      tokens ≤ context.budgets.maxTotalTokens →
      context.Matched
          [⟨ServiceCall.monotonic, (.ok now : Except PyException Rat)⟩] ∧
        tokens + usedTokens (responses
            [⟨ServiceCall.monotonic, (.ok now : Except PyException Rat)⟩]) ≤
          context.budgets.maxTotalTokens := by
    intro tokens now within
    refine ⟨.of_quiet rfl rfl rfl, ?_⟩
    exact (Int.add_zero tokens).symm ▸ within
  induction turns generalizing before with
  | exhausted ended =>
      exact (not_question ended.announced.unasked split).elim
  | stopped now ended =>
      exact (not_question (by exact ended.announced.unasked) split).elim
  | unavailable now other error within ended =>
      rcases question_of_asked split with rfl | ⟨later, rfl, rest⟩
      · exact first now within
      · exact (not_question ended.announced.unasked rest).elim
  | unreadable now other response error within unread =>
      rw [← List.append_nil (asked now other (.ok response))] at split
      rcases question_of_asked split with rfl | ⟨later, rfl, rest⟩
      · exact first now within
      · exact (not_question rfl rest).elim
  | finished now other response text within read ended =>
      rcases question_of_asked split with rfl | ⟨later, rfl, rest⟩
      · exact first now within
      · exact (not_question ended.announced.unasked rest).elim
  | crashed now other response error within read dispatched =>
      rcases question_of_asked split with rfl | ⟨later, rfl, rest⟩
      · exact first now within
      · exact (not_question dispatched.shows.1 rest).elim
  | @turn _ tokens used _ reaction _ _ now other response within read reacts _
      ih =>
      rcases question_of_asked split with rfl | ⟨later, rfl, rest⟩
      · exact first now within
      · rcases question_after reacts.shows.1 rest with ⟨earlier, rfl, follows⟩
        rcases ih follows with ⟨matched, within⟩
        constructor
        · rw [← List.append_assoc]
          exact (matched_turn read reacts).append matched
        · have total : usedTokens (responses (asked now other (.ok response) ++
              (reaction ++ earlier))) = used + usedTokens (responses earlier) := by
            have one : usedTokens [response] = used := by
              simp [usedTokens, reportedTokens_of_read read]
            rw [← one, ← usedTokens_append]
            simp [reacts.shows.2.1, Except.toOption]
          rw [total]
          omega

end Question

/-! ## At the end -/

/-- Every tool that is started comes to an outcome. -/
def ExecutorsReturn (events : List ServiceEvent) : Prop :=
  ∀ event ∈ events, (placementOf event).isSome → event.answer.isOk

instance (events : List ServiceEvent) : Decidable (ExecutorsReturn events) :=
  inferInstanceAs (Decidable
    (∀ event ∈ events, (placementOf event).isSome → event.answer.isOk))

theorem executorsReturn_append {before after : List ServiceEvent} :
    ExecutorsReturn (before ++ after) ↔
      ExecutorsReturn before ∧ ExecutorsReturn after :=
  List.forall_mem_append

theorem Dispatched.not_returns {context : AgentContext} {tool : String}
    {arguments : List (String × Json)} {calls : List ServiceEvent}
    {error : PyException}
    (dispatched : context.Dispatched tool arguments calls (.error error)) :
    ¬ ExecutorsReturn calls := by
  intro returns
  cases dispatched with
  | subprocess => cases returns _ List.mem_cons_self rfl
  | job =>
      cases returns _ (List.mem_cons_of_mem _ List.mem_cons_self) rfl

/-- A response answers a question. -/
theorem responses_le_questions (events : List ServiceEvent) :
    (responses events).length ≤ (questions events).length := by
  induction events with
  | nil => exact Nat.le_refl 0
  | cons event events ih =>
      rcases event with ⟨request, answer⟩
      cases request with
      | chatCompletions request =>
          cases answer with
          | ok response => exact Nat.succ_le_succ ih
          | error error => exact Nat.le_succ_of_le ih
      | _ => exact ih

section End

variable {context} {events : List ServiceEvent} {runId : String}
  {remaining : Nat} {tokens : Int}
  {result : Except PyException AgentRunOutcome}

/-- Every step asks at most one question. -/
theorem Turns.questions_le
    (turns : context.Turns runId remaining tokens events result) :
    (questions events).length ≤ remaining := by
  induction turns with
  | exhausted ended => simp [ended.announced.unasked]
  | stopped now ended =>
      have silent : questions (⟨ServiceCall.monotonic,
          (.ok now : Except PyException Rat)⟩ :: _) = [] :=
        ended.announced.unasked
      rw [silent]
      exact Nat.zero_le _
  | unavailable now other error within ended =>
      simp [ended.announced.unasked]
  | unreadable => simp
  | finished now other response text within read ended =>
      simp [ended.announced.unasked]
  | crashed now other response error within read dispatched =>
      simp [dispatched.shows.1]
  | turn now other response within read reacts _ ih =>
      simp [reacts.shows.1]
      omega

/-- The tools that a run starts are those its responses ask for. -/
theorem Turns.placements_eq
    (turns : context.Turns runId remaining tokens events result) :
    placements events = (responses events).filterMap context.startedBy := by
  induction turns with
  | exhausted ended => exact ended.announced.matched.placements
  | stopped now ended => exact ended.announced.matched.placements
  | unavailable now other error within ended =>
      exact (matched_unanswered.append ended.announced.matched).placements
  | unreadable now other response error within unread =>
      exact (matched_unreadable unread).placements
  | finished now other response text within read ended =>
      exact ((matched_final read).append ended.announced.matched).placements
  | @crashed _ _ _ calls tool arguments now other response error within read
      dispatched =>
      rcases dispatched.shows with ⟨_, answered, _, _, placed⟩
      have starts : context.startedBy response =
          context.placed tool arguments := by
        simp only [startedBy, read, started]
      simp only [List.filterMap_append, placements_asked, placed,
        responses_asked, answered, List.append_nil, List.nil_append]
      cases somewhere : context.placed tool arguments <;>
        simp [Except.toOption, starts, somewhere]
  | turn now other response within read reacts _ ih =>
      rw [← List.append_assoc]
      exact placements_append (matched_turn read reacts).placements ih

/-- The records that a run writes are those its responses ask for. -/
theorem Turns.records_eq
    (turns : context.Turns runId remaining tokens events result)
    (returns : ExecutorsReturn events) :
    (records events).map AuditRecord.withoutOutcome =
      (responses events).filterMap context.recordedBy := by
  induction turns with
  | exhausted ended => exact ended.announced.matched.records
  | stopped now ended => exact ended.announced.matched.records
  | unavailable now other error within ended =>
      exact (matched_unanswered.append ended.announced.matched).records
  | unreadable now other response error within unread =>
      exact (matched_unreadable unread).records
  | finished now other response text within read ended =>
      exact ((matched_final read).append ended.announced.matched).records
  | crashed now other response error within read dispatched =>
      exact (dispatched.not_returns (executorsReturn_append.mp returns).2).elim
  | turn now other response within read reacts _ ih =>
      rw [← List.append_assoc]
      exact records_append (matched_turn read reacts).records
        (ih (executorsReturn_append.mp
          (executorsReturn_append.mp returns).2).2)

end End

/-! ## What a record says of its tool -/

/-- What a tool that was started came to. -/
def outcomeOf : ServiceEvent → Option SandboxOutcome
  | ⟨.execute _ _, .ok outcome⟩ => some outcome
  | ⟨.executeJob _ _ _ _, .ok outcome⟩ => some outcome
  | _ => none

variable (context : AgentContext)

/-- The record of an allowed tool, behind some calls: the last of them has started
the tool, and its outcome is recorded; a tool that is started nowhere is recorded
as a `tool_error`. -/
def Justified (before : List ServiceEvent) (record : AuditRecord) : Prop :=
  ∃ tool arguments outcome,
    record = context.allowedRecord tool arguments outcome ∧
      match context.placed tool arguments with
      | some placement => ∃ earlier runner, before = earlier ++ [runner] ∧
          placementOf runner = some placement ∧ outcomeOf runner = some outcome
      | none => outcome = .toolError

/-- Every record of an allowed tool is justified by the calls before it. -/
def Reported (events : List ServiceEvent) : Prop :=
  ∀ before record answer after,
    events = before ++ ⟨ServiceCall.audit record, answer⟩ :: after →
    record.decision = .allowed → context.Justified before record

section Reported

variable {context} {events before after : List ServiceEvent}

theorem Justified.prepend {record : AuditRecord}
    (justified : context.Justified before record) (past : List ServiceEvent) :
    context.Justified (past ++ before) record := by
  rcases justified with ⟨tool, arguments, outcome, same, ran⟩
  refine ⟨tool, arguments, outcome, same, ?_⟩
  split at ran
  next placement placed =>
    rcases ran with ⟨earlier, runner, rfl, started, returned⟩
    exact ⟨past ++ earlier, runner, by simp, started, returned⟩
  next => exact ran

theorem Reported.append (first : context.Reported before)
    (second : context.Reported after) : context.Reported (before ++ after) := by
  intro earlier record answer later split allowed
  rcases List.append_eq_append_iff.mp split with
    ⟨middle, rfl, rest⟩ | ⟨inner, rfl, rest⟩
  · exact (second middle record answer later rest allowed).prepend before
  · cases inner with
    | nil =>
        have justified := second [] record answer later rest.symm allowed
        simpa using justified.prepend earlier
    | cons event inner =>
        cases rest
        exact first earlier record answer inner rfl allowed

theorem Reported.of_append (reported : context.Reported (before ++ after)) :
    context.Reported before := by
  intro earlier record answer later split allowed
  apply reported earlier record answer (later ++ after) _ allowed
  rw [split, List.append_assoc, List.cons_append]

theorem Reported.of_unwritten (unwritten : records events = []) :
    context.Reported events := by
  intro earlier record answer later split
  rw [split] at unwritten
  simp [recordOf] at unwritten

theorem Dispatched.justified {tool : String} {arguments : List (String × Json)}
    {calls : List ServiceEvent} {outcome : SandboxOutcome}
    (dispatched : context.Dispatched tool arguments calls (.ok outcome)) :
    context.Justified calls (context.allowedRecord tool arguments outcome) := by
  refine ⟨tool, arguments, outcome, rfl, ?_⟩
  cases dispatched with
  | subprocess _ executor =>
      simp only [placed, executor]
      exact ⟨[], _, rfl, rfl, rfl⟩
  | job runId _ executor available =>
      simp only [placed, executor, available, if_true]
      exact ⟨[⟨ServiceCall.uuid4, (.ok runId : Except PyException String)⟩], _, rfl,
        rfl, rfl⟩
  | unavailable executor missing => simp [placed, executor, missing]

theorem Reacts.reported {verdict : Verdict}
    (reacts : context.Reacts verdict events) : context.Reported events := by
  cases reacts with
  | ignored | malformed => exact .of_unwritten rfl
  | denied tool arguments =>
      intro earlier record answer later split allowed
      cases earlier with
      | nil =>
          cases split
          cases allowed
      | cons first earlier => simp at split
  | @accepted tool arguments calls outcome dispatched =>
      have unwritten := dispatched.shows.2.2.1
      intro earlier record answer later split _
      rcases List.append_eq_append_iff.mp split with
        ⟨middle, rfl, rest⟩ | ⟨inner, rfl, rest⟩
      · cases middle with
        | nil =>
            cases rest
            rw [List.append_nil]
            exact dispatched.justified
        | cons first middle => simp at rest
      · cases inner with
        | nil =>
            cases rest
            rw [List.append_nil] at dispatched
            exact dispatched.justified
        | cons event inner =>
            cases rest
            simp [recordOf] at unwritten

/-- In every run the records say what the tools came to. -/
theorem Turns.reported {runId : String} {remaining : Nat} {tokens : Int}
    {result : Except PyException AgentRunOutcome}
    (turns : context.Turns runId remaining tokens events result) :
    context.Reported events := by
  induction turns with
  | exhausted ended => exact .of_unwritten ended.announced.shows.2.2.2.1
  | stopped now ended => exact .of_unwritten ended.announced.shows.2.2.2.1
  | unavailable now other error within ended =>
      exact .append (.of_unwritten rfl)
        (.of_unwritten ended.announced.shows.2.2.2.1)
  | unreadable => exact .of_unwritten rfl
  | finished now other response text within read ended =>
      exact .append (.of_unwritten rfl)
        (.of_unwritten ended.announced.shows.2.2.2.1)
  | crashed now other response error within read dispatched =>
      exact .append (.of_unwritten rfl) (.of_unwritten dispatched.shows.2.2.1)
  | turn now other response within read reacts _ ih =>
      exact .append (.of_unwritten rfl) (reacts.reported.append ih)

end Reported

/-! ## The actions of the model -/

/-- Tool and arguments of a `call_tool` action. -/
def callOf (action : List (String × Json)) : Option (Json × Json) :=
  match Json.get action "action" with
  | .str "call_tool" =>
      some (Json.get action "tool", Json.getOr action "arguments" (.obj []))
  | _ => none

/-- Tool and arguments of the `call_tool` action of a response, if it has one. -/
def toolCall (response : Json) : Option (Json × Json) :=
  match content response with
  | .error _ => none
  | .ok content =>
      match parseAction context.builtins content with
      | .ok (some action) => callOf action
      | _ => none

/-- Where the tool of an authorized call with an object of arguments is started,
if anywhere. -/
def placementFor : Json × Json → Option Placement
  | (tool, arguments) =>
      match context.authorizedTool tool, arguments with
      | some tool, .obj arguments => context.placed tool arguments
      | _, _ => none

/-- The record of a call: allowed when it is authorized and has an object of
arguments, denied when it is not authorized. -/
def recordFor : Json × Json → Option AuditRecord
  | (tool, arguments) =>
      match context.authorizedTool tool, arguments with
      | none, arguments => some (context.deniedRecord tool arguments)
      | some tool, .obj arguments =>
          some (context.allowedRecord tool arguments .toolError).withoutOutcome
      | some _, _ => none

/-- The tools started and the records written are, in order, those of the
`call_tool` actions of the model so far, and each record of an allowed tool says
what the tool came to. -/
structure Accounted (events : List ServiceEvent) : Prop where
  placements : placements events =
    ((responses events).filterMap context.toolCall).filterMap
      context.placementFor
  records : (records events).map AuditRecord.withoutOutcome =
    ((responses events).filterMap context.toolCall).filterMap context.recordFor
  outcomes : context.Reported events

/-- The extractors of the loop raise on no response. -/
def Readable (events : List ServiceEvent) : Prop :=
  ∀ response ∈ responses events, ∃ reading,
    context.readResponse response = .ok reading

/-- The same as a check. -/
theorem readable_of_all {context : AgentContext} {events : List ServiceEvent}
    (read : (responses events).all fun response =>
      (context.readResponse response).isOk) : context.Readable events := by
  intro response member
  have isOk := List.all_eq_true.mp read response member
  cases found : context.readResponse response with
  | ok reading => exact ⟨reading, rfl⟩
  | error error =>
      rw [found] at isOk
      cases isOk

section Actions

variable {context} {events : List ServiceEvent}

/-- The verdict on an action is what it asks for as a `call_tool` action. -/
theorem calls_of_judge (action : List (String × Json)) :
    context.started (context.judge action) =
        (callOf action).bind context.placementFor ∧
      context.recorded (context.judge action) =
        (callOf action).bind context.recordFor := by
  unfold judge
  split
  next kind =>
    have noCall : callOf action = none := by simp [callOf, kind]
    rw [noCall]
    exact ⟨rfl, rfl⟩
  next kind =>
    have call : callOf action = some (Json.get action "tool",
        Json.getOr action "arguments" (.obj [])) := by
      simp only [callOf, kind]
    rw [call]
    dsimp only [Option.bind_some, placementFor, recordFor]
    cases context.authorizedTool (Json.get action "tool") with
    | none => exact ⟨rfl, rfl⟩
    | some tool =>
        cases Json.getOr action "arguments" (.obj []) <;> exact ⟨rfl, rfl⟩
  next other =>
    have noCall : callOf action = none := by
      unfold callOf
      split
      next kind => exact absurd kind other
      next => rfl
    rw [noCall]
    exact ⟨rfl, rfl⟩

/-- What is read of a response is what its action asks for. -/
theorem calls_of_read {response : Json} {reading : Int × Verdict}
    (read : context.readResponse response = .ok reading) :
    context.started reading.2 =
        (context.toolCall response).bind context.placementFor ∧
      context.recorded reading.2 =
        (context.toolCall response).bind context.recordFor := by
  rcases of_readResponse read with ⟨text, action, found, _, parsed, judged⟩
  rw [judged, toolCall, found]
  dsimp only
  rw [parsed]
  cases action with
  | none => exact ⟨rfl, rfl⟩
  | some action => exact calls_of_judge action

theorem Matched.accounted (matched : context.Matched events)
    (reported : context.Reported events) (readable : context.Readable events) :
    context.Accounted events := by
  refine ⟨?_, ?_, reported⟩
  · refine (matched.placements.trans (List.filterMap_congr ?_)).trans
      List.filterMap_filterMap.symm
    intro response member
    rcases readable response member with ⟨reading, read⟩
    rw [startedBy, read]
    exact (calls_of_read read).1
  · refine (matched.records.trans (List.filterMap_congr ?_)).trans
      List.filterMap_filterMap.symm
    intro response member
    rcases readable response member with ⟨reading, read⟩
    rw [recordedBy, read]
    exact (calls_of_read read).2

end Actions

/-- In a run whose responses can be read and whose tools come to an outcome: at
the end and whenever the model is asked, the tools started and the records
written are those of the model's `call_tool` actions so far, and the records say
what the tools came to, which is a `tool_error` for a Job tool without an executor;
the model is asked, and tools are started, at most as often as there are steps, and
the model is not asked once the budget of tokens is exceeded. -/
theorem agent_run_authorized {context : AgentContext} {task : String}
    {events : List ServiceEvent} {result : Except PyException AgentRunOutcome}
    (run : Program.Run (context.runAgentLoop task) events result)
    (undisturbed : Undisturbed events) (returns : ExecutorsReturn events)
    (readable : context.Readable events) :
    context.Accounted events ∧
      (∀ before request answer after,
        events =
          before ++ ⟨ServiceCall.chatCompletions request, answer⟩ :: after →
        context.Accounted before ∧
          usedTokens (responses before) ≤ context.budgets.maxTotalTokens) ∧
      (questions events).length ≤ context.budgets.maxSteps.toNat ∧
      (placements events).length ≤ context.budgets.maxSteps.toNat := by
  rcases turns_of_runAgentLoop run undisturbed with
    ⟨runId, opening, taken, rfl, opened, turns⟩
  rcases opened.shows with ⟨unasked, unanswered, unplaced, unwritten, _⟩
  have opens : context.Matched opening :=
    .of_quiet unanswered unplaced unwritten
  have ends : context.Matched taken :=
    ⟨turns.placements_eq, turns.records_eq (executorsReturn_append.mp returns).2⟩
  have reported : context.Reported (opening ++ taken) :=
    .append (.of_unwritten unwritten) turns.reported
  have accounted := (opens.append ends).accounted reported readable
  have asked : (questions (opening ++ taken)).length ≤
      context.budgets.maxSteps.toNat := by
    simpa [unasked] using turns.questions_le
  refine ⟨accounted, ?_, asked, ?_⟩
  · intro before request answer after split
    rcases question_after unasked split with ⟨earlier, rfl, later⟩
    rcases turns.before_question later with ⟨matched, within⟩
    constructor
    · rw [split] at reported
      apply (opens.append matched).accounted reported.of_append
      intro response member
      apply readable
      rw [split]
      exact ((List.sublist_append_left _ _).filterMap responseOf).subset member
    · simpa [unanswered] using within
  · rw [accounted.placements]
    calc _ ≤ ((responses (opening ++ taken)).filterMap context.toolCall).length :=
          List.length_filterMap_le _ _
      _ ≤ (responses (opening ++ taken)).length := List.length_filterMap_le _ _
      _ ≤ (questions (opening ++ taken)).length := responses_le_questions _
      _ ≤ context.budgets.maxSteps.toNat := asked

end AgentContext

/-! ## Scripted runs -/

/-- A response with a text and a count of tokens. -/
def reply (text : String) (totalTokens : Json) : Json :=
  .obj [("choices", .arr [.obj [("message", .obj [("content", .str text)])]]),
    ("usage", .obj [("total_tokens", totalTokens)])]

/-- A world whose clock stands still, whose tools report one outcome and whose
model gives some responses and then fails. -/
def scripted (outcome : SandboxOutcome) :
    List Json → (request : Services.Call) →
      Except PyException (Services.Answer request) × List Json
  | response :: rest, .chatCompletions _ => (.ok response, rest)
  | script, .monotonic => (.ok (0 : Rat), script)
  | script, .uuid4 => (.ok "id", script)
  | script, .nowUtc => (.ok ⟨2025, 1, 1, 0, 0, 0, 0, by decide⟩, script)
  | script, .audit _ => (.ok (), script)
  | script, .publish _ => (.ok (), script)
  | script, .execute _ _ => (.ok outcome, script)
  | script, .executeJob _ _ _ _ => (.ok outcome, script)
  | script, _ => (.error .timeoutError, script)

/-- A tenant that may count words, in three steps of 100 tokens each; the
documents are those the model writes. -/
def wordCounter (documents : List (String × Json)) : AgentContext where
  builtins := .sample documents
  tenantId := "acme.com"
  userId := "ana"
  allowlist := Dict.empty.insert "acme.com" ["text_stats"]
  budgets := ⟨3, 60, 100, "default"⟩
  notificationStore := true
  jobExecutor := false

/-- The calls of a run in which the model writes the documents one by one. -/
def scriptedRun (documents : List (String × Json)) : List ServiceEvent :=
  Program.trace (scripted ⟨.str "success", .null, .int 0⟩)
    ((wordCounter documents).runAgentLoop "Count the words.")
    (documents.map fun document => reply document.1 (.int 7))

theorem scriptedRun_run (documents : List (String × Json)) :
    ∃ result, Program.Run
      ((wordCounter documents).runAgentLoop "Count the words.")
      (scriptedRun documents) result :=
  ⟨_, Program.run_trace _ _⟩

/-- The model has some words counted and finishes. -/
def countAndFinish : List (String × Json) :=
  [("\x7b\"action\": \"call_tool\", \"tool\": \"text_stats\", " ++
      "\"arguments\": \x7b\"text\": \"hi\"\x7d\x7d",
    .obj [("action", .str "call_tool"), ("tool", .str "text_stats"),
      ("arguments", .obj [("text", .str "hi")])]),
    ("\x7b\"action\": \"final\", \"answer\": \"1\"\x7d",
      .obj [("action", .str "final"), ("answer", .str "1")])]

/-- The model has some words counted by a process and by a Job, and finishes. -/
def countTwice : List (String × Json) :=
  countAndFinish.take 1 ++
    ("\x7b\"action\": \"call_tool\", \"tool\": \"text_stats_job\", " ++
        "\"arguments\": \x7b\"text\": \"hi\"\x7d\x7d",
      .obj [("action", .str "call_tool"), ("tool", .str "text_stats_job"),
        ("arguments", .obj [("text", .str "hi")])]) :: countAndFinish.drop 1

/-- Both tools are allowed; there is no executor for Jobs. -/
def jobless : AgentContext :=
  { wordCounter countTwice with
    allowlist := Dict.empty.insert "acme.com" ["text_stats", "text_stats_job"] }

/-- The calls of the run. -/
def joblessRun : List ServiceEvent :=
  Program.trace (scripted ⟨.str "success", .null, .int 0⟩)
    (jobless.runAgentLoop "Count the words.")
    (countTwice.map fun document => reply document.1 (.int 7))

theorem agent_run_authorized_jobless :
    jobless.Accounted joblessRun ∧ (placements joblessRun).length = 1 ∧
      ((records joblessRun).map AuditRecord.tool) = ["text_stats", "text_stats_job"] ∧
      (questions joblessRun).length ≤ 3 := by
  have authorized := AgentContext.agent_run_authorized
    (Program.run_trace (jobless.runAgentLoop "Count the words.") _)
    (show Undisturbed joblessRun by decide +kernel)
    (show AgentContext.ExecutorsReturn joblessRun by decide +kernel)
    (AgentContext.readable_of_all (by decide +kernel))
  exact ⟨authorized.1, by decide +kernel, by decide +kernel, authorized.2.2.1⟩

end PrivateAiWorkspace.ControlPlane
