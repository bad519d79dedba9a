import PrivateAiWorkspace.ControlPlane.AgentAuthorization

/-!
# How an agent run ends

A run that comes to an outcome has announced it once. What stands in the way is
named here: the extractors of the loop run outside its `try`, so a response that
one of them raises on ends the run with an exception and without a terminal
notification.
-/

namespace PrivateAiWorkspace.ControlPlane

open Effects Python

/-! ## What the extractors raise on -/

section Content

theorem getAttr_error {key : String} {value : Json} {error : PyException}
    (raised : value.getAttr key = .error error) : error = .attributeError := by
  cases value with
  | obj fields => cases raised
  | null | bool | int | float | str | arr =>
      cases raised
      rfl

theorem getFirst_error {value : Json} {error : PyException}
    (raised : value.getFirst = .error error) :
    error = .indexError ∨ error = .keyError ∨ error = .typeError := by
  unfold Json.getFirst at raised
  split at raised
  · cases raised
  · cases raised
    exact Or.inl rfl
  · split at raised
    · cases raised
      exact Or.inl rfl
    · cases raised
  · cases raised
    exact Or.inr (Or.inl rfl)
  · cases raised
    exact Or.inr (Or.inr rfl)

theorem readContent_error {response : Json} {error : PyException}
    (raised : readContent response = .error error) :
    error = .attributeError ∨ error = .indexError ∨ error = .keyError ∨
      error = .typeError := by
  rcases error_of_bind raised with raised | ⟨choices, _, raised⟩
  · exact Or.inl (getAttr_error raised)
  rcases error_of_bind raised with raised | ⟨choice, _, raised⟩
  · exact Or.inr (getFirst_error raised)
  rcases error_of_bind raised with raised | ⟨message, _, raised⟩
  · exact Or.inl (getAttr_error raised)
  rcases error_of_bind raised with raised | ⟨text, _, raised⟩
  · exact Or.inl (getAttr_error raised)
  · cases text <;> cases raised

/-- The text that `_content` finds in a response. -/
def contentOf (response : Json) : String :=
  match readContent response with
  | .ok content => content
  | .error _ => ""

/-- `_content` raises on no response. -/
theorem content_eq (response : Json) :
    content response = .ok (contentOf response) := by
  unfold content contentOf
  cases read : readContent response with
  | ok content => rfl
  | error error =>
      rcases readContent_error read with rfl | rfl | rfl | rfl <;> rfl

end Content

/-- A response whose count of tokens is an infinite float. -/
def ReportsInfinity (response : Json) : Prop :=
  ∃ fields usage negative, response = .obj fields ∧
    Json.get fields "usage" = .obj usage ∧
    Json.get usage "total_tokens" = .float (.infinity negative)

/-- A key of a value that stands for an empty dict unless it is truthy. -/
theorem getAttr_orElse_cases (key : String) (value : Json) :
    (∃ fields, value = .obj fields ∧
        (value.orElse (.obj [])).getAttr key = .ok (Json.get fields key)) ∨
      (value.orElse (.obj [])).getAttr key = .ok .null ∨
      (value.orElse (.obj [])).getAttr key = .error .attributeError := by
  cases value with
  | obj fields =>
      refine Or.inl ⟨fields, rfl, ?_⟩
      cases fields <;> rfl
  | null | bool | int | float | str | arr =>
      refine Or.inr ?_
      unfold Json.orElse
      split
      · exact Or.inr rfl
      · exact Or.inl rfl

theorem readTokens_error {response : Json} {error : PyException}
    (raised : readTokens response = .error error) :
    error = .attributeError ∨ error = .valueError ∨ ReportsInfinity response := by
  rcases error_of_bind raised with unused | ⟨reported, read, reading⟩
  · exact Or.inl (getAttr_error unused)
  rcases error_of_bind reading with untotalled | ⟨total, found, counting⟩
  · exact Or.inl (getAttr_error untotalled)
  rcases getAttr_orElse_cases "total_tokens" reported with
    ⟨usage, rfl, same⟩ | same | same
  · cases same.symm.trans found
    cases response with
    | null | bool | int | float | str | arr => cases read
    | obj fields =>
        have reported := Except.ok.inj read
        cases total : Json.get usage "total_tokens" with
        | float value =>
            rw [total] at counting
            cases value with
            | finite value => cases counting
            | infinity negative =>
                exact Or.inr (Or.inr
                  ⟨fields, usage, negative, rfl, reported, total⟩)
            | nan =>
                cases counting
                exact Or.inr (Or.inl rfl)
        | null | bool | int | str | arr | obj =>
            rw [total] at counting
            cases counting
  · cases same.symm.trans found
    cases counting
  · cases same.symm.trans found

/-- `_tokens` raises on the responses that report infinitely many. -/
theorem tokens_error_iff (response : Json) :
    (∃ error, tokens response = .error error) ↔ ReportsInfinity response := by
  constructor
  · rintro ⟨error, raised⟩
    unfold tokens at raised
    cases read : readTokens response with
    | ok total =>
        rw [read] at raised
        cases raised
    | error first =>
        rw [read] at raised
        rcases readTokens_error read with rfl | rfl | infinite
        · cases raised
        · cases raised
        · exact infinite
  · rintro ⟨fields, usage, negative, rfl, reported, total⟩
    refine ⟨.overflowError, ?_⟩
    have read : readTokens (.obj fields) = .error .overflowError := by
      have found : (Json.orElse (.obj usage) (.obj [])).getAttr "total_tokens" =
          .ok (.float (.infinity negative)) := by
        rw [← total]
        cases usage <;> rfl
      simp only [readTokens, Json.getAttr.eq_1, bind, Except.bind, reported]
      rw [found]
      rfl
    rw [tokens, read]

/-! ## Documents in the text of a response -/

/-- The texts that `_extract_json_object` gives `json.loads`, as long as it
rejects them. -/
def candidates : List Char → List String
  | [] => []
  | c :: rest =>
      if c = '\x7b' then
        match balanced 0 false false (c :: rest) with
        | none => candidates rest
        | some candidate => String.ofList candidate :: candidates rest
      else candidates rest

/-- `json.loads` raises something else than `ValueError` on the first candidate
that it does not reject, as it does when the nesting is too deep. -/
inductive Chokes (builtins : Builtins) : List String → Prop where
  | here {candidate : String} {rest : List String} {error : PyException} :
      builtins.loads candidate = .error error → error ≠ .valueError →
      Chokes builtins (candidate :: rest)
  | later {candidate : String} {rest : List String} :
      builtins.loads candidate = .error .valueError → Chokes builtins rest →
      Chokes builtins (candidate :: rest)

/-- The search raises on the texts that `json.loads` chokes on. -/
theorem extractFrom_error_iff (builtins : Builtins) (text : List Char) :
    (∃ error, extractFrom builtins text = .error error) ↔
      Chokes builtins (candidates text) := by
  induction text with
  | nil =>
      constructor
      · rintro ⟨error, raised⟩
        cases raised
      · intro chokes
        cases chokes
  | cons c rest ih =>
      unfold extractFrom candidates
      split
      next brace =>
        cases closed : balanced 0 false false (c :: rest) with
        | none => exact ih
        | some candidate =>
            cases loaded : builtins.loads (String.ofList candidate) with
            | ok document =>
                constructor
                · rintro ⟨error, raised⟩
                  cases document <;> simp only [loaded] at raised <;> cases raised
                · intro chokes
                  cases chokes with
                  | here failed => cases loaded.symm.trans failed
                  | later failed => cases loaded.symm.trans failed
            | error first =>
                by_cases rejected : first = .valueError
                · subst rejected
                  refine Iff.trans ?_ (ih.trans ?_)
                  · simp only [loaded]
                  · constructor
                    · exact .later loaded
                    · intro chokes
                      cases chokes with
                      | here failed other =>
                          cases loaded.symm.trans failed
                          exact absurd rfl other
                      | later _ chokes => exact chokes
                · refine ⟨fun _ => .here loaded rejected, fun _ => ⟨first, ?_⟩⟩
                  simp only [loaded]
      next => exact ih

/-- What the extractors of the loop need of a response: a count of tokens that is
not infinite, and a text `json.loads` does not choke on. -/
structure Digestible (builtins : Builtins) (response : Json) : Prop where
  finite : ¬ ReportsInfinity response
  parsed : ¬ Chokes builtins (candidates (contentOf response).toList)

theorem parseAction_error_iff (builtins : Builtins) (text : String) :
    (∃ error, parseAction builtins text = .error error) ↔
      Chokes builtins (candidates text.toList) := by
  rw [← extractFrom_error_iff]
  unfold parseAction extractJsonObject
  cases extractFrom builtins text.toList with
  | error error => exact ⟨fun _ => ⟨error, rfl⟩, fun _ => ⟨error, rfl⟩⟩
  | ok found =>
      constructor
      · rintro ⟨error, raised⟩
        cases found <;> cases raised
      · rintro ⟨error, raised⟩
        cases raised

/-- A response is read exactly when no extractor raises on it. -/
theorem readable_iff (context : AgentContext) (response : Json) :
    (∃ reading, context.readResponse response = .ok reading) ↔
      Digestible context.builtins response := by
  unfold AgentContext.readResponse
  rw [content_eq]
  cases counted : tokens response with
  | error error =>
      constructor
      · rintro ⟨reading, impossible⟩
        cases impossible
      · intro digestible
        exact (digestible.finite ((tokens_error_iff response).mp
          ⟨error, counted⟩)).elim
  | ok total =>
      have finite : ¬ ReportsInfinity response := by
        intro infinite
        rcases (tokens_error_iff response).mpr infinite with ⟨error, raised⟩
        cases counted.symm.trans raised
      cases parsed : parseAction context.builtins (contentOf response) with
      | error error =>
          constructor
          · rintro ⟨reading, impossible⟩
            simp [bind, Except.bind, parsed] at impossible
          · intro digestible
            exact (digestible.parsed ((parseAction_error_iff _ _).mp
              ⟨error, parsed⟩)).elim
      | ok action =>
          have chokes : ¬ Chokes context.builtins
              (candidates (contentOf response).toList) := by
            intro chokes
            rcases (parseAction_error_iff _ _).mpr chokes with ⟨error, raised⟩
            cases parsed.symm.trans raised
          refine ⟨fun _ => ⟨finite, chokes⟩, fun _ => ?_⟩
          cases action with
          | none =>
              refine ⟨(total, .ignored), ?_⟩
              simp only [bind, Except.bind, parsed]
              rfl
          | some action =>
              refine ⟨(total, context.judge action), ?_⟩
              simp only [bind, Except.bind, parsed]
              rfl

/-! ## Turns that come to an outcome -/

namespace AgentContext

variable {context : AgentContext} {events before after : List ServiceEvent}

theorem ExecutorsReturn.of_idle (idle : placements events = []) :
    ExecutorsReturn events := by
  intro event member started
  rw [List.filterMap_eq_nil_iff.mp idle event member] at started
  cases started

theorem readable_append :
    context.Readable (before ++ after) ↔
      context.Readable before ∧ context.Readable after := by
  unfold Readable responses
  rw [List.filterMap_append]
  exact List.forall_mem_append

theorem Readable.of_silent (silent : responses events = []) :
    context.Readable events := by
  unfold Readable
  rw [silent]
  exact fun _ impossible => nomatch impossible

theorem readable_asked {now : Rat} {request : ChatCompletionRequest}
    {response : Json} :
    context.Readable (asked now request (.ok response)) ↔
      ∃ reading, context.readResponse response = .ok reading :=
  List.forall_mem_singleton

theorem returns_asked (now : Rat) (request : ChatCompletionRequest)
    (answer : Except PyException Json) :
    ExecutorsReturn (asked now request answer) := .of_idle rfl

theorem Dispatched.returns {tool : String} {arguments : List (String × Json)}
    {outcome : SandboxOutcome}
    (dispatched : context.Dispatched tool arguments events (.ok outcome)) :
    ExecutorsReturn events := by
  cases dispatched with
  | subprocess =>
      rintro _ (_ | ⟨_, ⟨⟩⟩) _
      rfl
  | job =>
      rintro _ (_ | ⟨_, _ | ⟨_, ⟨⟩⟩⟩) _
      · rfl
      · rfl
  | unavailable => exact .of_idle rfl

theorem Reacts.returns {verdict : Verdict}
    (reacts : context.Reacts verdict events) : ExecutorsReturn events := by
  cases reacts with
  | ignored | malformed | denied => exact .of_idle rfl
  | accepted dispatched =>
      exact executorsReturn_append.mpr ⟨dispatched.returns, .of_idle rfl⟩

section Turns

variable {runId : String} {remaining : Nat} {tokens : Int}
  {result : Except PyException AgentRunOutcome} {status : RunStatus}

theorem Ended.passes (ended : context.Ended runId status events result) :
    (∃ outcome, result = .ok outcome) ∧ context.Readable events ∧
      ExecutorsReturn events := by
  rcases ended.returned with ⟨outcome, returned, _⟩
  rcases ended.announced.shows with ⟨_, silent, idle, _, _⟩
  exact ⟨⟨outcome, returned⟩, .of_silent silent, .of_idle idle⟩

theorem Ended.told {outcome : AgentRunOutcome}
    (ended : context.Ended runId status events result)
    (same : .ok outcome = result) :
    (notifications events).map NotificationEvent.addressed =
      context.announcement (terminalClass outcome.status) := by
  rcases ended.returned with ⟨_, returned, rfl⟩
  cases same.trans returned
  exact ended.announced.shows.2.2.2.2

/-- Turns come to an outcome exactly when every response can be read and every
tool that is started comes to one. -/
theorem Turns.returned_iff
    (turns : context.Turns runId remaining tokens events result) :
    (∃ outcome, result = .ok outcome) ↔
      context.Readable events ∧ ExecutorsReturn events := by
  induction turns with
  | exhausted ended => exact iff_of_true ended.passes.1 ended.passes.2
  | stopped now ended =>
      refine iff_of_true ended.passes.1 ⟨ended.passes.2.1, ?_⟩
      refine List.forall_mem_cons.mpr ⟨fun started => ?_, ended.passes.2.2⟩
      cases started
  | unavailable now request error within ended =>
      refine iff_of_true ended.passes.1 ⟨?_, ?_⟩
      · exact readable_append.mpr ⟨.of_silent rfl, ended.passes.2.1⟩
      · exact executorsReturn_append.mpr
          ⟨returns_asked now request _, ended.passes.2.2⟩
  | unreadable now request response error within unread =>
      refine iff_of_false (fun ⟨_, impossible⟩ => nomatch impossible) ?_
      rintro ⟨readable, _⟩
      rcases readable_asked.mp readable with ⟨reading, read⟩
      cases unread.symm.trans read
  | finished now request response text within read ended =>
      refine iff_of_true ended.passes.1 ⟨?_, ?_⟩
      · exact readable_append.mpr
          ⟨readable_asked.mpr ⟨_, read⟩, ended.passes.2.1⟩
      · exact executorsReturn_append.mpr
          ⟨returns_asked now request _, ended.passes.2.2⟩
  | crashed now request response error within read dispatched =>
      refine iff_of_false (fun ⟨_, impossible⟩ => nomatch impossible) ?_
      rintro ⟨_, returns⟩
      exact dispatched.not_returns (executorsReturn_append.mp returns).2
  | turn now request response within read reacts _ ih =>
      rw [ih, readable_append, readable_append, executorsReturn_append,
        executorsReturn_append]
      have silent : context.Readable _ := .of_silent reacts.shows.2.1
      exact ⟨fun ⟨readable, returns⟩ =>
          ⟨⟨readable_asked.mpr ⟨_, read⟩, silent, readable⟩,
            returns_asked now request _, reacts.returns, returns⟩,
        fun ⟨readable, returns⟩ => ⟨readable.2.2, returns.2.2⟩⟩

/-- Turns that come to an outcome announce it, and nothing else. -/
theorem Turns.announced {outcome : AgentRunOutcome}
    (turns : context.Turns runId remaining tokens events (.ok outcome)) :
    (notifications events).map NotificationEvent.addressed =
      context.announcement (terminalClass outcome.status) := by
  generalize same : (.ok outcome : Except PyException AgentRunOutcome) = result
    at turns
  induction turns with
  | exhausted ended => exact ended.told same
  | stopped now ended => exact ended.told same
  | unavailable now request error within ended => exact ended.told same
  | unreadable | crashed => cases same
  | finished now request response text within read ended => exact ended.told same
  | turn now request response within read reacts _ ih =>
      rw [← ih same]
      simp [reacts.shows.2.2.1]

end Turns

/-- A run returns an outcome, and announces its beginning and the end that the
outcome names, exactly when the extractors raise on no response and every tool
that is started comes to an outcome. -/
theorem agent_run_returns_iff {task : String}
    {result : Except PyException AgentRunOutcome}
    (run : Program.Run (context.runAgentLoop task) events result)
    (undisturbed : Undisturbed events) :
    (∃ outcome, result = .ok outcome ∧
        (notifications events).map NotificationEvent.addressed =
          context.announcement "agent_task_progress" ++
            context.announcement (terminalClass outcome.status)) ↔
      (∀ response ∈ responses events, Digestible context.builtins response) ∧
        ExecutorsReturn events := by
  rcases turns_of_runAgentLoop run undisturbed with
    ⟨runId, opening, taken, rfl, opened, turns⟩
  rcases opened.shows with ⟨_, silent, idle, _, announced⟩
  have readable : context.Readable (opening ++ taken) ↔
      context.Readable taken :=
    readable_append.trans (and_iff_right (.of_silent silent))
  have returns : ExecutorsReturn (opening ++ taken) ↔ ExecutorsReturn taken :=
    executorsReturn_append.trans (and_iff_right (.of_idle idle))
  have digestible : (∀ response ∈ responses (opening ++ taken),
      Digestible context.builtins response) ↔
        context.Readable (opening ++ taken) :=
    forall₂_congr fun response _ => (readable_iff context response).symm
  rw [digestible, readable, returns, ← turns.returned_iff]
  constructor
  · rintro ⟨outcome, returned, _⟩
    exact ⟨outcome, returned⟩
  · rintro ⟨outcome, rfl⟩
    refine ⟨outcome, rfl, ?_⟩
    have both : notifications (opening ++ taken) =
        notifications opening ++ notifications taken := List.filterMap_append
    rw [both, List.map_append, announced, turns.announced]

end AgentContext

theorem agent_run_returns_iff_countAndFinish :
    ∃ result outcome, Program.Run
        ((wordCounter countAndFinish).runAgentLoop "Count the words.")
        (scriptedRun countAndFinish) result ∧
      result = .ok outcome ∧
      (notifications (scriptedRun countAndFinish)).map
          NotificationEvent.addressed =
        (wordCounter countAndFinish).announcement "agent_task_progress" ++
          (wordCounter countAndFinish).announcement
            (AgentContext.terminalClass outcome.status) := by
  rcases scriptedRun_run countAndFinish with ⟨result, run⟩
  have readable : (wordCounter countAndFinish).Readable
      (scriptedRun countAndFinish) :=
    AgentContext.readable_of_all (by decide +kernel)
  rcases (AgentContext.agent_run_returns_iff run (by decide +kernel)).mpr
    ⟨fun response member => (readable_iff _ response).mp
      (readable response member), by decide +kernel⟩ with
    ⟨outcome, returned, told⟩
  exact ⟨result, outcome, run, returned, told⟩

/-- A run whose first response counts infinitely many tokens. -/
def infiniteRun : List ServiceEvent :=
  Program.trace (scripted ⟨.str "success", .null, .int 0⟩)
    ((wordCounter []).runAgentLoop "Count the words.")
    [reply "" (.float (.infinity false))]

/-- The run raises, and its end is not announced. -/
theorem infiniteRun_raises :
    Undisturbed infiniteRun ∧ AgentContext.ExecutorsReturn infiniteRun ∧
      Program.Run ((wordCounter []).runAgentLoop "Count the words.") infiniteRun
        (.error .overflowError) ∧
      (notifications infiniteRun).map NotificationEvent.addressed =
        [("acme.com", "ana", "agent_task_progress")] := by
  refine ⟨by decide +kernel, by decide +kernel, ?_, by decide +kernel⟩
  have raised : (((wordCounter []).runAgentLoop "Count the words.").eval
      (scripted ⟨.str "success", .null, .int 0⟩)
      [reply "" (.float (.infinity false))]).1 = .error .overflowError := by
    decide +kernel
  rw [← raised]
  exact Program.run_trace _ _

end PrivateAiWorkspace.ControlPlane
