import PrivateAiWorkspace.ControlPlane.AgentTurns
import PrivateAiWorkspace.ControlPlane.DeepResearch
import PrivateAiWorkspace.Effects.Discipline
import PrivateAiWorkspace.Lists.FirstByKey

/-!
# Runs of deep research

What holds of every run of `run_deep_research`, whatever the model, the corpus,
the embedding service and the web search answer or raise: who is asked, over
which of the passages that came back the answer is written, and how the run
announces itself.
-/

namespace PrivateAiWorkspace.ControlPlane

open PrivateAiWorkspace.Lists Effects Python

/-- A question to the model with its answer. -/
def chatOf : ServiceEvent → Option (ChatCompletionRequest × Except PyException Json)
  | ⟨.chatCompletions request, answer⟩ => some (request, answer)
  | _ => none

/-- The questions to the model with their answers. -/
abbrev chats (events : List ServiceEvent) :
    List (ChatCompletionRequest × Except PyException Json) :=
  events.filterMap chatOf

namespace Research

/-! ## What is asked for -/

/-- The queries of a plan: those the model names, or the question. -/
def readPlan (builtins : Builtins) (budgets : DeepResearchBudgets)
    (question : String) (response : Json) : Except PyException (List String) := do
  let content ← content response
  let found ← extractJsonObject builtins content
  let queries := takeSlice
    (plannedQueries (Json.get (found.getD []) "queries")) budgets.maxSubqueries
  return if queries.isEmpty then [question] else queries

/-- The request by which an answer over some passages is asked for. -/
def Synthesizes (budgets : DeepResearchBudgets) (question : String)
    (passages : List Passage) (request : ChatCompletionRequest) : Prop :=
  ∃ next, synthesize budgets question passages =
    .call (ServiceCall.chatCompletions request) next

/-- The passages a call has brought: those the store answers with, and the results
of a web search. -/
def foundBy : ServiceEvent → List Passage
  | ⟨.query _ _ _, .ok passages⟩ => passages
  | ⟨.search _, .ok results⟩ => results.map webPassage
  | _ => []

/-- All the passages that some calls have brought. -/
abbrev found (events : List ServiceEvent) : List Passage :=
  events.flatMap foundBy

/-- Passages as they are shown to the model: few, and each chunk once. -/
abbrev Shown : List Passage → Prop :=
  Selected Passage.chunkId maxPassages

/-- The passages of which an answer is to be written: the first few chunks among
all that the calls have brought. -/
def gathered (events : List ServiceEvent) : List Passage :=
  firstByKey Passage.chunkId maxPassages (found events)

/-- The queries that are sent out of the process are the tenant's own, or go to a
web search that was asked for and is there. -/
def Permitted (caller : Caller) (useWeb webSearchClient : Bool) :
    Services.Call → Prop
  | .query tenantId _ _ => tenantId = caller.tenantId
  | .search _ => useWeb = true ∧ webSearchClient = true
  | _ => True

/-- The calls so far, of which clocks, ids and the log do not fail. -/
def history (caller : Caller) (useWeb webSearchClient : Bool) :
    Discipline Services PyException (List ServiceEvent) where
  expected event := Dependable event.call → event.answer.isOk
  allowed _ := Permitted caller useWeb webSearchClient
  advance past event := past ++ [event]

theorem after_history (caller : Caller) (useWeb webSearchClient : Bool)
    (past events : List ServiceEvent) :
    (history caller useWeb webSearchClient).after past events = past ++ events := by
  induction events generalizing past with
  | nil => rw [Discipline.after_nil, List.append_nil]
  | cons event events ih =>
      rw [Discipline.after_cons, ih]
      exact List.append_assoc past [event] events

/-! ## Passages -/

/-- As long as there are too few passages, more are collected. -/
theorem collect_eq {passages : List Passage} (found : List Passage)
    (room : passages.length < maxPassages) :
    (collect passages found).1 =
        found.foldl (keepNew Passage.chunkId maxPassages) passages ∧
      ((collect passages found).2 = false →
        (collect passages found).1.length < maxPassages) := by
  induction found generalizing passages with
  | nil => exact ⟨rfl, fun _ => room⟩
  | cons passage found ih =>
      rw [collect, List.foldl_cons]
      split
      next seen =>
        rw [keepNew_of_seen (by simpa using seen)]
        exact ih room
      next fresh =>
        have kept : keepNew Passage.chunkId maxPassages passages passage =
            passages ++ [passage] :=
          if_pos ⟨room, by simpa using fresh⟩
        rw [kept]
        dsimp only
        split
        next full =>
          exact ⟨(foldl_keepNew_of_full full).symm, fun more => by cases more⟩
        next free => exact ih (Nat.lt_of_not_le free)

/-- Web passages are added like those of one more query. -/
theorem addWeb_eq (passages web : List Passage) :
    addWeb passages web =
      web.foldl (keepNew Passage.chunkId maxPassages) passages := by
  induction web generalizing passages with
  | nil => rfl
  | cons passage web ih =>
      rw [addWeb, List.foldl_cons, List.foldl_cons, ← ih, ← addWeb]
      congr 1
      refine if_congr ?_ rfl rfl
      grind

/-- A plan has a query, and no more than may be asked for. -/
theorem length_of_readPlan {builtins : Builtins} {budgets : DeepResearchBudgets}
    {question : String} {response : Json} {queries : List String}
    (bounded : 0 ≤ budgets.maxSubqueries)
    (read : readPlan builtins budgets question response = .ok queries) :
    1 ≤ queries.length ∧ (queries.length : Int) ≤ max 1 budgets.maxSubqueries := by
  rw [readPlan] at read
  cases text : content response with
  | error error =>
      rw [text] at read
      cases read
  | ok text' =>
      rw [text] at read
      cases found : extractJsonObject builtins text' with
      | error error =>
          simp only [found, bind, Except.bind] at read
          cases read
      | ok object =>
          simp only [found, bind, Except.bind, pure, Except.pure,
            Except.ok.injEq] at read
          rw [← read]
          split
          · exact ⟨Nat.le_refl 1, Int.le_max_left _ _⟩
          next some =>
            have short := List.length_take_le budgets.maxSubqueries.toNat
              (plannedQueries (Json.get (object.getD []) "queries"))
            rw [takeSlice, if_pos bounded] at some ⊢
            refine ⟨?_, ?_⟩
            · exact List.length_pos_iff.mpr (by simpa using some)
            · omega

/-! ## Phases -/

section Phases

variable {builtins : Builtins} {budgets : DeepResearchBudgets}
  {question : String} {caller : Caller} {useWeb webSearchClient : Bool}
  {start past reached : List ServiceEvent}

/-- Calls that announce nothing and ask the model nothing bring some passages. -/
structure Brings (start past : List ServiceEvent) (more : List Passage) : Prop where
  notices : notifications past = notifications start
  chats : chats past = chats start
  found : found past = found start ++ more

/-- They may bring none. -/
abbrev Quiet (start past : List ServiceEvent) : Prop := Brings start past []

theorem Quiet.refl (start : List ServiceEvent) : Quiet start start :=
  ⟨rfl, rfl, (List.append_nil _).symm⟩

theorem Brings.trans {first second third : List ServiceEvent}
    {some more : List Passage} (before : Brings first second some)
    (after : Brings second third more) : Brings first third (some ++ more) where
  notices := after.notices.trans before.notices
  chats := after.chats.trans before.chats
  found := by rw [after.found, before.found, List.append_assoc]

/-- Nothing comes after the passages that were brought. -/
theorem Brings.still {first second third : List ServiceEvent}
    {some : List Passage} (before : Brings first second some)
    (after : Quiet second third) : Brings first third some := by
  have both := before.trans after
  rwa [List.append_nil] at both

theorem found_snoc {event : ServiceEvent} :
    found (past ++ [event]) = found past ++ foundBy event := by
  rw [found, List.flatMap_append, List.flatMap_singleton]

/-- One more call that is none of the two. -/
theorem Brings.snoc {event : ServiceEvent} {some more : List Passage}
    (brought : Brings start past some) (noNotice : notificationOf event = none)
    (noChat : chatOf event = none) (brings : foundBy event = more) :
    Brings start (past ++ [event]) (some ++ more) where
  notices := by simp [notifications, List.filterMap_append, noNotice, ← brought.notices]
  chats := by simp [ControlPlane.chats, List.filterMap_append, noChat, ← brought.chats]
  found := by rw [found_snoc, brought.found, brings, List.append_assoc]

/-- One more call of the kind that brings nothing. -/
theorem Quiet.snoc {event : ServiceEvent} (quiet : Quiet start past)
    (noNotice : notificationOf event = none) (noChat : chatOf event = none)
    (nothing : foundBy event = []) : Quiet start (past ++ [event]) :=
  Brings.snoc quiet noNotice noChat nothing

/-- The model has been asked once more. -/
structure Asked (start past : List ServiceEvent) (request : ChatCompletionRequest)
    (answer : Except PyException Json) : Prop where
  notices : notifications past = notifications start
  chats : chats past = chats start ++ [(request, answer)]
  found : found past = found start

theorem Asked.snoc (request : ChatCompletionRequest)
    (answer : Except PyException Json) :
    Asked start (start ++ [⟨ServiceCall.chatCompletions request, answer⟩]) request
      answer :=
  ⟨by simp [notificationOf], by simp [chatOf], found_snoc.trans (List.append_nil _)⟩

theorem follows_ask {system user : String} :
    Program.Follows (history caller useWeb webSearchClient)
      (fun past result => ∃ request, Asked start past request result) start
      (ask budgets system user) := by
  refine ⟨trivial, fun answer _ => ?_⟩
  cases answer with
  | ok response => exact ⟨_, Asked.snoc _ _⟩
  | error error => exact ⟨_, Asked.snoc _ _⟩

/-- The plan is read off the one answer it asks for. -/
theorem follows_plan :
    Program.Follows (history caller useWeb webSearchClient)
      (fun past result => ∃ request answer, Asked start past request answer ∧
        ∀ queries, result = .ok queries → ∃ response, answer = .ok response ∧
          readPlan builtins budgets question response = .ok queries)
      start (plan builtins budgets question) := by
  apply follows_ask.bind
  · intro past response asked
    rcases asked with ⟨request, asked⟩
    apply Program.Follows.ofExceptThen
    · intro text read
      apply Program.Follows.ofExceptThen
      · intro found extracted
        refine ⟨request, _, asked, ?_⟩
        intro queries planned
        refine ⟨response, rfl, ?_⟩
        simp only [readPlan, read, extracted, bind, Except.bind]
        exact planned
      · exact fun error _ => ⟨request, _, asked, nofun⟩
    · exact fun error _ => ⟨request, _, asked, nofun⟩
  · intro past error asked
    rcases asked with ⟨request, asked⟩
    exact ⟨request, _, asked, nofun⟩

/-- A look at the clock. -/
theorem follows_overBudget {started : Rat} :
    Program.Follows (history caller useWeb webSearchClient)
      (fun past _ => Quiet start past) start (overBudget budgets started) := by
  apply Program.Follows.callThen trivial
  · exact fun now _ => (Quiet.refl start).snoc rfl rfl rfl
  · exact fun error _ => (Quiet.refl start).snoc rfl rfl rfl

theorem follows_embedOne {query : String} :
    Program.Follows (history caller useWeb webSearchClient)
      (fun past _ => Quiet start past) start (embedOne query) := by
  apply Program.Follows.callThen trivial
  · intro (vectors : List (List PyFloat)) _
    cases vectors <;> exact (Quiet.refl start).snoc rfl rfl rfl
  · exact fun error _ => (Quiet.refl start).snoc rfl rfl rfl

/-- Calls that bring passages, of which a selection goes on. -/
def Selects (start past : List ServiceEvent) (kept : List Passage)
    (result : Except PyException (List Passage)) : Prop :=
  ∃ more, Brings start past more ∧ ∀ passages, result = .ok passages →
    passages = more.foldl (keepNew Passage.chunkId maxPassages) kept

/-- What one answer brings, and what the calls after it select. -/
theorem Selects.after {kept first : List Passage}
    {result : Except PyException (List Passage)}
    (brought : Brings start past first)
    (selects : Selects past reached
      (first.foldl (keepNew Passage.chunkId maxPassages) kept) result) :
    Selects start reached kept result := by
  rcases selects with ⟨more, later, selected⟩
  refine ⟨first ++ more, brought.trans later, fun passages returned => ?_⟩
  rw [List.foldl_append]
  exact selected passages returned

/-- The answer to a query is collected: it is enough, or the next query goes on. -/
theorem follows_collect {kept more : List Passage}
    {next : List Passage → Service (List Passage)}
    (room : kept.length < maxPassages) (brought : Brings start past more)
    (later : ∀ passages, passages.length < maxPassages →
      Program.Follows (history caller useWeb webSearchClient)
        (fun reached result => Selects past reached passages result) past
        (next passages)) :
    Program.Follows (history caller useWeb webSearchClient)
      (fun reached result => Selects start reached kept result) past
      (if (collect kept more).2 then return (collect kept more).1
        else next (collect kept more).1) := by
  have collected := collect_eq more room
  split
  · refine ⟨more, brought, fun passages returned => ?_⟩
    rw [← collected.1]
    exact (Except.ok.inj returned).symm
  next few =>
    apply (later _ (collected.2 (by simpa using few))).mono
    intro reached result selects
    rw [collected.1] at selects
    exact selects.after brought

/-- The corpus is searched for the tenant of the caller only. -/
theorem follows_retrieve {queries : List String} {kept : List Passage}
    (room : kept.length < maxPassages) :
    Program.Follows (history caller useWeb webSearchClient)
      (fun past result => Selects start past kept result)
      start (retrieve budgets caller.tenantId queries kept) := by
  induction queries generalizing start kept with
  | nil => exact ⟨[], Quiet.refl start, fun _ same => (Except.ok.inj same).symm⟩
  | cons query queries ih =>
      apply follows_embedOne.bind
      · intro past embedding embedded
        apply Program.Follows.callThen rfl
        · intro (more : List Passage) _
          exact follows_collect room (Brings.snoc embedded rfl rfl rfl)
            fun passages room => ih room
        · exact fun error _ => ⟨[], embedded.snoc rfl rfl rfl, nofun⟩
      · exact fun past error embedded => ⟨[], embedded, nofun⟩

/-- The web is searched only when that was asked for and can be done. -/
theorem follows_retrieveWeb {queries : List String} {kept : List Passage}
    (permitted : useWeb = true ∧ webSearchClient = true)
    (room : kept.length < maxPassages) :
    Program.Follows (history caller useWeb webSearchClient)
      (fun past result => Selects start past kept result) start
      (retrieveWeb queries kept) := by
  induction queries generalizing start kept with
  | nil => exact ⟨[], Quiet.refl start, fun _ same => (Except.ok.inj same).symm⟩
  | cons query queries ih =>
      apply Program.Follows.callThen permitted
      · intro (results : List WebResult) _
        exact follows_collect room (Brings.snoc (Quiet.refl start) rfl rfl rfl)
          fun passages room => ih room
      · exact fun error _ => ⟨[], (Quiet.refl start).snoc rfl rfl rfl, nofun⟩

/-- An answer is asked for over the passages. -/
theorem follows_synthesize {passages : List Passage} :
    Program.Follows (history caller useWeb webSearchClient)
      (fun past _ => ∃ request answer, Asked start past request answer ∧
        Synthesizes budgets question passages request)
      start (synthesize budgets question passages) := by
  refine ⟨trivial, fun answer _ => ?_⟩
  cases answer with
  | error error => exact ⟨_, _, Asked.snoc _ _, _, rfl⟩
  | ok response =>
      change Program.Follows _ _ _ (Program.ofExcept (content response))
      cases content response with
      | error error => exact ⟨_, _, Asked.snoc _ _, _, rfl⟩
      | ok text => exact ⟨_, _, Asked.snoc _ _, _, rfl⟩

end Phases

/-! ## A whole run -/

section Runs

variable {builtins : Builtins} {budgets : DeepResearchBudgets}
  {question : String} {caller : Caller}
  {notificationStore useWeb webSearchClient : Bool}
  {start past reached : List ServiceEvent}

/-- What the model is asked: for a plan, and perhaps for an answer over some
passages. -/
inductive Conversed (budgets : DeepResearchBudgets) (question : String)
    (passages : List Passage) :
    List (ChatCompletionRequest × Except PyException Json) → Prop where
  | planned (request : ChatCompletionRequest) (answer : Except PyException Json) :
      Conversed budgets question passages [(request, answer)]
  | synthesized (request : ChatCompletionRequest)
      (answer : Except PyException Json) {request' : ChatCompletionRequest}
      (answer' : Except PyException Json) :
      Synthesizes budgets question passages request' →
      Conversed budgets question passages [(request, answer), (request', answer')]

/-- An answer was written over some passages, for so many queries of the plan. -/
def Found (builtins : Builtins) (budgets : DeepResearchBudgets)
    (question : String) (passages : List Passage) (subqueries : Nat)
    (asked : List (ChatCompletionRequest × Except PyException Json)) : Prop :=
  ∃ request response queries request' answer',
    asked = [(request, .ok response), (request', answer')] ∧
    readPlan builtins budgets question response = .ok queries ∧
    subqueries = queries.length ∧
    Synthesizes budgets question passages request'

/-- Neither has the model been asked nor any passage been brought. -/
structure Fresh (start : List ServiceEvent) : Prop where
  chats : chats start = []
  found : found start = []

/-- What the body of the `try` comes to. -/
structure Investigated (builtins : Builtins) (budgets : DeepResearchBudgets)
    (question : String) (start past : List ServiceEvent)
    (result : Except PyException Findings) : Prop where
  notices : notifications past = notifications start
  conversed : Conversed budgets question (gathered past) (chats past)
  found : ∀ answer passages subqueries,
    result = .ok (.ok (answer, passages, subqueries)) →
    passages = gathered past ∧
      Found builtins budgets question passages subqueries (chats past)

/-- The body ends before it asks for an answer. -/
theorem Investigated.early {request : ChatCompletionRequest}
    {answer : Except PyException Json} {result : Except PyException Findings}
    {more : List Passage} (fresh : Fresh start)
    (asked : Asked start past request answer) (brought : Brings past reached more)
    (unfound : ∀ found, result ≠ .ok (.ok found)) :
    Investigated builtins budgets question start reached result where
  notices := brought.notices.trans asked.notices
  conversed := by
    rw [brought.chats, asked.chats, fresh.chats]
    exact .planned request answer
  found _ _ _ found := absurd found (unfound _)

/-- The body asks for an answer over the passages it has gathered. -/
theorem follows_answer {request : ChatCompletionRequest} {response : Json}
    {queries : List String} {more passages : List Passage}
    (fresh : Fresh start) (asked : Asked start past request (.ok response))
    (read : readPlan builtins budgets question response = .ok queries)
    (brought : Brings past reached more)
    (selected : passages = more.foldl (keepNew Passage.chunkId maxPassages) []) :
    Program.Follows (history caller useWeb webSearchClient)
      (Investigated builtins budgets question start) reached (do
        let answer ← synthesize budgets question passages
        return .ok (answer, passages, queries.length)) := by
  have chats_eq : chats reached = [(request, .ok response)] := by
    rw [brought.chats, asked.chats, fresh.chats]
    rfl
  have gathered_eq : passages = gathered reached := by
    rw [selected, gathered, firstByKey_eq, brought.found, asked.found, fresh.found]
    rfl
  -- However the answer ends, it was asked for over what has been gathered.
  have answered {final : List ServiceEvent} {request' : ChatCompletionRequest}
      {answer' : Except PyException Json} (again : Asked reached final request' answer')
      (synthesizes : Synthesizes budgets question passages request') :
      passages = gathered final ∧ notifications final = notifications start ∧
        Conversed budgets question (gathered final) (chats final) := by
    have still : passages = gathered final := by
      rw [gathered_eq, gathered, gathered, again.found]
    refine ⟨still, again.notices.trans (brought.notices.trans asked.notices), ?_⟩
    rw [again.chats, chats_eq, ← still]
    exact .synthesized request _ answer' synthesizes
  apply follows_synthesize.bind
  · intro final answer synthesized
    rcases synthesized with ⟨request', answer', again, synthesizes⟩
    rcases answered again synthesizes with ⟨still, notices, conversed⟩
    refine ⟨notices, conversed, ?_⟩
    intro _ _ _ same
    cases same
    exact ⟨still, request, response, queries, request', answer',
      by rw [again.chats, chats_eq]; rfl, read, rfl, synthesizes⟩
  · intro final error synthesized
    rcases synthesized with ⟨request', answer', again, synthesizes⟩
    rcases answered again synthesizes with ⟨_, notices, conversed⟩
    exact ⟨notices, conversed, nofun⟩

theorem follows_investigate {started : Rat} (fresh : Fresh start) :
    Program.Follows (history caller useWeb webSearchClient)
      (Investigated builtins budgets question start) start
      (investigate builtins budgets question caller.tenantId started useWeb
        webSearchClient) := by
  have empty : ([] : List Passage).length < maxPassages := by decide
  apply follows_plan.bind
  · intro planned queries asked
    rcases asked with ⟨request, _, asked, reads⟩
    rcases reads queries rfl with ⟨response, rfl, read⟩
    apply follows_overBudget.bind
    · intro timed late quiet
      split
      · exact Investigated.early fresh asked quiet nofun
      · apply (follows_retrieve empty).bind
        · intro retrieved passages retrieval
          rcases retrieval with ⟨more, brought, selected⟩
          have selected := selected passages rfl
          have brought := quiet.trans brought
          apply follows_overBudget.bind
          · intro timed late quiet
            have brought := brought.still quiet
            split
            · exact Investigated.early fresh asked brought nofun
            · split
              next web =>
                apply (follows_retrieveWeb (by simpa using web) empty).bind
                · intro searched web search
                  rcases search with ⟨again, brought', selected'⟩
                  have selected' := selected' web rfl
                  have brought := brought.trans brought'
                  apply follows_overBudget.bind
                  · intro timed late quiet
                    have brought := brought.still quiet
                    split
                    · exact Investigated.early fresh asked brought nofun
                    · apply follows_answer fresh asked read brought
                      -- The web passages were selected among themselves first.
                      rw [addWeb_eq, selected', foldl_foldl_keepNew _ _ Selected.nil,
                        selected, List.foldl_nil, List.nil_append,
                        List.foldl_append]
                  · exact fun timed error quiet =>
                      Investigated.early fresh asked (brought.trans quiet) nofun
                · intro searched error search
                  rcases search with ⟨again, brought', _⟩
                  exact Investigated.early fresh asked (brought.trans brought') nofun
              · exact follows_answer fresh asked read brought selected
          · exact fun timed error quiet =>
              Investigated.early fresh asked (brought.trans quiet) nofun
        · intro retrieved error retrieval
          rcases retrieval with ⟨more, brought, _⟩
          exact Investigated.early fresh asked (quiet.trans brought) nofun
    · exact fun timed error quiet => Investigated.early fresh asked quiet nofun
  · intro planned error asked
    rcases asked with ⟨request, answer, asked, _⟩
    exact Investigated.early fresh asked (Quiet.refl planned) nofun

/-- The notices a run publishes of an event class. -/
def announcement (caller : Caller) (notificationStore : Bool)
    (eventClass : String) : List (String × String × String) :=
  if notificationStore then [(caller.tenantId, caller.userId, eventClass)] else []

/-- The calls of an announcement announce it and ask nothing. -/
theorem shows_published {eventClass runId id : String} {createdAt : DateTime}
    (answer : Except PyException Unit) :
    let past : List ServiceEvent := start ++
      [⟨ServiceCall.uuid4, (.ok id : Except PyException String)⟩] ++
      [⟨ServiceCall.nowUtc, (.ok createdAt : Except PyException DateTime)⟩] ++
      [⟨ServiceCall.publish
        { id, tenantId := caller.tenantId, userId := caller.userId, eventClass,
          resourceId := runId, createdAt, readAt := none }, answer⟩]
    chats past = chats start ∧ found past = found start ∧
      (notifications past).map NotificationEvent.addressed =
        (notifications start).map NotificationEvent.addressed ++
          announcement caller true eventClass := by
  simp only [List.append_assoc, List.filterMap_append, List.map_append,
    List.flatMap_append]
  exact ⟨List.append_nil _, List.append_nil _, rfl⟩

/-- An event is announced once, whatever becomes of it. -/
theorem follows_emit {eventClass runId : String}
    (allowed : eventClass ∈ allowedEventClasses) :
    Program.Follows (history caller useWeb webSearchClient)
      (fun past result => result = .ok () ∧ chats past = chats start ∧
        found past = found start ∧ (notifications past).map NotificationEvent.addressed =
          (notifications start).map NotificationEvent.addressed ++
            announcement caller notificationStore eventClass)
      start
      (Service.emit notificationStore caller.tenantId caller.userId eventClass
        runId) := by
  rw [Service.emit]
  cases notificationStore with
  | false => exact ⟨rfl, rfl, rfl, (List.append_nil _).symm⟩
  | true =>
      rw [if_neg (by simp [allowed])]
      refine ⟨trivial, fun id named => ?_⟩
      cases id with
      | error error => cases named trivial
      | ok id =>
          refine ⟨trivial, fun createdAt dated => ?_⟩
          cases createdAt with
          | error error => cases dated trivial
          | ok createdAt =>
              refine ⟨trivial, fun published _ => ?_⟩
              cases published with
              | ok done => exact ⟨rfl, shows_published (.ok done)⟩
              | error error => exact ⟨rfl, shows_published (.error error)⟩

/-- The class of the notice that ends a run. -/
def terminalClass (outcome : DeepResearchOutcome) : String :=
  if outcome.completed then "agent_task_completed" else "agent_task_failed"

/-- What holds of a run that returns an outcome. The passages are the first few
chunks among those that the store and the web search have answered with. -/
structure Contract (builtins : Builtins) (budgets : DeepResearchBudgets)
    (question : String) (caller : Caller) (notificationStore : Bool)
    (events : List ServiceEvent) (outcome : DeepResearchOutcome) : Prop where
  announced : (notifications events).map NotificationEvent.addressed =
    announcement caller notificationStore "agent_task_progress" ++
      announcement caller notificationStore (terminalClass outcome)
  shown : Shown (gathered events)
  conversed : Conversed budgets question (gathered events) (chats events)
  completed : outcome.completed = true →
    Found builtins budgets question (gathered events) outcome.subqueries
      (chats events) ∧
    outcome.sources = ((gathered events).map Passage.documentId).eraseDups

/-- The announcement of the end is the last call of a run. -/
theorem follows_terminal {runId : String} (outcome : DeepResearchOutcome)
    (quiet : Quiet past reached)
    (opened : (notifications past).map NotificationEvent.addressed =
      announcement caller notificationStore "agent_task_progress")
    (conversed : Conversed budgets question (gathered past) (chats past))
    (completed : outcome.completed = true →
      Found builtins budgets question (gathered past) outcome.subqueries
        (chats past) ∧
      outcome.sources = ((gathered past).map Passage.documentId).eraseDups) :
    Program.Follows (history caller useWeb webSearchClient)
      (fun reached result => ∃ outcome, result = .ok outcome ∧
        Contract builtins budgets question caller notificationStore reached outcome)
      reached (do
        Service.emit notificationStore caller.tenantId caller.userId
          (terminalClass outcome) runId
        return outcome) := by
  have allowed : terminalClass outcome ∈ allowedEventClasses := by
    rw [terminalClass]
    split <;> decide
  apply (follows_emit allowed).bind
  · intro final _ emitted
    rcases emitted with ⟨_, asked, brought, announced⟩
    have gathered_eq : gathered final = gathered past := by
      rw [gathered, gathered, brought, quiet.found, List.append_nil]
    refine ⟨outcome, rfl, ?_, selected_firstByKey _ _ _, ?_, ?_⟩
    · rw [announced, quiet.notices, opened]
    · rw [asked, quiet.chats, gathered_eq]
      exact conversed
    · rw [asked, quiet.chats, gathered_eq]
      exact completed
  · exact fun reached error emitted => nomatch emitted.1

/-- The `try` ends in what the body comes to, and so does the run. -/
theorem follows_concluded {runId : String} {started : Rat} (fresh : Fresh start)
    (opened : (notifications start).map NotificationEvent.addressed =
      announcement caller notificationStore "agent_task_progress") :
    Program.Follows (history caller useWeb webSearchClient)
      (fun reached result => ∃ outcome, result = .ok outcome ∧
        Contract builtins budgets question caller notificationStore reached outcome)
      start (do
        match ← (investigate builtins budgets question caller.tenantId started
            useWeb webSearchClient).attempt with
        | .error _ =>
            Service.emit notificationStore caller.tenantId caller.userId
              "agent_task_failed" runId
            return ⟨false, none, [], 0, some "inference_unavailable"⟩
        | .ok (.error subqueries) =>
            Service.emit notificationStore caller.tenantId caller.userId
              "agent_task_failed" runId
            return ⟨false, none, [], subqueries, some "wall_clock"⟩
        | .ok (.ok (answer, passages, subqueries)) =>
            auditAllowed caller.tenantId caller.userId "deep_research"
              (argShape [("question", .str question)]) (.str "success") none .null
            Service.emit notificationStore caller.tenantId caller.userId
              "agent_task_completed" runId
            return ⟨true, some answer,
              (passages.map Passage.documentId).eraseDups, subqueries, none⟩) := by
  have tried : Program.Follows (history caller useWeb webSearchClient)
      (fun past caught => ∃ result, caught = .ok result ∧
        Investigated builtins budgets question start past result)
      start (investigate builtins budgets question caller.tenantId started useWeb
        webSearchClient).attempt :=
    (follows_investigate fresh).attempt fun past result ended =>
      ⟨result, rfl, ended⟩
  apply tried.bind
  · intro past result ended
    rcases ended with ⟨_, same, ended⟩
    cases same
    have opened' := (congrArg (List.map NotificationEvent.addressed)
      ended.notices).trans opened
    match result with
    | .error error =>
        exact follows_terminal ⟨false, none, [], 0, some "inference_unavailable"⟩
          (Quiet.refl past) opened' ended.conversed nofun
    | .ok (.error subqueries) =>
        exact follows_terminal ⟨false, none, [], subqueries, some "wall_clock"⟩
          (Quiet.refl past) opened' ended.conversed nofun
    | .ok (.ok (answer, passages, subqueries)) =>
        rcases ended.found answer passages subqueries rfl with ⟨rfl, found⟩
        apply Program.Follows.callThen trivial
        · intro (done : Unit) _
          exact follows_terminal ⟨true, some answer, _, subqueries, none⟩
            ((Quiet.refl past).snoc rfl rfl rfl) opened' ended.conversed
            fun _ => ⟨found, rfl⟩
        · exact fun error logged => nomatch logged trivial
  · exact fun past error ended => nomatch ended.choose_spec.1

theorem follows_runDeepResearch :
    Program.Follows (history caller useWeb webSearchClient)
      (fun reached result => ∃ outcome, result = .ok outcome ∧
        Contract builtins budgets question caller notificationStore reached outcome)
      [] (runDeepResearch builtins budgets question caller notificationStore useWeb
        webSearchClient) := by
  apply Program.Follows.callThen trivial
  · intro (runId : String) _
    apply (follows_emit (by decide : "agent_task_progress" ∈ allowedEventClasses)).bind
    · intro opened _ emitted
      rcases emitted with ⟨_, unasked, nothing, announced⟩
      apply Program.Follows.callThen trivial
      · intro (started : Rat) _
        have clocked : Quiet opened (opened ++ [⟨ServiceCall.monotonic,
            (.ok started : Except PyException Rat)⟩]) :=
          (Quiet.refl opened).snoc rfl rfl rfl
        apply follows_concluded ⟨clocked.chats.trans unasked,
          clocked.found.trans ((List.append_nil _).trans nothing)⟩
        rw [clocked.notices]
        exact announced
      · exact fun error told => nomatch told trivial
    · exact fun opened error emitted => nomatch emitted.1
  · exact fun error named => nomatch named trivial

/-- Whatever its clients answer or raise, a run returns an outcome that keeps the
contract, a completed one counts the queries of its plan, and no query leaves the
process that may not. -/
theorem runDeepResearch_contract (builtins : Builtins)
    (budgets : DeepResearchBudgets) (question : String) (caller : Caller)
    (notificationStore useWeb webSearchClient : Bool)
    (bounded : 0 ≤ budgets.maxSubqueries) {events : List ServiceEvent}
    {result : Except PyException DeepResearchOutcome}
    (run : Program.Run (runDeepResearch builtins budgets question caller
      notificationStore useWeb webSearchClient) events result)
    (undisturbed : Undisturbed events) :
    (∃ outcome, result = .ok outcome ∧
      Contract builtins budgets question caller notificationStore events outcome ∧
      (outcome.completed = true → 1 ≤ outcome.subqueries ∧
        (outcome.subqueries : Int) ≤ max 1 budgets.maxSubqueries)) ∧
    ∀ event ∈ events, Permitted caller useWeb webSearchClient event.call := by
  have follows := @follows_runDeepResearch builtins budgets question caller
    notificationStore useWeb webSearchClient
  refine ⟨?_, ?_⟩
  · rcases follows.of_run run undisturbed with ⟨outcome, returned, contract⟩
    rw [after_history, List.nil_append] at contract
    refine ⟨outcome, returned, contract, ?_⟩
    intro completed
    rcases contract.completed completed with
      ⟨⟨_, _, queries, _, _, _, read, counted, _⟩, _⟩
    rw [counted]
    exact length_of_readPlan bounded read
  · intro event member
    rcases List.append_of_mem member with ⟨before, after, split⟩
    exact follows.allowed_of_run run undisturbed split

/-- A world whose clock stands still, whose corpus has two chunks of one document,
whose web has one page and whose model gives some texts and then fails. -/
def smallLibrary : List String → (request : Services.Call) →
    Except PyException (Services.Answer request) × List String
  | text :: rest, .chatCompletions _ =>
      (.ok (.obj [("choices", .arr [.obj [("message",
        .obj [("content", .str text)])]])]), rest)
  | texts, .monotonic => (.ok (0 : Rat), texts)
  | texts, .uuid4 => (.ok "id", texts)
  | texts, .nowUtc => (.ok ⟨2026, 1, 1, 9, 0, 0, 0, by decide⟩, texts)
  | texts, .audit _ => (.ok (), texts)
  | texts, .publish _ => (.ok (), texts)
  | texts, .embed _ => (.ok ([[]] : List (List PyFloat)), texts)
  | texts, .query _ _ _ =>
      (.ok ([⟨"manual", "Reset it.", "c1"⟩, ⟨"manual", "Wait.", "c2"⟩] :
        List Passage), texts)
  | texts, .search _ =>
      (.ok ([⟨"Help", "https://help.example", "Ask."⟩] : List WebResult), texts)
  | texts, _ => (.error .timeoutError, texts)

/-- A plan of two queries. -/
def plannedText : String := "\x7b\"queries\": [\"reset\", \"wait\"]\x7d"

/-- What the plan loads as. -/
def plannedBuiltins : Builtins :=
  .sample [(plannedText,
    .obj [("queries", .arr [.str "reset", .str "wait"])])]

/-- A run that searches the corpus and the web. -/
def plannedRun : Service DeepResearchOutcome :=
  runDeepResearch plannedBuiltins ⟨3, 4, 60, 100, "default"⟩
    "How?" ⟨"acme.com", "ana"⟩ true true true

/-- Each query brings the same passages again; each is shown and cited once. -/
theorem runDeepResearch_contract_planned :
    ∃ outcome,
      (plannedRun.eval smallLibrary [plannedText, "Reset [1]."]).1 = .ok outcome ∧
      outcome = ⟨true, some "Reset [1].", ["manual", "https://help.example"], 2,
        none⟩ ∧
      Contract plannedBuiltins ⟨3, 4, 60, 100, "default"⟩ "How?"
        ⟨"acme.com", "ana"⟩ true
        (plannedRun.trace smallLibrary [plannedText, "Reset [1]."]) outcome ∧
      (gathered (plannedRun.trace smallLibrary
        [plannedText, "Reset [1]."])).map Passage.chunkId =
          ["c1", "c2", "https://help.example"] := by
  have contract := runDeepResearch_contract plannedBuiltins
    ⟨3, 4, 60, 100, "default"⟩ "How?" ⟨"acme.com", "ana"⟩ true true true
    (by decide) (Program.run_trace plannedRun [plannedText, "Reset [1]."])
    (by decide +kernel : Undisturbed
      (plannedRun.trace smallLibrary [plannedText, "Reset [1]."]))
  rcases contract.1 with ⟨outcome, returned, kept, _⟩
  have completed : (plannedRun.eval smallLibrary [plannedText, "Reset [1]."]).1 =
      .ok ⟨true, some "Reset [1].", ["manual", "https://help.example"], 2, none⟩ := by
    decide +kernel
  exact ⟨outcome, returned, Except.ok.inj (returned.symm.trans completed), kept,
    by decide +kernel⟩

end Runs

end Research

end PrivateAiWorkspace.ControlPlane
