import PrivateAiWorkspace.ControlPlane.AgentLoop

/-!
# Deep research

`deep_research.py`: plan search queries, retrieve passages from the tenant's own
corpus and, when asked for, from the web, and write a cited answer.
-/

namespace PrivateAiWorkspace.ControlPlane

open Effects Python

/-- `_MAX_QUESTION_BYTES`. -/
def maxQuestionBytes : Nat := 4000

/-- `_MAX_PASSAGES`. -/
def maxPassages : Nat := 12

/-- `DeepResearchBudgets`. -/
structure DeepResearchBudgets where
  maxSubqueries : Int
  topK : Int
  wallClockSeconds : Rat
  maxTokens : Int
  model : String

/-- `DeepResearchOutcome`. -/
structure DeepResearchOutcome where
  completed : Bool
  answer : Option String
  sources : List String
  subqueries : Nat
  detail : Option String
  deriving DecidableEq

namespace Research

variable (builtins : Builtins) (budgets : DeepResearchBudgets)

/-- Ask the model, within the budget of one call. -/
def ask (system user : String) : Service Json :=
  Service.chatCompletions (.build budgets.model
    [⟨.system, system⟩, ⟨.user, user⟩] (some budgets.maxTokens))

/-- The queries named in a plan, without surrounding white space. -/
def plannedQueries : Json → List String
  | .arr items => items.filterMap fun
      | .str query => if Str.strip query = "" then none else some (Str.strip query)
      | _ => none
  | _ => []

/-- `_plan`. -/
def plan (question : String) : Service (List String) := do
  let response ← ask budgets
    ("You decompose a research question into focused search queries. Reply " ++
      "with EXACTLY one JSON object and nothing else: " ++
      "\x7b\"queries\": [\"...\", \"...\"]\x7d. Use at most " ++
      toString budgets.maxSubqueries ++ " queries.")
    question
  let content ← Program.ofExcept (content response)
  let found ← Program.ofExcept (extractJsonObject builtins content)
  let queries := takeSlice
    (plannedQueries (Json.get (found.getD []) "queries")) budgets.maxSubqueries
  return if queries.isEmpty then [question] else queries

/-- `embed_measured(client, [query])[0]`. -/
def embedOne (query : String) : Service (List PyFloat) := do
  match ← (.call (ServiceCall.embed [query]) Program.ofExcept :
      Service (List (List PyFloat))) with
  | vector :: _ => return vector
  | [] => .raise .indexError

/-- Add the passages not seen yet; the flag says that there are enough. -/
def collect : List Passage → List Passage → List Passage × Bool
  | passages, [] => (passages, false)
  | passages, passage :: rest =>
      if passages.any (·.chunkId = passage.chunkId) then collect passages rest
      else
        let passages := passages ++ [passage]
        if maxPassages ≤ passages.length then (passages, true)
        else collect passages rest

/-- `_retrieve`. -/
def retrieve (tenantId : String) :
    List String → List Passage → Service (List Passage)
  | [], passages => return passages
  | query :: queries, passages => do
      let embedding ← embedOne query
      let found ← (.call (ServiceCall.query tenantId embedding budgets.topK)
        Program.ofExcept : Service (List Passage))
      let collected := collect passages found
      if collected.2 then return collected.1
      else retrieve tenantId queries collected.1

/-- Blanks and dashes, which `strip(" —")` removes at both ends. -/
def stripDashes (text : String) : String :=
  let trim := List.dropWhile fun c : Char => c = ' ' || c = '—'
  String.ofList (trim (trim text.toList).reverse).reverse

/-- A web result as a passage. -/
def webPassage (result : WebResult) : Passage where
  documentId := result.url
  content := stripDashes (result.title ++ " — " ++ result.snippet)
  chunkId := result.url

/-- `_retrieve_web`. -/
def retrieveWeb : List String → List Passage → Service (List Passage)
  | [], passages => return passages
  | query :: queries, passages => do
      let found ← (.call (ServiceCall.search query) Program.ofExcept :
        Service (List WebResult))
      let collected := collect passages (found.map webPassage)
      if collected.2 then return collected.1
      else retrieveWeb queries collected.1

/-- Web passages next to those of the corpus, as long as there is room. -/
def addWeb (passages web : List Passage) : List Passage :=
  web.foldl (fun passages passage =>
      if passages.all (·.chunkId ≠ passage.chunkId) &&
          passages.length < maxPassages then
        passages ++ [passage]
      else passages)
    passages

/-- The numbered sources. -/
def sourceLines (passages : List Passage) : List String :=
  passages.zipIdx.map fun (passage, index) =>
    "[" ++ toString (index + 1) ++ "] (doc:" ++ passage.documentId ++ ") " ++
      passage.content

/-- `_synthesize`. -/
def synthesize (question : String) (passages : List Passage) :
    Service String := do
  let sources :=
    if passages.isEmpty then "(no relevant documents were found)"
    else "\n".intercalate (sourceLines passages)
  let response ← ask budgets
    ("Answer the question using ONLY the numbered sources provided. Cite " ++
      "sources inline as [n]. If the sources do not contain the answer, say " ++
      "so plainly; do not invent facts.")
    ("Question: " ++ question ++ "\n\nSources:\n" ++ sources)
  Program.ofExcept (content response)

/-- `_over_budget()`. -/
def overBudget (started : Rat) : Service Bool := do
  let now ← Service.monotonic
  return budgets.wallClockSeconds < now - started

/-- What the `try` of a run comes to: an answer over some passages, or the
number of queries when the time is up. -/
abbrev Findings := Except Nat (String × List Passage × Nat)

/-- The body of the `try` of `run_deep_research`. -/
def investigate (question tenantId : String) (started : Rat)
    (useWeb webSearchClient : Bool) : Service Findings := do
  let queries ← plan builtins budgets question
  if ← overBudget budgets started then return .error queries.length
  else
    let passages ← retrieve budgets tenantId queries []
    if ← overBudget budgets started then return .error queries.length
    else
      if useWeb && webSearchClient then
        let web ← retrieveWeb queries []
        let passages := addWeb passages web
        if ← overBudget budgets started then return .error queries.length
        else
          let answer ← synthesize budgets question passages
          return .ok (answer, passages, queries.length)
      else
        let answer ← synthesize budgets question passages
        return .ok (answer, passages, queries.length)

/-- `run_deep_research`. -/
def runDeepResearch (question : String) (caller : Caller)
    (notificationStore useWeb webSearchClient : Bool) :
    Service DeepResearchOutcome := do
  let emit := fun eventClass runId =>
    Service.emit notificationStore caller.tenantId caller.userId eventClass runId
  let runId ← Service.uuid4
  emit "agent_task_progress" runId
  let started ← Service.monotonic
  match ← (investigate builtins budgets question caller.tenantId started useWeb
      webSearchClient).attempt with
  | .error _ =>
      emit "agent_task_failed" runId
      return ⟨false, none, [], 0, some "inference_unavailable"⟩
  | .ok (.error subqueries) =>
      emit "agent_task_failed" runId
      return ⟨false, none, [], subqueries, some "wall_clock"⟩
  | .ok (.ok (answer, passages, subqueries)) =>
      auditAllowed caller.tenantId caller.userId "deep_research"
        (argShape [("question", .str question)]) (.str "success") none .null
      emit "agent_task_completed" runId
      return ⟨true, some answer, (passages.map Passage.documentId).eraseDups,
        subqueries, none⟩

end Research

/-! ## The endpoint -/

/-- A research request. -/
structure ResearchRequest where
  caller : Caller
  question : String
  useWeb : Bool

/-- Question and web flag of a body. -/
def readQuestion (webSearchClient : Bool) (data : List (String × Json)) :
    Except JsonResponse (String × Bool) := do
  match Json.get data "question" with
  | .str question =>
      if Str.strip question = "" then
        throw (badRequest "'question' is required.")
      if maxQuestionBytes < question.utf8ByteSize then
        throw (.requestEntityTooLarge, errorPayload "payload_too_large"
          ("question exceeds " ++ toString maxQuestionBytes ++ " bytes."))
      return (question, (Json.get data "web").truthy && webSearchClient)
  | _ => throw (badRequest "'question' is required.")

/-- `build_deep_research_response` up to the limiter. -/
def prepareDeepResearch (builtins : Builtins) (authorization : Option String)
    (body : Except PyException Json) (tokenVerifier : Option TokenVerifier)
    (enabled : Bool) (allowlist : Allowlist)
    (inferenceClient webSearchClient : Bool) :
    Service (Except JsonResponse ResearchRequest) := do
  let available :=
    if !enabled then .error (toolsDisabled "Agent execution")
    else if !inferenceClient then
      .error (.serviceUnavailable, degradedPayload "research_unavailable"
        ("The inference backend is not configured; " ++
          "deep research is unavailable."))
    else .ok ()
  match ← Program.ofExcept (readRequest
      (gate builtins authorization tokenVerifier available)
      (loadObject (badRequest "Body is not valid JSON.")
        (.badRequest, barePayload "bad_request") body)
      (readQuestion webSearchClient)) with
  | .error response => return .error response
  | .ok (caller, question, useWeb) =>
      if isAllowed allowlist caller.tenantId "deep_research" then
        return .ok { caller, question, useWeb }
      else
        auditRefused caller.tenantId caller.userId "deep_research"
          (argShape [("question", .str question)]) .denied
        return .error (.forbidden, errorPayload "not_allowed"
          "Deep research is not permitted for your organisation.")

/-- The response to a research run that came to an end. -/
def answerDeepResearch (outcome : DeepResearchOutcome) : JsonResponse :=
  if outcome.completed then
    (.ok, .obj [("status", .str "completed"),
      ("answer", (outcome.answer.map Json.str).getD .null),
      ("sources", .arr (outcome.sources.map Json.str)),
      ("subqueries", .int outcome.subqueries)])
  else
    (.badGateway, .obj [("status", .str "failed"),
      ("error", .str "research_failed"),
      ("detail", .str "The deep-research run failed before completing.")])

/-- `build_deep_research_response`. -/
def buildDeepResearchResponse (builtins : Builtins)
    (authorization : Option String) (body : Except PyException Json)
    (tokenVerifier : Option TokenVerifier) (enabled : Bool)
    (allowlist : Allowlist) (inferenceClient : Bool)
    (budgets : DeepResearchBudgets)
    (notificationStore webSearchClient : Bool) : Handler Services JsonResponse :=
  Handler.limited
    (prepareDeepResearch builtins authorization body tokenVerifier enabled
      allowlist inferenceClient webSearchClient)
    (fun request => request.caller.tenantId)
    (fun _ => return (.tooManyRequests, errorPayload "rate_limited"
      "Deep-research rate or concurrency limit exceeded; try again shortly."))
    (return ())
    (fun request _ => Research.runDeepResearch builtins budgets request.question
      request.caller notificationStore request.useWeb webSearchClient)
    fun _ _ outcome => return answerDeepResearch outcome

end PrivateAiWorkspace.ControlPlane
