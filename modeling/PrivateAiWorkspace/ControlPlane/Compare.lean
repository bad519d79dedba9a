import PrivateAiWorkspace.ControlPlane.AgentLoop
import PrivateAiWorkspace.ControlPlane.Outbound

/-!
# Compare and document edit

The two endpoints that ask the inference backend directly, outside the agent
loop: `compare.py` sends one prompt to several models and can merge the answers,
`documents.py` edits one document.
-/

namespace PrivateAiWorkspace.ControlPlane

open Effects Python

/-! ## Compare -/

/-- `_MAX_MODELS`. -/
def maxModels : Nat := 4

/-- `_MAX_TOKENS` of `compare.py`. -/
def compareMaxTokens : Int := 512

/-- `_LABELS[i]`. -/
def compareLabel (index : Nat) : String :=
  String.ofList ("ABCDEFGH".toList.drop index |>.take 1)

/-- `CompareResult`. -/
structure CompareResult where
  label : String
  model : String
  content : Option String
  error : Option String

/-- `_one`: the answer of one model, or what went wrong. -/
def askOne (model : String) (messages : List ChatMessage) :
    Service (Except String String) := do
  let asked : Service String := do
    let response ← Service.chatCompletions
      (.build model messages (some compareMaxTokens))
    Program.ofExcept (content response)
  match ← asked.attempt with
  | .ok content => return .ok content
  | .error (.inferenceUnavailableError _) => return .error "unavailable"
  | .error _ => return .error "error"

/-- The loop of `run_compare` over the models from some index on. -/
def compareAll (prompt : String) : Nat → List String → Service (List CompareResult)
  | _, [] => return []
  | index, model :: models => do
      let answer ← askOne model [⟨.user, prompt⟩]
      let result : CompareResult :=
        match answer with
        | .ok content => ⟨compareLabel index, model, some content, none⟩
        | .error error => ⟨compareLabel index, model, none, some error⟩
      let results ← compareAll prompt (index + 1) models
      return result :: results

/-- The instructions for a synthesis. -/
def synthesisPrompt : String :=
  "You are given two or more candidate answers to the same prompt, " ++
    "labelled [A], [B], … Synthesise the best combined answer and note " ++
    "where they agree or differ. Do not invent facts."

/-- `run_compare`. -/
def runCompare (prompt : String) (models : List String) (synthesize : Bool) :
    Service (List CompareResult × Option String) := do
  let results ← compareAll prompt 0 models
  let good := results.filter fun result => isGiven result.content
  match good with
  | first :: _ :: _ =>
      if synthesize then
        let joined := "\n\n".intercalate (good.map fun result =>
          "[" ++ result.label ++ "] " ++ result.content.getD "")
        let synthesis ← askOne first.model
          [⟨.system, synthesisPrompt⟩,
            ⟨.user, "Prompt: " ++ prompt ++ "\n\nCandidates:\n" ++ joined⟩]
        return (results, synthesis.toOption)
      else return (results, none)
  | _ => return (results, none)

/-- A request to compare models. -/
structure CompareRequest where
  caller : Caller
  prompt : String
  models : List String
  synthesize : Bool

/-- Prompt, models and synthesis flag of a body. -/
def readCompareRequest (builtins : Builtins) (maxPromptChars : Int)
    (defaultModels : List String) (data : List (String × Json)) :
    Except JsonResponse (String × List String × Bool) := do
  let models := (Json.get data "models").orElse
    (.arr (defaultModels.map Json.str))
  match Json.get data "prompt" with
  | .str prompt =>
      if Str.strip prompt = "" then throw (badRequest "'prompt' is required.")
      if maxPromptChars < prompt.length then
        throw (.requestEntityTooLarge, barePayload "prompt_too_long")
      match models with
      | .arr models =>
          if models.length < 2 || maxModels < models.length then
            throw (badRequest "'models' must list 2–4 model names.")
          return (prompt, models.map builtins.str,
            (Json.get data "synthesize").truthy)
      | _ => throw (badRequest "'models' must list 2–4 model names.")
  | _ => throw (badRequest "'prompt' is required.")

/-- `build_compare_response` up to the limiter. -/
def prepareCompare (builtins : Builtins) (authorization : Option String)
    (body : Except PyException Json) (tokenVerifier : Option TokenVerifier)
    (enabled inferenceClient : Bool) (maxPromptChars : Int)
    (defaultModels : List String) :
    Service (Except JsonResponse CompareRequest) := do
  let available :=
    if enabled && inferenceClient then .ok ()
    else .error (.serviceUnavailable, degradedPayload "compare_unavailable"
      "The inference backend is not configured; compare is unavailable.")
  match ← Program.ofExcept (readRequest
      (gate builtins authorization tokenVerifier available)
      (loadObject (.badRequest, barePayload "bad_request")
        (.badRequest, barePayload "bad_request") body)
      (readCompareRequest builtins maxPromptChars defaultModels)) with
  | .error response => return .error response
  | .ok (caller, prompt, models, synthesize) =>
      return .ok { caller, prompt, models, synthesize }

/-- A result in the payload. -/
def CompareResult.toJson (result : CompareResult) : Json :=
  .obj [("label", .str result.label), ("model", .str result.model),
    ("content", (result.content.map Json.str).getD .null),
    ("error", (result.error.map Json.str).getD .null)]

/-- `build_compare_response` after the permit is released. -/
def answerCompare (request : CompareRequest) (started : Rat)
    (outcome : List CompareResult × Option String) : Service JsonResponse := do
  let latencyMs ← Service.latencyMs started
  auditAllowed request.caller.tenantId request.caller.userId "compare"
    (argShape [("models", .arr (request.models.map Json.str))])
    (.str "success") (some latencyMs) .null
  return (.ok, .obj [("results", .arr (outcome.1.map CompareResult.toJson)),
    ("synthesis", (outcome.2.map Json.str).getD .null)])

/-- `build_compare_response`. -/
def buildCompareResponse (builtins : Builtins) (authorization : Option String)
    (body : Except PyException Json) (tokenVerifier : Option TokenVerifier)
    (enabled inferenceClient : Bool) (maxPromptChars : Int)
    (defaultModels : List String) : Handler Services JsonResponse :=
  Handler.limited
    (prepareCompare builtins authorization body tokenVerifier enabled
      inferenceClient maxPromptChars defaultModels)
    (fun request => request.caller.tenantId)
    (fun _ => return (.tooManyRequests, barePayload "rate_limited"))
    Service.monotonic
    (fun request _ => runCompare request.prompt request.models
      request.synthesize)
    answerCompare

/-! ## Document edit -/

/-- `_MAX_INSTRUCTION_CHARS`. -/
def maxInstructionChars : Nat := 2000

/-- `_MAX_TOKENS` of `documents.py`. -/
def documentMaxTokens : Int := 1024

/-- `_SYSTEM`. -/
def documentPrompt : String :=
  "You are a writing assistant. Apply the user's instruction to the document " ++
    "and return ONLY the revised document text — no preamble, no " ++
    "explanation, no code fences. Preserve the author's voice and any content " ++
    "the instruction does not ask you to change."

/-- A request to edit a document. -/
structure DocumentRequest where
  caller : Caller
  content : String
  instruction : String
  model : String

/-- Document, instruction and model of a body. -/
def readDocumentRequest (builtins : Builtins) (maxContentChars : Int)
    (data : List (String × Json)) :
    Except JsonResponse (String × String × String) := do
  let model := (Json.get data "model").orElse (.str "default")
  match Json.get data "content" with
  | .str content =>
      if Str.strip content = "" then throw (badRequest "'content' is required.")
      match Json.get data "instruction" with
      | .str instruction =>
          if Str.strip instruction = "" then
            throw (badRequest "'instruction' is required.")
          if maxContentChars < content.length then
            throw (.requestEntityTooLarge, barePayload "content_too_long")
          if maxInstructionChars < instruction.length then
            throw (.requestEntityTooLarge, barePayload "instruction_too_long")
          return (content, instruction, builtins.str model)
      | _ => throw (badRequest "'instruction' is required.")
  | _ => throw (badRequest "'content' is required.")

/-- `build_document_edit_response` up to the limiter. -/
def prepareDocumentEdit (builtins : Builtins) (authorization : Option String)
    (body : Except PyException Json) (tokenVerifier : Option TokenVerifier)
    (enabled inferenceClient : Bool) (maxContentChars : Int) :
    Service (Except JsonResponse DocumentRequest) := do
  let available :=
    if enabled && inferenceClient then .ok ()
    else .error (.serviceUnavailable, degradedPayload "documents_unavailable"
      "The inference backend is not configured; AI edit is unavailable.")
  match ← Program.ofExcept (readRequest
      (gate builtins authorization tokenVerifier available)
      (loadObject (.badRequest, barePayload "bad_request")
        (.badRequest, barePayload "bad_request") body)
      (readDocumentRequest builtins maxContentChars)) with
  | .error response => return .error response
  | .ok (caller, content, instruction, model) =>
      return .ok { caller, content, instruction, model }

/-- The part of `build_document_edit_response` that holds the permit: the edited
text, or the response to a failure. -/
def editDocument (request : DocumentRequest) :
    Service (Except JsonResponse String) := do
  let asked : Service String := do
    let response ← Service.chatCompletions (.build request.model
      [⟨.system, documentPrompt⟩,
        ⟨.user, "Instruction: " ++ request.instruction ++ "\n\nDocument:\n" ++
          request.content⟩]
      (some documentMaxTokens))
    Program.ofExcept (content response)
  match ← asked.attempt with
  | .ok result => return .ok result
  | .error (.inferenceUnavailableError _) =>
      return .error (.serviceUnavailable,
        bareDegradedPayload "documents_unavailable")
  | .error _ => return .error (.badGateway, bareDegradedPayload "edit_failed")

/-- `build_document_edit_response` after the permit is released. -/
def answerDocumentEdit (request : DocumentRequest) (started : Rat) :
    Except JsonResponse String → Service JsonResponse
  | .error response => return response
  | .ok result => do
      let latencyMs ← Service.latencyMs started
      auditAllowed request.caller.tenantId request.caller.userId "document_edit"
        (argShape [("content", .str request.content),
          ("instruction", .str request.instruction)])
        (.str "success") (some latencyMs) .null
      return (.ok, .obj [("result", .str result)])

/-- `build_document_edit_response`. -/
def buildDocumentEditResponse (builtins : Builtins)
    (authorization : Option String) (body : Except PyException Json)
    (tokenVerifier : Option TokenVerifier) (enabled inferenceClient : Bool)
    (maxContentChars : Int) : Handler Services JsonResponse :=
  Handler.limited
    (prepareDocumentEdit builtins authorization body tokenVerifier enabled
      inferenceClient maxContentChars)
    (fun request => request.caller.tenantId)
    (fun _ => return (.tooManyRequests, barePayload "rate_limited"))
    Service.monotonic (fun request _ => editDocument request) answerDocumentEdit

end PrivateAiWorkspace.ControlPlane
