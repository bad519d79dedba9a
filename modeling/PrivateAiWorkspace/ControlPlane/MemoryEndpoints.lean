import PrivateAiWorkspace.ControlPlane.Memory
import PrivateAiWorkspace.ControlPlane.Similarity

/-!
# The memory endpoints

The four endpoints of `memory.py`, as programs over a store. Reads of the clock for
the metrics are left out, and so are the metrics.
-/

namespace PrivateAiWorkspace.ControlPlane

open Effects Python

/-- `_MAX_MEMORY_CHARS`. -/
def maxMemoryChars : Nat := 10000

/-- `_MAX_LIST_LIMIT`. -/
def maxListLimit : Int := 200

/-- A memory that may be recorded. -/
structure MemoryRecordRequest where
  content : String
  filled : Str.strip content ≠ ""
  short : content.length ≤ maxMemoryChars

/-- The response to a record without consent. -/
def consentRequired : JsonResponse :=
  (.forbidden, errorPayload "consent_required"
    ("Memory writes require explicit 'consent': true; implicit capture is not " ++
      "permitted."))

/-- The checks of the fields of a record. -/
def readMemoryRecord (data : List (String × Json)) :
    Except JsonResponse MemoryRecordRequest :=
  match Json.get data "consent" with
  | .bool true =>
      match Json.getOr data "content" (.str "") with
      | .str content =>
          if filled : Str.strip content = "" then
            .error (badRequest "'content' is required and must be a non-empty string.")
          else if long : maxMemoryChars < content.length then
            .error (.requestEntityTooLarge, errorPayload "payload_too_large"
              "'content' must not exceed 10000 characters.")
          else .ok { content, filled, short := Nat.le_of_not_lt long }
      | _ => .error (badRequest "'content' is required and must be a non-empty string.")
  | _ => .error consentRequired

namespace Memory

/-- `to_api_dict`. -/
def toApiDict (memory : Memory) : List (String × Json) :=
  [("id", .str memory.id), ("content", .str memory.content),
    ("created_at", .str memory.createdAt.isoformat)]

end Memory

/-- `to_api_dict`; `round6` is `round(score, 6)`. -/
def RecalledMemory.toApiDict (round6 : PyFloat → PyFloat) (recalled : RecalledMemory) :
    List (String × Json) :=
  recalled.memory.toApiDict ++ [("score", .float (round6 recalled.score))]

/-! ## The endpoints -/

/-- The operations of a memory store with their answers. -/
def MemoryStore : Interface where
  Call := MemoryOperation
  Answer
    | .record _ _ => Unit
    | .listForUser _ _ _ => List Memory
    | .recallMemories _ _ _ _ => List RecalledMemory
    | .delete _ _ _ => Bool

/-- A program over the services and a memory store. -/
abbrev MemoryProgram (α : Type) := Program (Services.sum MemoryStore) PyException α

/-- A call of the services. -/
def MemoryProgram.service {α : Type} (program : Service α) : MemoryProgram α :=
  program.embed (Embedding.inl Services MemoryStore)

/-- A call of the store. -/
def MemoryProgram.store (request : MemoryOperation) :
    MemoryProgram (MemoryStore.Answer request) :=
  .call (Sum.inr request) Program.ofExcept

section Endpoints

variable (builtins : Builtins) (tokenVerifier : Option TokenVerifier)

/-- The checks of `build_memory_record_response`. -/
def prepareMemoryRecord (authorization : Option String) (body : Bytes) :
    Except PyException (Except JsonResponse (Caller × MemoryRecordRequest)) :=
  readRequest (gate builtins authorization tokenVerifier (.ok ()))
    (loadRequestBody builtins body) readMemoryRecord

/-- `build_memory_record_response`. -/
def buildMemoryRecordResponse (authorization : Option String) (body : Bytes) :
    MemoryProgram WireResponse := do
  match ← Program.ofExcept (prepareMemoryRecord builtins tokenVerifier authorization
      body) with
  | .error response => return response.wire
  | .ok (caller, request) =>
      match ← embedFirst MemoryStore request.content with
      | .error response => return response
      | .ok embedding =>
          let id ← MemoryProgram.service Service.uuid4
          let createdAt ← MemoryProgram.service Service.nowUtc
          let memory : Memory :=
            { id, tenantId := caller.tenantId, userId := caller.userId,
              content := request.content, createdAt }
          MemoryProgram.store (.record memory embedding)
          return (201, .obj memory.toApiDict)

/-- `build_memory_list_response`. -/
def buildMemoryListResponse (authorization : Option String) (limit : Int) :
    MemoryProgram WireResponse := do
  match ← Program.ofExcept (gate builtins authorization tokenVerifier (.ok ())) with
  | .error response => return response.wire
  | .ok caller =>
      let memories ← MemoryProgram.store (.listForUser caller.tenantId caller.userId
        (min (max 1 limit) maxListLimit))
      return (200, countedPayload "memories"
        (memories.map fun memory => .obj memory.toApiDict))

/-- `build_memory_recall_response`. -/
def buildMemoryRecallResponse (round6 : PyFloat → PyFloat)
    (authorization : Option String) (body : Bytes) : MemoryProgram WireResponse := do
  match ← Program.ofExcept (prepareSimilarity builtins tokenVerifier authorization
      body) with
  | .error response => return response.wire
  | .ok (caller, request) =>
      match ← embedFirst MemoryStore request.query with
      | .error response => return response
      | .ok embedding =>
          if embedding.length ≠ embeddingDim then return dimensionMismatch
          else
            let results ← MemoryProgram.store (.recallMemories caller.tenantId
              caller.userId embedding request.topK)
            return (200, countedPayload "results"
              (results.map fun recalled => .obj (recalled.toApiDict round6)))

/-- `build_memory_delete_response`. -/
def buildMemoryDeleteResponse (authorization : Option String) (memoryId : String) :
    MemoryProgram WireResponse := do
  match ← Program.ofExcept (gate builtins authorization tokenVerifier (.ok ())) with
  | .error response => return response.wire
  | .ok caller =>
      let deleted ← MemoryProgram.store (.delete caller.tenantId caller.userId memoryId)
      if !deleted then
        return (404, errorPayload "not_found" "Memory not found.")
      else return (200, .obj [("id", .str memoryId), ("deleted", .bool true)])

end Endpoints

end PrivateAiWorkspace.ControlPlane
