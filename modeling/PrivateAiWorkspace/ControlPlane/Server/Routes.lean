import PrivateAiWorkspace.Python.Basic

/-!
# Routes of the HTTP surface

Which `build_*` function `do_GET`, `do_POST` and `do_DELETE` of `server.py` pick
for a request, and with which parts of it. Where a route reads a parameter of
the query, it is given the whole target.
-/

namespace PrivateAiWorkspace.ControlPlane.Server

open Python

/-- The verbs the handler serves. -/
inductive Method where
  | get
  | post
  | delete
  deriving DecidableEq, Repr

/-- A request as the handler sees it: `self.path` and `self.headers.get`. -/
structure Request where
  method : Method
  target : String
  header : String → Option String

namespace Request

variable (request : Request)

/-- `self.path.split("?", 1)[0]`. -/
def path : String := Str.before '?' request.target

/-- `self.headers.get("Authorization")`. -/
def authorization : Option String := request.header "Authorization"

/-- `int(self.headers.get("Content-Length", 0) or 0)`. -/
def contentLength : Except PyException Int :=
  match request.header "Content-Length" with
  | none => .ok 0
  | some "" => .ok 0
  | some text => Str.toInt text

end Request

/-! ## Paths -/

/-- `_CHAT_PATH`. -/
def chatPath : String := "/v1/chat/completions"

/-- `_CHAT_STREAM_PATH`. -/
def chatStreamPath : String := "/v1/chat/stream"

/-- `_NOTIFICATIONS_PATH`. -/
def notificationsPath : String := "/v1/notifications"

/-- `_NOTIFICATIONS_STREAM_PATH`. -/
def notificationsStreamPath : String := "/v1/notifications/stream"

/-- `_RETRIEVAL_DOCUMENTS_PATH`. -/
def retrievalDocumentsPath : String := "/v1/retrieval/documents"

/-- `_RETRIEVAL_UPLOAD_PATH`. -/
def retrievalUploadPath : String := "/v1/retrieval/upload"

/-- `_RETRIEVAL_QUERY_PATH`. -/
def retrievalQueryPath : String := "/v1/retrieval/query"

/-- `_MEMORY_PATH`. -/
def memoryPath : String := "/v1/memory"

/-- `_MEMORY_RECALL_PATH`. -/
def memoryRecallPath : String := "/v1/memory/recall"

/-- `_AGENT_TOOLS_INVOKE_PATH`. -/
def agentToolsInvokePath : String := "/v1/agent/tools/invoke"

/-- `_AGENT_RUNS_PATH`. -/
def agentRunsPath : String := "/v1/agent/runs"

/-- `_AGENT_RESEARCH_PATH`. -/
def agentResearchPath : String := "/v1/agent/research"

/-- `_COMPARE_PATH`. -/
def comparePath : String := "/v1/compare"

/-- `_NOTES_PATH`. -/
def notesPath : String := "/v1/notes"

/-- `_MODEL_REQUESTS_PATH`. -/
def modelRequestsPath : String := "/v1/models/install-requests"

/-- `_MODEL_INSTALLER_PENDING`. -/
def modelInstallerPending : String := "/v1/internal/model-installer/pending"

/-- `_MODEL_INSTALLER_REQUESTS`. -/
def modelInstallerRequests : String := "/v1/internal/model-installer/requests"

/-- `_DOCUMENT_EDIT_PATH`. -/
def documentEditPath : String := "/v1/documents/edit"

/-- `_MCP_INVOKE_PATH`. -/
def mcpInvokePath : String := "/v1/mcp/invoke"

/-- `_MCP_LIST_PATH`. -/
def mcpListPath : String := "/v1/mcp/tools/list"

/-- `_INTEGRATIONS_INVOKE_PATH`. -/
def integrationsInvokePath : String := "/v1/integrations/invoke"

/-- `_INTEGRATIONS_LIST_PATH`. -/
def integrationsListPath : String := "/v1/integrations/list"

/-- `_MEDIA_LIST_PATH`. -/
def mediaListPath : String := "/v1/media/list"

/-- `_MEDIA_TRANSCRIBE_PATH`. -/
def mediaTranscribePath : String := "/v1/media/transcribe"

/-- `_MEDIA_GENERATE_PATH`. -/
def mediaGeneratePath : String := "/v1/media/generate"

/-- `_MEDIA_SYNTHESIZE_PATH`. -/
def mediaSynthesizePath : String := "/v1/media/synthesize"

/-- `_MEDIA_ARTIFACTS_PREFIX`. -/
def mediaArtifactsPrefix : String := "/v1/media/artifacts/"

/-- `_CONVERSATIONS_PATH`. -/
def conversationsPath : String := "/v1/conversations"

/-! ## Dispatch -/

/-- What stands in a path between two texts. -/
def between (path initial final : String) : Option String :=
  if Str.startsWith path initial && Str.endsWith path final then
    let part := Str.slice path initial.toList.length final.toList.length
    if part = "" then none else some part
  else none

/-- The id that stands in a path between two texts: one segment of the path. -/
def segment (path initial final : String) : Option String :=
  (between path initial final).filter fun part => !Str.contains part "/"

/-- The functions that answer with a status and a payload, with the parts of the
request that are theirs. All of them get the `Authorization` header. -/
inductive JsonRoute where
  | notificationsList (includeRead : Bool)
  | memoryList
  | notesList (target : String)
  | modelRequestsList
  | reconcilerPending
  | conversationsList
  | conversationGet (conversationId : String)
  | mediaArtifact (artifactId : String)
  | notificationPublish (body : Bytes)
  | indexDocument (body : Bytes)
  | retrievalUpload (target : String) (contentType : Option String)
      (body : Bytes)
  | retrievalQuery (body : Bytes)
  | memoryRecall (body : Bytes)
  | memoryRecord (body : Bytes)
  | toolInvoke (body : Bytes)
  | agentRun (body : Bytes)
  | deepResearch (body : Bytes)
  | compare (body : Bytes)
  | documentEdit (body : Bytes)
  | noteCreate (body : Bytes)
  | noteUpdate (itemId : String) (body : Bytes)
  | reconcilerStatus (requestId : String) (body : Bytes)
  | modelRequestCreate (body : Bytes)
  | mcpList (body : Bytes)
  | mcpInvoke (body : Bytes)
  | integrationsList (body : Bytes)
  | integrationsInvoke (body : Bytes)
  | mediaList (body : Bytes)
  | mediaTranscribe (target : String) (contentType : Option String)
      (body : Bytes)
  | mediaGenerate (body : Bytes)
  | mediaSynthesize (body : Bytes)
  | conversationCreate (body : Bytes)
  | conversationAppend (conversationId : String) (body : Bytes)
  | notificationRead (notificationId : String)
  | memoryDelete (memoryId : String)
  | noteDelete (itemId : String)
  | conversationDelete (conversationId : String)
  deriving DecidableEq, Repr

/-- The routes whose response is built outside `build_response`. -/
inductive Route where
  | json (route : JsonRoute)
  | mediaArtifactContent (artifactId : String)
  | chat (body : Bytes)
  deriving DecidableEq, Repr

namespace Request

variable (request : Request)

/-- The route `do_GET` answers with a function of its own. -/
def getRoute : Option Route :=
  let path := request.path
  if path = notificationsPath then
    some (.json (.notificationsList
      (Str.contains (Str.after '?' request.target) "include_read=true")))
  else if path = memoryPath then some (.json .memoryList)
  else if path = notesPath then some (.json (.notesList request.target))
  else if path = modelRequestsPath then some (.json .modelRequestsList)
  else if path = modelInstallerPending then some (.json .reconcilerPending)
  else if path = conversationsPath then some (.json .conversationsList)
  else
    match segment path (conversationsPath ++ "/") "" with
    | some conversationId => some (.json (.conversationGet conversationId))
    | none =>
        match segment path mediaArtifactsPrefix "/content" with
        | some artifactId => some (.mediaArtifactContent artifactId)
        | none =>
            (segment path mediaArtifactsPrefix "").map fun artifactId =>
              .json (.mediaArtifact artifactId)

/-- The route of `do_POST` for a path that is not an exact one: the id of a
conversation, or of a notification, in it. -/
def postRouteOfId (body : Bytes) : Option Route :=
  match segment request.path (conversationsPath ++ "/") "/messages" with
  | some conversationId =>
      some (.json (.conversationAppend conversationId body))
  | none =>
      -- A notification id may hold a slash: it is the one id not checked for it.
      (between request.path (notificationsPath ++ "/") "/read").map
        fun notificationId => .json (.notificationRead notificationId)

/-- The exact paths of `do_POST` after the ids of notes and of install
requests. -/
def postRouteOfServices (body : Bytes) : Option Route :=
  let path := request.path
  if path = modelRequestsPath then some (.json (.modelRequestCreate body))
  else if path = mcpListPath then some (.json (.mcpList body))
  else if path = mcpInvokePath then some (.json (.mcpInvoke body))
  else if path = integrationsListPath then some (.json (.integrationsList body))
  else if path = integrationsInvokePath then
    some (.json (.integrationsInvoke body))
  else if path = mediaListPath then some (.json (.mediaList body))
  else if path = mediaTranscribePath then
    some (.json (.mediaTranscribe request.target
      (request.header "Content-Type") body))
  else if path = mediaGeneratePath then some (.json (.mediaGenerate body))
  else if path = mediaSynthesizePath then some (.json (.mediaSynthesize body))
  else if path = conversationsPath then some (.json (.conversationCreate body))
  else request.postRouteOfId body

/-- The route of `do_POST` once the body is read. -/
def postRoute (body : Bytes) : Option Route :=
  let path := request.path
  if path = chatPath then some (.chat body)
  else if path = notificationsPath then some (.json (.notificationPublish body))
  else if path = retrievalDocumentsPath then some (.json (.indexDocument body))
  else if path = retrievalUploadPath then
    some (.json (.retrievalUpload request.target
      (request.header "Content-Type") body))
  else if path = retrievalQueryPath then some (.json (.retrievalQuery body))
  else if path = memoryRecallPath then some (.json (.memoryRecall body))
  else if path = memoryPath then some (.json (.memoryRecord body))
  else if path = agentToolsInvokePath then some (.json (.toolInvoke body))
  else if path = agentRunsPath then some (.json (.agentRun body))
  else if path = agentResearchPath then some (.json (.deepResearch body))
  else if path = comparePath then some (.json (.compare body))
  else if path = documentEditPath then some (.json (.documentEdit body))
  else if path = notesPath then some (.json (.noteCreate body))
  else
    match segment path (notesPath ++ "/") "" with
    | some noteId => some (.json (.noteUpdate noteId body))
    | none =>
        match segment path (modelInstallerRequests ++ "/") "/status" with
        | some requestId => some (.json (.reconcilerStatus requestId body))
        | none => request.postRouteOfServices body

/-- The route of `do_DELETE`. -/
def deleteRoute : Option Route :=
  match segment request.path (memoryPath ++ "/") "" with
  | some memoryId => some (.json (.memoryDelete memoryId))
  | none =>
      match segment request.path (notesPath ++ "/") "" with
      | some noteId => some (.json (.noteDelete noteId))
      | none =>
          (segment request.path (conversationsPath ++ "/") "").map
            fun conversationId => .json (.conversationDelete conversationId)

end Request

end PrivateAiWorkspace.ControlPlane.Server
