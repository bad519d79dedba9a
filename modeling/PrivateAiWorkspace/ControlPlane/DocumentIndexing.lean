import PrivateAiWorkspace.ControlPlane.Retrieval
import PrivateAiWorkspace.ControlPlane.Services
import PrivateAiWorkspace.Effects.Safe
import PrivateAiWorkspace.Python.Utf8

/-!
# Indexing documents

The endpoints of `retrieval.py` that write: a document is cut into chunks, embedded
and indexed, and an upload stores its original before it is indexed like any other
document.
-/

namespace PrivateAiWorkspace.ControlPlane

open Effects Python

/-- `_MAX_TITLE_LEN`. -/
def Retrieval.maxTitleLen : Nat := 256

/-- `_MAX_DOCUMENT_CHARS`. -/
def maxDocumentChars : Nat := 100000

/-- `_CHUNK_CHARS`. -/
def defaultChunkChars : Nat := 512

/-- `_MAX_CHUNKS_PER_DOCUMENT`. -/
def maxChunksPerDocument : Nat := 400

/-- `Document`. -/
structure Document where
  id : String
  tenantId : String
  userId : String
  title : String
  createdAt : DateTime

/-- `DocumentChunk`. -/
structure DocumentChunk where
  id : String
  documentId : String
  tenantId : String
  chunkIndex : Nat
  content : String
  embedding : List PyFloat
  createdAt : DateTime

/-- Calls of the retrieval store that write. -/
inductive RetrievalStoreCall where
  | indexDocument (document : Document) (chunks : List DocumentChunk)

/-- The calls with their answers. -/
def RetrievalStore : Interface where
  Call := RetrievalStoreCall
  Answer
    | .indexDocument _ _ => Unit

/-- A program over the services and the retrieval store. -/
abbrev Indexing (α : Type) := Program (Services.sum RetrievalStore) PyException α

namespace Indexing

variable {α : Type}

/-- A program over the services alone. -/
def service (program : Service α) : Indexing α :=
  program.embed (Embedding.inl Services RetrievalStore)

/-- `store.index_document(document, chunks)`. -/
def indexDocument (document : Document) (chunks : List DocumentChunk) :
    Indexing Unit :=
  .call (Sum.inr (RetrievalStoreCall.indexDocument document chunks)) Program.ofExcept

end Indexing

/-! ## The documents endpoint -/

/-- A document that is short enough has fewer chunks than a document may have: two
neighbours are together at least as long as one chunk may be. -/
theorem length_chunkText_lt {content : String}
    (short : content.length ≤ maxDocumentChars) :
    (chunkText content defaultChunkChars).length < maxChunksPerDocument := by
  have bounded := half_chunks_mul_le content defaultChunkChars
  rw [maxDocumentChars] at short
  rw [defaultChunkChars] at bounded ⊢
  rw [maxChunksPerDocument]
  omega

/-- A document that may be indexed. -/
structure IndexDocumentRequest where
  title : String
  content : String
  titled : Str.strip title ≠ ""
  title_short : title.length ≤ Retrieval.maxTitleLen
  filled : Str.strip content ≠ ""
  content_short : content.length ≤ maxDocumentChars

/-- The response to too many chunks. -/
def tooManyChunks : JsonResponse :=
  (.requestEntityTooLarge, errorPayload "payload_too_large"
    "document produces more than 400 chunks.")

/-- The checks of the fields of a body. -/
def readDocument (data : List (String × Json)) :
    Except JsonResponse IndexDocumentRequest :=
  match Json.getOr data "title" (.str "") with
  | .str title =>
      if titled : Str.strip title = "" then
        .error (badRequest "'title' is required and must be a non-empty string.")
      else if long : Retrieval.maxTitleLen < title.length then
        .error (badRequest "'title' must not exceed 256 characters.")
      else
        match Json.getOr data "content" (.str "") with
        | .str content =>
            if filled : Str.strip content = "" then
              .error (badRequest
                "'content' is required and must be a non-empty string.")
            else if large : maxDocumentChars < content.length then
              .error (.requestEntityTooLarge, errorPayload "payload_too_large"
                "'content' must not exceed 100000 characters.")
            else if maxChunksPerDocument <
                (chunkText content defaultChunkChars).length then
              .error tooManyChunks
            else
              .ok { title, content, titled, filled
                    title_short := Nat.le_of_not_lt long
                    content_short := Nat.le_of_not_lt large }
        | _ => .error (badRequest
            "'content' is required and must be a non-empty string.")
  | _ => .error (badRequest "'title' is required and must be a non-empty string.")

/-- `EmbeddingError`. -/
def embeddingError : PyException := .other "EmbeddingError"

/-- `_EMBEDDING_UNAVAILABLE`. -/
def embeddingUnavailable : JsonResponse :=
  (.serviceUnavailable, degradedPayload "embedding_unavailable"
    "The embedding backend is unavailable; try again later.")

/-- The `DocumentChunk`s of the texts that have a vector, from an index on. -/
def makeChunks (documentId tenantId : String) (createdAt : DateTime) :
    Nat → List (String × List PyFloat) → Indexing (List DocumentChunk)
  | _, [] => .ret []
  | chunkIndex, (content, embedding) :: rest => do
      let id ← Indexing.service Service.uuid4
      let chunks ← makeChunks documentId tenantId createdAt (chunkIndex + 1) rest
      return { id, documentId, tenantId, chunkIndex, content, embedding,
               createdAt } :: chunks

/-- The payload of a document that was indexed. -/
def indexedPayload (documentId title : String) (chunkCount : Nat) : Json :=
  .obj [("document_id", .str documentId), ("title", .str title),
    ("chunk_count", .int chunkCount)]

/-- `embed_measured(client, texts)`. -/
def embedTexts (texts : List String) : Service (List (List PyFloat)) :=
  .call (ServiceCall.embed texts) Program.ofExcept

/-- The part of `build_index_document_response` after the embedding. -/
def storeDocument (notificationStore : Bool) (caller : Caller)
    (request : IndexDocumentRequest) (now : DateTime) (documentId : String)
    (vectors : List (List PyFloat)) : Indexing JsonResponse := do
  let texts := chunkText request.content defaultChunkChars
  let chunks ← makeChunks documentId caller.tenantId now 0 (texts.zip vectors)
  let document : Document :=
    { id := documentId, tenantId := caller.tenantId, userId := caller.userId,
      title := Str.strip request.title, createdAt := now }
  Indexing.indexDocument document chunks
  Indexing.service (Service.emit notificationStore caller.tenantId caller.userId
    "indexing_complete" documentId)
  return (.created, indexedPayload documentId document.title chunks.length)

/-- The part of `build_index_document_response` after the checks. -/
def indexRequest (notificationStore : Bool) (caller : Caller)
    (request : IndexDocumentRequest) : Indexing JsonResponse := do
  let now ← Indexing.service Service.nowUtc
  let documentId ← Indexing.service Service.uuid4
  let embedded ← (Indexing.service
    (embedTexts (chunkText request.content defaultChunkChars))).attempt
  match embedded with
  | .ok vectors => storeDocument notificationStore caller request now documentId vectors
  | .error error =>
      if error = embeddingError then return embeddingUnavailable else .raise error

/-- The checks of `build_index_document_response`. -/
def prepareDocument (builtins : Builtins) (authorization : Option String)
    (body : Bytes) (tokenVerifier : Option TokenVerifier) :
    Except PyException (Except JsonResponse (Caller × IndexDocumentRequest)) :=
  readRequest (gate builtins authorization tokenVerifier (.ok ()))
    (loadObject (badRequest "Body is not valid JSON.")
      (badRequest "Body must be a JSON object.") (builtins.loadsBytes body))
    readDocument

/-- `build_index_document_response`. -/
def buildIndexDocumentResponse (builtins : Builtins) (authorization : Option String)
    (body : Bytes) (tokenVerifier : Option TokenVerifier) (notificationStore : Bool) :
    Indexing JsonResponse := do
  match ← Program.ofExcept (prepareDocument builtins authorization body
      tokenVerifier) with
  | .error response => return response
  | .ok (caller, request) => indexRequest notificationStore caller request

/-! ## The upload endpoint -/

/-- `_TEXT_UPLOAD_TYPES`. -/
def textUploadTypes : List String :=
  ["text/plain", "text/markdown", "text/x-markdown", "text/csv", "application/json",
    "application/xml", "text/xml"]

/-- A file that may be stored and indexed. -/
structure Upload where
  caller : Caller
  filename : String
  contentType : String
  text : String
  filename_ne : filename ≠ ""
  text_ne : text ≠ ""

/-- `ctype`: the media type of a `Content-Type` header. -/
def mediaType (builtins : Builtins) (contentType : Option String) : String :=
  builtins.lower (Str.strip (Str.before ';' (contentType.getD "")))

/-- A file of this type can be indexed. -/
def indexable (mediaType : String) : Bool :=
  mediaType = "" || textUploadTypes.contains mediaType ||
    Str.startsWith mediaType "text/"

/-- The checks of an upload, behind those of its caller. -/
def readUpload (builtins : Builtins) (filename contentType : Option String)
    (body : Bytes) (maxUploadBytes : Int) (caller : Caller) :
    Except JsonResponse Upload :=
  let filename := filename.getD ""
  if filename_ne : filename = "" then
    .error (badRequest "'filename' query param is required.")
  else if body_ne : body = [] then .error (badRequest "file body is required.")
  else if maxUploadBytes < body.length then
    .error (.requestEntityTooLarge, barePayload "file_too_large")
  else if !indexable (mediaType builtins contentType) then
    .error (.unsupportedMediaType, errorPayload "unsupported_media_type"
      ("Only text-based files can be indexed (binary/PDF extraction is not " ++
        "enabled)."))
  else
    match decoded : Utf8.decode body with
    | .error _ => .error (.unsupportedMediaType, barePayload "not_utf8_text")
    | .ok text =>
        .ok { caller, filename, contentType := mediaType builtins contentType, text,
              filename_ne
              text_ne := by
                intro empty
                apply body_ne
                rw [← Utf8.decode_eq_ok_iff.mp decoded, empty]
                rfl }

/-- The checks of `build_retrieval_upload_response`. -/
def prepareUpload (builtins : Builtins) (authorization : Option String)
    (filename contentType : Option String) (body : Bytes)
    (tokenVerifier : Option TokenVerifier) (maxUploadBytes : Int) :
    Except PyException (Except JsonResponse Upload) := do
  match ← gate builtins authorization tokenVerifier (.ok ()) with
  | .error response => return .error response
  | .ok caller =>
      return readUpload builtins filename contentType body maxUploadBytes caller

/-- `stored_key`: where the original of an upload is stored. -/
def uploadKey (upload : Upload) (id : String) : String :=
  let safeName := String.ofList
    ((upload.filename.toList.map fun c => if c = '/' then '_' else c).take 200)
  "uploads/" ++ upload.caller.tenantId ++ "/" ++ upload.caller.userId ++ "/" ++ id ++
    "/" ++ safeName

/-- Store the original, best effort: without a client or when it fails there is no
key. -/
def storeOriginal (storageClient : Bool) (upload : Upload) (body : Bytes) :
    Service (Option String) :=
  if storageClient then do
    let id ← Service.uuid4
    let key := uploadKey upload id
    let stored ← Program.attempt (.call (ServiceCall.putObject key body
        (if upload.contentType = "" then "text/plain" else upload.contentType))
      Program.ofExcept)
    match stored with
    | .ok _ => return some key
    | .error _ => return none
  else return none

/-- `index_body`. -/
def uploadDocument (builtins : Builtins) (upload : Upload) : Bytes :=
  Utf8.encode (builtins.dumps (.obj
    [("title", .str (Str.take upload.filename Retrieval.maxTitleLen)),
      ("content", .str upload.text)]))

/-- `payload["upload_key"] = stored_key` of a document that was indexed. -/
def withUploadKey (storedKey : Option String) : JsonResponse → JsonResponse
  | (.created, .obj fields) =>
      (.created, .obj (fields ++ [("upload_key", (storedKey.map Json.str).getD .null)]))
  | response => response

/-- `build_retrieval_upload_response`. -/
def buildRetrievalUploadResponse (builtins : Builtins)
    (authorization : Option String) (filename contentType : Option String)
    (body : Bytes) (tokenVerifier : Option TokenVerifier) (storageClient : Bool)
    (maxUploadBytes : Int) (notificationStore : Bool) : Indexing JsonResponse := do
  match ← Program.ofExcept (prepareUpload builtins authorization filename contentType
      body tokenVerifier maxUploadBytes) with
  | .error response => return response
  | .ok upload =>
      let storedKey ← Indexing.service (storeOriginal storageClient upload body)
      let response ← buildIndexDocumentResponse builtins authorization
        (uploadDocument builtins upload) tokenVerifier notificationStore
      return withUploadKey storedKey response

/-! ## What an indexing keeps -/

/-- Calls that reach neither store. -/
def Indexing.Quiet : (Services.sum RetrievalStore).Call → Prop
  | .inl (.putObject _ _ _) => False
  | .inl _ => True
  | .inr _ => False

section Quiet

variable {σ α : Type} {world : World (Services.sum RetrievalStore) PyException σ}
  {state : σ}

theorem guarded_perform {request : ServiceCall} {past : List ServiceEvent}
    (quiet : Indexing.Quiet (Sum.inl request)) :
    Program.Guarded (fun _ call => Indexing.Quiet (Sum.inl call)) past
      (.call request Program.ofExcept : Service (Services.Answer request)) := by
  refine ⟨quiet, fun answer => ?_⟩
  cases answer <;> trivial

/-- A quiet service program ends in the state it began in. -/
theorem safe_service
    (still : ∀ source event target, Indexing.Quiet event.call →
      world source event target → source = target)
    (state : σ) {program : Service α}
    (quiet : Program.Guarded
      (fun _ call => Indexing.Quiet (Sum.inl call)) [] program) :
    Program.Safe world (fun _ _ => True) (fun target _ => target = state) state
      (Indexing.service program) := by
  have outer : Program.Guarded (fun _ => Indexing.Quiet) []
      (Indexing.service program) :=
    Program.Guarded.embed (fun _ implies => implies) quiet
  apply Program.Safe.of_guarded outer
  · intro source event target silent answered same
    rw [← still source event target silent answered, same]
  · exact fun _ _ _ _ => trivial
  · rfl

/-- How an indexing settles: the document was created, or the embedding backend was
not available and nothing has changed. -/
def Indexing.Settled (state target : σ) (result : Except PyException JsonResponse) : Prop :=
  ∀ response, result = .ok response →
    response.1 = .created ∨ response = embeddingUnavailable ∧ target = state

theorem Indexing.settled_error {target : σ} {error : PyException} :
    Indexing.Settled state target (.error error) := by
  intro response answered
  cases answered

theorem safe_storeDocument (notificationStore : Bool) (caller : Caller)
    (request : IndexDocumentRequest) (now : DateTime) (documentId : String)
    (vectors : List (List PyFloat)) (reached : σ) :
    Program.Safe world (fun _ _ => True) (Indexing.Settled state) reached
      (storeDocument notificationStore caller request now documentId vectors) := by
  apply (Program.Safe.anything _ reached).bind _ fun _ _ _ => Indexing.settled_error
  intro second chunks _
  apply (Program.Safe.anything _ second).bind _ fun _ _ _ => Indexing.settled_error
  intro third _ _
  apply (Program.Safe.anything _ third).bind _ fun _ _ _ => Indexing.settled_error
  intro _ _ _ response answered
  cases answered
  exact Or.inl rfl

/-- Up to the embedding nothing changes, and behind it every answer is that the
document was created. -/
theorem safe_indexRequest
    (still : ∀ source event target, Indexing.Quiet event.call →
      world source event target → source = target)
    (notificationStore : Bool) (caller : Caller) (request : IndexDocumentRequest) :
    Program.Safe world (fun _ _ => True) (Indexing.Settled state) state
      (indexRequest notificationStore caller request) := by
  have clock := safe_service still state
    (guarded_perform trivial : Program.Guarded _ _ Service.nowUtc)
  apply clock.bind _ fun _ _ _ => Indexing.settled_error
  intro second now same
  subst same
  have fresh := safe_service still second
    (guarded_perform trivial : Program.Guarded _ _ Service.uuid4)
  apply fresh.bind _ fun _ _ _ => Indexing.settled_error
  intro third documentId same
  subst same
  have embedding := safe_service still third
    (guarded_perform trivial : Program.Guarded _ _
      (embedTexts (chunkText request.content defaultChunkChars)))
  have attempted : Program.Safe world (fun _ _ => True) (fun target _ => target = third)
      third (Indexing.service
        (embedTexts (chunkText request.content defaultChunkChars))).attempt :=
    embedding.attempt fun _ _ same => same
  apply attempted.bind _ fun _ _ _ => Indexing.settled_error
  intro fourth embedded same
  cases embedded with
  | ok vectors =>
      exact safe_storeDocument notificationStore caller request now documentId vectors
        fourth
  | error error =>
      dsimp only
      split
      · intro response answered
        cases answered
        exact Or.inr ⟨rfl, same⟩
      · exact Indexing.settled_error

end Quiet

/-! ## The cap on the chunks -/

theorem readDocument_ne_tooManyChunks (data : List (String × Json)) :
    readDocument data ≠ .error tooManyChunks := by
  intro refused
  rw [readDocument] at refused
  split at refused
  · split at refused
    · cases refused
    · split at refused
      · cases refused
      · split at refused
        · split at refused
          · cases refused
          · split at refused
            · simp [tooManyChunks, errorPayload] at refused
            next small =>
              split at refused
              next many =>
                exact absurd many
                  (Nat.lt_asymm (length_chunkText_lt (Nat.le_of_not_lt small)))
              · cases refused
        · cases refused
  · cases refused

/-- A caller is refused with 401, or with 503 where no token can be verified. -/
theorem status_of_verifyAndExtract {lower : String → String}
    {authorization : Option String} {tokenVerifier : Option TokenVerifier}
    {response : JsonResponse}
    (refused : verifyAndExtract lower authorization tokenVerifier =
      .ok (.error response)) :
    response.1 = .unauthorized ∨ response.1 = .serviceUnavailable := by
  rw [verifyAndExtract] at refused
  split at refused
  · cases refused
    exact Or.inl rfl
  · cases refused
    exact Or.inl rfl
  · split at refused
    · cases refused
      exact Or.inr rfl
    · split at refused
      · cases refused
      · cases refused
        exact Or.inl rfl
      · cases refused

theorem status_of_gate {builtins : Builtins} {authorization : Option String}
    {tokenVerifier : Option TokenVerifier} {response : JsonResponse}
    (refused : gate builtins authorization tokenVerifier (.ok ()) =
      .ok (.error response)) :
    response.1 = .unauthorized ∨ response.1 = .serviceUnavailable := by
  rw [gate] at refused
  cases verified : verifyAndExtract builtins.lower authorization tokenVerifier with
  | error error =>
      rw [verified] at refused
      cases refused
  | ok outcome =>
      rw [verified] at refused
      cases outcome with
      | error other =>
          cases refused
          exact status_of_verifyAndExtract verified
      | ok claims => cases refused

theorem prepareDocument_ne_tooManyChunks (builtins : Builtins)
    (authorization : Option String) (body : Bytes)
    (tokenVerifier : Option TokenVerifier) :
    prepareDocument builtins authorization body tokenVerifier ≠
      .ok (.error tooManyChunks) := by
  intro refused
  rcases refused_of_readRequest refused with gated | loaded | ⟨data, -, read⟩
  · rcases status_of_gate gated with status | status
    · cases status
    · cases status
  · rcases response_of_loadObject loaded with same | same
    · cases same
    · cases same
  · exact readDocument_ne_tooManyChunks data read

/-- The cap on the chunks refuses no document: what passes the bound on its length
has fewer chunks, and no run of the handler answers that there are too many. -/
theorem chunk_cap_unreachable :
    (∀ content : String, content.length ≤ maxDocumentChars →
      (chunkText content defaultChunkChars).length < maxChunksPerDocument) ∧
    ∀ (builtins : Builtins) (authorization : Option String) (body : Bytes)
      (tokenVerifier : Option TokenVerifier) (notificationStore : Bool)
      (events : List (Event (Services.sum RetrievalStore) PyException)),
      ¬ Program.Run (buildIndexDocumentResponse builtins authorization body
        tokenVerifier notificationStore) events (.ok tooManyChunks) := by
  refine ⟨fun content => length_chunkText_lt, ?_⟩
  intro builtins authorization body tokenVerifier notificationStore events run
  rw [buildIndexDocumentResponse] at run
  cases prepared : prepareDocument builtins authorization body tokenVerifier with
  | error error =>
      rw [prepared] at run
      cases run
  | ok outcome =>
      rw [prepared] at run
      cases outcome with
      | error response =>
          cases run
          exact prepareDocument_ne_tooManyChunks _ _ _ _ prepared
      | ok accepted =>
          -- A world without a state: what is asked is only how the run ends.
          have safe := @safe_indexRequest _ (fun (_ : Unit) _ _ => True) ()
            (fun _ _ _ _ _ => rfl) notificationStore accepted.1 accepted.2
          rcases safe.of_run run _ rfl with status | ⟨same, -⟩
          · cases status
          · cases same

/-! ## What a failed upload leaves -/

/-- What the two stores hold. -/
structure RetrievalState where
  objects : String → Option Bytes
  chunks : List DocumentChunk

/-- The stores with whatever answers to the calls: an object may be stored or not,
whether the call raises or not, and an indexing may do anything to the chunks. -/
def retrievalWorld : World (Services.sum RetrievalStore) PyException RetrievalState :=
  fun source event target =>
    match event.call with
    | .inl (.putObject key body _) =>
        target.chunks = source.chunks ∧
          (target.objects = source.objects ∨
            target.objects = Function.update source.objects key (some body))
    | .inl _ => target = source
    | .inr _ => target.objects = source.objects

theorem retrievalWorld_still (source : RetrievalState)
    (event : Event (Services.sum RetrievalStore) PyException) (target : RetrievalState)
    (quiet : Indexing.Quiet event.call) (answered : retrievalWorld source event target) :
    source = target := by
  rcases event with ⟨call, answer⟩
  cases call with
  | inr call => exact quiet.elim
  | inl call =>
      cases call with
      | putObject key body contentType => exact quiet.elim
      | _ => exact answered.symm

/-- What an upload leaves of what it stored: nothing, or its original. -/
def LeavesOriginal (storageClient : Bool) (upload : Upload) (body : Bytes)
    (source target : RetrievalState) : Prop :=
  target.chunks = source.chunks ∧
    (target.objects = source.objects ∨
      storageClient = true ∧ ∃ id, target.objects =
        Function.update source.objects (uploadKey upload id) (some body))

theorem safe_storeOriginal (storageClient : Bool) (upload : Upload) (body : Bytes)
    (source : RetrievalState) :
    Program.Safe retrievalWorld (fun _ _ => True)
      (fun target _ => LeavesOriginal storageClient upload body source target) source
      (Indexing.service (storeOriginal storageClient upload body)) := by
  cases storageClient with
  | false => exact ⟨rfl, Or.inl rfl⟩
  | true =>
      refine ⟨trivial, fun answer middle answered => ?_⟩
      have same : middle = source := answered
      subst same
      cases answer with
      | error error => exact ⟨rfl, Or.inl rfl⟩
      | ok id =>
          refine ⟨trivial, fun stored target put => ?_⟩
          have left : LeavesOriginal true upload body middle target :=
            ⟨put.1, put.2.imp_right fun objects => ⟨rfl, id, objects⟩⟩
          cases stored with
          | ok _ => exact left
          | error _ => exact left

theorem status_withUploadKey (storedKey : Option String) (response : JsonResponse) :
    (withUploadKey storedKey response).1 = response.1 := by
  rcases response with ⟨status, payload⟩
  cases status with
  | created => cases payload <;> rfl
  | _ => rfl

/-- An indexing that does not create the document changes nothing. -/
theorem safe_buildIndexDocumentResponse (builtins : Builtins)
    (authorization : Option String) (body : Bytes)
    (tokenVerifier : Option TokenVerifier) (notificationStore : Bool)
    (state : RetrievalState) :
    Program.Safe retrievalWorld (fun _ _ => True)
      (fun target result => ∀ response, result = .ok response →
        response.1 = .created ∨ target = state) state
      (buildIndexDocumentResponse builtins authorization body tokenVerifier
        notificationStore) := by
  rw [buildIndexDocumentResponse]
  cases prepareDocument builtins authorization body tokenVerifier with
  | error error =>
      intro response answered
      cases answered
  | ok outcome =>
      cases outcome with
      | error response => exact fun _ _ => Or.inr rfl
      | ok accepted =>
          apply (safe_indexRequest retrievalWorld_still notificationStore accepted.1
            accepted.2).mono
          intro target result settled response answered
          exact (settled response answered).imp_right And.right

/-- An upload that is not answered with 201 leaves the chunks as they were, and of
the objects at most the original of the upload is new, which is stored before the
document is checked and embedded. -/
theorem failed_upload_leaves_original {builtins : Builtins}
    {authorization : Option String} {filename contentType : Option String}
    {body : Bytes} {tokenVerifier : Option TokenVerifier} {storageClient : Bool}
    {maxUploadBytes : Int} {notificationStore : Bool} {source target : RetrievalState}
    {events : List (Event (Services.sum RetrievalStore) PyException)}
    {response : JsonResponse}
    (served : Served retrievalWorld (buildRetrievalUploadResponse builtins
      authorization filename contentType body tokenVerifier storageClient
      maxUploadBytes notificationStore) source events (.ok response) target)
    (failed : response.1 ≠ .created) :
    target.chunks = source.chunks ∧
      (target.objects = source.objects ∨
        storageClient = true ∧ ∃ upload id,
          prepareUpload builtins authorization filename contentType body tokenVerifier
              maxUploadBytes = .ok (.ok upload) ∧
            target.objects =
              Function.update source.objects (uploadKey upload id) (some body)) := by
  rw [buildRetrievalUploadResponse] at served
  cases prepared : prepareUpload builtins authorization filename contentType body
      tokenVerifier maxUploadBytes with
  | error error =>
      rw [prepared] at served
      cases served.1
  | ok outcome =>
      rw [prepared] at served
      cases outcome with
      | error refused =>
          rcases served with ⟨run, answered⟩
          rcases Program.run_ret_iff.mp run with ⟨rfl, -⟩
          cases answered
          exact ⟨rfl, Or.inl rfl⟩
      | ok upload =>
          have safe : Program.Safe retrievalWorld (fun _ _ => True)
              (fun target result => ∀ response, result = .ok response →
                response.1 = .created ∨
                  LeavesOriginal storageClient upload body source target) source
              ((Indexing.service (storeOriginal storageClient upload body)).bind
                fun storedKey => (buildIndexDocumentResponse builtins authorization
                  (uploadDocument builtins upload) tokenVerifier
                  notificationStore).bind fun response =>
                    .ret (withUploadKey storedKey response)) := by
            apply (safe_storeOriginal storageClient upload body source).bind
            · intro middle storedKey left
              apply (safe_buildIndexDocumentResponse builtins authorization _
                tokenVerifier notificationStore middle).bind
              · intro final indexed settled response answered
                cases answered
                rw [status_withUploadKey]
                apply (settled indexed rfl).imp_right
                intro same
                rw [same]
                exact left
              · intro final error _ response answered
                cases answered
            · intro middle error _ response answered
              cases answered
          have ended := safe.of_served served response rfl
          rcases ended.resolve_left failed with ⟨chunks, objects⟩
          refine ⟨chunks, objects.imp_right fun stored => ?_⟩
          rcases stored with ⟨client, id, objects⟩
          exact ⟨client, upload, id, rfl, objects⟩

/-- Builtins that read the document of a blank upload back. -/
def blankBody : Builtins :=
  { Builtins.sample [] with
    loadsBytes := fun data =>
      if data = Utf8.encode "\x7b\"title\": \"a.txt\", \"content\": \" \"\x7d" then
        .ok (.obj [("title", .str "a.txt"), ("content", .str " ")])
      else .error .valueError }

/-- A verifier that knows one token. -/
def oneToken : TokenVerifier := fun token =>
  if token = "t1" then .ok ⟨"ana", "ana@acme.test", []⟩ else .error .tokenVerificationError

/-- The upload of a file with a blank. -/
def blankUpload : Indexing JsonResponse :=
  buildRetrievalUploadResponse blankBody (some "bearer t1") (some "a.txt")
    (some "text/plain") [0x20] (some oneToken) true 1000 false

/-- Nothing is stored. -/
def noObjects : RetrievalState := ⟨fun _ => none, []⟩

/-- The state the blank upload leaves. -/
def blankStored : RetrievalState :=
  ⟨Function.update (fun _ => none) "uploads/acme.test/ana/u1/a.txt" (some [0x20]), []⟩

/-- The response to a document without content. -/
def noContent : JsonResponse :=
  badRequest "'content' is required and must be a non-empty string."

theorem gate_ana : gate blankBody (some "bearer t1") (some oneToken) (.ok ()) =
    .ok (.ok ⟨"acme.test", "ana"⟩) := by
  have token : bearerToken Str.asciiLower (some "bearer t1") = some "t1" := by
    decide +kernel
  have tenant : extractTenantId Str.asciiLower ⟨"ana", "ana@acme.test", []⟩ =
      "acme.test" := by decide +kernel
  have verified : verifyAndExtract Str.asciiLower (some "bearer t1") (some oneToken) =
      .ok (.ok ⟨"ana", "ana@acme.test", []⟩) := by
    rw [verifyAndExtract, token]
    rfl
  rw [gate, show blankBody.lower = Str.asciiLower from rfl, verified]
  change Except.ok (Except.ok (⟨extractTenantId Str.asciiLower _, "ana"⟩ : Caller)) = _
  rw [tenant]

/-- The file of the blank upload. -/
def blankFile : Upload :=
  ⟨⟨"acme.test", "ana"⟩, "a.txt", "text/plain", " ", by decide, by decide⟩

theorem prepareUpload_blank :
    prepareUpload blankBody (some "bearer t1") (some "a.txt") (some "text/plain") [0x20]
      (some oneToken) 1000 = .ok (.ok blankFile) := by
  have decoded : Utf8.decode [0x20] = .ok " " := by rfl
  have media : mediaType blankBody (some "text/plain") = "text/plain" := by decide +kernel
  have right : indexable "text/plain" = true := by decide +kernel
  rw [prepareUpload, gate_ana]
  change Except.ok (readUpload blankBody (some "a.txt") (some "text/plain") [0x20] 1000
    _) = _
  rw [readUpload]
  dsimp only [Option.getD_some]
  rw [dif_neg (by decide), dif_neg (by decide), if_neg (by decide)]
  simp only [media, right, Bool.not_true, Bool.false_eq_true, if_false]
  split
  next unread =>
    rw [decoded] at unread
    cases unread
  next text same =>
    cases decoded.symm.trans same
    rfl

theorem prepareDocument_blank :
    prepareDocument blankBody (some "bearer t1") (uploadDocument blankBody blankFile)
      (some oneToken) = .ok (.error noContent) := by
  have text : blankBody.dumps (.obj
      [("title", .str (Str.take "a.txt" Retrieval.maxTitleLen)),
        ("content", .str " ")]) =
      "\x7b\"title\": \"a.txt\", \"content\": \" \"\x7d" := by
    decide +kernel
  have loaded : blankBody.loadsBytes (uploadDocument blankBody blankFile) =
      .ok (.obj [("title", .str "a.txt"), ("content", .str " ")]) := by
    change blankBody.loadsBytes (Utf8.encode (blankBody.dumps (.obj
      [("title", .str (Str.take "a.txt" Retrieval.maxTitleLen)),
        ("content", .str " ")]))) = _
    rw [text]
    simp only [blankBody, if_true]
  have read : readDocument [("title", .str "a.txt"), ("content", .str " ")] =
      .error noContent := by
    have titled : Str.strip "a.txt" ≠ "" := by decide
    have short : ¬ Retrieval.maxTitleLen < "a.txt".length := by decide
    have blank : Str.strip " " = "" := by decide
    simp [readDocument, Json.getOr, Json.lookup, titled, short, blank, noContent]
  rw [prepareDocument, gate_ana, loaded]
  change Except.ok ((readDocument _).map _) = _
  rw [read]
  rfl

/-- The blank upload is stored and then refused. -/
theorem served_blankUpload :
    Served retrievalWorld blankUpload noObjects
      [⟨.inl .uuid4, .ok "u1"⟩,
        ⟨.inl (.putObject "uploads/acme.test/ana/u1/a.txt" [0x20] "text/plain"),
          .ok ()⟩]
      (.ok noContent) blankStored := by
  constructor
  · have key : uploadKey blankFile "u1" = "uploads/acme.test/ana/u1/a.txt" := by decide
    rw [blankUpload, buildRetrievalUploadResponse, prepareUpload_blank, ← key]
    apply Program.Run.call
    apply Program.Run.call
    rw [buildIndexDocumentResponse, prepareDocument_blank]
    exact .ret _
  · exact ⟨noObjects, rfl, blankStored, ⟨rfl, Or.inr rfl⟩, rfl⟩

/-- The blank upload is answered with 400 and leaves its original. -/
theorem blank_upload_leaves_original :
    ∃ events response target,
      Served retrievalWorld blankUpload noObjects events (.ok response) target ∧
        response.1 ≠ .created ∧ target.objects ≠ noObjects.objects := by
  refine ⟨_, _, _, served_blankUpload, by decide, fun same => ?_⟩
  have entry := congrFun same "uploads/acme.test/ana/u1/a.txt"
  simp [blankStored, noObjects] at entry

/-- The rule for failed uploads at the blank upload. -/
theorem failed_upload_leaves_original_blank :
    noContent.1 ≠ .created ∧ blankStored.chunks = noObjects.chunks ∧
      (blankStored.objects = noObjects.objects ∨
        true = true ∧ ∃ upload id,
          prepareUpload blankBody (some "bearer t1") (some "a.txt") (some "text/plain")
              [0x20] (some oneToken) 1000 = .ok (.ok upload) ∧
            blankStored.objects = Function.update noObjects.objects
              (uploadKey upload id) (some [0x20])) :=
  ⟨by decide, failed_upload_leaves_original served_blankUpload (by decide)⟩

end PrivateAiWorkspace.ControlPlane
