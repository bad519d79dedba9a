import PrivateAiWorkspace.ControlPlane.Memory
import PrivateAiWorkspace.ControlPlane.RequestBodies
import PrivateAiWorkspace.ControlPlane.Similarity
import PrivateAiWorkspace.Effects.HostingWorld
import PrivateAiWorkspace.Lists.Ranking
import PrivateAiWorkspace.Python.FloatOrder

/-!
# The retrieval service

The endpoints of `retrieval.py` run at once over one store in memory. A query shows the
passages of its tenant that are closest to it, and every passage is part of a document
that a user of the tenant has had indexed: the documents of a tenant come into view
whole, in the order in which they were indexed.
-/

namespace PrivateAiWorkspace.ControlPlane

open Effects Python

/-- `RetrievedPassage`. -/
structure RetrievedPassage where
  documentId : String
  chunkId : String
  chunkIndex : Nat
  content : String
  score : PyFloat

/-- `to_api_dict`; `round6` is `round(score, 6)`. -/
def RetrievedPassage.toApiDict (round6 : PyFloat → PyFloat) (passage : RetrievedPassage) :
    List (String × Json) :=
  [("document_id", .str passage.documentId), ("chunk_id", .str passage.chunkId),
    ("chunk_index", .int passage.chunkIndex), ("content", .str passage.content),
    ("score", .float (round6 passage.score))]

/-- `InMemoryRetrievalStore`: the chunks of each tenant. -/
abbrev InMemoryRetrievalStore := Dict String (List DocumentChunk)

/-- A chunk as a query shows it. -/
def DocumentChunk.passage (arithmetic : FloatArithmetic) (embedding : List PyFloat)
    (chunk : DocumentChunk) : RetrievedPassage where
  documentId := chunk.documentId
  chunkId := chunk.id
  chunkIndex := chunk.chunkIndex
  content := chunk.content
  score := cosine arithmetic embedding chunk.embedding

namespace InMemoryRetrievalStore

/-- `index_document`. -/
def indexDocument (items : InMemoryRetrievalStore) (document : Document)
    (chunks : List DocumentChunk) : InMemoryRetrievalStore :=
  items.insert document.tenantId (items.bucket document.tenantId ++ chunks)

/-- `query`: the best scores first. -/
def query (arithmetic : FloatArithmetic) (items : InMemoryRetrievalStore)
    (tenantId : String) (embedding : List PyFloat) (topK : Int) :
    List RetrievedPassage :=
  let scored := (items.bucket tenantId).map (DocumentChunk.passage arithmetic embedding)
  takeSlice (scored.mergeSort fun left right => !left.score.lt right.score) topK

end InMemoryRetrievalStore

/-- An operation of the store. -/
inductive RetrievalOperation where
  | indexDocument (document : Document) (chunks : List DocumentChunk)
  | query (tenantId : String) (embedding : List PyFloat) (topK : Int)

/-- The operations with their answers. -/
def RetrievalIndex : Interface where
  Call := RetrievalOperation
  Answer
    | .indexDocument _ _ => Unit
    | .query _ _ _ => List RetrievedPassage

/-- What `InMemoryRetrievalStore` answers and what it holds then. -/
def InMemoryRetrievalStore.serve (arithmetic : FloatArithmetic)
    (items : InMemoryRetrievalStore) :
    (request : RetrievalOperation) → RetrievalIndex.Answer request × InMemoryRetrievalStore
  | .indexDocument document chunks => ((), items.indexDocument document chunks)
  | .query tenantId embedding topK =>
      (items.query arithmetic tenantId embedding topK, items)

/-! ## The endpoints -/

/-- A program over the services and a retrieval store. -/
abbrev RetrievalProgram (α : Type) := Program (Services.sum RetrievalIndex) PyException α

/-- The writes of the store among its operations. -/
def indexingEmbedding :
    Embedding (Services.sum RetrievalStore) (Services.sum RetrievalIndex) where
  call
    | .inl request => .inl request
    | .inr (.indexDocument document chunks) => .inr (.indexDocument document chunks)
  answer
    | .inl _ => id
    | .inr (.indexDocument _ _) => id

/-- An endpoint that writes, among those that also query. -/
def indexingEndpoint (program : Indexing JsonResponse) : RetrievalProgram WireResponse :=
  (program.embed indexingEmbedding).bind fun response => .ret response.wire

section Endpoints

variable (builtins : Builtins) (tokenVerifier : Option TokenVerifier)
  (round6 : PyFloat → PyFloat)

/-- `build_retrieval_query_response`. -/
def buildRetrievalQueryResponse (authorization : Option String) (body : Bytes) :
    RetrievalProgram WireResponse := do
  match ← Program.ofExcept (prepareSimilarity builtins tokenVerifier authorization
      body) with
  | .error response => return response.wire
  | .ok (caller, request) =>
      match ← embedFirst RetrievalIndex request.query with
      | .error response => return response
      | .ok embedding =>
          if embedding.length ≠ embeddingDim then return dimensionMismatch
          else
            let passages ← (.call (Sum.inr (.query caller.tenantId embedding request.topK))
              Program.ofExcept : RetrievalProgram (List RetrievedPassage))
            return (200, countedPayload "results"
              (passages.map fun passage => .obj (passage.toApiDict round6)))

/-- The retrieval endpoints, each for some request. -/
inductive RetrievalEndpoint : RetrievalProgram WireResponse → Prop
  | document (authorization : Option String) (body : Bytes) (notificationStore : Bool) :
      RetrievalEndpoint (indexingEndpoint (buildIndexDocumentResponse builtins
        authorization body tokenVerifier notificationStore))
  | upload (authorization filename contentType : Option String) (body : Bytes)
      (storageClient : Bool) (maxUploadBytes : Int) (notificationStore : Bool) :
      RetrievalEndpoint (indexingEndpoint (buildRetrievalUploadResponse builtins
        authorization filename contentType body tokenVerifier storageClient
        maxUploadBytes notificationStore))
  | query (authorization : Option String) (body : Bytes) :
      RetrievalEndpoint
        (buildRetrievalQueryResponse builtins tokenVerifier round6 authorization body)

/-- A user has asked for a document to be indexed: in a request of its own or by
uploading a file. -/
def RequestedBy (caller : Caller) (request : IndexDocumentRequest)
    (program : RetrievalProgram WireResponse) : Prop :=
  ∃ authorization body notificationStore,
    prepareDocument builtins authorization body tokenVerifier = .ok (.ok (caller, request)) ∧
    (program = indexingEndpoint (buildIndexDocumentResponse builtins authorization body
        tokenVerifier notificationStore) ∨
      ∃ filename contentType file storageClient maxUploadBytes upload,
        prepareUpload builtins authorization filename contentType file tokenVerifier
          maxUploadBytes = .ok (.ok upload) ∧
        body = uploadDocument builtins upload ∧
        program = indexingEndpoint (buildRetrievalUploadResponse builtins authorization
          filename contentType file tokenVerifier storageClient maxUploadBytes
          notificationStore))

end Endpoints

/-- A document and its chunks as they are made of a request and its vectors. -/
structure MadeOf (caller : Caller) (request : IndexDocumentRequest)
    (vectors : List (List PyFloat)) (document : Document) (chunks : List DocumentChunk) :
    Prop where
  tenant : document.tenantId = caller.tenantId
  user : document.userId = caller.userId
  title : document.title = Str.strip request.title
  owned : ∀ chunk ∈ chunks,
    chunk.documentId = document.id ∧ chunk.tenantId = document.tenantId
  numbered : chunks.map (·.chunkIndex) = List.range chunks.length
  contents : chunks.map (fun chunk => (chunk.content, chunk.embedding)) =
    (chunkText request.content defaultChunkChars).zip vectors

/-! ## What an indexing indexes -/

section Indexing

variable {past events : List (Event (Services.sum RetrievalStore) PyException)}

/-- The chunks of a document, from an index on. -/
theorem run_makeChunks {documentId tenantId : String} {createdAt : DateTime}
    {texts : List (String × List PyFloat)} {start : Nat} {chunks : List DocumentChunk}
    (run : Program.Run (makeChunks documentId tenantId createdAt start texts) events
      (.ok chunks)) :
    (∀ chunk ∈ chunks, chunk.documentId = documentId ∧ chunk.tenantId = tenantId) ∧
      chunks.map (·.chunkIndex) = List.range' start chunks.length ∧
      chunks.map (fun chunk => (chunk.content, chunk.embedding)) = texts := by
  induction texts generalizing start events chunks with
  | nil =>
      rcases Program.run_ret_iff.mp run with ⟨-, returned⟩
      cases returned
      simp
  | cons text rest ih =>
      rcases Program.run_embedThen_iff.mp run with
        ⟨error, _, raised⟩ | ⟨id, more, rfl, named⟩
      · cases raised
      · rcases Program.run_bind_iff.mp named with
          ⟨error, _, raised⟩ | ⟨others, before, after, rfl, first, later⟩
        · cases raised
        · rcases Program.run_ret_iff.mp later with ⟨-, returned⟩
          cases returned
          rcases ih first with ⟨owned, numbered, contents⟩
          refine ⟨?_, ?_, ?_⟩
          · intro chunk member
            rcases List.mem_cons.mp member with rfl | later
            · exact ⟨rfl, rfl⟩
            · exact owned chunk later
          · simp [numbered, List.range'_succ]
          · simp [contents]

/-- What an indexing may call: it indexes a document that is made of a request it has
accepted and of the vectors of its texts. -/
def Indexes (accepted : Caller → IndexDocumentRequest → Prop)
    (past : List (Event (Services.sum RetrievalStore) PyException))
    (request : (Services.sum RetrievalStore).Call) : Prop :=
  ∀ document chunks, request = Sum.inr (.indexDocument document chunks) →
    ∃ caller request vectors, accepted caller request ∧
      MadeOf caller request vectors document chunks ∧
      ⟨Sum.inl (ServiceCall.embed (chunkText request.content defaultChunkChars)),
        .ok vectors⟩ ∈ past

variable {accepted : Caller → IndexDocumentRequest → Prop}

theorem indexes_service (request : ServiceCall) : Indexes accepted past (Sum.inl request) := by
  intro document chunks same
  cases same

theorem Indexes.later (before : List (Event (Services.sum RetrievalStore) PyException))
    {request : (Services.sum RetrievalStore).Call} (indexes : Indexes accepted past request) :
    Indexes accepted (before ++ past) request := by
  intro document chunks same
  rcases indexes document chunks same with ⟨caller, request, vectors, known, made, embedded⟩
  exact ⟨caller, request, vectors, known, made, List.mem_append_right _ embedded⟩

theorem Indexes.mono {weaker : Caller → IndexDocumentRequest → Prop}
    {request : (Services.sum RetrievalStore).Call}
    (implies : ∀ caller request, accepted caller request → weaker caller request)
    (indexes : Indexes accepted past request) : Indexes weaker past request := by
  intro document chunks same
  rcases indexes document chunks same with ⟨caller, request, vectors, known, rest⟩
  exact ⟨caller, request, vectors, implies caller request known, rest⟩

theorem guarded_makeChunks (documentId tenantId : String) (createdAt : DateTime)
    (start : Nat) (texts : List (String × List PyFloat)) :
    Program.Guarded (Indexes accepted) past
      (makeChunks documentId tenantId createdAt start texts) := by
  induction texts generalizing start past with
  | nil => trivial
  | cons text rest ih =>
      apply Program.Guarded.embedThen (indexes_service _)
      intro id
      apply (ih (start + 1)).bind
      intro more chunks _
      trivial

theorem guarded_storeDocument {notificationStore : Bool} {caller : Caller}
    {request : IndexDocumentRequest} {now : DateTime} {documentId : String}
    {vectors : List (List PyFloat)} (known : accepted caller request)
    (embedded : ⟨Sum.inl (ServiceCall.embed
      (chunkText request.content defaultChunkChars)), .ok vectors⟩ ∈ past) :
    Program.Guarded (Indexes accepted) past
      (storeDocument notificationStore caller request now documentId vectors) := by
  apply (guarded_makeChunks _ _ _ _ _).bind
  intro more chunks run
  rcases run_makeChunks run with ⟨owned, numbered, contents⟩
  apply Program.Guarded.callThen
  · intro document indexed same
    cases same
    refine ⟨caller, request, vectors, known, ⟨rfl, rfl, rfl, owned, ?_, contents⟩,
      List.mem_append_left _ embedded⟩
    rw [numbered, List.range_eq_range']
  · intro _
    apply Program.Guarded.bind
    · exact Program.Guarded.embedded (fun _ request => indexes_service request) _ _
    · intro _ _ _
      trivial

theorem guarded_buildIndexDocumentResponse (builtins : Builtins)
    (authorization : Option String) (body : Bytes) (tokenVerifier : Option TokenVerifier)
    (notificationStore : Bool) :
    Program.Guarded (Indexes fun caller request =>
        prepareDocument builtins authorization body tokenVerifier =
          .ok (.ok (caller, request))) []
      (buildIndexDocumentResponse builtins authorization body tokenVerifier
        notificationStore) := by
  apply Program.Guarded.ofExceptThen
  intro read prepared
  cases read with
  | error response => trivial
  | ok request =>
      apply Program.Guarded.embedThen (indexes_service _)
      intro now
      apply Program.Guarded.embedThen (indexes_service _)
      intro documentId
      constructor
      · exact indexes_service _
      · intro answer
        cases answer with
        | ok vectors =>
            exact guarded_storeDocument prepared
              (List.mem_append_right _ List.mem_cons_self)
        | error error =>
            change Program.Guarded _ _ (if error = embeddingError then _ else _)
            split <;> trivial

theorem guarded_buildRetrievalUploadResponse (builtins : Builtins)
    (authorization filename contentType : Option String) (body : Bytes)
    (tokenVerifier : Option TokenVerifier) (storageClient : Bool) (maxUploadBytes : Int)
    (notificationStore : Bool) :
    Program.Guarded (Indexes fun caller request =>
        ∃ upload, prepareUpload builtins authorization filename contentType body
            tokenVerifier maxUploadBytes = .ok (.ok upload) ∧
          prepareDocument builtins authorization (uploadDocument builtins upload)
            tokenVerifier = .ok (.ok (caller, request))) []
      (buildRetrievalUploadResponse builtins authorization filename contentType body
        tokenVerifier storageClient maxUploadBytes notificationStore) := by
  apply Program.Guarded.ofExceptThen
  intro read prepared
  cases read with
  | error response => trivial
  | ok upload =>
      apply Program.Guarded.bind
      · exact Program.Guarded.embedded (fun _ request => indexes_service request) _ _
      · intro more storedKey _
        apply Program.Guarded.bind
        · have indexing := (guarded_buildIndexDocumentResponse builtins authorization
            (uploadDocument builtins upload) tokenVerifier notificationStore).later
              (fun before _ _ => Indexes.later before) ([] ++ more)
          rw [List.append_nil] at indexing
          apply indexing.mono
          intro past request
          apply Indexes.mono
          intro caller request accepted
          exact ⟨upload, prepared, accepted⟩
        · intro _ _ _
          trivial

end Indexing

/-! ## What the endpoints index -/

section Calls

variable {builtins : Builtins} {tokenVerifier : Option TokenVerifier}
  {round6 : PyFloat → PyFloat} {program : RetrievalProgram WireResponse}

/-- What the endpoints may call: they index documents that are made of what a user has
asked for and of the vectors of its texts. -/
def RetrievalCalls (builtins : Builtins) (tokenVerifier : Option TokenVerifier)
    (program : RetrievalProgram WireResponse)
    (past : List (Event (Services.sum RetrievalIndex) PyException))
    (request : (Services.sum RetrievalIndex).Call) : Prop :=
  ∀ document chunks, request = Sum.inr (.indexDocument document chunks) →
    ∃ caller request vectors, RequestedBy builtins tokenVerifier caller request program ∧
      MadeOf caller request vectors document chunks ∧
      ⟨Sum.inl (ServiceCall.embed (chunkText request.content defaultChunkChars)),
        .ok vectors⟩ ∈ past

/-- An endpoint that writes indexes what its user has asked for. -/
theorem guarded_indexingEndpoint {indexing : Indexing JsonResponse}
    {accepted : Caller → IndexDocumentRequest → Prop}
    (guarded : Program.Guarded (Indexes accepted) [] indexing)
    (requested : ∀ caller request, accepted caller request →
      RequestedBy builtins tokenVerifier caller request program) :
    Program.Guarded (RetrievalCalls builtins tokenVerifier program) []
      (indexingEndpoint indexing) := by
  apply Program.Guarded.bind
  · apply guarded.embedPast _ .nil
    intro past before request embeds indexes document chunks same
    cases request with
    | inl request => cases same
    | inr request =>
        cases request with
        | indexDocument document chunks =>
            cases same
            rcases indexes _ _ rfl with ⟨caller, request, vectors, known, made, embedded⟩
            rcases embeds.exists_mem embedded with ⟨answer, found, same⟩
            refine ⟨caller, request, vectors, requested caller request known, made, ?_⟩
            cases answer with
            | error error => cases same
            | ok answer =>
                have equal : vectors = answer := Except.ok.inj same
                subst equal
                exact found
  · intro _ _ _
    trivial

theorem guarded_retrievalEndpoint
    (endpoint : RetrievalEndpoint builtins tokenVerifier round6 program) :
    Program.Guarded (RetrievalCalls builtins tokenVerifier program) [] program := by
  cases endpoint with
  | document authorization body notificationStore =>
      apply guarded_indexingEndpoint (guarded_buildIndexDocumentResponse _ _ _ _ _)
      intro caller request prepared
      exact ⟨authorization, body, notificationStore, prepared, Or.inl rfl⟩
  | upload authorization filename contentType body storageClient maxUploadBytes
      notificationStore =>
      apply guarded_indexingEndpoint
        (guarded_buildRetrievalUploadResponse _ _ _ _ _ _ _ _ _)
      intro caller request ⟨upload, accepted, prepared⟩
      exact ⟨authorization, _, notificationStore, prepared, Or.inr ⟨filename, contentType,
        body, storageClient, maxUploadBytes, upload, accepted, rfl, rfl⟩⟩
  | query authorization body =>
      apply Program.Guarded.ofExceptThen
      intro read _
      cases read with
      | error response => trivial
      | ok request =>
          apply (guarded_embedFirst _).bind
          · intro embedded outcome _
            cases outcome with
            | error response => trivial
            | ok vector =>
                dsimp only
                split
                · trivial
                · apply Program.Guarded.callThen
                  · intro document chunks same
                    cases same
                  · intro _
                    trivial
          · intro document chunks same
            cases same

end Calls

/-! ## Runs of the service -/

/-- The chunks of a tenant that operations have brought into view. -/
def tenantChunks (tenantId : String) : List RetrievalOperation → List DocumentChunk
  | [] => []
  | .indexDocument document chunks :: rest =>
      (if document.tenantId = tenantId then chunks else []) ++ tenantChunks tenantId rest
  | .query _ _ _ :: rest => tenantChunks tenantId rest

/-- A chunk in view is one of a document of the tenant. -/
theorem mem_tenantChunks_iff {tenantId : String} {history : List RetrievalOperation}
    {chunk : DocumentChunk} :
    chunk ∈ tenantChunks tenantId history ↔ ∃ document chunks,
      .indexDocument document chunks ∈ history ∧ document.tenantId = tenantId ∧
        chunk ∈ chunks := by
  induction history with
  | nil => simp [tenantChunks]
  | cons one rest ih =>
      cases one with
      | query other embedding topK => simp [tenantChunks, ih]
      | indexDocument document chunks =>
          simp only [tenantChunks, List.mem_append, ih, List.mem_cons,
            RetrievalOperation.indexDocument.injEq]
          constructor
          · intro found
            rcases found with here | ⟨other, others, member, rest⟩
            · by_cases own : document.tenantId = tenantId
              · rw [if_pos own] at here
                exact ⟨document, chunks, Or.inl ⟨rfl, rfl⟩, own, here⟩
              · simp [own] at here
            · exact ⟨other, others, Or.inr member, rest⟩
          · intro ⟨other, others, member, own, inside⟩
            rcases member with ⟨rfl, rfl⟩ | member
            · exact Or.inl (by rwa [if_pos own])
            · exact Or.inr ⟨other, others, member, own, inside⟩

/-- A pool of retrieval endpoints. -/
abbrev RetrievalPool :=
  Pool (Services.sum RetrievalIndex) PyException WireResponse
    (Hosted InMemoryRetrievalStore String)

/-- A step of such a pool. -/
abbrev RetrievalTransition :=
  Transition RetrievalPool (Action (Services.sum RetrievalIndex) PyException WireResponse)

/-- A run of any number of retrieval endpoints, from an empty store on. -/
abbrev RetrievalRun (builtins : Builtins) (tokenVerifier : Option TokenVerifier)
    (round6 : PyFloat → PyFloat) (arithmetic : FloatArithmetic)
    (transitions : List RetrievalTransition) (target : RetrievalPool) : Prop :=
  Execution
    (Pool.Step (HostingWorld Service.givenId (InMemoryRetrievalStore.serve arithmetic))
      (RetrievalEndpoint builtins tokenVerifier round6))
    ⟨⟨.empty, []⟩, []⟩ transitions target

/-- The operations on the store, in order. -/
abbrev retrievalOperations (transitions : List RetrievalTransition) :
    List RetrievalOperation :=
  operationsOf storeCall transitions

/-- A query shows the passages of its tenant that are closest to it, of the documents
indexed when it calls the store. -/
def QueriesClosest (round6 : PyFloat → PyFloat) (arithmetic : FloatArithmetic)
    (transitions : List RetrievalTransition) (thread : Nat) (caller : Caller)
    (request : SimilarityRequest) (response : WireResponse) : Prop :=
  ∃ before source event next after embedding others shown,
    transitions = before ++ ⟨source, .call thread event, next⟩ :: after ∧
    event.call = Sum.inr (.query caller.tenantId embedding request.topK) ∧
    ⟨Sum.inl (ServiceCall.embed [request.query]), .ok (embedding :: others)⟩ ∈
      Pool.threadEvents thread transitions ∧
    response = (200, countedPayload "results"
      (shown.map fun passage => .obj (passage.toApiDict round6))) ∧
    let passages := (tenantChunks caller.tenantId (retrievalOperations before)).map
      (DocumentChunk.passage arithmetic embedding)
    (∀ passage ∈ passages, passage.score ≠ .nan) →
      Ranking.Best (fun passage => passage.score.rank) request.topK.toNat passages shown

/-- A program of the run was asked to index a document by a user of its tenant; its
chunks are those of the text that was sent, with the vectors the backend gave for them. -/
def IndexedBy (builtins : Builtins) (tokenVerifier : Option TokenVerifier)
    (transitions : List RetrievalTransition) (document : Document)
    (chunks : List DocumentChunk) : Prop :=
  ∃ thread origin caller request vectors,
    (Pool.origins transitions)[thread]? = some origin ∧
    RequestedBy builtins tokenVerifier caller request origin ∧
    MadeOf caller request vectors document chunks ∧
    ⟨Sum.inl (ServiceCall.embed (chunkText request.content defaultChunkChars)),
      .ok vectors⟩ ∈ Pool.threadEvents thread transitions

section Service

variable {builtins : Builtins} {tokenVerifier : Option TokenVerifier}
  {round6 : PyFloat → PyFloat} {arithmetic : FloatArithmetic} {target : RetrievalPool}
  {transitions : List RetrievalTransition}

/-- The store holds the chunks of each tenant that have come into view. -/
theorem bucket_foldl (history : List RetrievalOperation) (items : InMemoryRetrievalStore)
    (tenantId : String) :
    (history.foldl (fun items one => (items.serve arithmetic one).2) items).bucket tenantId =
      items.bucket tenantId ++ tenantChunks tenantId history := by
  induction history generalizing items with
  | nil => simp [tenantChunks]
  | cons one rest ih =>
      rw [List.foldl_cons, ih]
      cases one with
      | query other embedding topK => rfl
      | indexDocument document chunks =>
          simp only [InMemoryRetrievalStore.serve, InMemoryRetrievalStore.indexDocument,
            Dict.bucket_insert, tenantChunks]
          by_cases own : document.tenantId = tenantId
          · simp [own]
          · simp [own, Ne.symm own]

/-- A query that is answered with results has called the store once, with its
embedding. -/
theorem run_query {authorization : Option String} {body : Bytes} {caller : Caller}
    {request : SimilarityRequest}
    {events : List (Event (Services.sum RetrievalIndex) PyException)}
    {response : WireResponse}
    (accepted : prepareSimilarity builtins tokenVerifier authorization body =
      .ok (.ok (caller, request)))
    (run : Program.Run (buildRetrievalQueryResponse builtins tokenVerifier round6
      authorization body) events (.ok response))
    (shown : response.1 = 200) :
    ∃ (vector : List PyFloat) (others : List (List PyFloat))
      (passages : List RetrievedPassage),
      events = [⟨Sum.inl (ServiceCall.embed [request.query]), .ok (vector :: others)⟩,
        ⟨Sum.inr (.query caller.tenantId vector request.topK), .ok passages⟩] ∧
      response = (200, countedPayload "results"
        (passages.map fun passage => .obj (passage.toApiDict round6))) := by
  rw [buildRetrievalQueryResponse, accepted] at run
  simp only [Program.ofExcept_ok, Program.bind_eq, Program.ret_bind] at run
  rcases Program.run_bind_iff.mp run with
    ⟨error, _, raised⟩ | ⟨outcome, before, after, rfl, embedded, later⟩
  · cases raised
  · rcases run_embedFirst embedded with ⟨answer, rfl, vectors, unavailable⟩
    cases outcome with
    | error refusal =>
        rcases Program.run_ret_iff.mp later with ⟨-, returned⟩
        cases returned
        cases unavailable _ rfl
        cases shown
    | ok vector =>
        rcases vectors vector rfl with ⟨others, rfl⟩
        dsimp only at later
        split at later
        · rcases Program.run_ret_iff.mp later with ⟨-, returned⟩
          cases returned
          cases shown
        · rcases Program.run_callThen_iff.mp later with
            ⟨error, _, raised⟩ | ⟨passages, more, rfl, ended⟩
          · cases raised
          · rcases Program.run_ret_iff.mp ended with ⟨rfl, returned⟩
            cases returned
            exact ⟨vector, others, passages, rfl, rfl⟩

namespace RetrievalRun

/-- What the store answers, the chunks of each tenant being those in view. -/
theorem answered
    (execution : RetrievalRun builtins tokenVerifier round6 arithmetic transitions target)
    {thread : Nat} {request : RetrievalOperation} {answer : RetrievalIndex.Answer request}
    (member : ⟨Sum.inr request, .ok answer⟩ ∈ Pool.threadEvents thread transitions) :
    ∃ before source event next after items,
      transitions = before ++ ⟨source, .call thread event, next⟩ :: after ∧
      event.call = Sum.inr request ∧
      answer = (InMemoryRetrievalStore.serve arithmetic items request).1 ∧
      ∀ tenantId, items.bucket tenantId =
        tenantChunks tenantId (retrievalOperations before) := by
  rcases HostingWorld.answered (fun _ => ()) execution member with
    ⟨before, source, event, next, after, split, called, answer⟩
  refine ⟨before, source, event, next, after, _, split, called, answer, ?_⟩
  intro tenantId
  exact bucket_foldl (retrievalOperations before) Dict.empty tenantId

theorem queried
    (execution : RetrievalRun builtins tokenVerifier round6 arithmetic transitions target)
    {thread : Nat} {authorization : Option String} {body : Bytes} {caller : Caller}
    {request : SimilarityRequest} {response : WireResponse}
    (accepted : prepareSimilarity builtins tokenVerifier authorization body =
      .ok (.ok (caller, request)))
    (returned : Returned transitions target thread
      (buildRetrievalQueryResponse builtins tokenVerifier round6 authorization body)
      response)
    (shows : response.1 = 200) :
    QueriesClosest round6 arithmetic transitions thread caller request response := by
  rcases run_query accepted (returned.run execution) shows with
    ⟨embedding, others, passages, events, shown⟩
  have asked : ⟨Sum.inr (.query caller.tenantId embedding request.topK), .ok passages⟩ ∈
      Pool.threadEvents thread transitions := by
    rw [events]
    exact List.mem_cons_of_mem _ List.mem_cons_self
  rcases execution.answered asked with
    ⟨before, source, event, next, after, items, split, called, answer, held⟩
  refine ⟨before, source, event, next, after, embedding, others, passages, split, called,
    ?_, shown, ?_⟩
  · rw [events]
    exact List.mem_cons_self
  · intro scored numbers
    have positive := request.positive
    have sorted : passages = (scored.mergeSort fun left right =>
        !left.score.lt right.score).take request.topK.toNat := by
      rw [answer, InMemoryRetrievalStore.serve, InMemoryRetrievalStore.query,
        takeSlice, if_pos (by omega), held]
    rw [sorted]
    apply Ranking.best_take_mergeSort
    intro first among second among'
    exact PyFloat.not_lt_eq (numbers first among) (numbers second among')

theorem indexed
    (execution : RetrievalRun builtins tokenVerifier round6 arithmetic transitions target)
    {document : Document} {chunks : List DocumentChunk}
    (member : .indexDocument document chunks ∈ retrievalOperations transitions) :
    IndexedBy builtins tokenVerifier transitions document chunks := by
  rcases exists_origin_of_operation (fun _ endpoint => guarded_retrievalEndpoint endpoint)
    execution member with
    ⟨thread, origin, placed, -, past, call, shorter, called, calls⟩
  cases call with
  | inl call => cases called
  | inr call =>
      cases called
      rcases calls document chunks rfl with
        ⟨caller, request, vectors, requested, made, embedded⟩
      exact ⟨thread, origin, caller, request, vectors, placed, requested, made,
        shorter.subset embedded⟩

end RetrievalRun

/-- Queries show exactly the closest passages of their tenant, and every passage of a
tenant is part of a document that a user of the tenant asked for and that is in view
whole. -/
theorem passages_shown
    (execution : RetrievalRun builtins tokenVerifier round6 arithmetic transitions target) :
    (∀ thread authorization body caller request response,
      prepareSimilarity builtins tokenVerifier authorization body =
        .ok (.ok (caller, request)) →
      Returned transitions target thread
        (buildRetrievalQueryResponse builtins tokenVerifier round6 authorization body)
        response →
      response.1 = 200 →
      QueriesClosest round6 arithmetic transitions thread caller request response) ∧
    ∀ tenantId, ∀ chunk ∈ tenantChunks tenantId (retrievalOperations transitions),
      ∃ document chunks, document.tenantId = tenantId ∧ chunk ∈ chunks ∧
        (∀ other ∈ chunks, other ∈ tenantChunks tenantId (retrievalOperations transitions)) ∧
        IndexedBy builtins tokenVerifier transitions document chunks := by
  constructor
  · exact fun _ _ _ _ _ _ => execution.queried
  · intro tenantId chunk member
    rcases mem_tenantChunks_iff.mp member with ⟨document, chunks, indexed, own, inside⟩
    refine ⟨document, chunks, own, inside, ?_, execution.indexed indexed⟩
    intro other among
    exact mem_tenantChunks_iff.mpr ⟨document, chunks, indexed, own, among⟩

end Service

/-! ## A run of the service -/

namespace RetrievalRun

/-- Built-in functions that read every body as one request. -/
def sampleBuiltins : Builtins :=
  { Builtins.sample [] with
    loadsBytes := fun _ =>
      .ok (.obj [("title", .str "Tea"), ("content", .str "green tea"),
        ("query", .str "tea")]) }

/-- The arithmetic of vectors that are all the same. -/
def sampleArithmetic : FloatArithmetic where
  mul left _ := left
  sum items := items.headD (.finite 0)

/-- What the services answer, with the next id. -/
def sampleAnswer (id : String) : (request : ServiceCall) →
    Option (Except PyException (Services.Answer request))
  | .embed _ => some (.ok [List.replicate embeddingDim (.finite 1)])
  | .uuid4 => some (.ok id)
  | .nowUtc => some (.ok someTime)
  | _ => none

/-- A document of one user. -/
def sampleDocument : RetrievalProgram WireResponse :=
  indexingEndpoint (buildIndexDocumentResponse sampleBuiltins (some "Bearer token") []
    (some openVerifier) false)

/-- A query of the same user. -/
def sampleQuery : RetrievalProgram WireResponse :=
  buildRetrievalQueryResponse sampleBuiltins (some openVerifier) id (some "Bearer token") []

/-- The schedule: the query calls the store when the document has just been indexed. -/
def sampleMoves :
    List (Pool.Move (Services.sum RetrievalIndex) PyException WireResponse String) :=
  [.start sampleDocument, .start sampleQuery, .call 0 "", .call 0 "d1", .call 1 "",
    .call 0 "", .call 0 "c1", .call 0 "", .call 1 ""]

/-- The run. -/
def sample : List RetrievalTransition × RetrievalPool :=
  Pool.play
    (fun id => HostingWorld.respond Service.givenId
      (InMemoryRetrievalStore.serve sampleArithmetic) (sampleAnswer id))
    sampleMoves ⟨⟨.empty, []⟩, []⟩

theorem sample_run : RetrievalRun sampleBuiltins (some openVerifier) id sampleArithmetic
    sample.1 sample.2 := by
  apply Pool.play_execution
  · intro choice state request answer next responds
    exact HostingWorld.respond_sound responds
  · intro program started
    simp only [sampleMoves, List.mem_cons, Pool.Move.start.injEq, reduceCtorEq,
      List.not_mem_nil, or_false] at started
    rcases started with rfl | rfl
    · exact .document _ _ _
    · exact .query _ _

theorem sample_accepted : ∃ caller request,
    prepareSimilarity sampleBuiltins (some openVerifier) (some "Bearer token") [] =
      .ok (.ok (caller, request)) :=
  exists_accepted (by decide +kernel)

end RetrievalRun

/-- The query of the sample run shows the document indexed before. -/
theorem passages_shown_sample : ∃ caller request response,
    QueriesClosest id RetrievalRun.sampleArithmetic RetrievalRun.sample.1 1 caller request
        response ∧
      contentsUnder "results" response.2 = ["green tea"] := by
  have ended : RetrievalRun.sample.2.threads[1]?.any (Program.returns fun response =>
      response.1 == 200 && contentsUnder "results" response.2 == ["green tea"]) = true := by
    decide +kernel
  rcases Program.exists_of_returns ended with ⟨response, placed, answered⟩
  rw [Bool.and_eq_true, beq_iff_eq, beq_iff_eq] at answered
  rcases RetrievalRun.sample_accepted with ⟨caller, request, accepted⟩
  refine ⟨caller, request, response, (passages_shown RetrievalRun.sample_run).1 _ _ _ _ _ _
    accepted ⟨?_, placed⟩ answered.1, answered.2⟩
  rw [RetrievalRun.sample, Pool.origins_play]
  rfl

end PrivateAiWorkspace.ControlPlane
