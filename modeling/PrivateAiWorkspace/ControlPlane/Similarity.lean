import PrivateAiWorkspace.ControlPlane.DocumentIndexing

/-!
# Search by similarity

What the endpoints that search by similarity share: the request, the embedding of a
text and the payload of a list of results.
-/

namespace PrivateAiWorkspace.ControlPlane

open Effects Python

/-- What an endpoint answers, with the status as it is sent. -/
abbrev WireResponse := Nat × Json

/-- A response of the handlers, as it is sent. -/
def JsonResponse.wire (response : JsonResponse) : WireResponse :=
  (response.1.code, response.2)

/-- `EMBEDDING_DIM`. -/
def embeddingDim : Nat := 384

/-- The response to an embedding of another dimension. -/
def dimensionMismatch : WireResponse :=
  (500, errorPayload "internal_error" "embedding dimension mismatch.")

/-- `embed_measured(embedding_client, [text])[0]`, with `EmbeddingError` caught. -/
def embedFirst (Store : Interface) (text : String) :
    Program (Services.sum Store) PyException (Except WireResponse (List PyFloat)) := do
  let embedded ← ((embedTexts [text]).embed (Embedding.inl Services Store)).attempt
  match embedded with
  | .ok (vector :: _) => return .ok vector
  | .ok [] => .raise .indexError
  | .error error =>
      if error = embeddingError then return .error embeddingUnavailable.wire
      else .raise error

/-- A list of items under a name and how many they are. -/
def countedPayload (name : String) (items : List Json) : Json :=
  .obj [(name, .arr items), ("count", .int items.length)]

/-- The content of an item of such a list. -/
def itemContent : Json → Option String
  | .obj item =>
      match Json.get item "content" with
      | .str content => some content
      | _ => none
  | _ => none

/-- What such a list shows, under its name. -/
def contentsUnder (name : String) : Json → List String
  | .obj payload =>
      match Json.get payload name with
      | .arr items => items.filterMap itemContent
      | _ => []
  | _ => []

/-- What `json.loads` and the check for an object make of a body. -/
def loadRequestBody (builtins : Builtins) (body : Bytes) :
    Except PyException (Except JsonResponse (List (String × Json))) :=
  loadObject (badRequest "Body is not valid JSON.")
    (badRequest "Body must be a JSON object.") (builtins.loadsBytes body)

/-- The id a service gives out. -/
def Service.givenId : ServiceEvent → Option String
  | ⟨.uuid4, .ok id⟩ => some id
  | _ => none

/-! ## The request -/

/-- `_MAX_QUERY_CHARS`. -/
def maxQueryChars : Nat := 2000

/-- `_DEFAULT_TOP_K`. -/
def Similarity.defaultTopK : Int := 5

/-- `_MAX_TOP_K`. -/
def Similarity.maxTopK : Int := 20

theorem clamp_bounds (value : Int) {most : Int} (some : 1 ≤ most) :
    1 ≤ min (max 1 value) most ∧ min (max 1 value) most ≤ most := by
  omega

theorem Similarity.one_le_maxTopK : 1 ≤ Similarity.maxTopK := by decide

/-- What to look for, and how many results to return. -/
structure SimilarityRequest where
  query : String
  topK : Int
  filled : Str.strip query ≠ ""
  short : query.length ≤ maxQueryChars
  positive : 1 ≤ topK
  bounded : topK ≤ Similarity.maxTopK

/-- The checks of the fields of a search by similarity. -/
def readSimilarity (data : List (String × Json)) :
    Except JsonResponse SimilarityRequest :=
  match Json.getOr data "query" (.str "") with
  | .str query =>
      if filled : Str.strip query = "" then
        .error (badRequest "'query' is required and must be a non-empty string.")
      else if long : maxQueryChars < query.length then
        .error (badRequest "'query' must not exceed 2000 characters.")
      else
        match Json.getOr data "top_k" (.int Similarity.defaultTopK) with
        | .int topK =>
            .ok { query, topK := min (max 1 topK) Similarity.maxTopK, filled
                  short := Nat.le_of_not_lt long
                  positive := (clamp_bounds topK Similarity.one_le_maxTopK).1
                  bounded := (clamp_bounds topK Similarity.one_le_maxTopK).2 }
        | _ => .error (badRequest "'top_k' must be an integer.")
  | _ => .error (badRequest "'query' is required and must be a non-empty string.")

/-- The checks of a search. -/
def prepareSimilarity (builtins : Builtins) (tokenVerifier : Option TokenVerifier)
    (authorization : Option String) (body : Bytes) :
    Except PyException (Except JsonResponse (Caller × SimilarityRequest)) :=
  readRequest (gate builtins authorization tokenVerifier (.ok ()))
    (loadRequestBody builtins body) readSimilarity

/-- A search that is neither refused nor raises is accepted. -/
theorem exists_accepted
    {outcome : Except PyException (Except JsonResponse (Caller × SimilarityRequest))}
    (some : outcome.toOption.any (fun read => read.toOption.isSome) = true) :
    ∃ caller request, outcome = .ok (.ok (caller, request)) := by
  cases outcome with
  | error error => cases some
  | ok read =>
      cases read with
      | error response => cases some
      | ok accepted => exact ⟨accepted.1, accepted.2, rfl⟩

/-! ## The embedding -/

section Embedding

variable {Store : Interface} {events : List (Event (Services.sum Store) PyException)}

theorem run_embedFirst {text : String} {outcome : Except WireResponse (List PyFloat)}
    (run : Program.Run (embedFirst Store text) events (.ok outcome)) :
    ∃ answer : Except PyException (List (List PyFloat)),
      events = [⟨Sum.inl (ServiceCall.embed [text]), answer⟩] ∧
      (∀ vector, outcome = .ok vector → ∃ others, answer = .ok (vector :: others)) ∧
      ∀ response, outcome = .error response → response = embeddingUnavailable.wire := by
  rcases Program.run_call_iff.mp run with ⟨answer, more, rfl, later⟩
  cases answer with
  | ok vectors =>
      cases vectors with
      | nil => cases (Program.run_raise_iff.mp later).2
      | cons vector others =>
          rcases Program.run_ret_iff.mp later with ⟨rfl, returned⟩
          cases returned
          refine ⟨_, rfl, ?_, ?_⟩
          · intro vector same
            cases same
            exact ⟨others, rfl⟩
          · intro response same
            cases same
  | error error =>
      change Program.Run (if error = embeddingError then _ else _) more _ at later
      split at later
      · rcases Program.run_ret_iff.mp later with ⟨rfl, returned⟩
        cases returned
        refine ⟨_, rfl, ?_, ?_⟩
        · intro vector same
          cases same
        · intro response same
          cases same
          rfl
      · cases (Program.run_raise_iff.mp later).2

theorem guarded_embedFirst
    {allowed : List (Event (Services.sum Store) PyException) →
      (Services.sum Store).Call → Prop} {text : String}
    (permitted : allowed events (Sum.inl (ServiceCall.embed [text]))) :
    Program.Guarded allowed events (embedFirst Store text) := by
  constructor
  · exact permitted
  · intro answer
    cases answer with
    | ok vectors => cases vectors <;> trivial
    | error error =>
        change Program.Guarded _ _ (if error = embeddingError then _ else _)
        split <;> trivial

end Embedding

end PrivateAiWorkspace.ControlPlane
