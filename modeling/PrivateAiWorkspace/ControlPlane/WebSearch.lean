import PrivateAiWorkspace.ControlPlane.Integrations
import PrivateAiWorkspace.ControlPlane.Outbound
import PrivateAiWorkspace.Python.Quote

/-!
# Web search

`web_search.py`: one guarded request to a search endpoint, and the results that its
JSON holds in one of the common shapes. The client promises that it never raises;
`search_keeps_promise_iff` says for which queries and answers it does not.
-/

namespace PrivateAiWorkspace.ControlPlane

open Effects PrivateAiWorkspace.Lists Python

/-- `WebSearchConfig`, as it is parsed: some results may be returned. -/
structure WebSearchConfig where
  provider : String
  url : String
  host : String
  apiKey : String
  apiKeyHeader : String
  topK : Int
  topK_pos : 0 < topK

/-- `_DEFAULT_TOP_K`. -/
def defaultTopK : Int := 5

/-- `_MAX_SNIPPET`. -/
def maxSnippet : Nat := 500

/-- `_MAX_TITLE`. -/
def maxTitle : Nat := 200

/-- `top_k`: a positive `int`, or else the default. -/
def readTopK : Json → Int
  | .int value => if 0 < value then value else defaultTopK
  | .bool true => 1
  | _ => defaultTopK

theorem readTopK_pos (value : Json) : 0 < readTopK value := by
  rw [readTopK.eq_def]
  split
  · split
    next positive => exact positive
    · decide
  · decide
  · decide

/-- `parse_web_search_config`. An exception of `json.loads` other than `ValueError`
goes on. -/
def parseWebSearchConfig (builtins : Builtins) (raw : Option String) :
    Except PyException (Option WebSearchConfig) :=
  match raw with
  | none | some "" => .ok none
  | some raw =>
      match builtins.loads raw with
      | .error .valueError => .ok none
      | .error error => .error error
      | .ok (.obj data) =>
          match Json.get data "url", Json.get data "host" with
          | .str url, .str host =>
              if url = "" || host = "" then .ok none
              else
                .ok (some {
                  provider := builtins.str (Json.getOr data "provider" (.str "web"))
                  url, host
                  apiKey := builtins.str (Json.getOr data "api_key" (.str ""))
                  apiKeyHeader :=
                    builtins.str (Json.getOr data "api_key_header" (.str "Authorization"))
                  topK := readTopK (Json.getOr data "top_k" (.int defaultTopK))
                  topK_pos := readTopK_pos _ })
          | _, _ => .ok none
      | .ok _ => .ok none

namespace WebSearchClient

variable (builtins : Builtins) (config : WebSearchConfig)

/-- `_guarded`. -/
def guarded (url : String) (headers : List (String × String)) :
    Service OutboundResponse := do
  let target ← validateOutboundUrl builtins url [config.host] false []
  .call (ServiceCall.guardedOpen target "GET" headers none) Program.ofExcept

/-- The first list under one of the keys. -/
def firstList (data : List (String × Json)) : List String → Option (List Json)
  | [] => none
  | key :: keys =>
      match Json.get data key with
      | .arr items => some items
      | _ => firstList data keys

/-- `_extract_items`. -/
def extractItems : Json → Option (List Json)
  | .arr items => some items
  | .obj data =>
      match firstList data ["results", "organic", "items", "data"] with
      | some items => some items
      | none =>
          match Json.get data "webPages" with
          | .obj pages =>
              match Json.get pages "value" with
              | .arr items => some items
              | _ => none
          | _ => none
  | _ => none

/-- The first of some values under keys that is truthy, or else a default. -/
def firstTruthy (fields : List (String × Json)) (keys : List String)
    (default : Json) : Json :=
  keys.foldr (fun key rest => Json.orElse (Json.get fields key) rest) default

/-- One result, unless the item has no address. -/
def readResult : Json → Option WebResult
  | .obj fields =>
      match firstTruthy fields ["url", "link", "href"] (.str "") with
      | .str url =>
          if url = "" then none
          else
            let title := firstTruthy fields ["title", "name"] (.str url)
            let snippet := firstTruthy fields
              ["snippet", "content", "description", "text"] (.str "")
            some { title := Str.take (builtins.str title) maxTitle, url
                   snippet := Str.take (builtins.str snippet) maxSnippet }
      | _ => none
  | _ => none

/-- `_parse`. -/
def parse (body : Bytes) : Except PyException (List WebResult) :=
  match builtins.loadsBytes body with
  | .error .valueError => .ok []
  | .error error => .error error
  | .ok data =>
      match extractItems data with
      | none => .ok []
      | some items => .ok ((takeSlice items config.topK).filterMap (readResult builtins))

/-- The address of a query. -/
def searchUrl (quoted : String) : String :=
  let separated := ["=", "?", "&", "/"].any (Str.endsWith config.url)
  config.url ++ (if separated then "" else "&q=") ++ quoted

/-- The headers of a query. -/
def searchHeaders : List (String × String) :=
  let headers := [("Accept", "application/json")]
  if config.apiKey = "" then headers
  else assign config.apiKeyHeader config.apiKey headers

/-- The exceptions `search` catches. -/
def caught : PyException → Bool
  | .outboundReject _ => true
  | error => isOsError error

/-- What `search` makes of what the guarded request came to. -/
def settle : Except PyException OutboundResponse → Except PyException (List WebResult)
  | .error error => if caught error then .ok [] else .error error
  | .ok response =>
      if response.status / 100 ≠ 2 then .ok [] else parse builtins config response.body

/-- `search`. -/
def search (query : CodePoints) : Service (List WebResult) := do
  let quoted ← Program.ofExcept (Quote.quotePoints query)
  let opened ← (guarded builtins config (searchUrl config quoted)
    (searchHeaders config)).attempt
  Program.ofExcept (settle builtins config opened)

/-! ## The promise -/

/-- Results as they are promised. -/
structure Bounded (results : List WebResult) : Prop where
  length : (results.length : Int) ≤ config.topK
  each : ∀ result ∈ results, result.url ≠ "" ∧ result.title.length ≤ 200 ∧
    result.snippet.length ≤ 500

/-- The promise of a search: it returns results within their bounds. -/
def KeepsPromise (result : Except PyException (List WebResult)) : Prop :=
  ∃ results, result = .ok results ∧ Bounded config results

/-- What a guarded request may come to without making the search raise. -/
def Harmless : Except PyException OutboundResponse → Prop
  | .error error => caught error = true
  | .ok response => response.status / 100 = 2 →
      ∀ error, builtins.loadsBytes response.body = .error error → error = .valueError

section Promise

variable {builtins : Builtins} {config : WebSearchConfig}

theorem length_take_le (text : String) (count : Nat) :
    (Str.take text count).length ≤ count := by
  rw [Str.take, String.length_ofList]
  exact List.length_take_le count _

theorem bounds_of_readResult {item : Json} {result : WebResult}
    (read : readResult builtins item = some result) :
    result.url ≠ "" ∧ result.title.length ≤ 200 ∧ result.snippet.length ≤ 500 := by
  rw [readResult.eq_def] at read
  split at read
  · split at read
    · split at read
      · cases read
      next nonempty =>
        cases read
        exact ⟨nonempty, length_take_le _ _, length_take_le _ _⟩
    · cases read
  · cases read

theorem length_takeSlice_le {α : Type} (items : List α) {count : Int}
    (positive : 0 < count) : ((takeSlice items count).length : Int) ≤ count := by
  rw [takeSlice, if_pos (Int.le_of_lt positive)]
  have short := List.length_take_le count.toNat items
  omega

theorem bounded_nil : Bounded config [] :=
  ⟨Int.le_of_lt config.topK_pos, fun _ none => nomatch none⟩

/-- What is parsed keeps to the bounds; parsing raises what `json.loads` raises, other
than `ValueError`. -/
theorem parse_cases (body : Bytes) :
    (∃ results, parse builtins config body = .ok results ∧ Bounded config results) ∧
        (∀ error, builtins.loadsBytes body = .error error → error = .valueError) ∨
      ∃ error, parse builtins config body = .error error ∧
        builtins.loadsBytes body = .error error ∧ error ≠ .valueError := by
  rw [parse]
  split
  next loaded =>
    refine Or.inl ⟨⟨[], rfl, bounded_nil⟩, fun error same => ?_⟩
    rw [loaded] at same
    exact (Except.error.inj same).symm
  next error other loaded =>
    exact Or.inr ⟨error, rfl, loaded, other⟩
  next data loaded =>
    have plain : ∀ error, builtins.loadsBytes body = .error error →
        error = .valueError := by
      intro error same
      rw [loaded] at same
      cases same
    refine Or.inl ⟨?_, plain⟩
    split
    · exact ⟨[], rfl, bounded_nil⟩
    next items _ =>
      refine ⟨_, rfl, ?_, ?_⟩
      · have kept := List.length_filterMap_le (readResult builtins)
          (takeSlice items config.topK)
        have short := length_takeSlice_le items config.topK_pos
        omega
      · intro result mem
        rcases List.mem_filterMap.mp mem with ⟨item, -, read⟩
        exact bounds_of_readResult read

theorem settle_iff (opened : Except PyException OutboundResponse) :
    KeepsPromise config (settle builtins config opened) ↔ Harmless builtins opened := by
  cases opened with
  | error error =>
      rw [settle, Harmless]
      cases known : caught error with
      | true => exact ⟨fun _ => rfl, fun _ => ⟨[], rfl, bounded_nil⟩⟩
      | false =>
          refine ⟨fun ⟨results, same, _⟩ => ?_, (fun same => nomatch same)⟩
          cases same
  | ok response =>
      rw [settle, Harmless]
      by_cases success : response.status / 100 = 2
      · rw [if_neg (not_not_intro success)]
        rcases parse_cases response.body with ⟨promised, plain⟩ |
          ⟨error, raised, loaded, other⟩
        · exact ⟨fun _ _ => plain, fun _ => promised⟩
        · constructor
          · intro ⟨results, same, _⟩
            rw [raised] at same
            cases same
          · exact fun plain => absurd (plain success error loaded) other
      · rw [if_pos success]
        exact ⟨fun _ good => absurd good success, fun _ => ⟨[], rfl, bounded_nil⟩⟩

end Promise

/-- A search keeps its promise exactly when its query has no surrogate and the guarded
request comes to a caught exception or to a response that `json.loads` reads or
refuses by a `ValueError`. -/
theorem search_keeps_promise_iff (builtins : Builtins) (config : WebSearchConfig)
    (query : CodePoints) {events : List ServiceEvent}
    {result : Except PyException (List WebResult)}
    (run : Program.Run (search builtins config query) events result) :
    KeepsPromise config result ↔
      (∀ point ∈ query, ¬ IsSurrogate point) ∧
        ∃ quoted opened, Quote.quotePoints query = .ok quoted ∧
          Program.Run (guarded builtins config (searchUrl config quoted)
            (searchHeaders config)) events opened ∧
          Harmless builtins opened := by
  rw [search] at run
  cases encoded : Quote.quotePoints query with
  | error error =>
      rw [encoded] at run
      rcases Program.run_raise_iff.mp run with ⟨-, rfl⟩
      constructor
      · intro ⟨results, same, _⟩
        cases same
      · intro ⟨_, quoted, opened, same, _⟩
        cases same
  | ok quoted =>
      rw [encoded, Program.ofExcept_ok, Program.bind_eq, Program.ret_bind,
        Program.bind_eq] at run
      have plain := Quote.exists_quotePoints_iff.mp ⟨quoted, encoded⟩
      rcases Program.run_bind_iff.mp run with ⟨error, caught, -⟩ |
        ⟨outcome, before, after, split, attempted, ended⟩
      · rcases Program.run_attempt_iff.mp caught with ⟨opened, same, -⟩
        cases same
      · rcases Program.run_ofExcept_iff.mp ended with ⟨rfl, rfl⟩
        rcases Program.run_attempt_iff.mp attempted with ⟨opened, same, ran⟩
        cases same
        rw [split, List.append_nil, settle_iff]
        constructor
        · exact fun harmless => ⟨plain, quoted, outcome, rfl, ran, harmless⟩
        · intro ⟨_, other, opened, same, also, harmless⟩
          cases same
          rw [ran.result_unique also]
          exact harmless

/-! ### Three searches -/

/-- A search endpoint. -/
def searchApi : WebSearchConfig where
  provider := "web"
  url := "https://api.example.com/search?q="
  host := "api.example.com"
  apiKey := ""
  apiKeyHeader := "Authorization"
  topK := 5
  topK_pos := by decide

/-- Where a query of two letters is sent. -/
def searchTarget : ValidatedTarget :=
  ⟨"https", "api.example.com", "93.184.215.14", 443, "/search?q=hi"⟩

/-- A query of two letters that is answered somehow. -/
def searchEvents (answer : Except PyException OutboundResponse) : List ServiceEvent :=
  [⟨ServiceCall.getaddrinfo "api.example.com" 443,
      .ok (["93.184.215.14"] : List String)⟩,
    ⟨ServiceCall.guardedOpen searchTarget "GET" [("Accept", "application/json")] none,
      answer⟩]

/-- The body of an answer with three results. -/
def searchBody : Bytes :=
  Utf8.encode <|
    "[\x7b\"title\":\"Hi\",\"link\":\"https://a.org/\",\"content\":\"A word\"\x7d," ++
    "\x7b\"title\":\"Nowhere\"\x7d,\x7b\"url\":\"https://b.org/\"\x7d]"

/-- What it holds. -/
def searchItems : List Json :=
  [.obj [("title", .str "Hi"), ("link", .str "https://a.org/"),
      ("content", .str "A word")],
    .obj [("title", .str "Nowhere")],
    .obj [("url", .str "https://b.org/")]]

/-- Built-in functions that read it. -/
def searchBuiltins : Builtins :=
  { Builtins.sample [] with
    loadsBytes := fun body =>
      if body = searchBody then .ok (.arr searchItems) else .error .valueError }

theorem quotePoints_hi : Quote.quotePoints [0x68, 0x69] = .ok "hi" := by
  decide +kernel

/-- The guarded request of the query comes to its answer. -/
theorem run_guarded (answer : Except PyException OutboundResponse) :
    Program.Run (guarded searchBuiltins searchApi (searchUrl searchApi "hi")
      (searchHeaders searchApi)) (searchEvents answer) answer := by
  have looked : validateOutboundUrl searchBuiltins
        "https://api.example.com/search?q=hi" ["api.example.com"] false [] =
      resolveAndPin false "https" "api.example.com" 443
        ⟨"https", "api.example.com", "/search", "q=hi"⟩ := rfl
  have address : searchUrl searchApi "hi" = "https://api.example.com/search?q=hi" := by
    decide +kernel
  rw [guarded, address]
  change Program.Run ((validateOutboundUrl searchBuiltins
    "https://api.example.com/search?q=hi" ["api.example.com"] false []).bind _) _ _
  rw [looked]
  apply Program.Run.call
  apply Program.Run.call
  exact Program.run_ofExcept_iff.mpr ⟨rfl, rfl⟩

theorem run_search (answer : Except PyException OutboundResponse) :
    Program.Run (search searchBuiltins searchApi [0x68, 0x69]) (searchEvents answer)
      (settle searchBuiltins searchApi answer) := by
  rw [search, quotePoints_hi, Program.ofExcept_ok, Program.bind_eq, Program.ret_bind,
    Program.bind_eq]
  refine Program.run_bind_iff.mpr
    (.inr ⟨answer, _, [], (List.append_nil _).symm, ?_, ?_⟩)
  · exact Program.run_attempt_iff.mpr ⟨answer, rfl, run_guarded answer⟩
  · exact Program.run_ofExcept_iff.mpr ⟨rfl, rfl⟩

/-- The promise at an endpoint that answers with three results, of which one has no
address and one no title. -/
theorem search_keeps_promise_greeting :
    settle searchBuiltins searchApi (.ok ⟨200, [], searchBody⟩) =
        .ok [⟨"Hi", "https://a.org/", "A word"⟩,
          ⟨"https://b.org/", "https://b.org/", ""⟩] ∧
      KeepsPromise searchApi
        (settle searchBuiltins searchApi (.ok ⟨200, [], searchBody⟩)) := by
  have loaded : searchBuiltins.loadsBytes searchBody = .ok (.arr searchItems) := by
    simp [searchBuiltins]
  refine ⟨?_, (search_keeps_promise_iff _ _ _ (run_search _)).mpr
    ⟨by decide, _, _, quotePoints_hi, run_guarded _, fun _ error raised => ?_⟩⟩
  · rw [settle, if_neg (by decide), parse, loaded]
    rfl
  · rw [loaded] at raised
    cases raised

/-- A query that is a lone surrogate raises before anything is sent, and a status line
that cannot be read raises what the transport raises. -/
theorem search_raises :
    Program.Run (search searchBuiltins searchApi [0xd800]) [] (.error .valueError) ∧
      Program.Run (search searchBuiltins searchApi [0x68, 0x69])
        (searchEvents (.error (.other "BadStatusLine")))
        (.error (.other "BadStatusLine")) := by
  constructor
  · have unquoted : Quote.quotePoints [0xd800] = .error .valueError := by decide +kernel
    rw [search, unquoted]
    exact .raise _
  · exact run_search (.error (.other "BadStatusLine"))

end WebSearchClient

end PrivateAiWorkspace.ControlPlane
