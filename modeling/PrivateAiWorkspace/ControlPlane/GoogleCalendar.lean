import PrivateAiWorkspace.ControlPlane.IntegrationsGoogle
import PrivateAiWorkspace.Lists.Separated
import PrivateAiWorkspace.Python.Quote
import PrivateAiWorkspace.Python.UrlParts

/-!
# Calendar requests

`GoogleCalendarIntegration.build_request` of `integrations_google.py`: the ids of a
call are percent-encoded into the path of a request. Dots are written as they are, so
an id of one or two dots is a segment that says where it stands.
-/

namespace PrivateAiWorkspace.ControlPlane.GoogleCalendarIntegration

open Effects Python

/-- `_API_HOST`. -/
def apiHost : String := "www.googleapis.com"

/-- `_MAX_RESULTS_CAP`. -/
def maxResultsCap : Int := 250

/-- `_bearer`. -/
def bearer (creds : Option (Dict String String)) : String :=
  ((creds.getD Dict.empty).get? "ACCESS_TOKEN").getD ""

/-- `max_results`: what is no number is 10. -/
def maxResults (intOf : String → Option Int) (params : List (String × Json)) :
    Except PyException Int :=
  match intOfJson intOf (Json.getOr params "max_results" (.int 10)) with
  | .ok count => .ok (max 1 (min count maxResultsCap))
  | .error .typeError | .error .valueError => .ok (max 1 (min 10 maxResultsCap))
  | .error error => .error error

section Requests

variable (builtins : Builtins) (intOf : String → Option Int)

/-- `str(params.get("calendar_id", "primary"))`. -/
def calendarIdOf (params : List (String × Json)) : String :=
  builtins.str (Json.getOr params "calendar_id" (.str "primary"))

/-- The id of an event is a text that is not empty. -/
def eventIdOf (params : List (String × Json)) : Option String :=
  match Json.get params "event_id" with
  | .str eventId => if eventId = "" then none else some eventId
  | _ => none

/-- `build_request`. -/
def buildRequest (operation : String) (params : List (String × Json))
    (creds : Option (Dict String String)) : Except PyException OutboundRequest := do
  let headers :=
    [("Authorization", "Bearer " ++ bearer creds), ("Accept", "application/json")]
  if operation = "list_events" then
    let calendarId := calendarIdOf builtins params
    let maxResults ← maxResults intOf params
    let path := "/calendar/v3/calendars/" ++ Quote.quote [] calendarId ++ "/events"
    let query :=
      "maxResults=" ++ toString maxResults ++ "&singleEvents=true&orderBy=startTime"
    return ⟨"GET", "https://" ++ apiHost ++ path ++ "?" ++ query, headers, none, false⟩
  if operation = "get_event" then
    let calendarId := calendarIdOf builtins params
    match eventIdOf params with
    | none => throw .unknownOperation
    | some eventId =>
        let path := "/calendar/v3/calendars/" ++ Quote.quote [] calendarId ++
          "/events/" ++ Quote.quote [] eventId
        return ⟨"GET", "https://" ++ apiHost ++ path, headers, none, false⟩
  throw .unknownOperation

/-- The event that an operation is about. -/
def eventOf (operation : String) (params : List (String × Json)) : Option String :=
  if operation = "get_event" then eventIdOf params else none

/-- A URL of the events of a calendar, or of one of them: of the segments that the path
leads to, one stands for the id of the calendar and one for that of the event. -/
def Confined (url calendarId : String) (eventId : Option String) : Prop :=
  ∃ parts segment, Url.urlsplit builtins url = .ok parts ∧ parts.scheme = "https" ∧
    parts.netloc = apiHost ∧ Quote.unquote segment = .ok calendarId ∧
    match eventId with
    | none =>
        Url.resolve parts.path = some ["calendar", "v3", "calendars", segment, "events"]
    | some eventId =>
        ∃ event, Quote.unquote event = .ok eventId ∧ Url.resolve parts.path =
          some ["calendar", "v3", "calendars", segment, "events", event]

/-- An id that is a dot segment. -/
def IsDots (id : String) : Prop := id = "." ∨ id = ".."

instance (id : String) : Decidable (IsDots id) := inferInstanceAs (Decidable (_ ∨ _))

end Requests

/-! ## The path of a request -/

/-- A segment of unreserved characters and percent signs. -/
def Encoded (segment : String) : Prop :=
  ∀ c ∈ segment.toList, c ∈ Quote.alwaysSafe ∨ c = '%'

theorem encoded_quote (id : String) : Encoded (Quote.quote [] id) :=
  fun _ mem => Quote.mem_quote mem

theorem encoded_name {name : String}
    (known : name ∈ ["calendar", "v3", "calendars", "events"]) : Encoded name := by
  have letters : ∀ name ∈ ["calendar", "v3", "calendars", "events"],
      ∀ c ∈ name.toList, c ∈ Quote.alwaysSafe := by decide +kernel
  exact fun c mem => Or.inl (letters name known c mem)

/-- No delimiter of a URL and nothing that `urlsplit` removes is encoded. -/
theorem Encoded.clean {segment : String} (encoded : Encoded segment) :
    ∀ c ∈ segment.toList, c ≠ '/' ∧ c ≠ '?' ∧ c ≠ '#' ∧ Url.isUnsafe c = false := by
  have unreserved : ∀ c ∈ Quote.alwaysSafe,
      c ≠ '/' ∧ c ≠ '?' ∧ c ≠ '#' ∧ Url.isUnsafe c = false := by decide +kernel
  intro c mem
  rcases encoded c mem with isSafe | rfl
  · exact unreserved c isSafe
  · decide

theorem mem_join {segments : List String} {c : Char}
    (mem : c ∈ (Url.join segments).toList) :
    c = '/' ∨ ∃ segment ∈ segments, c ∈ segment.toList := by
  rw [Url.join, String.toList_ofList, List.mem_cons] at mem
  rcases mem with rfl | mem
  · exact Or.inl rfl
  · rcases Lists.mem_intercalate mem with rfl | ⟨part, among, inside⟩
    · exact Or.inl rfl
    · rcases List.mem_map.mp among with ⟨segment, found, rfl⟩
      exact Or.inr ⟨segment, found, inside⟩

section Addressed

variable {builtins : Builtins} {segments : List String}

/-- A URL of the API whose segments are encoded is taken apart into them. -/
theorem urlsplit_request (encoded : ∀ segment ∈ segments, Encoded segment)
    (query : Option (List Char)) :
    ∃ kept, Url.urlsplit builtins ("https://" ++ apiHost ++ Url.join segments ++
        String.ofList (Url.queryTail query)) =
      .ok ⟨"https", apiHost, Url.join segments, kept⟩ := by
  have clean : ∀ c ∈ (Url.join segments).toList,
      c ≠ '?' ∧ c ≠ '#' ∧ Url.isUnsafe c = false := by
    intro c mem
    rcases mem_join mem with rfl | ⟨segment, among, inside⟩
    · decide
    · exact ((encoded segment among).clean c inside).2
  have isPath : Url.IsPath (Url.join segments) :=
    ⟨fun c mem => bne_iff_ne.mpr (clean c mem).1,
      fun c mem => bne_iff_ne.mpr (clean c mem).2.1⟩
  have isNetloc : Url.IsNetloc builtins apiHost := ⟨by decide, by decide, rfl⟩
  have slash : ∀ c, (Url.join segments).toList.head? = some c → c = '/' := by
    intro c found
    rw [Url.join, String.toList_ofList] at found
    cases found
    rfl
  rcases Url.urlsplit_of_parts Url.isScheme_https isNetloc isPath slash (by decide)
    (fun c mem => (clean c mem).2.2) query with ⟨kept, split⟩
  refine ⟨kept, ?_⟩
  rw [← split]
  apply congrArg
  apply String.toList_inj.mp
  simp

/-- The ids of a URL are confined as its segments are. -/
theorem confined_iff {calendarId : String} {eventId : Option String} {url : String}
    {kept : String} (nonempty : segments ≠ [])
    (encoded : ∀ segment ∈ segments, Encoded segment)
    (split : Url.urlsplit builtins url =
      .ok ⟨"https", apiHost, Url.join segments, kept⟩) :
    Confined builtins url calendarId eventId ↔
      ∃ segment, Quote.unquote segment = .ok calendarId ∧
        match eventId with
        | none => Url.removeDots [] segments =
            ["calendar", "v3", "calendars", segment, "events"]
        | some eventId => ∃ event, Quote.unquote event = .ok eventId ∧
            Url.removeDots [] segments =
              ["calendar", "v3", "calendars", segment, "events", event] := by
  have resolved : Url.resolve (Url.join segments) = some (Url.removeDots [] segments) :=
    Url.resolve_join nonempty fun segment mem slash =>
      ((encoded segment mem).clean '/' slash).1 rfl
  constructor
  · intro confined
    rcases confined with ⟨parts, segment, parsed, -, -, decoded, leads⟩
    cases split.symm.trans parsed
    rw [resolved] at leads
    refine ⟨segment, decoded, ?_⟩
    cases eventId with
    | none => exact Option.some.inj leads
    | some eventId =>
        rcases leads with ⟨event, decodedEvent, leads⟩
        exact ⟨event, decodedEvent, Option.some.inj leads⟩
  · intro ⟨segment, decoded, leads⟩
    refine ⟨_, segment, split, rfl, rfl, decoded, ?_⟩
    rw [resolved]
    cases eventId with
    | none => exact congrArg some leads
    | some eventId =>
        rcases leads with ⟨event, decodedEvent, leads⟩
        exact ⟨event, decodedEvent, congrArg some leads⟩

/-- Dots are written as they are. -/
theorem quote_eq_dots_iff {id dots : String} (isDots : IsDots dots) :
    Quote.quote [] id = dots ↔ id = dots := by
  have written : Quote.quote [] dots = dots := by
    rcases isDots with rfl | rfl
    · decide +kernel
    · decide +kernel
  constructor
  · intro same
    exact Quote.quote_inj.mp (same.trans written.symm)
  · intro same
    rw [same, written]

/-- The segments of the events of a calendar. -/
def listSegments (calendarId : String) : List String :=
  ["calendar", "v3", "calendars", Quote.quote [] calendarId, "events"]

/-- The segments of an event. -/
def eventSegments (calendarId eventId : String) : List String :=
  listSegments calendarId ++ [Quote.quote [] eventId]

theorem encoded_listSegments (calendarId : String) :
    ∀ segment ∈ listSegments calendarId, Encoded segment := by
  intro segment mem
  simp only [listSegments, List.mem_cons, List.not_mem_nil, or_false] at mem
  rcases mem with rfl | rfl | rfl | rfl | rfl
  · exact encoded_name (by decide)
  · exact encoded_name (by decide)
  · exact encoded_name (by decide)
  · exact encoded_quote calendarId
  · exact encoded_name (by decide)

theorem encoded_eventSegments (calendarId eventId : String) :
    ∀ segment ∈ eventSegments calendarId eventId, Encoded segment := by
  intro segment mem
  rcases List.mem_append.mp mem with among | last
  · exact encoded_listSegments calendarId segment among
  · rw [List.mem_singleton.mp last]
    exact encoded_quote eventId

/-- A calendar is addressed by its id unless that is a dot segment. -/
theorem confined_list_iff {calendarId url kept : String}
    (split : Url.urlsplit builtins url =
      .ok ⟨"https", apiHost, Url.join (listSegments calendarId), kept⟩) :
    Confined builtins url calendarId none ↔ ¬ IsDots calendarId := by
  rw [confined_iff (by simp [listSegments]) (encoded_listSegments calendarId) split]
  simp only [listSegments, Url.removeDots, quote_eq_dots_iff (Or.inl rfl),
    quote_eq_dots_iff (Or.inr rfl)]
  constructor
  · intro confined isDots
    rcases confined with ⟨segment, -, leads⟩
    rcases isDots with rfl | rfl
    · simp at leads
    · simp at leads
  · intro other
    rw [IsDots, not_or] at other
    refine ⟨Quote.quote [] calendarId, Quote.unquote_quote calendarId, ?_⟩
    simp [other.1, other.2]

/-- An event is addressed by its id and that of its calendar unless one of them is a
dot segment. -/
theorem confined_event_iff {calendarId eventId url kept : String}
    (split : Url.urlsplit builtins url =
      .ok ⟨"https", apiHost, Url.join (eventSegments calendarId eventId), kept⟩) :
    Confined builtins url calendarId (some eventId) ↔
      ¬ IsDots calendarId ∧ ¬ IsDots eventId := by
  rw [confined_iff (by simp [eventSegments]) (encoded_eventSegments calendarId eventId)
    split]
  simp only [eventSegments, listSegments, List.cons_append, List.nil_append,
    Url.removeDots, quote_eq_dots_iff (Or.inl rfl), quote_eq_dots_iff (Or.inr rfl)]
  constructor
  · intro confined
    rcases confined with ⟨segment, decoded, event, decodedEvent, leads⟩
    have other : ¬ IsDots calendarId := by
      intro isDots
      rcases isDots with rfl | rfl
      all_goals
        -- Too few segments are left, whatever the event is.
        simp only [reduceIte, List.cons_ne_nil, String.reduceEq, List.nil_append,
          List.cons_append, List.dropLast] at leads
        repeat' split at leads
        all_goals simp at leads
    refine ⟨other, ?_⟩
    rw [IsDots, not_or] at other
    intro isDots
    rcases isDots with rfl | rfl
    · have last : event = "" := by
        simp [other.1, other.2] at leads
        exact leads.2
      rw [last, Quote.unquote, Utf8.decode_eq_ok_iff] at decodedEvent
      exact absurd decodedEvent (by decide +kernel)
    · simp [other.1, other.2] at leads
  · intro other
    rw [IsDots, IsDots, not_or, not_or] at other
    refine ⟨Quote.quote [] calendarId, Quote.unquote_quote calendarId,
      Quote.quote [] eventId, Quote.unquote_quote eventId, ?_⟩
    simp [other.1.1, other.1.2, other.2.1, other.2.2]

/-- The address of a list of events. -/
theorem join_listSegments (calendarId : String) :
    "/calendar/v3/calendars/" ++ Quote.quote [] calendarId ++ "/events" =
      Url.join (listSegments calendarId) := by
  apply String.toList_inj.mp
  simp [Url.join, listSegments]

theorem join_eventSegments (calendarId eventId : String) :
    "/calendar/v3/calendars/" ++ Quote.quote [] calendarId ++ "/events/" ++
        Quote.quote [] eventId =
      Url.join (eventSegments calendarId eventId) := by
  apply String.toList_inj.mp
  simp [Url.join, eventSegments, listSegments]

end Addressed

section Requests

variable {builtins : Builtins} {intOf : String → Option Int} {operation : String}
  {params : List (String × Json)} {creds : Option (Dict String String)}
  {request : OutboundRequest}

/-- What a request was built for. -/
theorem buildRequest_cases
    (built : buildRequest builtins intOf operation params creds = .ok request) :
    (eventOf operation params = none ∧ ∃ query : String, request.url =
        "https://" ++ apiHost ++ Url.join (listSegments (calendarIdOf builtins params)) ++
          String.ofList (Url.queryTail (some query.toList))) ∨
      ∃ eventId, eventOf operation params = some eventId ∧ request.url =
        "https://" ++ apiHost ++
          Url.join (eventSegments (calendarIdOf builtins params) eventId) ++
          String.ofList (Url.queryTail none) := by
  rw [buildRequest] at built
  split at built
  next lists =>
    rcases value_of_bind built with ⟨count, -, returned⟩
    cases returned
    left
    refine ⟨?_, "maxResults=" ++ toString count ++ "&singleEvents=true&orderBy=startTime",
      ?_⟩
    · rw [eventOf, lists]
      rfl
    · rw [← join_listSegments]
      apply String.toList_inj.mp
      simp [Url.queryTail]
  next =>
    split at built
    next gets =>
      have about : eventOf operation params = eventIdOf params := by
        rw [eventOf, if_pos gets]
      cases found : eventIdOf params with
      | none =>
          rw [found] at built
          cases built
      | some eventId =>
          rw [found] at built
          cases built
          refine Or.inr ⟨eventId, about.trans found, ?_⟩
          rw [join_eventSegments]
          apply String.toList_inj.mp
          simp [Url.queryTail]
    next => cases built

/-- A request stays at the events of the calendar it was asked for exactly if neither
id is a dot segment. -/
theorem confined_iff_of_buildRequest
    (built : buildRequest builtins intOf operation params creds = .ok request) :
    Confined builtins request.url (calendarIdOf builtins params)
        (eventOf operation params) ↔
      ¬ IsDots (calendarIdOf builtins params) ∧
        ∀ eventId, eventOf operation params = some eventId → ¬ IsDots eventId := by
  rcases buildRequest_cases built with ⟨about, query, address⟩ |
    ⟨eventId, about, address⟩
  · rcases @urlsplit_request builtins _ (encoded_listSegments _) (some query.toList) with
      ⟨kept, split⟩
    rw [← address] at split
    rw [about, confined_list_iff split]
    exact (and_iff_left (fun eventId none => nomatch none)).symm
  · rcases @urlsplit_request builtins _ (encoded_eventSegments _ eventId) none with
      ⟨kept, split⟩
    rw [← address] at split
    rw [about, confined_event_iff split]
    apply and_congr_right
    intro _
    constructor
    · intro plain other same
      cases same
      exact plain
    · exact fun plain => plain eventId rfl

/-- Slashes, at signs and percent signs in the ids stay in their segments. -/
theorem confined_iff_of_buildRequest_reserved :
    Confined (Builtins.sample [])
      ("https://www.googleapis.com/calendar/v3/calendars/team%40example.com/events/" ++
        "..%2F%252e") "team@example.com" (some "../%2e") := by
  have built : buildRequest (Builtins.sample []) (fun _ => none) "get_event"
      [("calendar_id", .str "team@example.com"), ("event_id", .str "../%2e")] none =
      .ok ⟨"GET",
        "https://www.googleapis.com/calendar/v3/calendars/team%40example.com/events/" ++
          "..%2F%252e",
        [("Authorization", "Bearer "), ("Accept", "application/json")], none, false⟩ := by
    rfl
  refine (confined_iff_of_buildRequest built).mpr ⟨by decide +kernel, ?_⟩
  intro eventId same
  cases same
  decide +kernel

/-- The event `..` of a calendar is the calendar itself. -/
theorem parent_event_not_confined :
    ∃ request, buildRequest (Builtins.sample []) (fun _ => none) "get_event"
        [("event_id", .str "..")] none = .ok request ∧
      ¬ Confined (Builtins.sample []) request.url "primary" (some "..") ∧
      ∃ parts, Url.urlsplit (Builtins.sample []) request.url = .ok parts ∧
        Url.resolve parts.path =
          some ["calendar", "v3", "calendars", "primary", ""] := by
  have split : Url.urlsplit (Builtins.sample [])
      "https://www.googleapis.com/calendar/v3/calendars/primary/events/.." =
      .ok ⟨"https", apiHost, Url.join (eventSegments "primary" ".."), ""⟩ := by
    decide +kernel
  refine ⟨_, rfl, ?_, _, split, by decide +kernel⟩
  exact fun confined => ((confined_event_iff split).mp confined).2 (Or.inr rfl)

end Requests

end PrivateAiWorkspace.ControlPlane.GoogleCalendarIntegration
