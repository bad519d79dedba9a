import PrivateAiWorkspace.ControlPlane.NotificationStream
import PrivateAiWorkspace.Lists.Framing

/-!
# The client of the stream of notifications

`streamNotificationsOnce` and `mergeNotification` of `app.js`: the bytes of a
connection come in chunks, are decoded, cut into frames at blank lines, and the
data lines of each frame are parsed and merged. Whatever the chunks, what is
merged are the events that were framed.
-/

namespace PrivateAiWorkspace.Ui

open PrivateAiWorkspace.Lists Python ControlPlane

/-! ## Values of the browser -/

/-- White space and line terminators, which `trim` removes. -/
def isJsSpace (c : Char) : Bool :=
  let code := c.toNat
  (0x9 ≤ code && code ≤ 0xd) || code == 0x20 || code == 0xa0 ||
    code == 0x1680 || (0x2000 ≤ code && code ≤ 0x200a) || code == 0x2028 ||
    code == 0x2029 || code == 0x202f || code == 0x205f || code == 0x3000 ||
    code == 0xfeff

/-- `text.trim()`. -/
def trim (text : List Char) : List Char :=
  ((text.dropWhile isJsSpace).reverse.dropWhile isJsSpace).reverse

/-- A value is true as a condition. -/
def truthy : Json → Bool
  | .null => false
  | .bool value => value
  | .int value => value != 0
  | .float (.finite value) => value != 0
  | .float .nan => false
  | .float (.infinity _) => true
  | .str value => value != ""
  | .arr _ | .obj _ => true

/-- `left === right` of two values of which no one is a part of the other: arrays
and objects are the same only as objects in memory. -/
def strictEq : Json → Json → Bool
  | .null, .null => true
  | .bool left, .bool right => left == right
  | .int left, .int right => left == right
  | .float (.finite left), .float (.finite right) => left == right
  | .float (.finite left), .int right => left == right
  | .int left, .float (.finite right) => left == right
  | .float (.infinity left), .float (.infinity right) => left == right
  | .str left, .str right => left == right
  | _, _ => false

/-- `value.id` of something that is not `null`; `none` is `undefined`. -/
def idOf : Json → Option Json
  | .obj fields => Json.lookup "id" fields
  | _ => none

/-- `mergeNotification`: what becomes of the notifications shown. `null` among
them makes the update throw before it takes effect. -/
def mergeNotification (notifications : List Json) (ev : Json) : List Json :=
  match idOf ev with
  | none => notifications
  | some id =>
      let same := fun shown => ((idOf shown).map (strictEq · id)).getD false
      if !truthy id ||
          notifications.any (fun | .null => true | _ => false) then notifications
      else if notifications.any same then
        notifications.map fun shown => if same shown then ev else shown
      else ev :: notifications

/-! ## The loop -/

/-- The text without a byte order mark at its start. -/
def dropMark : List Char → List Char
  | [] => []
  | first :: rest => if first.toNat == 0xfeff then rest else first :: rest

/-- The state of the loop: the decoder, which drops a byte order mark at the
start, the text that is kept, and the values that have been merged. -/
structure ClientState where
  pending : Option Utf8.Pending
  started : Bool
  buf : List Char
  merged : List Json

namespace ClientState

/-- Before the first chunk. -/
def initial : ClientState := ⟨none, false, [], []⟩

/-- `decoder.decode(chunk, {stream: true})`. -/
def decode (state : ClientState) (chunk : Bytes) : List Char × ClientState :=
  let fed := Utf8.feed state.pending chunk
  (if state.started then fed.1 else dropMark fed.1,
    { state with
      pending := fed.2, started := state.started || !fed.1.isEmpty })

section Loop

variable (parse : String → Option Json)

/-- A line of a frame: what is parsed from a data line. An exception of the parser
is caught. -/
def parseLine (line : List Char) : Option Json :=
  if "data:".toList.isPrefixOf line then
    parse (String.ofList (trim (line.drop 5)))
  else none

/-- The values of a frame. -/
def parseFrame (frame : List Char) : List Json :=
  (frame.splitOn '\n').filterMap (parseLine parse)

/-- One round of the loop. -/
def round (state : ClientState) (chunk : Bytes) : ClientState :=
  let decoded := state.decode chunk
  let parts := splitFrames '\n' (state.buf ++ decoded.1)
  { decoded.2 with
    buf := parts.2
    merged := state.merged ++ parts.1.flatMap (parseFrame parse) }

/-- `streamNotificationsOnce`, over the chunks of a response. -/
def streamNotificationsOnce (chunks : List Bytes) : ClientState :=
  chunks.foldl (round parse) initial

/-- `state.notifications` after the loop. -/
def notifications (shown : List Json) (chunks : List Bytes) : List Json :=
  (streamNotificationsOnce parse chunks).merged.foldl mergeNotification shown

end Loop

end ClientState

/-! ## Chunks -/

section Chunks

variable (parse : String → Option Json)

/-- The state of the loop after all bytes of a stream. -/
def stateOf (bytes : Bytes) : ClientState :=
  let fed := Utf8.feed none bytes
  let parts := splitFrames '\n' (dropMark fed.1)
  { pending := fed.2
    started := !fed.1.isEmpty
    buf := parts.2
    merged := parts.1.flatMap (ClientState.parseFrame parse) }

theorem dropMark_append {past : List Char} (some : past ≠ [])
    (new : List Char) : dropMark (past ++ new) = dropMark past ++ new := by
  cases past with
  | nil => exact absurd rfl some
  | cons first past =>
      rw [List.cons_append, dropMark, dropMark]
      split <;> rfl

/-- A chunk is decoded as if it had come with what came before. -/
theorem decode_stateOf (past chunk : Bytes) :
    dropMark (Utf8.feed none (past ++ chunk)).1 =
      dropMark (Utf8.feed none past).1 ++
        ((stateOf parse past).decode chunk).1 := by
  rw [Utf8.feed_append]
  by_cases empty : (Utf8.feed none past).1 = []
  · have unstarted : (stateOf parse past).started = false := by
      simp [stateOf, empty]
    rw [ClientState.decode, unstarted, empty]
    rfl
  · have started : (stateOf parse past).started = true := by
      simp [stateOf, empty]
    rw [ClientState.decode, started, dropMark_append empty]
    rfl

/-- A round goes on as if the chunk had come with what came before. -/
theorem round_stateOf (past chunk : Bytes) :
    (stateOf parse past).round parse chunk = stateOf parse (past ++ chunk) := by
  have text := decode_stateOf parse past chunk
  have split := @splitFrames_append _ _ '\n' (dropMark (Utf8.feed none past).1)
    ((stateOf parse past).decode chunk).1
  rw [← text] at split
  rw [ClientState.round, stateOf, stateOf, split, ClientState.mk.injEq,
    Utf8.feed_append]
  refine ⟨rfl, ?_, rfl, ?_⟩
  · rw [ClientState.decode]
    cases (Utf8.feed none past).1 <;> rfl
  · rw [List.flatMap_append]
    rfl

theorem streamNotificationsOnce_eq (chunks : List Bytes) :
    ClientState.streamNotificationsOnce parse chunks =
      stateOf parse chunks.flatten := by
  have invariant : ∀ past,
      chunks.foldl (ClientState.round parse) (stateOf parse past) =
        stateOf parse (past ++ chunks.flatten) := by
    induction chunks with
    | nil => simp
    | cons chunk chunks ih =>
        intro past
        rw [List.foldl_cons, round_stateOf, ih, List.flatten_cons,
          List.append_assoc]
  exact invariant []

end Chunks

/-! ## Frames -/

/-- All of a text is printable ASCII. -/
def AllPrintable (text : String) : Prop := ∀ c ∈ text.toList, Printable c

instance decidableAllPrintable (text : String) : Decidable (AllPrintable text) :=
  inferInstanceAs (Decidable (∀ c ∈ text.toList, Printable c))

@[simp] theorem allPrintable_append {first second : String} :
    AllPrintable (first ++ second) ↔ AllPrintable first ∧ AllPrintable second := by
  simp only [AllPrintable, String.toList_append, List.mem_append]
  constructor
  · intro all
    exact ⟨fun c member => all c (.inl member), fun c member => all c (.inr member)⟩
  · intro both c member
    exact member.elim (both.1 c) (both.2 c)

theorem allPrintable_quote (text : String) : AllPrintable (quote text) :=
  printable_quote text

theorem not_mem_newline {text : String} (printable : AllPrintable text) :
    '\n' ∉ text.toList := by
  intro member
  exact absurd (printable _ member) (by decide)

theorem allPrintable_intercalate {sep : String} {texts : List String}
    (separator : AllPrintable sep) (each : ∀ text ∈ texts, AllPrintable text) :
    AllPrintable (sep.intercalate texts) := by
  induction texts with
  | nil => intro c member; cases member
  | cons text texts ih =>
      have rest := ih fun text member => each text (List.mem_cons_of_mem _ member)
      have first := each text List.mem_cons_self
      cases texts with
      | nil => rwa [String.intercalate_singleton]
      | cons next texts =>
          rw [String.intercalate_cons_cons]
          simp [first, separator, rest]

/-- An object whose values are printable. -/
theorem allPrintable_dumps_obj {builtins : Builtins}
    {fields : List (String × Json)}
    (each : ∀ field ∈ fields, AllPrintable (builtins.dumps field.2)) :
    AllPrintable (builtins.dumps (.obj fields)) := by
  have items : ∀ text ∈ builtins.dumpsFields fields, AllPrintable text := by
    induction fields with
    | nil => intro text member; simp [Builtins.dumpsFields] at member
    | cons field fields ih =>
        rcases field with ⟨name, value⟩
        intro text member
        rw [Builtins.dumpsFields] at member
        rcases List.mem_cons.mp member with rfl | member
        · have colon : AllPrintable ": " := by decide
          have here := each (name, value) List.mem_cons_self
          simp [allPrintable_quote, colon, here]
        · exact ih (fun field member => each field (List.mem_cons_of_mem _ member))
            text member
  have opened : AllPrintable "\x7b" := by decide
  have closed : AllPrintable "\x7d" := by decide
  have comma : AllPrintable ", " := by decide
  have joined := allPrintable_intercalate comma items
  rw [Builtins.dumps]
  simp [opened, closed, joined]

/-- The JSON text of an event. -/
theorem allPrintable_dumps (builtins : Builtins) (event : NotificationEvent) :
    AllPrintable (builtins.dumps event.toApiDict) := by
  have string (text : String) : AllPrintable (builtins.dumps (.str text)) := by
    rw [Builtins.dumps]
    exact allPrintable_quote text
  have read (value : Bool) : AllPrintable (builtins.dumps (.bool value)) := by
    cases value <;> rw [Builtins.dumps] <;> decide
  have readAt : AllPrintable (builtins.dumps
      ((event.readAt.map fun time => Json.str time.isoformat).getD .null)) := by
    cases event.readAt with
    | none =>
        change AllPrintable (builtins.dumps .null)
        rw [Builtins.dumps]
        decide
    | some time => exact string _
  apply allPrintable_dumps_obj
  intro field member
  simp only [List.mem_cons, List.not_mem_nil, or_false] at member
  rcases member with rfl | rfl | rfl | rfl | rfl | rfl
  · exact string _
  · exact string _
  · exact string _
  · exact string _
  · exact readAt
  · exact read _

/-- The text of an event is an object: nothing is to be trimmed from it but the
blank in front. -/
theorem trim_blank_dumps (builtins : Builtins) (fields : List (String × Json)) :
    trim (' ' :: (builtins.dumps (.obj fields)).toList) =
      (builtins.dumps (.obj fields)).toList := by
  have shape : (builtins.dumps (.obj fields)).toList =
      '\x7b' :: (", ".intercalate (builtins.dumpsFields fields)).toList ++
        ['\x7d'] := by
    rw [Builtins.dumps, String.toList_append, String.toList_append]
    rfl
  have blank : isJsSpace ' ' = true := by decide
  have opened : isJsSpace '\x7b' = false := by decide
  have closed : isJsSpace '\x7d' = false := by decide
  rw [shape]
  simp [trim, blank, opened, closed]

section Frames

variable (builtins : Builtins) (parse : String → Option Json)

/-- A frame without the blank line behind it. -/
def frameBody : NotificationFrame → List Char
  | .data event => "data: ".toList ++ (builtins.dumps event.toApiDict).toList
  | .ping => ": ping".toList

theorem toList_text (frame : NotificationFrame) :
    (frame.text builtins).toList = frameBody builtins frame ++ ['\n', '\n'] := by
  cases frame with
  | data event =>
      rw [NotificationFrame.text, String.toList_append, String.toList_append]
      rfl
  | ping =>
      rw [NotificationFrame.text, frameBody]
      decide

theorem not_mem_frameBody (frame : NotificationFrame) :
    '\n' ∉ frameBody builtins frame := by
  cases frame with
  | data event =>
      have body := not_mem_newline (allPrintable_dumps builtins event)
      have label : '\n' ∉ "data: ".toList := by decide
      rw [frameBody, List.mem_append]
      exact fun member => member.elim label body
  | ping =>
      rw [frameBody]
      decide

/-- A data frame is parsed, and a heartbeat is no event. -/
theorem parseFrame_frameBody {frame : NotificationFrame}
    (inverse : ∀ event, frame = .data event →
      parse (builtins.dumps event.toApiDict) = some event.toApiDict) :
    ClientState.parseFrame parse (frameBody builtins frame) =
      (frame.event?.map NotificationEvent.toApiDict).toList := by
  have line := List.splitOn_eq_singleton (not_mem_frameBody builtins frame)
  rw [ClientState.parseFrame, line]
  cases frame with
  | data event =>
      have parsed : ClientState.parseLine parse
          (frameBody builtins (.data event)) = some event.toApiDict := by
        have label : "data: ".toList = ['d', 'a', 't', 'a', ':', ' '] := by decide
        have marker : "data:".toList = ['d', 'a', 't', 'a', ':'] := by decide
        have trimmed : trim (' ' :: (builtins.dumps event.toApiDict).toList) =
            (builtins.dumps event.toApiDict).toList := trim_blank_dumps _ _
        rw [ClientState.parseLine, frameBody, label, marker]
        simp [List.isPrefixOf, trimmed, inverse event rfl]
      rw [List.filterMap_cons, parsed]
      rfl
  | ping => simp [ClientState.parseLine, frameBody, NotificationFrame.event?]

/-- The text of a stream of frames. -/
theorem flatMap_bytes (frames : List NotificationFrame) :
    frames.flatMap (NotificationFrame.bytes builtins) =
      Utf8.encodeChars ((frames.map (frameBody builtins)).flatMap fun frame =>
        frame ++ ['\n', '\n']) := by
  induction frames with
  | nil => rfl
  | cons frame frames ih =>
      rw [List.flatMap_cons, ih, NotificationFrame.bytes, Utf8.encode, toList_text]
      simp [Utf8.encodeChars]

/-- No stream of frames starts with a byte order mark. -/
theorem dropMark_frames (frames : List NotificationFrame) :
    dropMark ((frames.map (frameBody builtins)).flatMap fun frame =>
        frame ++ ['\n', '\n']) =
      (frames.map (frameBody builtins)).flatMap fun frame =>
        frame ++ ['\n', '\n'] := by
  cases frames with
  | nil => rfl
  | cons frame frames =>
      cases frame with
      | data event =>
          have label : "data: ".toList = ['d', 'a', 't', 'a', ':', ' '] := by decide
          simp [frameBody, label, dropMark]
      | ping =>
          have label : ": ping".toList = [':', ' ', 'p', 'i', 'n', 'g'] := by decide
          simp [frameBody, label, dropMark]

/-- The JSON payloads of the events that are framed. -/
def payloads (frames : List NotificationFrame) : List Json :=
  frames.filterMap fun frame => frame.event?.map NotificationEvent.toApiDict

/-- What is merged from the frames of a stream, in whatever chunks its bytes
come, are the events that were framed, once each and in order. -/
theorem stream_round_trip (frames : List NotificationFrame)
    (chunks : List Bytes) (shown : List Json)
    (whole : chunks.flatten =
      frames.flatMap (NotificationFrame.bytes builtins))
    (inverse : ∀ event, .data event ∈ frames →
      parse (builtins.dumps event.toApiDict) = some event.toApiDict) :
    (ClientState.streamNotificationsOnce parse chunks).merged = payloads frames ∧
      ClientState.notifications parse shown chunks =
        (payloads frames).foldl mergeNotification shown := by
  have cut := @splitFrames_flatMap _ _ '\n' (frames.map (frameBody builtins)) (by
    intro body member
    rcases List.mem_map.mp member with ⟨frame, _, same⟩
    exact same ▸ not_mem_frameBody builtins frame)
  have each : ∀ frame ∈ frames,
      ClientState.parseFrame parse (frameBody builtins frame) =
        (frame.event?.map NotificationEvent.toApiDict).toList := by
    intro frame member
    apply parseFrame_frameBody
    intro event same
    exact inverse event (same ▸ member)
  have merged : (ClientState.streamNotificationsOnce parse chunks).merged =
      payloads frames := by
    rw [streamNotificationsOnce_eq, whole, flatMap_bytes, stateOf]
    dsimp only
    rw [Utf8.feed_encodeChars, dropMark_frames, cut, List.flatMap_map, payloads,
      List.filterMap_eq_flatMap_toList]
    exact List.flatMap_congr each
  refine ⟨merged, ?_⟩
  rw [ClientState.notifications, merged]

end Frames

/-- A parser that knows the text of one event. -/
def parseNotice (text : String) : Option Json :=
  if text = (Builtins.sample []).dumps (noticeOf 7).toApiDict then
    some (noticeOf 7).toApiDict
  else none

/-- An event between two heartbeats, sent byte by byte. -/
theorem stream_round_trip_bytes :
    (ClientState.streamNotificationsOnce parseNotice
      (([.ping, .data (noticeOf 7), .ping] : List NotificationFrame).flatMap
        (NotificationFrame.bytes (Builtins.sample []))
        |>.map fun byte => [byte])).merged = [(noticeOf 7).toApiDict] := by
  apply (stream_round_trip (Builtins.sample []) parseNotice
    [.ping, .data (noticeOf 7), .ping] _ [] _ _).1
  · rw [← List.flatMap_def]
    simp
  · intro event member
    simp only [List.mem_cons, reduceCtorEq, NotificationFrame.data.injEq,
      List.not_mem_nil, or_false, false_or] at member
    subst member
    exact if_pos rfl

end PrivateAiWorkspace.Ui
