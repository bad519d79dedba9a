import PrivateAiWorkspace.ControlPlane.DocumentIndexing
import PrivateAiWorkspace.ControlPlane.InferenceClient
import PrivateAiWorkspace.ControlPlane.Integrations
import PrivateAiWorkspace.Lists.Fallible

/-!
# The embedding client

`InferenceEmbeddingClient` of `embeddings.py`: the items of a response are put in
the order of their indices and each gives the vector of one text. What a backend
has to answer for the client to keep its contract is `Answers`.
-/

namespace PrivateAiWorkspace.ControlPlane

open Effects PrivateAiWorkspace.Lists Python

/-- The number a JSON value is: `True` and `False` count as one and zero. -/
def numberOf : Json → Option Rat
  | .bool value => some (if value then 1 else 0)
  | .int value => some value
  | .float (.finite value) => some value
  | _ => none

/-- Operators of the language on JSON values. -/
structure Operators where
  /-- `left < right`. -/
  less : Json → Json → Except PyException Bool
  /-- `float(value)`. -/
  float : Json → Except PyException PyFloat
  less_number : ∀ left right x y, numberOf left = some x → numberOf right = some y →
    less left right = .ok (decide (x < y))
  less_raises : ∀ left right error, less left right = .error error →
    error = .typeError ∨ error = .other "RecursionError"
  float_raises : ∀ value error, float value = .error error →
    error = .typeError ∨ error = .valueError ∨ error = .overflowError

/-- `InferenceEmbeddingClient`. -/
structure InferenceEmbeddingClient where
  baseUrl : String
  model : String
  dim : Int := 384
  timeoutSeconds : Rat := 10

namespace InferenceEmbeddingClient

variable (operators : Operators) (client : InferenceEmbeddingClient)

/-- The request for the vectors of some texts. -/
def post (builtins : Builtins) (texts : List String) : InferencePost where
  url := rstripSlash client.baseUrl ++ "/v1/embeddings"
  data := Utf8.encode (builtins.dumps (.obj [("model", .str client.model),
    ("input", .arr (texts.map Json.str))]))
  headers := [("Content-Type", "application/json")]
  timeout := client.timeoutSeconds

/-- `d.get("index", 0)` of an item that is a dict. -/
def indexOf (fields : List (String × Json)) : Json :=
  Json.getOr fields "index" (.int 0)

/-- The items as the key function takes them: only dicts have the method. -/
def readEntry : Json → Except PyException (List (String × Json))
  | .obj fields => .ok fields
  | _ => .error .attributeError

/-- The vector of one item. -/
def readVector (fields : List (String × Json)) : Except PyException (List PyFloat) :=
  match Json.get fields "embedding" with
  | .arr vec =>
      if (vec.length : Int) = client.dim then vec.mapM operators.float
      else .error embeddingError
  | _ => .error embeddingError

/-- `sorted(items, key=...)`. -/
def inOrder (entries : List (List (String × Json))) :
    Except PyException (List (List (String × Json))) :=
  sortBy (fun left right => operators.less (indexOf left) (indexOf right)) entries

/-- The vectors of the items of a response. -/
def readItems (items : List Json) : Except PyException (List (List PyFloat)) := do
  let entries ← items.mapM readEntry
  let order ← inOrder operators entries
  order.mapM (readVector operators client)

/-- The items of a response, one for each text. -/
def itemsOf (count : Nat) : Json → Option (List Json)
  | .obj data =>
      match Json.get data "data" with
      | .arr items => if items.length = count then some items else none
      | _ => none
  | _ => none

/-- What the client makes of what the exchange came to. -/
def settle (count : Nat) : Except PyException Json →
    Except PyException (List (List PyFloat))
  | .error error => if isOsError error then .error embeddingError else .error error
  | .ok data =>
      match itemsOf count data with
      | none => .error embeddingError
      | some items => readItems operators client items

/-- `embed`. -/
def embed (builtins : Builtins) (texts : List String) :
    Program Upstream PyException (List (List PyFloat)) :=
  (VLLMInferenceClient.exchange builtins (client.post builtins texts)).attempt.bind
    fun outcome => Program.ofExcept (settle operators client texts.length outcome)

/-! ## The contract -/

/-- The vectors of a response: one for each text, each of the dimension, and the
vector at a position is that of an item whose index is the position. -/
structure Paired (count : Nat) (items : List Json) (vectors : List (List PyFloat)) :
    Prop where
  length : vectors.length = count
  dimension : ∀ vector ∈ vectors, (vector.length : Int) = client.dim
  paired : ∀ (position : Nat) (vector : List PyFloat),
    vectors[position]? = some vector →
    ∃ fields values, .obj fields ∈ items ∧
      numberOf (indexOf fields) = some (position : Rat) ∧
      Json.get fields "embedding" = .arr values ∧
      values.mapM operators.float = .ok vector

/-- The contract of a call: it raises `EmbeddingError` and nothing else, or returns
the vectors of the items. -/
def Keeps (count : Nat) (outcome : Except PyException Json)
    (result : Except PyException (List (List PyFloat))) : Prop :=
  result = .error embeddingError ∨
    ∃ data items vectors, outcome = .ok data ∧ itemsOf count data = some items ∧
      result = .ok vectors ∧ Paired operators client count items vectors

/-- The embedding of an item is a list of the dimension. -/
def Fits (fields : List (String × Json)) : Prop :=
  ∃ values, Json.get fields "embedding" = .arr values ∧
    (values.length : Int) = client.dim

/-- The embedding of an item is a list of the dimension, and one of numbers. -/
def Readable (fields : List (String × Json)) : Prop :=
  ∃ values vector, Json.get fields "embedding" = .arr values ∧
    (values.length : Int) = client.dim ∧ values.mapM operators.float = .ok vector

/-- The items are dicts that can be put in order, and either the first one in that
order that cannot be read is of another dimension, or all can be read and every
position is the index of one. -/
def Answers (count : Nat) (items : List Json) : Prop :=
  ∃ entries order, items = entries.map Json.obj ∧
    inOrder operators entries = .ok order ∧
    ((∃ before fields after, order = before ++ fields :: after ∧
        (∀ other ∈ before, Readable operators client other) ∧ ¬ Fits client fields) ∨
      (∀ fields ∈ entries, Readable operators client fields) ∧
        ∀ position < count, ∃ fields ∈ entries,
          numberOf (indexOf fields) = some (position : Rat))

/-- What a backend may answer for the contract to be kept. -/
def Answerable (count : Nat) : Except PyException Json → Prop
  | .error error => isOsError error = true ∨ error = embeddingError
  | .ok data => ∀ items, itemsOf count data = some items →
      Answers operators client count items

section Contract

variable {operators : Operators} {client : InferenceEmbeddingClient} {count : Nat}
  {fields : List (String × Json)} {items : List Json}
  {entries order : List (List (String × Json))}

theorem mapM_readEntry_eq_ok_iff :
    items.mapM readEntry = .ok entries ↔ items = entries.map Json.obj := by
  rw [mapM_eq_ok_iff]
  constructor
  · intro related
    induction related with
    | nil => rfl
    | @cons item fields _ _ first _ ih =>
        cases item with
        | obj inner =>
            cases first
            rw [ih, List.map_cons]
        | _ => cases first
  · intro same
    rw [same, List.forall₂_map_left_iff, List.forall₂_same]
    exact fun _ _ => rfl

theorem error_of_mapM_readEntry {error : PyException}
    (raised : items.mapM readEntry = .error error) : error = .attributeError := by
  rcases mapM_eq_error_iff.mp raised with ⟨before, item, after, -, -, failed⟩
  cases item <;> cases failed
  all_goals rfl

theorem readVector_eq_ok_iff {vector : List PyFloat} :
    readVector operators client fields = .ok vector ↔
      ∃ values, Json.get fields "embedding" = .arr values ∧
        (values.length : Int) = client.dim ∧
        values.mapM operators.float = .ok vector := by
  rw [readVector]
  split
  next vec found =>
    constructor
    · intro read
      split at read
      next fits => exact ⟨vec, found, fits, read⟩
      · cases read
    · intro ⟨values, same, fits, mapped⟩
      cases found.symm.trans same
      rw [if_pos fits, mapped]
  next other =>
    refine ⟨(fun read => nomatch read), fun ⟨values, same, _⟩ => ?_⟩
    exact absurd same (other values)

theorem readVector_eq_embeddingError_iff :
    readVector operators client fields = .error embeddingError ↔ ¬ Fits client fields := by
  rw [readVector, Fits]
  split
  next vec found =>
    by_cases fits : (vec.length : Int) = client.dim
    · rw [if_pos fits]
      constructor
      · intro raised
        rcases mapM_eq_error_iff.mp raised with ⟨before, value, after, -, -, failed⟩
        rcases operators.float_raises value _ failed with same | same | same
        all_goals cases same
      · intro none
        exact absurd ⟨vec, found, fits⟩ none
    · rw [if_neg fits]
      refine ⟨fun _ ⟨values, same, length⟩ => ?_, fun _ => rfl⟩
      cases found.symm.trans same
      exact fits length
  next other =>
    exact ⟨fun _ ⟨values, same, _⟩ => other values same, fun _ => rfl⟩

theorem exists_readVector_iff :
    (∃ vector, readVector operators client fields = .ok vector) ↔
      Readable operators client fields := by
  constructor
  · intro ⟨vector, read⟩
    rcases readVector_eq_ok_iff.mp read with ⟨values, found, fits, mapped⟩
    exact ⟨values, vector, found, fits, mapped⟩
  · intro ⟨values, vector, found, fits, mapped⟩
    exact ⟨vector, readVector_eq_ok_iff.mpr ⟨values, found, fits, mapped⟩⟩

theorem inOrder_ne_embeddingError :
    inOrder operators entries ≠ .error embeddingError := by
  intro raised
  rcases exists_of_sortBy_error raised with ⟨left, right, failed⟩
  rcases operators.less_raises _ _ _ failed with same | same
  all_goals revert same; decide

/-- Items whose indices are the positions are put in the order of the positions. -/
theorem index_of_inOrder (length : entries.length = count)
    (covered : ∀ position < count, ∃ fields ∈ entries,
      numberOf (indexOf fields) = some (position : Rat)) :
    ∃ order, inOrder operators entries = .ok order ∧
      order.map (fun fields => numberOf (indexOf fields)) =
        (List.range count).map fun position : Nat => some (position : Rat) := by
  have distinct : ((List.range count).map fun position : Nat =>
      some (position : Rat)).Nodup := by
    apply List.nodup_range.map
    intro left right same
    exact Nat.cast_injective (Option.some.inj same)
  have within : ((List.range count).map fun position : Nat => some (position : Rat)) ⊆
      entries.map fun fields => numberOf (indexOf fields) := by
    intro number mem
    rcases List.mem_map.mp mem with ⟨position, inside, rfl⟩
    rcases covered position (List.mem_range.mp inside) with ⟨fields, among, index⟩
    exact List.mem_map.mpr ⟨fields, among, index⟩
  have perm : (entries.map fun fields => numberOf (indexOf fields)).Perm
      ((List.range count).map fun position : Nat => some (position : Rat)) := by
    apply ((List.subperm_of_subset distinct within).perm_of_length_le _).symm
    rw [List.length_map, List.length_map, List.length_range, length]
  let measure (fields : List (String × Json)) : Rat :=
    (numberOf (indexOf fields)).getD 0
  have numbered : ∀ fields ∈ entries,
      numberOf (indexOf fields) = some (measure fields) := by
    intro fields mem
    have among := perm.subset (List.mem_map_of_mem mem)
    rcases List.mem_map.mp among with ⟨position, -, same⟩
    rw [show measure fields = (numberOf (indexOf fields)).getD 0 from rfl, ← same]
    rfl
  have measures : (entries.map measure).Perm
      ((List.range count).map fun position : Nat => (position : Rat)) := by
    have mapped := perm.map fun number => number.getD 0
    rwa [List.map_map, List.map_map] at mapped
  have sorted : ((List.range count).map fun position : Nat =>
      (position : Rat)).Pairwise (· ≤ ·) := by
    rw [List.pairwise_map]
    exact List.pairwise_lt_range.imp fun before => Nat.cast_le.mpr (Nat.le_of_lt before)
  refine ⟨_, sortBy_eq_insertionSort fun left mem right among =>
    operators.less_number _ _ _ _ (numbered left mem) (numbered right among), ?_⟩
  calc
    _ = ((entries.insertionSort fun left right => measure left ≤ measure right).map
          measure).map some := by
        rw [List.map_map]
        apply List.map_congr_left
        intro fields mem
        exact numbered fields ((List.perm_insertionSort _ entries).subset mem)
    _ = _ := by
        rw [map_insertionSort_of_perm sorted measures, List.map_map]
        rfl

/-- The vectors of items that are in the order of their indices are paired. -/
theorem paired_of_order {vectors : List (List PyFloat)} (perm : order.Perm entries)
    (numbers : order.map (fun fields => numberOf (indexOf fields)) =
      (List.range count).map fun position : Nat => some (position : Rat))
    (read : order.mapM (readVector operators client) = .ok vectors) :
    Paired operators client count (entries.map Json.obj) vectors := by
  have related := mapM_eq_ok_iff.mp read
  have size := congrArg List.length numbers
  rw [List.length_map, List.length_map, List.length_range] at size
  constructor
  · rw [← related.length_eq, size]
  · intro vector mem
    rcases List.mem_iff_getElem.mp mem with ⟨position, inside, rfl⟩
    have first := related.get (related.length_eq ▸ inside) inside
    rcases readVector_eq_ok_iff.mp first with ⟨values, -, fits, mapped⟩
    rw [← fits]
    exact congrArg _ (mapM_eq_ok_iff.mp mapped).length_eq.symm
  · intro position vector found
    rcases List.getElem?_eq_some_iff.mp found with ⟨inside, rfl⟩
    have before : position < order.length := related.length_eq ▸ inside
    have first := related.get before inside
    rcases readVector_eq_ok_iff.mp first with ⟨values, embedding, -, mapped⟩
    refine ⟨order[position], values, ?_, ?_, embedding, mapped⟩
    · exact List.mem_map_of_mem (perm.subset (List.getElem_mem before))
    · have same := congrArg (fun numbers => numbers[position]?) numbers
      simp only [List.getElem?_map, List.getElem?_eq_getElem before, Option.map_some,
        List.getElem?_range (size ▸ before)] at same
      exact Option.some.inj same

/-- Reading ends in `EmbeddingError` where the first item that cannot be read is of
another dimension. -/
theorem mapM_readVector_eq_embeddingError_iff :
    order.mapM (readVector operators client) = .error embeddingError ↔
      ∃ before fields after, order = before ++ fields :: after ∧
        (∀ other ∈ before, Readable operators client other) ∧ ¬ Fits client fields := by
  rw [mapM_eq_error_iff]
  simp only [exists_readVector_iff, readVector_eq_embeddingError_iff]

/-- Reading pairs the vectors where all items can be read and every position is the
index of one. -/
theorem exists_paired_iff (length : entries.length = count)
    (ordered : inOrder operators entries = .ok order) :
    (∃ vectors, order.mapM (readVector operators client) = .ok vectors ∧
        Paired operators client count (entries.map Json.obj) vectors) ↔
      (∀ fields ∈ entries, Readable operators client fields) ∧
        ∀ position < count, ∃ fields ∈ entries,
          numberOf (indexOf fields) = some (position : Rat) := by
  have perm := perm_of_sortBy ordered
  constructor
  · intro ⟨vectors, read, paired⟩
    have related := mapM_eq_ok_iff.mp read
    constructor
    · intro fields mem
      rcases List.mem_iff_getElem.mp (perm.symm.subset mem) with ⟨place, inside, rfl⟩
      exact exists_readVector_iff.mp
        ⟨_, related.get inside (related.length_eq ▸ inside)⟩
    · intro position inside
      rw [← paired.length] at inside
      rcases paired.paired position _ (List.getElem?_eq_getElem inside) with
        ⟨fields, _, mem, index, -⟩
      rcases List.mem_map.mp mem with ⟨other, among, same⟩
      cases same
      exact ⟨fields, among, index⟩
  · intro ⟨readable, covered⟩
    rcases index_of_inOrder length covered with ⟨sorted, same, numbers⟩
    cases ordered.symm.trans same
    have read : ∃ vectors, order.mapM (readVector operators client) = .ok vectors := by
      cases mapped : order.mapM (readVector operators client) with
      | ok vectors => exact ⟨vectors, rfl⟩
      | error error =>
          rcases mapM_eq_error_iff.mp mapped with ⟨before, fields, after, split, -, failed⟩
          have among : fields ∈ order := by
            rw [split]
            exact List.mem_append_right _ List.mem_cons_self
          rcases exists_readVector_iff.mpr (readable fields (perm.subset among)) with
            ⟨vector, returned⟩
          rw [returned] at failed
          cases failed
    rcases read with ⟨vectors, mapped⟩
    exact ⟨vectors, mapped, paired_of_order perm numbers mapped⟩

/-- A backend keeps the contract exactly when it answers the items. -/
theorem readItems_iff (length : items.length = count) :
    (readItems operators client items = .error embeddingError ∨
        ∃ vectors, readItems operators client items = .ok vectors ∧
          Paired operators client count items vectors) ↔
      Answers operators client count items := by
  cases entriesRead : items.mapM readEntry with
  | error error =>
      have unread : readItems operators client items = .error error := by
        rw [readItems, entriesRead]
        rfl
      rw [unread, error_of_mapM_readEntry entriesRead]
      constructor
      · intro kept
        rcases kept with same | ⟨vectors, same, -⟩
        · cases same
        · cases same
      · intro ⟨entries, order, same, _⟩
        rw [mapM_readEntry_eq_ok_iff.mpr same] at entriesRead
        cases entriesRead
  | ok entries =>
      have shape := mapM_readEntry_eq_ok_iff.mp entriesRead
      have size : entries.length = count := by rw [← length, shape, List.length_map]
      cases ordered : inOrder operators entries with
      | error error =>
          have unread : readItems operators client items = .error error := by
            rw [readItems, entriesRead]
            change (inOrder operators entries).bind _ = _
            rw [ordered]
            rfl
          rw [unread]
          constructor
          · intro kept
            rcases kept with same | ⟨vectors, same, -⟩
            · cases same
              exact absurd ordered inOrder_ne_embeddingError
            · cases same
          · intro ⟨others, order, same, sorted, _⟩
            rw [mapM_readEntry_eq_ok_iff.mpr same] at entriesRead
            cases entriesRead
            rw [ordered] at sorted
            cases sorted
      | ok order =>
          have read : readItems operators client items =
              order.mapM (readVector operators client) := by
            rw [readItems, entriesRead]
            change (inOrder operators entries).bind _ = _
            rw [ordered]
            rfl
          rw [read, mapM_readVector_eq_embeddingError_iff, shape,
            exists_paired_iff size ordered]
          constructor
          · exact fun cases => ⟨entries, order, rfl, ordered, cases⟩
          · intro ⟨others, sorted, same, also, cases⟩
            have equal : entries = others := by
              apply List.map_injective_iff.mpr _ same
              exact fun _ _ equal => Json.obj.inj equal
            subst equal
            rw [ordered] at also
            cases also
            exact cases

theorem settle_iff (outcome : Except PyException Json) :
    Keeps operators client count outcome (settle operators client count outcome) ↔
      Answerable operators client count outcome := by
  cases outcome with
  | error error =>
      rw [settle, Keeps, Answerable]
      constructor
      · intro kept
        rcases kept with same | ⟨data, items, vectors, same, -⟩
        · split at same
          next caught => exact Or.inl caught
          · exact Or.inr (Except.error.inj same)
        · cases same
      · intro expected
        split
        · exact Or.inl rfl
        next escapes =>
          exact Or.inl (congrArg _ (expected.resolve_left escapes))
  | ok data =>
      rw [settle, Answerable]
      cases shape : itemsOf count data with
      | none => exact ⟨fun _ items same => (nomatch same), fun _ => Or.inl rfl⟩
      | some items =>
          have length : items.length = count := by
            rw [itemsOf.eq_def] at shape
            split at shape
            · split at shape
              · split at shape
                next same =>
                  cases shape
                  exact same
                · cases shape
              · cases shape
            · cases shape
          have answers := @readItems_iff operators client count items length
          constructor
          · intro kept others same
            cases same
            apply answers.mp
            rcases kept with failed | ⟨loaded, found, vectors, same, shaped, read, paired⟩
            · exact Or.inl failed
            · cases same
              cases shape.symm.trans shaped
              exact Or.inr ⟨vectors, read, paired⟩
          · intro answered
            rcases answers.mpr (answered items rfl) with failed | ⟨vectors, read, paired⟩
            · exact Or.inl failed
            · exact Or.inr ⟨data, items, vectors, rfl, shape, read, paired⟩

end Contract

/-- A call keeps its contract exactly when the backend's answer lets it. -/
theorem embed_contract_iff (operators : Operators) (client : InferenceEmbeddingClient)
    (builtins : Builtins) (texts : List String)
    {events : List (Event Upstream PyException)}
    {result : Except PyException (List (List PyFloat))}
    (run : Program.Run (embed operators client builtins texts) events result) :
    ∃ outcome, Program.Run (VLLMInferenceClient.exchange builtins
        (client.post builtins texts)) events outcome ∧
      (Keeps operators client texts.length outcome result ↔
        Answerable operators client texts.length outcome) := by
  rcases Program.run_bind_iff.mp run with ⟨error, caught, -⟩ |
    ⟨outcome, before, after, split, attempted, ended⟩
  · rcases Program.run_attempt_iff.mp caught with ⟨outcome, same, -⟩
    cases same
  · rcases Program.run_ofExcept_iff.mp ended with ⟨rfl, rfl⟩
    rcases Program.run_attempt_iff.mp attempted with ⟨exchanged, same, ran⟩
    cases same
    rw [split, List.append_nil]
    exact ⟨outcome, ran, settle_iff outcome⟩

/-! ### Three answers -/

/-- Operators that know numbers. -/
def numberOperators : Operators where
  less left right :=
    match numberOf left, numberOf right with
    | some x, some y => .ok (decide (x < y))
    | _, _ => .error .typeError
  float value :=
    match numberOf value with
    | some x => .ok (.finite x)
    | none => .error .typeError
  less_number := by
    intro left right x y first second
    rw [first, second]
  less_raises := by
    intro left right error raised
    split at raised
    · cases raised
    · cases raised
      exact Or.inl rfl
  float_raises := by
    intro value error raised
    split at raised
    · cases raised
    · cases raised
      exact Or.inl rfl

/-- A client of vectors with one entry. -/
def lineClient : InferenceEmbeddingClient :=
  { baseUrl := "http://embed:8000", model := "m", dim := 1 }

/-- An item with an index and a vector of one entry. -/
def lineItem (index entry : Int) : Json :=
  .obj [("index", .int index), ("embedding", .arr [.int entry])]

/-- Builtins that know one document. -/
def knowing (text : String) (document : Json) : Builtins :=
  { Builtins.sample [] with
    loadsBytes := fun data =>
      if data = Utf8.encode text then .ok document else .error .valueError }

/-- Two items in the order of their indices backwards. -/
def swappedText : String :=
  "\x7b\"data\": [\x7b\"index\": 1, \"embedding\": [2]\x7d, " ++
    "\x7b\"index\": 0, \"embedding\": [1]\x7d]\x7d"

/-- Two items with the same index. -/
def repeatedText : String :=
  "\x7b\"data\": [\x7b\"index\": 1, \"embedding\": [2]\x7d, " ++
    "\x7b\"index\": 1, \"embedding\": [1]\x7d]\x7d"

/-- The answered calls of an exchange that reads a body. -/
def exchangeEvents (builtins : Builtins) (texts : List String) (body : Bytes) :
    List (Event Upstream PyException) :=
  [⟨.urlopen (lineClient.post builtins texts), .ok ()⟩, ⟨.read, .ok body⟩]

theorem run_embed (builtins : Builtins) (texts : List String) (body : Bytes) :
    Program.Run (embed numberOperators lineClient builtins texts)
      (exchangeEvents builtins texts body)
      (settle numberOperators lineClient texts.length (builtins.loadsBytes body)) := by
  apply Program.Run.call
  apply Program.Run.call
  change Program.Run ((Program.ofExcept (builtins.loadsBytes body)).attempt.bind
    fun outcome => Program.ofExcept (settle numberOperators lineClient texts.length
      outcome)) [] _
  rw [Program.attempt_ofExcept, Program.ret_bind, Program.run_ofExcept_iff]
  exact ⟨rfl, rfl⟩

/-- The contract at two items that come backwards. -/
theorem embed_contract_swapped :
    let builtins := knowing swappedText (.obj [("data", .arr [lineItem 1 2, lineItem 0 1])])
    ∃ outcome, Program.Run (VLLMInferenceClient.exchange builtins
        (lineClient.post builtins ["a", "b"]))
        (exchangeEvents builtins ["a", "b"] (Utf8.encode swappedText)) outcome ∧
      (Keeps numberOperators lineClient 2 outcome
          (settle numberOperators lineClient 2
            (builtins.loadsBytes (Utf8.encode swappedText))) ↔
        Answerable numberOperators lineClient 2 outcome) :=
  embed_contract_iff numberOperators lineClient _ ["a", "b"] (run_embed _ _ _)

/-- Builtins that read the answer with two items of the same index. -/
def repeatedBody : Builtins :=
  knowing repeatedText (.obj [("data", .arr [lineItem 1 2, lineItem 1 1])])

/-- A body that is no JSON makes a call raise `ValueError`, and two items with the
same index give the first text a vector although no item has its index. -/
theorem embed_breaks_contract :
    (∃ events, Program.Run (embed numberOperators lineClient (Builtins.sample []) ["a"])
      events (.error .valueError)) ∧
    Program.Run (embed numberOperators lineClient repeatedBody ["a", "b"])
      (exchangeEvents repeatedBody ["a", "b"] (Utf8.encode repeatedText))
      (.ok [[.finite 2], [.finite 1]]) ∧
    ¬ Paired numberOperators lineClient 2 [lineItem 1 2, lineItem 1 1]
      [[.finite 2], [.finite 1]] := by
  refine ⟨⟨_, run_embed (Builtins.sample []) ["a"] [0x3c]⟩, ?_, fun paired => ?_⟩
  · have loaded : repeatedBody.loadsBytes (Utf8.encode repeatedText) =
        .ok (.obj [("data", .arr [lineItem 1 2, lineItem 1 1])]) := by
      simp only [repeatedBody, knowing, if_true]
    have ran := run_embed repeatedBody ["a", "b"] (Utf8.encode repeatedText)
    rw [loaded] at ran
    have vectors : settle numberOperators lineClient 2
        (.ok (.obj [("data", .arr [lineItem 1 2, lineItem 1 1])])) =
        .ok [[.finite 2], [.finite 1]] := by decide +kernel
    rwa [show ["a", "b"].length = 2 from rfl, vectors] at ran
  · rcases paired.paired 0 _ rfl with ⟨fields, values, mem, index, -⟩
    simp only [lineItem, List.mem_cons, Json.obj.injEq, List.not_mem_nil, or_false] at mem
    rcases mem with rfl | rfl
    all_goals
      revert index
      decide +kernel

end InferenceEmbeddingClient

end PrivateAiWorkspace.ControlPlane
