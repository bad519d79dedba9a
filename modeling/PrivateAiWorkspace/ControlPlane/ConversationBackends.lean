import PrivateAiWorkspace.ControlPlane.Conversations
import PrivateAiWorkspace.Effects.Agreement
import PrivateAiWorkspace.Lists.Recent
import PrivateAiWorkspace.Postgres.Chronicle
import PrivateAiWorkspace.Postgres.Mirrors

/-!
# The two stores of conversations

`PostgresConversationStore` of `conversations.py`, next to the store in memory. One
table has the conversations, another one all their messages, of which memory forgets
all but the last ones; and the database reads more texts as an id than memory has
keys.
-/

namespace PrivateAiWorkspace.ControlPlane

open Effects PrivateAiWorkspace.Lists Postgres Python

/-- A row of the table `conversations`. -/
structure ConversationRow where
  id : Uuid
  tenantId : String
  userId : String
  title : String
  createdAt : DateTime
  updatedAt : DateTime

/-- A row of the table `conversation_messages`. -/
structure MessageRow where
  id : Uuid
  conversationId : Uuid
  tenantId : String
  userId : String
  role : String
  content : String
  createdAt : DateTime

/-- The conversation of a row, without messages. -/
def ConversationRow.conversation (row : ConversationRow) : Conversation where
  id := row.id.text
  tenantId := row.tenantId
  userId := row.userId
  title := row.title
  createdAt := row.createdAt
  updatedAt := row.updatedAt
  messages := []

/-- The message of a row. -/
def MessageRow.message (row : MessageRow) : Message where
  id := row.id.text
  role := row.role
  content := row.content
  createdAt := row.createdAt

/-- The conversation of an id, if it belongs to a principal. -/
def ConversationRow.isOwned (uuid : Uuid) (tenantId userId : String)
    (row : ConversationRow) : Bool :=
  row.id = uuid && row.tenantId = tenantId && row.userId = userId

theorem id_of_isOwned {uuid : Uuid} {tenantId userId : String} {row : ConversationRow}
    (owned : row.isOwned uuid tenantId userId) : row.id = uuid := by
  simp only [ConversationRow.isOwned, Bool.and_eq_true, decide_eq_true_eq] at owned
  exact owned.1.1

theorem tenantId_of_isOwned {uuid : Uuid} {tenantId userId : String}
    {row : ConversationRow} (owned : row.isOwned uuid tenantId userId) :
    row.tenantId = tenantId := by
  simp only [ConversationRow.isOwned, Bool.and_eq_true, decide_eq_true_eq] at owned
  exact owned.1.2

/-- Both tables. -/
structure ConversationTables where
  conversations : List ConversationRow
  messages : List MessageRow

namespace PostgresConversationStore

/-- `create` with a generated id at a time. -/
def create (tables : ConversationTables) (tenantId userId title id : String)
    (now : DateTime) : Except DatabaseError (Conversation × ConversationTables) := do
  let conversation : Conversation :=
    { id, tenantId, userId
      title := Str.take title maxTitleLen
      createdAt := now
      updatedAt := now
      messages := [] }
  let id ← uuidParameter conversation.id
  let tenantId ← textParameter tenantId
  let userId ← textParameter userId
  let title ← textParameter conversation.title
  let row : ConversationRow :=
    { id, tenantId, userId, title, createdAt := now, updatedAt := now }
  let conversations ← insertUnique ConversationRow.id row tables.conversations
  return (conversation, { tables with conversations })

/-- `list_for_user`. -/
def listForUser (tables : ConversationTables) (tenantId userId : String)
    (limit : Int) : Except DatabaseError (List Conversation) := do
  let tenantId ← textParameter tenantId
  let userId ← textParameter userId
  let limit ← limitParameter limit
  let rows := selectLatest
    (fun row => row.tenantId = tenantId && row.userId = userId)
    (fun row => row.updatedAt.instant) tables.conversations
  return (rows.take limit).map ConversationRow.conversation

/-- `get`. -/
def get (tables : ConversationTables) (tenantId userId conversationId : String) :
    Except DatabaseError (Option Conversation) := do
  let id ← uuidParameter conversationId
  let tenantId ← textParameter tenantId
  let userId ← textParameter userId
  match tables.conversations.find? (ConversationRow.isOwned id tenantId userId) with
  | none => return none
  | some row =>
      let rows := selectEarliest
        (fun message => message.conversationId = id && message.tenantId = tenantId)
        (fun message => message.createdAt.instant) tables.messages
      return some { row.conversation with messages := rows.map MessageRow.message }

/-- `delete`: the messages go with their conversation. -/
def delete (tables : ConversationTables) (tenantId userId conversationId : String) :
    Except DatabaseError (Bool × ConversationTables) := do
  let id ← uuidParameter conversationId
  let tenantId ← textParameter tenantId
  let userId ← textParameter userId
  let meant := ConversationRow.isOwned id tenantId userId
  let (rowcount, conversations) := deleteWhere meant tables.conversations
  let (_, messages) := deleteWhere
    (fun message => (tables.conversations.filter meant).any fun row =>
      row.id = message.conversationId) tables.messages
  return (0 < rowcount, { conversations, messages })

/-- `append` with a generated id at a time. -/
def append (tables : ConversationTables)
    (tenantId userId conversationId role content id : String) (now : DateTime) :
    Except DatabaseError (Option Message × ConversationTables) := do
  let conversation ← uuidParameter conversationId
  let tenantId ← textParameter tenantId
  let userId ← textParameter userId
  match tables.conversations.find?
      (ConversationRow.isOwned conversation tenantId userId) with
  | none => return (none, tables)
  | some owner =>
      let message : Message :=
        { id, role, content := Str.take content maxContentLen, createdAt := now }
      let id ← uuidParameter message.id
      let role ← textParameter role
      let text ← textParameter message.content
      let row : MessageRow :=
        { id, conversationId := conversation, tenantId, userId, role, content := text
          createdAt := now }
      checkReference ConversationRow.id conversation tables.conversations
      let messages ← insertUnique MessageRow.id row tables.messages
      let title ← textParameter
        (InMemoryConversationStore.retitled owner.conversation role content)
      let (_, conversations) := updateWhere (fun row => row.id = conversation)
        (fun row => { row with updatedAt := now, title }) tables.conversations
      return (some message, { conversations, messages })

end PostgresConversationStore

open PostgresConversationStore in
/-- The store as its users share it. -/
def postgresConversationStore : SharedObject ConversationTables
    ConversationOperation (Except DatabaseError ConversationResult) Principal where
  initial := ⟨[], []⟩
  step tables
    | .create tenantId userId title id now =>
        transact tables .created (create tables tenantId userId title id now)
    | .listForUser tenantId userId limit =>
        readOnly tables .conversations (listForUser tables tenantId userId limit)
    | .get tenantId userId conversationId =>
        readOnly tables .found (get tables tenantId userId conversationId)
    | .delete tenantId userId conversationId =>
        transact tables .deleted (delete tables tenantId userId conversationId)
    | .append tenantId userId conversationId role content id now =>
        transact tables .appended
          (append tables tenantId userId conversationId role content id now)
  issuer := conversationStore.issuer

/-- Both stores return equal results for every operation. -/
def ConversationBackendsAgree (history : List ConversationOperation) : Prop :=
  List.Forall₂ (fun result result' => result' = .ok result)
    (conversationStore.answers history) (postgresConversationStore.answers history)

/-! ## Histories -/

/-- What a history creates: the ids of conversations and when. -/
def createdConversations (history : List ConversationOperation) :
    List (String × DateTime) :=
  history.filterMap fun
    | .create _ _ _ id now => some (id, now)
    | _ => none

/-- The ids of messages a history generates and when. -/
def generatedMessages (history : List ConversationOperation) :
    List (String × DateTime) :=
  history.filterMap fun
    | .append _ _ _ _ _ id now => some (id, now)
    | _ => none

/-- Conversations have ids and times of creation. -/
def conversationRecording : Recording (String × DateTime) ConversationRow where
  name := Prod.fst
  time created := created.2.instant
  id := ConversationRow.id
  timestamp row := row.createdAt.instant

/-- Messages have ids and times of creation. -/
def messageRecording : Recording (String × DateTime) MessageRow where
  name := Prod.fst
  time generated := generated.2.instant
  id := MessageRow.id
  timestamp row := row.createdAt.instant

/-- The generated ids are new and texts of `uuid` values, and the clock does not
stand still. -/
structure ConversationHistory (history : List ConversationOperation) : Prop where
  canonical : ∀ generated ∈ createdConversations history ++ generatedMessages history,
    Uuid.IsCanonical generated.1
  created : conversationRecording.Orderly (createdConversations history)
  generated : messageRecording.Orderly (generatedMessages history)

/-- The messages of a conversation. -/
def messagesOf (uuid : Uuid) (tables : ConversationTables) : List MessageRow :=
  tables.messages.filter fun message => message.conversationId = uuid

/-- The database takes the parameters of an operation, and an id that means a
conversation of the caller is its key in memory. -/
def ConversationOperation.Portable (tables : ConversationTables) :
    ConversationOperation → Prop
  | .create tenantId userId title _ _ =>
      Storable tenantId ∧ Storable userId ∧ Storable (Str.take title maxTitleLen)
  | .listForUser tenantId userId limit =>
      Storable tenantId ∧ Storable userId ∧ 0 ≤ limit ∧ limit < 9223372036854775808
  | .get tenantId userId conversationId =>
      ∃ uuid, Uuid.ofText? conversationId = some uuid ∧ Storable tenantId ∧
        Storable userId ∧
        ∀ row ∈ tables.conversations, row.isOwned uuid tenantId userId →
          conversationId = uuid.text ∧
          (messagesOf uuid tables).length ≤ maxMessagesPerConversation
  | .delete tenantId userId conversationId =>
      ∃ uuid, Uuid.ofText? conversationId = some uuid ∧ Storable tenantId ∧
        Storable userId ∧
        ∀ row ∈ tables.conversations, row.isOwned uuid tenantId userId →
          conversationId = uuid.text
  | .append tenantId userId conversationId role content _ _ =>
      ∃ uuid, Uuid.ofText? conversationId = some uuid ∧ Storable tenantId ∧
        Storable userId ∧
        ∀ row ∈ tables.conversations, row.isOwned uuid tenantId userId →
          conversationId = uuid.text ∧ Storable role ∧
          Storable (Str.take content maxContentLen)

/-! ## What memory holds of the tables -/

/-- The entry of memory for a row: its conversation and the last messages. -/
def entryOf (tables : ConversationTables) (row : ConversationRow) :
    Conversation × List Message :=
  (row.conversation,
    (recent maxMessagesPerConversation (messagesOf row.id tables)).map
      MessageRow.message)

/-- Memory has an item for each conversation, with the last of its messages. -/
structure ConversationsRelated (past : List ConversationOperation)
    (convs : InMemoryConversationStore) (tables : ConversationTables) : Prop where
  items : convs.items =
    itemsOf (fun row => row.id.text) (entryOf tables) tables.conversations
  records : conversationRecording.Records (createdConversations past)
    tables.conversations
  messages : messageRecording.Records (generatedMessages past) tables.messages
  referring : ∀ message ∈ tables.messages, ∃ row ∈ tables.conversations,
    row.id = message.conversationId ∧ row.tenantId = message.tenantId
  titles : ∀ row ∈ tables.conversations, Storable row.title

/-! ## Steps -/

section Steps

variable {tables : ConversationTables}

open PostgresConversationStore

theorem PostgresConversationStore.create_eq_ok_iff
    {tenantId userId title id : String} {now : DateTime}
    {result : Conversation × ConversationTables} :
    create tables tenantId userId title id now = .ok result ↔
      ∃ uuid, Uuid.ofText? id = some uuid ∧
        (ConversationOperation.create tenantId userId title id now).Portable tables ∧
        (∀ row ∈ tables.conversations, row.id ≠ uuid) ∧
        (⟨id, tenantId, userId, Str.take title maxTitleLen, now, now, []⟩,
          { tables with
            conversations := tables.conversations ++
              [⟨uuid, tenantId, userId, Str.take title maxTitleLen, now, now⟩] }) =
          result := by
  simp only [create, bind_eq_ok_iff, uuidParameter_eq_ok_iff, textParameter_eq_ok_iff,
    insertUnique_eq_ok_iff, ConversationOperation.Portable, and_assoc, exists_and_left,
    exists_eq_left', pure, Except.pure, Except.ok.injEq]

theorem PostgresConversationStore.listForUser_eq_ok_iff {tenantId userId : String}
    {limit : Int} {result : List Conversation} :
    listForUser tables tenantId userId limit = .ok result ↔
      (ConversationOperation.listForUser tenantId userId limit).Portable tables ∧
        ((selectLatest (fun row => row.tenantId = tenantId && row.userId = userId)
          (fun row => row.updatedAt.instant) tables.conversations).take
            limit.toNat).map ConversationRow.conversation = result := by
  simp only [listForUser, bind_eq_ok_iff, textParameter_eq_ok_iff,
    limitParameter_eq_ok_iff, ConversationOperation.Portable, and_assoc,
    exists_and_left, exists_eq_left', pure, Except.pure, Except.ok.injEq]

/-- A conversation with its messages as the database returns it. -/
def withMessages (tables : ConversationTables) (uuid : Uuid) (tenantId : String)
    (row : ConversationRow) : Conversation :=
  { row.conversation with
    messages := (selectEarliest
      (fun message => message.conversationId = uuid && message.tenantId = tenantId)
      (fun message => message.createdAt.instant) tables.messages).map
        MessageRow.message }

theorem PostgresConversationStore.get_eq_ok_iff
    {tenantId userId conversationId : String} {result : Option Conversation} :
    get tables tenantId userId conversationId = .ok result ↔
      ∃ uuid, Uuid.ofText? conversationId = some uuid ∧ Storable tenantId ∧
        Storable userId ∧
        (tables.conversations.find? (ConversationRow.isOwned uuid tenantId userId)).map
          (withMessages tables uuid tenantId) = result := by
  simp only [get, bind_eq_ok_iff, uuidParameter_eq_ok_iff, textParameter_eq_ok_iff,
    and_assoc, exists_and_left, exists_eq_left']
  apply exists_congr
  intro uuid
  cases tables.conversations.find? (ConversationRow.isOwned uuid tenantId userId) <;>
    simp only [pure, Except.pure, Except.ok.injEq, Option.map_none, Option.map_some,
      withMessages]

/-- The tables without a conversation. -/
def without (tables : ConversationTables) (meant : ConversationRow → Bool) :
    ConversationTables where
  conversations := (deleteWhere meant tables.conversations).2
  messages := (deleteWhere (fun message =>
    (tables.conversations.filter meant).any fun row =>
      row.id = message.conversationId) tables.messages).2

theorem PostgresConversationStore.delete_eq_ok_iff
    {tenantId userId conversationId : String} {result : Bool × ConversationTables} :
    delete tables tenantId userId conversationId = .ok result ↔
      ∃ uuid, Uuid.ofText? conversationId = some uuid ∧ Storable tenantId ∧
        Storable userId ∧
        (decide (0 < (deleteWhere (ConversationRow.isOwned uuid tenantId userId)
            tables.conversations).1),
          without tables (ConversationRow.isOwned uuid tenantId userId)) = result := by
  simp only [delete, bind_eq_ok_iff, uuidParameter_eq_ok_iff, textParameter_eq_ok_iff,
    and_assoc, exists_and_left, exists_eq_left', pure, Except.pure, Except.ok.injEq]
  rfl

/-- The tables after a message. -/
def withMessage (tables : ConversationTables) (owner : ConversationRow)
    (content : String) (message : MessageRow) : ConversationTables where
  conversations := (updateWhere (fun row => row.id = message.conversationId)
    (fun row =>
      { row with
        updatedAt := message.createdAt
        title := InMemoryConversationStore.retitled owner.conversation message.role
          content })
    tables.conversations).2
  messages := tables.messages ++ [message]

theorem PostgresConversationStore.append_eq_ok_iff
    {tenantId userId conversationId role content id : String} {now : DateTime}
    {result : Option Message × ConversationTables} :
    append tables tenantId userId conversationId role content id now = .ok result ↔
      ∃ uuid, Uuid.ofText? conversationId = some uuid ∧ Storable tenantId ∧
        Storable userId ∧
        match tables.conversations.find?
            (ConversationRow.isOwned uuid tenantId userId) with
        | none => (none, tables) = result
        | some owner => ∃ messageId, Uuid.ofText? id = some messageId ∧
            Storable role ∧ Storable (Str.take content maxContentLen) ∧
            (∃ row ∈ tables.conversations, row.id = uuid) ∧
            (∀ other ∈ tables.messages, other.id ≠ messageId) ∧
            Storable
              (InMemoryConversationStore.retitled owner.conversation role content) ∧
            (some ⟨id, role, Str.take content maxContentLen, now⟩,
              withMessage tables owner content ⟨messageId, uuid, tenantId, userId,
                role, Str.take content maxContentLen, now⟩) = result := by
  simp only [append, bind_eq_ok_iff, uuidParameter_eq_ok_iff, textParameter_eq_ok_iff,
    and_assoc, exists_and_left, exists_eq_left']
  apply exists_congr
  intro uuid
  cases tables.conversations.find? (ConversationRow.isOwned uuid tenantId userId) with
  | none => simp only [pure, Except.pure, Except.ok.injEq]
  | some owner =>
      simp only [bind_eq_ok_iff, uuidParameter_eq_ok_iff, textParameter_eq_ok_iff,
        insertUnique_eq_ok_iff, checkReference_eq_ok_iff, exists_const, and_assoc,
        exists_and_left, exists_eq_left', pure, Except.pure, Except.ok.injEq]
      rfl

end Steps

/-! ## Steps of both stores -/

section Both

variable {past : List ConversationOperation} {convs : InMemoryConversationStore}
  {tables : ConversationTables} {tenantId userId conversationId : String}
  {uuid : Uuid}

theorem ConversationsRelated.atMostOne
    (related : ConversationsRelated past convs tables) (uuid : Uuid) :
    AtMostOne (fun row : ConversationRow => decide (row.id = uuid))
      tables.conversations := by
  apply (List.pairwise_map.mp related.records.distinct).imp
  intro one other different both
  simp only [decide_eq_true_eq] at both
  exact different (both.1.trans both.2.symm)

/-- Under the text of a `uuid`, memory has what the database finds. -/
theorem ConversationsRelated.owned_text
    (related : ConversationsRelated past convs tables) (uuid : Uuid) :
    convs.owned uuid.text tenantId userId =
      (tables.conversations.find?
        (ConversationRow.isOwned uuid tenantId userId)).map (entryOf tables) := by
  have named : (fun row : ConversationRow => decide (row.id.text = uuid.text)) =
      fun row => decide (row.id = uuid) := by
    funext row
    rw [Bool.eq_iff_iff, decide_eq_true_eq, decide_eq_true_eq]
    exact ⟨Uuid.text_injective, congrArg Uuid.text⟩
  have split : ConversationRow.isOwned uuid tenantId userId =
      fun row => decide (row.id = uuid) &&
        (decide (row.tenantId = tenantId) && decide (row.userId = userId)) := by
    funext row
    exact Bool.and_assoc _ _ _
  rw [InMemoryConversationStore.owned, get?_of_items related.items, named, split,
    (related.atMostOne uuid).find?_and]
  cases tables.conversations.find? fun row => decide (row.id = uuid) with
  | none => rfl
  | some row =>
      rw [Option.map_some, Option.filter_some, Option.filter_some,
        apply_ite (Option.map (entryOf tables))]
      rfl

/-- Under another text, memory has nothing. -/
theorem ConversationsRelated.owned_other
    (related : ConversationsRelated past convs tables)
    (read : Uuid.ofText? conversationId = some uuid)
    (other : conversationId ≠ uuid.text) :
    convs.owned conversationId tenantId userId = none := by
  have absent : tables.conversations.find? (fun row =>
      decide (row.id.text = conversationId)) = none := by
    rw [List.find?_eq_none]
    intro row _ same
    rw [decide_eq_true_eq] at same
    apply other
    rw [← same, Uuid.ofText?_text, Option.some.injEq] at read
    rw [← same, read]
  rw [InMemoryConversationStore.owned, get?_of_items related.items, absent]
  rfl

/-- Memory has what the database finds, if an id that finds something is a key. -/
theorem ConversationsRelated.owned_eq
    (related : ConversationsRelated past convs tables)
    (read : Uuid.ofText? conversationId = some uuid)
    (keyed : ∀ row ∈ tables.conversations, row.isOwned uuid tenantId userId →
      conversationId = uuid.text) :
    convs.owned conversationId tenantId userId =
      (tables.conversations.find?
        (ConversationRow.isOwned uuid tenantId userId)).map (entryOf tables) := by
  by_cases canonical : conversationId = uuid.text
  · rw [canonical, related.owned_text]
  · have absent : tables.conversations.find?
        (ConversationRow.isOwned uuid tenantId userId) = none :=
      List.find?_eq_none.mpr fun row member owned =>
        canonical (keyed row member owned)
    rw [related.owned_other read canonical, absent, Option.map_none]

/-- What memory has, its key is the text of. -/
theorem ConversationsRelated.keyed_of_owned
    (related : ConversationsRelated past convs tables)
    (read : Uuid.ofText? conversationId = some uuid)
    (owned : (convs.owned conversationId tenantId userId).isSome) :
    conversationId = uuid.text := by
  by_contra other
  rw [related.owned_other read other] at owned
  cases owned

/-- Both stores list the same conversations. -/
theorem ConversationsRelated.listed (related : ConversationsRelated past convs tables)
    {limit : Int} (positive : 0 ≤ limit) :
    ((selectLatest (fun row => row.tenantId = tenantId && row.userId = userId)
      (fun row => row.updatedAt.instant) tables.conversations).take limit.toNat).map
        ConversationRow.conversation =
      convs.listForUser tenantId userId limit := by
  have values : convs.values.map Prod.fst =
      tables.conversations.map ConversationRow.conversation := by
    rw [Dict.values, related.items, itemsOf, List.map_map, List.map_map]
    rfl
  have sorted := @List.map_mergeSort _ _
    (fun left right : ConversationRow =>
      decide (right.updatedAt.instant ≤ left.updatedAt.instant))
    (fun left right : Conversation =>
      decide (right.updatedAt.instant ≤ left.updatedAt.instant))
    ConversationRow.conversation
    (tables.conversations.filter fun row =>
      row.tenantId = tenantId && row.userId = userId)
    fun _ _ _ _ => rfl
  rw [InMemoryConversationStore.listForUser, takeSlice, if_pos positive, values,
    List.filter_map, List.map_take, selectLatest, sorted]
  rfl

/-- A conversation without messages is not in the other table. -/
theorem ConversationsRelated.messagesOf_fresh
    (related : ConversationsRelated past convs tables)
    (fresh : ∀ row ∈ tables.conversations, row.id ≠ uuid) :
    messagesOf uuid tables = [] := by
  rw [messagesOf, List.filter_eq_nil_iff]
  intro message member same
  rcases related.referring message member with ⟨row, mem, refers, _⟩
  exact fresh row mem (refers.trans (of_decide_eq_true same))

/-- A new conversation comes last in both stores. -/
theorem ConversationsRelated.create
    (related : ConversationsRelated past convs tables) {title id : String}
    {now : DateTime}
    (history : ConversationHistory (past ++ [.create tenantId userId title id now]))
    (storable : Storable (Str.take title maxTitleLen)) (named : id = uuid.text) :
    (∀ row ∈ tables.conversations, row.id ≠ uuid) ∧
      ConversationsRelated (past ++ [.create tenantId userId title id now])
        (convs.create tenantId userId title id now).2
        { tables with
          conversations := tables.conversations ++
            [⟨uuid, tenantId, userId, Str.take title maxTitleLen, now, now⟩] } := by
  have creations : createdConversations
        (past ++ [.create tenantId userId title id now]) =
      createdConversations past ++ [(id, now)] := by
    rw [createdConversations, List.filterMap_append]
    rfl
  have generations : generatedMessages
        (past ++ [.create tenantId userId title id now]) =
      generatedMessages past := by
    rw [generatedMessages, List.filterMap_append]
    exact List.append_nil _
  have orderly := history.created
  rw [creations] at orderly
  generalize new : ConversationRow.mk uuid tenantId userId
    (Str.take title maxTitleLen) now now = row
  have entry : conversationRecording.name (id, now) =
      (conversationRecording.id row).text := by
    rw [← new]
    exact named
  have fresh : ∀ other ∈ tables.conversations, other.id ≠ uuid := by
    have different := related.records.fresh row orderly entry
    rw [← new] at different
    exact different
  refine ⟨fresh, ?_, ?_, ?_, ?_, ?_⟩
  · have absent : id ∉ convs.items.map Prod.fst := by
      rw [related.items, itemsOf, List.map_map, named]
      intro member
      rcases List.mem_map.mp member with ⟨other, mem, same⟩
      exact fresh other mem (Uuid.text_injective same)
    have empty := related.messagesOf_fresh fresh
    have entered : entryOf tables row =
        (⟨id, tenantId, userId, Str.take title maxTitleLen, now, now, []⟩, []) := by
      rw [entryOf, ← new, empty, ConversationRow.conversation, named]
      rfl
    have items : assign id
        (⟨id, tenantId, userId, Str.take title maxTitleLen, now, now, []⟩, [])
          convs.items =
        itemsOf (fun row => row.id.text) (entryOf tables)
          (tables.conversations ++ [row]) := by
      rw [assign_of_not_mem absent, related.items, ← entered, itemsOf, itemsOf,
        List.map_append, List.map_singleton, ← new, named]
    exact items
  · rw [creations]
    exact related.records.snoc row orderly entry (by rw [← new]; rfl)
  · rw [generations]
    exact related.messages
  · intro message member
    rcases related.referring message member with ⟨other, mem, refers⟩
    exact ⟨other, List.mem_append_left _ mem, refers⟩
  · intro other member
    rcases List.mem_append.mp member with old | new'
    · exact related.titles other old
    · rw [List.mem_singleton.mp new', ← new]
      exact storable

/-- All the messages of a conversation are those of its tenant, in order. -/
theorem ConversationsRelated.withMessages_eq
    (related : ConversationsRelated past convs tables) {row : ConversationRow}
    (member : row ∈ tables.conversations)
    (owned : row.isOwned uuid tenantId userId) :
    withMessages tables uuid tenantId row =
      { row.conversation with
        messages := (messagesOf row.id tables).map MessageRow.message } := by
  simp only [ConversationRow.isOwned, Bool.and_eq_true, decide_eq_true_eq] at owned
  rcases owned with ⟨⟨same, tenant⟩, _⟩
  have ordered : tables.messages.Pairwise fun one other =>
      one.createdAt.instant < other.createdAt.instant := related.messages.ordered
  rw [withMessages, selectEarliest_of_increasing ordered, messagesOf, same]
  congr 2
  apply List.filter_congr
  intro message stored
  by_cases refers : message.conversationId = uuid
  · rcases related.referring message stored with ⟨other, mem, referred, tenant'⟩
    have row_eq := related.records.unique mem member
      ((referred.trans refers).trans same.symm)
    rw [row_eq] at tenant'
    rw [decide_eq_true (tenant'.symm.trans tenant), Bool.and_true]
  · rw [decide_eq_false refers, Bool.false_and]

/-- Both stores return the same conversation exactly if memory has it under the id,
with all its messages. -/
theorem ConversationsRelated.get_iff
    (related : ConversationsRelated past convs tables)
    (read : Uuid.ofText? conversationId = some uuid) :
    (tables.conversations.find? (ConversationRow.isOwned uuid tenantId userId)).map
        (withMessages tables uuid tenantId) =
      convs.get tenantId userId conversationId ↔
    ∀ row ∈ tables.conversations, row.isOwned uuid tenantId userId →
      conversationId = uuid.text ∧
        (messagesOf uuid tables).length ≤ maxMessagesPerConversation := by
  cases found : tables.conversations.find?
      (ConversationRow.isOwned uuid tenantId userId) with
  | none =>
      have nobody := List.find?_eq_none.mp found
      have absent := related.owned_eq read
        (fun row member owned => absurd owned (nobody row member))
      rw [found, Option.map_none] at absent
      rw [InMemoryConversationStore.get, absent]
      exact iff_of_true rfl fun row member owned => absurd owned (nobody row member)
  | some row =>
      have owned := List.find?_some found
      have member := List.mem_of_find?_eq_some found
      have same := id_of_isOwned owned
      rw [Option.map_some, related.withMessages_eq member owned, same]
      constructor
      · intro equal other mem owned'
        have some : (convs.owned conversationId tenantId userId).isSome := by
          have both := congrArg Option.isSome equal
          rw [InMemoryConversationStore.get, Option.isSome_map] at both
          exact both.symm
        have keyed := related.keyed_of_owned read some
        rw [InMemoryConversationStore.get, keyed, related.owned_text, found,
          Option.map_some, Option.map_some, entryOf, same] at equal
        have messages := congrArg Conversation.messages (Option.some.inj equal)
        have lengths := congrArg List.length messages
        dsimp only at lengths
        rw [List.length_map, List.length_map, length_recent] at lengths
        exact ⟨keyed, by omega⟩
      · intro portable
        have keyed := (portable row member owned).1
        have short := (portable row member owned).2
        rw [InMemoryConversationStore.get, keyed, related.owned_text, found,
          Option.map_some, Option.map_some, entryOf, same, recent_of_length_le short]

/-- Messages of the other conversations stay. -/
theorem ConversationsRelated.entryOf_without
    (related : ConversationsRelated past convs tables)
    (meant : ConversationRow → Bool) {row : ConversationRow}
    (member : row ∈ tables.conversations) (stays : ¬ meant row) :
    entryOf (without tables meant) row = entryOf tables row := by
  have kept : messagesOf row.id (without tables meant) = messagesOf row.id tables := by
    rw [messagesOf, without, deleteWhere, deleteWhere]
    dsimp only
    rw [List.filter_filter, messagesOf]
    apply List.filter_congr
    intro message _
    by_cases refers : message.conversationId = row.id
    · have stays' : ((tables.conversations.filter meant).any fun other =>
          decide (other.id = message.conversationId)) = false := by
        rw [List.any_eq_false]
        intro other mem same
        rcases List.mem_filter.mp mem with ⟨mem, deleted⟩
        have row_eq := related.records.unique mem member
          ((of_decide_eq_true same).trans refers)
        exact stays (row_eq ▸ deleted)
      rw [stays', Bool.not_false, Bool.and_true]
    · rw [decide_eq_false refers, Bool.false_and]
  rw [entryOf, entryOf, kept]

theorem without_of_none {meant : ConversationRow → Bool}
    (nobody : ∀ row ∈ tables.conversations, ¬ meant row) :
    without tables meant = tables := by
  have stay : (tables.conversations.filter fun row => !meant row) =
      tables.conversations :=
    List.filter_eq_self.mpr fun row member => by simpa using nobody row member
  have none : tables.conversations.filter meant = [] :=
    List.filter_eq_nil_iff.mpr nobody
  have all : (tables.messages.filter fun message =>
        !([] : List ConversationRow).any fun row => row.id = message.conversationId) =
      tables.messages := List.filter_eq_self.mpr fun _ _ => rfl
  rw [without, deleteWhere, deleteWhere, stay, none, all]

/-- A deletion deletes the same conversation of both stores. -/
theorem ConversationsRelated.delete
    (related : ConversationsRelated past convs tables)
    (keyed : ∀ row ∈ tables.conversations, row.isOwned uuid tenantId userId →
      conversationId = uuid.text)
    (owned : convs.owned conversationId tenantId userId =
      (tables.conversations.find?
        (ConversationRow.isOwned uuid tenantId userId)).map (entryOf tables)) :
    (convs.delete tenantId userId conversationId).1 =
        decide (0 < (deleteWhere (ConversationRow.isOwned uuid tenantId userId)
          tables.conversations).1) ∧
      ConversationsRelated past (convs.delete tenantId userId conversationId).2
        (without tables (ConversationRow.isOwned uuid tenantId userId)) := by
  have counted (rows : List ConversationRow) (meant : ConversationRow → Bool) :
      decide (0 < (deleteWhere meant rows).1) = (rows.find? meant).isSome := by
    rw [deleteWhere, Bool.eq_iff_iff, decide_eq_true_eq, List.countP_pos_iff,
      List.find?_isSome]
  rw [counted, InMemoryConversationStore.delete, owned]
  cases found : tables.conversations.find?
      (ConversationRow.isOwned uuid tenantId userId) with
  | none =>
      rw [without_of_none (List.find?_eq_none.mp found)]
      exact ⟨rfl, related⟩
  | some row =>
      have mine := List.find?_some found
      have member := List.mem_of_find?_eq_some found
      have canonical := keyed row member mine
      refine ⟨rfl, ?_, ?_, ?_, ?_, ?_⟩
      · have erased : (convs.items.filter fun item => item.1 ≠ conversationId) =
            itemsOf (fun row => row.id.text) (entryOf tables)
              (tables.conversations.filter fun row =>
                !row.isOwned uuid tenantId userId) := by
          rw [related.items, itemsOf, itemsOf, List.filter_map]
          congr 1
          apply List.filter_congr
          intro other mem
          rw [Function.comp_apply, Bool.eq_iff_iff, decide_eq_true_eq, canonical,
            Bool.not_eq_true', ← Bool.not_eq_true, not_iff_not]
          constructor
          · intro same
            have row_eq := related.records.unique mem member
              ((Uuid.text_injective same).trans (id_of_isOwned mine).symm)
            exact row_eq ▸ mine
          · exact fun owned => congrArg Uuid.text (id_of_isOwned owned)
        refine Eq.trans erased (List.map_congr_left ?_)
        intro other kept
        rcases List.mem_filter.mp kept with ⟨mem, stays⟩
        rw [related.entryOf_without _ mem (by simpa using stays)]
      · exact related.records.deleteWhere _
      · exact related.messages.deleteWhere _
      · intro message kept
        rcases List.mem_filter.mp kept with ⟨stored, stays⟩
        rcases related.referring message stored with ⟨other, mem, refers⟩
        refine ⟨other, List.mem_filter.mpr ⟨mem, ?_⟩, refers⟩
        rw [Bool.not_eq_true', Bool.eq_false_iff] at stays ⊢
        intro deleted
        exact stays (List.any_eq_true.mpr ⟨other, List.mem_filter.mpr ⟨mem, deleted⟩,
          decide_eq_true refers.1⟩)
      · exact fun other kept => related.titles other (List.mem_of_mem_filter kept)

/-! ### Appending -/

theorem storable_of_subset {text other : String} (storable : Storable other)
    (within : text.toList ⊆ other.toList) : Storable text :=
  fun nul => storable (within nul)

theorem toList_strip_subset (text : String) :
    (Str.strip text).toList ⊆ text.toList := by
  rw [Str.strip, String.toList_ofList]
  intro c member
  have inner := (List.dropWhile_suffix _).subset (List.mem_reverse.mp member)
  exact (List.dropWhile_suffix _).subset (List.mem_reverse.mp inner)

/-- A title is given by the first characters of a content. -/
theorem storable_retitled {row : ConversationRow} {role content : String}
    (title : Storable row.title) (storable : Storable (Str.take content maxContentLen)) :
    Storable (InMemoryConversationStore.retitled row.conversation role content) := by
  rw [InMemoryConversationStore.retitled]
  split
  · dsimp only
    split
    · exact title
    · apply storable_of_subset storable
      apply List.Subset.trans (toList_strip_subset _)
      rw [Str.take, Str.take, String.toList_ofList, String.toList_ofList]
      exact (List.take_sublist_take_left (by decide)).subset
  · exact title

/-- The entry of the conversation after a message. -/
theorem entryOf_withMessage_self (owner : ConversationRow) (content : String)
    (message : MessageRow) (same : owner.id = message.conversationId) :
    entryOf (withMessage tables owner content message)
        { owner with
          updatedAt := message.createdAt
          title := InMemoryConversationStore.retitled owner.conversation message.role
            content } =
      InMemoryConversationStore.appended (entryOf tables owner) message.message
        content := by
  have listed : messagesOf owner.id (withMessage tables owner content message) =
      messagesOf owner.id tables ++ [message] := by
    rw [messagesOf, withMessage, List.filter_append, messagesOf,
      List.filter_singleton, same, decide_eq_true rfl]
    rfl
  have room : 0 < maxMessagesPerConversation := by decide
  rw [entryOf, listed, ← recent_map, List.map_append, List.map_singleton,
    ← recent_push room, recent_map]
  rfl

/-- The entries of the others stay. -/
theorem entryOf_withMessage_other (owner row : ConversationRow) (content : String)
    (message : MessageRow) (other : row.id ≠ message.conversationId) :
    entryOf (withMessage tables owner content message) row = entryOf tables row := by
  have listed : messagesOf row.id (withMessage tables owner content message) =
      messagesOf row.id tables := by
    rw [messagesOf, withMessage, List.filter_append, messagesOf,
      List.filter_singleton, decide_eq_false (Ne.symm other)]
    exact List.append_nil _
  rw [entryOf, entryOf, listed]

/-- A message comes last in its conversation, in both stores. -/
theorem ConversationsRelated.append
    (related : ConversationsRelated past convs tables) {owner : ConversationRow}
    {role content id : String} {now : DateTime} {messageId : Uuid}
    (history : ConversationHistory
      (past ++ [.append tenantId userId uuid.text role content id now]))
    (member : owner ∈ tables.conversations)
    (owned : owner.isOwned uuid tenantId userId)
    (storable : Storable (Str.take content maxContentLen))
    (named : id = messageId.text) :
    (∀ other ∈ tables.messages, other.id ≠ messageId) ∧
      ConversationsRelated
        (past ++ [.append tenantId userId uuid.text role content id now])
        (convs.insert uuid.text (InMemoryConversationStore.appended
          (entryOf tables owner) ⟨id, role, Str.take content maxContentLen, now⟩
            content))
        (withMessage tables owner content ⟨messageId, uuid, tenantId, userId, role,
          Str.take content maxContentLen, now⟩) := by
  have creations : createdConversations
        (past ++ [.append tenantId userId uuid.text role content id now]) =
      createdConversations past := by
    rw [createdConversations, List.filterMap_append]
    exact List.append_nil _
  have generations : generatedMessages
        (past ++ [.append tenantId userId uuid.text role content id now]) =
      generatedMessages past ++ [(id, now)] := by
    rw [generatedMessages, List.filterMap_append]
    rfl
  have orderly := history.generated
  rw [generations] at orderly
  have same := id_of_isOwned owned
  subst named
  have distinct : (tables.conversations.map fun row => row.id.text).Nodup := by
    have texts := related.records.distinct.map (fun _ _ => Uuid.text_injective)
    rwa [List.map_map] at texts
  have fresh := related.messages.fresh ⟨messageId, uuid, tenantId, userId, role,
    Str.take content maxContentLen, now⟩ orderly rfl
  refine ⟨fresh, ?_, ?_, ?_, ?_, ?_⟩
  · have present : uuid.text ∈ tables.conversations.map fun row => row.id.text :=
      List.mem_map.mpr ⟨owner, member, congrArg Uuid.text same⟩
    have assigned := congrArg (assign uuid.text (InMemoryConversationStore.appended
      (entryOf tables owner) ⟨messageId.text, role, Str.take content maxContentLen, now⟩
        content)) related.items
    rw [assign_itemsOf distinct present] at assigned
    refine Eq.trans assigned ?_
    rw [itemsOf, itemsOf, withMessage, updateWhere, List.map_map]
    apply List.map_congr_left
    intro row mem
    rw [Function.comp_apply]
    by_cases meant : row.id = uuid
    · have row_eq := related.records.unique mem member (meant.trans same.symm)
      subst row_eq
      rw [if_pos (congrArg Uuid.text same), if_pos (decide_eq_true same)]
      refine Prod.ext rfl ?_
      exact (entryOf_withMessage_self row content ⟨messageId, uuid, tenantId, userId,
        role, Str.take content maxContentLen, now⟩ same).symm
    · have other : row.id.text ≠ uuid.text := fun texts =>
        meant (Uuid.text_injective texts)
      rw [if_neg other, if_neg (by simpa using meant)]
      refine Prod.ext rfl ?_
      exact (entryOf_withMessage_other owner row content ⟨messageId, uuid, tenantId,
        userId, role, Str.take content maxContentLen, now⟩ meant).symm
  · rw [creations]
    exact related.records.updateWhere (fun _ => rfl) (fun _ => rfl)
  · rw [generations]
    exact related.messages.snoc _ orderly rfl rfl
  · -- The update keeps ids and tenants.
    have referred (message : MessageRow) (row : ConversationRow)
        (mem : row ∈ tables.conversations)
        (refers : row.id = message.conversationId ∧ row.tenantId = message.tenantId) :
        ∃ row ∈ (withMessage tables owner content ⟨messageId, uuid, tenantId, userId,
          role, Str.take content maxContentLen, now⟩).conversations,
          row.id = message.conversationId ∧ row.tenantId = message.tenantId := by
      refine ⟨_, List.mem_map_of_mem mem, ?_⟩
      split <;> exact refers
    intro message stored
    rcases List.mem_append.mp stored with old | new
    · rcases related.referring message old with ⟨row, mem, refers⟩
      exact referred message row mem refers
    · rw [List.mem_singleton.mp new]
      exact referred _ owner member ⟨same, tenantId_of_isOwned owned⟩
  · intro row stored
    rcases List.mem_map.mp stored with ⟨before, mem, rfl⟩
    split
    · exact storable_retitled (related.titles owner member) storable
    · exact related.titles before mem

/-! ### Agreement -/

open PostgresConversationStore

/-- Nothing is remembered of an operation that stores nothing. -/
theorem ConversationsRelated.skip (related : ConversationsRelated past convs tables)
    (operation : ConversationOperation) :
    ConversationsRelated (past ++ [operation]) convs tables := by
  refine ⟨related.items, ?_, ?_, related.referring, related.titles⟩
  · rw [createdConversations, List.filterMap_append]
    exact related.records.weaken _
  · rw [generatedMessages, List.filterMap_append]
    exact related.messages.weaken _

/-- The stores agree on single steps. -/
theorem conversation_agreement :
    SharedObject.Agreement conversationStore postgresConversationStore
      ConversationHistory (fun result result' => result' = .ok result)
      (fun _ tables operation => operation.Portable tables)
      ConversationsRelated where
  shortens := by
    intro past rest history
    have shorter : past.Sublist (past ++ rest) := List.sublist_append_left past rest
    have creations : (createdConversations past).Sublist
        (createdConversations (past ++ rest)) := shorter.filterMap _
    have generations : (generatedMessages past).Sublist
        (generatedMessages (past ++ rest)) := shorter.filterMap _
    exact ⟨fun generated member => history.canonical generated
        ((creations.append generations).subset member),
      history.created.sublist creations, history.generated.sublist generations⟩
  initial := ⟨rfl, .nil, .nil, nofun, nofun⟩
  agrees := by
    intro past convs tables operation history related portable
    cases operation with
    | create tenantId userId title id now =>
        have generated : (id, now) ∈ createdConversations
            (past ++ [.create tenantId userId title id now]) := by
          simp [createdConversations]
        rcases history.canonical _ (List.mem_append_left _ generated) with
          ⟨uuid, named⟩
        have created := related.create history portable.2.2 named
        have answered : create tables tenantId userId title id now = .ok _ :=
          create_eq_ok_iff.mpr
            ⟨uuid, (congrArg Uuid.ofText? named).trans (Uuid.ofText?_text uuid),
              portable, created.1, rfl⟩
        simp only [postgresConversationStore, answered, transact]
        exact ⟨rfl, created.2⟩
    | listForUser tenantId userId limit =>
        have answered := listForUser_eq_ok_iff.mpr
          ⟨portable, related.listed portable.2.2.1⟩
        simp only [postgresConversationStore, answered, readOnly]
        exact ⟨rfl, related.skip _⟩
    | get tenantId userId conversationId =>
        rcases portable with ⟨uuid, read, tenant, user, portable⟩
        have answered := get_eq_ok_iff.mpr
          ⟨uuid, read, tenant, user, (related.get_iff read).mpr portable⟩
        simp only [postgresConversationStore, answered, readOnly]
        exact ⟨rfl, related.skip _⟩
    | delete tenantId userId conversationId =>
        rcases portable with ⟨uuid, read, tenant, user, keyed⟩
        have deleted := related.delete keyed (related.owned_eq read keyed)
        have answered : delete tables tenantId userId conversationId = .ok _ :=
          delete_eq_ok_iff.mpr ⟨uuid, read, tenant, user, rfl⟩
        simp only [postgresConversationStore, answered, transact]
        exact ⟨congrArg (Except.ok ∘ ConversationResult.deleted) deleted.1.symm,
          deleted.2.skip _⟩
    | append tenantId userId conversationId role content id now =>
        rcases portable with ⟨uuid, read, tenant, user, portable⟩
        have owned := related.owned_eq read
          (fun row member mine => (portable row member mine).1)
        cases found : tables.conversations.find?
            (ConversationRow.isOwned uuid tenantId userId) with
        | none =>
            have answered : append tables tenantId userId conversationId role content
                id now = .ok (none, tables) :=
              append_eq_ok_iff.mpr ⟨uuid, read, tenant, user, by rw [found]⟩
            rw [found, Option.map_none] at owned
            simp only [postgresConversationStore, answered, transact,
              conversationStore, InMemoryConversationStore.append, owned]
            exact ⟨trivial, related.skip _⟩
        | some owner =>
            have mine := List.find?_some found
            have member := List.mem_of_find?_eq_some found
            rcases portable owner member mine with ⟨canonical, role', content'⟩
            subst canonical
            have generated : (id, now) ∈ generatedMessages
                (past ++ [.append tenantId userId uuid.text role content id now]) := by
              simp [generatedMessages]
            rcases history.canonical _ (List.mem_append_right _ generated) with
              ⟨messageId, named⟩
            have appended := related.append history member mine content' named
            have answered : append tables tenantId userId uuid.text role content id
                now = .ok (some ⟨id, role, Str.take content maxContentLen, now⟩, _) :=
              append_eq_ok_iff.mpr ⟨uuid, read, tenant, user, by
                rw [found]
                exact ⟨messageId, (congrArg Uuid.ofText? named).trans
                    (Uuid.ofText?_text messageId), role', content',
                  ⟨owner, member, id_of_isOwned mine⟩, appended.1,
                  storable_retitled (related.titles owner member) content', rfl⟩⟩
            rw [found, Option.map_some] at owned
            simp only [postgresConversationStore, answered, transact,
              conversationStore, InMemoryConversationStore.append, owned]
            exact ⟨trivial, appended.2⟩
  differs := by
    intro past convs tables operation history related unportable answered
    apply unportable
    cases operation with
    | create tenantId userId title id now =>
        rcases transact_eq_ok_iff.mp answered with ⟨_, _, done, _⟩
        rcases create_eq_ok_iff.mp done with ⟨_, _, portable, _⟩
        exact portable
    | listForUser tenantId userId limit =>
        rcases readOnly_eq_ok_iff.mp answered with ⟨_, done, _⟩
        exact (listForUser_eq_ok_iff.mp done).1
    | get tenantId userId conversationId =>
        rcases readOnly_eq_ok_iff.mp answered with ⟨_, done, same⟩
        rcases get_eq_ok_iff.mp done with ⟨uuid, read, tenant, user, returned⟩
        cases same
        exact ⟨uuid, read, tenant, user, (related.get_iff read).mp returned⟩
    | delete tenantId userId conversationId =>
        rcases transact_eq_ok_iff.mp answered with ⟨_, _, done, same⟩
        rcases delete_eq_ok_iff.mp done with ⟨uuid, read, tenant, user, returned⟩
        refine ⟨uuid, read, tenant, user, fun row member mine => ?_⟩
        apply related.keyed_of_owned read
        have counted : decide (0 < (deleteWhere
            (ConversationRow.isOwned uuid tenantId userId)
              tables.conversations).1) = true :=
          decide_eq_true (List.countP_pos_iff.mpr ⟨row, member, mine⟩)
        rw [counted] at returned
        cases returned
        cases owned : convs.owned conversationId tenantId userId with
        | none =>
            simp only [conversationStore, InMemoryConversationStore.delete, owned]
              at same
            cases same
        | some entry => rfl
    | append tenantId userId conversationId role content id now =>
        rcases transact_eq_ok_iff.mp answered with ⟨_, _, done, same⟩
        rcases append_eq_ok_iff.mp done with ⟨uuid, read, tenant, user, returned⟩
        refine ⟨uuid, read, tenant, user, fun row member mine => ?_⟩
        cases found : tables.conversations.find?
            (ConversationRow.isOwned uuid tenantId userId) with
        | none => exact absurd mine (List.find?_eq_none.mp found row member)
        | some owner =>
            rw [found] at returned
            rcases returned with ⟨_, _, role', content', _, _, _, returned⟩
            cases returned
            have some : (convs.owned conversationId tenantId userId).isSome := by
              cases owned : convs.owned conversationId tenantId userId with
              | none =>
                  simp only [conversationStore, InMemoryConversationStore.append,
                    owned] at same
                  cases same
              | some entry => rfl
            exact ⟨related.keyed_of_owned read some, role', content'⟩

end Both

/-! ## Whole histories -/

/-- The stores return equal results exactly if, before each operation, the database
takes its parameters and memory has under its id what the tables have. -/
theorem conversation_backends_agree_iff {history : List ConversationOperation}
    (wellFormed : ConversationHistory history) :
    ConversationBackendsAgree history ↔
      ∀ past operation rest, history = past ++ operation :: rest →
        operation.Portable (postgresConversationStore.after past) :=
  conversation_agreement.answers_iff wellFormed

/-- A conversation is looked for before there is one, held, listed beside another
one and deleted. -/
def dialogue : List ConversationOperation :=
  let one := (Uuid.repeated (10, 11)).text
  let other := (Uuid.repeated (10, 12)).text
  [.get "acme.com" "ana" one,
    .create "acme.com" "ana" "New conversation" one (.fullHour 9),
    .append "acme.com" "ana" one "user" "Hello" (Uuid.repeated (1, 1)).text
      (.fullHour 10),
    .append "acme.com" "ana" one "assistant" "Hi." (Uuid.repeated (1, 2)).text
      (.fullHour 11),
    .create "acme.com" "ana" "Plans" other (.fullHour 12),
    .listForUser "acme.com" "ana" 50,
    .get "acme.com" "ana" one,
    .delete "acme.com" "ana" one,
    .append "acme.com" "ana" one "user" "Bye" (Uuid.repeated (1, 3)).text
      (.fullHour 13),
    .get "acme.com" "ana" one]

theorem conversationHistory_dialogue : ConversationHistory dialogue where
  canonical := by
    simp [dialogue, createdConversations, generatedMessages, Uuid.isCanonical_text]
  created := ⟨by decide +kernel, by decide +kernel⟩
  generated := ⟨by decide +kernel, by decide +kernel⟩

theorem conversation_backends_agree_iff_dialogue :
    ConversationBackendsAgree dialogue := by
  apply (conversation_backends_agree_iff conversationHistory_dialogue).mpr
  have read := Uuid.ofText?_text (Uuid.repeated (10, 11))
  have tenant : Storable "acme.com" := by decide
  have user : Storable "ana" := by decide
  have role : Storable "user" ∧ Storable "assistant" := by decide
  rw [dialogue]
  simp only [SharedObject.forall_split_cons]
  refine ⟨⟨_, read, tenant, user, fun _ _ _ => ⟨rfl, by decide +kernel⟩⟩,
    ⟨tenant, user, by decide⟩,
    ⟨_, read, tenant, user, fun _ _ _ => ⟨rfl, role.1, by decide⟩⟩,
    ⟨_, read, tenant, user, fun _ _ _ => ⟨rfl, role.2, by decide⟩⟩,
    ⟨tenant, user, by decide⟩,
    ⟨tenant, user, by decide, by decide⟩,
    ⟨_, read, tenant, user, fun _ _ _ => ⟨rfl, by decide +kernel⟩⟩,
    ⟨_, read, tenant, user, fun _ _ _ => rfl⟩,
    ⟨_, read, tenant, user, fun _ _ _ => ⟨rfl, role.1, by decide⟩⟩,
    ⟨_, read, tenant, user, fun _ _ _ => ⟨rfl, by decide +kernel⟩⟩,
    SharedObject.forall_split_nil⟩

/-- An id that is no `uuid` is not found in memory and rejected by the server. -/
theorem conversation_backends_differ :
    ConversationHistory [.get "acme.com" "ana" "x"] ∧
      ¬ ConversationBackendsAgree [.get "acme.com" "ana" "x"] := by
  refine ⟨⟨nofun, ⟨List.nodup_nil, .nil⟩, ⟨List.nodup_nil, .nil⟩⟩, ?_⟩
  intro agree
  cases (List.forall₂_cons.mp agree).1

end PrivateAiWorkspace.ControlPlane
