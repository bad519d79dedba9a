import Mathlib.Data.List.Permutation
import PrivateAiWorkspace.ControlPlane.ConversationBackends
import PrivateAiWorkspace.Effects.Linearization
import PrivateAiWorkspace.Postgres.Sessions

/-!
# Concurrent writes to conversations

`append` and `delete` of `PostgresConversationStore` as the statements they issue.
`append` reads the title, computes the next one and writes it back, so that what it
writes may be out of date by then.
-/

namespace PrivateAiWorkspace.ControlPlane

open Effects Postgres Python

/-- The statements of `append` and `delete`, with their parameters. -/
inductive ConversationStatement where
  | selectTitle (conversationId tenantId userId : String)
  | insertMessage (id conversationId tenantId userId role content : String)
      (createdAt : DateTime)
  | updateConversation (updatedAt : DateTime) (title conversationId : String)
  | deleteConversation (conversationId tenantId userId : String)

/-- What the statements return: a title, nothing, nothing, and `cur.rowcount`. -/
def conversationStatements : Interface where
  Call := ConversationStatement
  Answer
    | .selectTitle .. => Option String
    | .insertMessage .. => Unit
    | .updateConversation .. => Unit
    | .deleteConversation .. => Nat

/-- What is locked: rows of both tables, by their primary keys. -/
inductive ConversationKey where
  | conversation (id : Uuid)
  | message (id : Uuid)
  deriving DecidableEq

/-- The row of a message, from the parameters of its statement. -/
def messageRow (id conversationId tenantId userId role content : String)
    (createdAt : DateTime) : Except DatabaseError MessageRow := do
  let id ← uuidParameter id
  let conversationId ← uuidParameter conversationId
  let tenantId ← textParameter tenantId
  let userId ← textParameter userId
  let role ← textParameter role
  let content ← textParameter content
  return { id, conversationId, tenantId, userId, role, content, createdAt }

/-- The conversation an operation of a principal is about. -/
def ownedRow (conversationId tenantId userId : String) :
    Except DatabaseError (ConversationRow → Bool) := do
  let id ← uuidParameter conversationId
  let tenantId ← textParameter tenantId
  let userId ← textParameter userId
  return ConversationRow.isOwned id tenantId userId

/-- Tables with one more message. -/
def insertRow (row : MessageRow) (tables : ConversationTables) : ConversationTables :=
  { tables with messages := tables.messages ++ [row] }

/-- Tables with a title and a time of update. -/
def retitleRow (uuid : Uuid) (title : String) (updatedAt : DateTime)
    (tables : ConversationTables) : ConversationTables :=
  { tables with
    conversations := (updateWhere (fun row => row.id = uuid)
      (fun row => { row with updatedAt, title }) tables.conversations).2 }

/-- The messages that go with some conversations. -/
def cascade (meant : ConversationRow → Bool) (tables : ConversationTables) :
    List MessageRow :=
  tables.messages.filter fun message =>
    (tables.conversations.filter meant).any fun row =>
      row.id = message.conversationId

/-- The rows a statement locks: the one inserted and the one it refers to, those
updated, and those deleted with all that goes with them. -/
def conversationLocks (statement : ConversationStatement)
    (tables : ConversationTables) : List (ConversationKey × RowLock) :=
  match statement with
  | .selectTitle .. => []
  | .insertMessage id conversationId tenantId userId role content createdAt =>
      match messageRow id conversationId tenantId userId role content createdAt with
      | .error _ => []
      | .ok row =>
          [(.message row.id, .update), (.conversation row.conversationId, .keyShare)]
  | .updateConversation _ _ conversationId =>
      match uuidParameter conversationId with
      | .error _ => []
      | .ok uuid =>
          (tables.conversations.filter fun row => row.id = uuid).map fun row =>
            (.conversation row.id, .noKeyUpdate)
  | .deleteConversation conversationId tenantId userId =>
      match ownedRow conversationId tenantId userId with
      | .error _ => []
      | .ok meant =>
          ((tables.conversations.filter meant).map fun row =>
            (.conversation row.id, .update)) ++
          (cascade meant tables).map fun message => (.message message.id, .update)

/-- What the statements return and write. -/
def executeConversation : (statement : ConversationStatement) →
    ConversationTables → Except DatabaseError
      (conversationStatements.Answer statement ×
        (ConversationTables → ConversationTables))
  | .selectTitle conversationId tenantId userId, tables => do
      let meant ← ownedRow conversationId tenantId userId
      return ((tables.conversations.find? meant).map ConversationRow.title, id)
  | .insertMessage id conversationId tenantId userId role content createdAt,
      tables => do
      let row ←
        messageRow id conversationId tenantId userId role content createdAt
      let _ ← insertUnique MessageRow.id row tables.messages
      checkReference ConversationRow.id row.conversationId tables.conversations
      return ((), insertRow row)
  | .updateConversation updatedAt title conversationId, _ => do
      let title ← textParameter title
      let uuid ← uuidParameter conversationId
      return ((), retitleRow uuid title updatedAt)
  | .deleteConversation conversationId tenantId userId, tables => do
      let meant ← ownedRow conversationId tenantId userId
      return ((deleteWhere meant tables.conversations).1,
        fun tables => without tables meant)

/-- The server as both operations use it. -/
def conversationSemantics :
    StatementSemantics conversationStatements ConversationKey
      ConversationTables where
  locks := conversationLocks
  execute := executeConversation

/-! ## Both operations -/

/-- A program over a connection. -/
abbrev Connected (α : Type) :=
  Program (connection conversationStatements) DatabaseError α

/-- `conn.execute` for these statements. -/
def run (statement : ConversationStatement) :
    Connected (conversationStatements.Answer statement) :=
  @Postgres.execute conversationStatements statement

/-- The title `append` writes after a message, from the title it has read. -/
def titleAfter (title role content : String) : String :=
  if title = "New conversation" && role = "user" then
    let seeded := Str.strip (Str.take content maxTitleLen)
    if seeded = "" then title else seeded
  else title

namespace ConversationTransactions

/-- `append` with a generated id at a time. -/
def append (tenantId userId conversationId role content id : String)
    (now : DateTime) : Connected (Option Message) := do
  let owner : Option String ← run (.selectTitle conversationId tenantId userId)
  match owner with
  | none => return none
  | some title =>
      let message : Message :=
        { id, role, content := Str.take content maxContentLen, createdAt := now }
      run (.insertMessage message.id conversationId tenantId userId role
        message.content now)
      run (.updateConversation now (titleAfter title role content) conversationId)
      commit
      return some message

/-- `delete`. -/
def delete (tenantId userId conversationId : String) : Connected Bool := do
  let rowcount : Nat ← run (.deleteConversation conversationId tenantId userId)
  commit
  return decide (0 < rowcount)

end ConversationTransactions

/-- An operation that writes to a conversation, with the id it generates and the
time it reads. -/
inductive ConversationWrite where
  | append (tenantId userId conversationId role content id : String)
      (now : DateTime)
  | delete (tenantId userId conversationId : String)

/-- A principal has a conversation. -/
def Owned (tables : ConversationTables) (uuid : Uuid) (tenantId userId : String) :
    Prop :=
  ∃ row ∈ tables.conversations, row.isOwned uuid tenantId userId

instance (tables : ConversationTables) (uuid : Uuid) (tenantId userId : String) :
    Decidable (Owned tables uuid tenantId userId) :=
  inferInstanceAs (Decidable (∃ row ∈ tables.conversations,
    row.isOwned uuid tenantId userId = true))

namespace ConversationWrite

/-- As an operation of the store. -/
def operation : ConversationWrite → ConversationOperation
  | .append tenantId userId conversationId role content id now =>
      .append tenantId userId conversationId role content id now
  | .delete tenantId userId conversationId => .delete tenantId userId conversationId

/-- As the statements the code issues. -/
def program : ConversationWrite → Connected ConversationResult
  | .append tenantId userId conversationId role content id now =>
      (ConversationTransactions.append tenantId userId conversationId role content id
        now).bind fun message => .ret (.appended message)
  | .delete tenantId userId conversationId =>
      (ConversationTransactions.delete tenantId userId conversationId).bind fun found =>
        .ret (.deleted found)

/-- What a statement relies on from the reading before it: the message's conversation
is still there, and the title written is the one that follows the present title. -/
def Undisturbed (tables : ConversationTables) (write : ConversationWrite) :
    Connected ConversationResult → Prop
  | .call (.execute (.insertMessage id conversationId tenantId userId role content
      createdAt)) _ =>
      ∀ row ∈ (messageRow id conversationId tenantId userId role content
        createdAt).toOption, Owned tables row.conversationId tenantId userId
  | .call (.execute (.updateConversation _ title _)) _ =>
      match write with
      | .append tenantId userId conversationId role content _ _ =>
          ∀ uuid ∈ Uuid.ofText? conversationId,
            ∀ row ∈ tables.conversations, row.isOwned uuid tenantId userId →
              titleAfter row.title role content = title
      | .delete .. => True
  | _ => True

instance (tables : ConversationTables) (write : ConversationWrite) :
    (program : Connected ConversationResult) →
      Decidable (write.Undisturbed tables program)
  | .call (.execute (.insertMessage id conversationId tenantId userId role content
      createdAt)) _ =>
      inferInstanceAs (Decidable (∀ row ∈ (messageRow id conversationId tenantId userId
        role content createdAt).toOption,
          Owned tables row.conversationId tenantId userId))
  | .call (.execute (.updateConversation _ title _)) _ =>
      match write with
      | .append tenantId userId conversationId role content _ _ =>
          inferInstanceAs (Decidable (∀ uuid ∈ Uuid.ofText? conversationId,
            ∀ row ∈ tables.conversations, row.isOwned uuid tenantId userId →
              titleAfter row.title role content = title))
      | .delete .. => .isTrue trivial
  | .call (.execute (.selectTitle ..)) _ => .isTrue trivial
  | .call (.execute (.deleteConversation ..)) _ => .isTrue trivial
  | .call .commit _ => .isTrue trivial
  | .ret _ => .isTrue trivial
  | .raise _ => .isTrue trivial

end ConversationWrite

/-- The store in front of some tables. -/
def conversationStoreOver (tables : ConversationTables) :
    SharedObject ConversationTables ConversationOperation
      (Except DatabaseError ConversationResult) Principal :=
  { postgresConversationStore with initial := tables }

/-! ## The store, by the same parameters -/

section Store

variable {tables : ConversationTables} {tenantId userId conversationId : String}
  {role content id : String} {now : DateTime} {uuid : Uuid} {error : DatabaseError}

theorem retitled_conversation (owner : ConversationRow) (role content : String) :
    InMemoryConversationStore.retitled owner.conversation role content =
      titleAfter owner.title role content := rfl

theorem ownedRow_eq_ok_iff {meant : ConversationRow → Bool} :
    ownedRow conversationId tenantId userId = .ok meant ↔
      ∃ uuid, Uuid.ofText? conversationId = some uuid ∧ Storable tenantId ∧
        Storable userId ∧ ConversationRow.isOwned uuid tenantId userId = meant := by
  simp only [ownedRow, bind_eq_ok_iff, uuidParameter_eq_ok_iff,
    textParameter_eq_ok_iff, and_assoc, exists_and_left, exists_eq_left', pure,
    Except.pure, Except.ok.injEq]

theorem messageRow_eq_ok_iff {row : MessageRow} :
    messageRow id conversationId tenantId userId role content now = .ok row ↔
      ∃ messageId, Uuid.ofText? id = some messageId ∧
      ∃ uuid, Uuid.ofText? conversationId = some uuid ∧ Storable tenantId ∧
        Storable userId ∧ Storable role ∧ Storable content ∧
        ⟨messageId, uuid, tenantId, userId, role, content, now⟩ = row := by
  simp only [messageRow, bind_eq_ok_iff, uuidParameter_eq_ok_iff,
    textParameter_eq_ok_iff, and_assoc, exists_and_left, exists_eq_left', pure,
    Except.pure, Except.ok.injEq]

/-- An operation fails with its first parameters. -/
theorem append_of_ownedRow_error
    (failed : ownedRow conversationId tenantId userId = .error error) :
    PostgresConversationStore.append tables tenantId userId conversationId role
      content id now = .error error := by
  simp only [ownedRow, bind_eq_error_iff] at failed
  simp only [PostgresConversationStore.append, bind_eq_error_iff]
  rcases failed with failed | ⟨uuid, read, failed | ⟨tenant, tenant', failed⟩⟩
  · exact Or.inl failed
  · exact Or.inr ⟨uuid, read, Or.inl failed⟩
  · rcases failed with failed | ⟨user, _, impossible⟩
    · exact Or.inr ⟨uuid, read, Or.inr ⟨tenant, tenant', Or.inl failed⟩⟩
    · cases impossible

theorem delete_of_ownedRow_error
    (failed : ownedRow conversationId tenantId userId = .error error) :
    PostgresConversationStore.delete tables tenantId userId conversationId =
      .error error := by
  simp only [ownedRow, bind_eq_error_iff] at failed
  simp only [PostgresConversationStore.delete, bind_eq_error_iff]
  rcases failed with failed | ⟨uuid, read, failed | ⟨tenant, tenant', failed⟩⟩
  · exact Or.inl failed
  · exact Or.inr ⟨uuid, read, Or.inl failed⟩
  · rcases failed with failed | ⟨user, _, impossible⟩
    · exact Or.inr ⟨uuid, read, Or.inr ⟨tenant, tenant', Or.inl failed⟩⟩
    · cases impossible

/-- `append` once its first parameters are read. -/
theorem append_of_read (read : Uuid.ofText? conversationId = some uuid)
    (tenant : Storable tenantId) (user : Storable userId) :
    PostgresConversationStore.append tables tenantId userId conversationId role
        content id now =
      match tables.conversations.find?
          (ConversationRow.isOwned uuid tenantId userId) with
      | none => .ok (none, tables)
      | some owner => do
          let row ← messageRow id conversationId tenantId userId role
            (Str.take content maxContentLen) now
          checkReference ConversationRow.id row.conversationId tables.conversations
          let _ ← insertUnique MessageRow.id row tables.messages
          let _ ← textParameter (titleAfter owner.title role content)
          return (some ⟨id, role, Str.take content maxContentLen, now⟩,
            retitleRow row.conversationId (titleAfter owner.title role content) now
              (insertRow row tables)) := by
  have readUuid : uuidParameter conversationId = .ok uuid :=
    uuidParameter_eq_ok_iff.mpr read
  have readTenant : textParameter tenantId = .ok tenantId :=
    textParameter_eq_ok_iff.mpr ⟨tenant, rfl⟩
  have readUser : textParameter userId = .ok userId :=
    textParameter_eq_ok_iff.mpr ⟨user, rfl⟩
  simp only [PostgresConversationStore.append, messageRow, readUuid, readTenant,
    readUser]
  -- Both sides fail with the first of their parts that fails.
  dsimp only [bind, Except.bind, pure, Except.pure]
  cases tables.conversations.find? (ConversationRow.isOwned uuid tenantId userId) with
  | none => rfl
  | some owner =>
      cases uuidParameter id with
      | error => rfl
      | ok messageId =>
          cases roleRead : textParameter role with
          | error => rfl
          | ok role' =>
              cases (textParameter_eq_ok_iff.mp roleRead).2
              cases contentRead : textParameter (Str.take content maxContentLen) with
              | error => rfl
              | ok content' =>
                  cases (textParameter_eq_ok_iff.mp contentRead).2
                  dsimp only
                  cases checkReference ConversationRow.id uuid
                      tables.conversations with
                  | error => rfl
                  | ok =>
                      dsimp only
                      cases inserted : insertUnique MessageRow.id
                          ⟨messageId, uuid, tenantId, userId, role,
                            Str.take content maxContentLen, now⟩
                          tables.messages with
                      | error => rfl
                      | ok messages =>
                          cases (insertUnique_eq_ok_iff.mp inserted).2
                          rw [retitled_conversation]
                          cases titled : textParameter
                              (titleAfter owner.title role content) with
                          | error => rfl
                          | ok title =>
                              cases (textParameter_eq_ok_iff.mp titled).2
                              rfl

theorem Owned.find? (owned : Owned tables uuid tenantId userId) :
    ∃ owner ∈ tables.conversations, owner.isOwned uuid tenantId userId ∧
      tables.conversations.find? (ConversationRow.isOwned uuid tenantId userId) =
        some owner := by
  rcases owned with ⟨row, member, mine⟩
  cases found : tables.conversations.find?
      (ConversationRow.isOwned uuid tenantId userId) with
  | none => exact absurd mine (List.find?_eq_none.mp found row member)
  | some owner =>
      exact ⟨owner, List.mem_of_find?_eq_some found, List.find?_some found, rfl⟩

theorem find?_of_not_owned (unowned : ¬ Owned tables uuid tenantId userId) :
    tables.conversations.find? (ConversationRow.isOwned uuid tenantId userId) =
      none :=
  List.find?_eq_none.mpr fun row member mine => unowned ⟨row, member, mine⟩

/-- The message refers to the conversation of the caller. -/
theorem Owned.checkReference (owned : Owned tables uuid tenantId userId) :
    checkReference ConversationRow.id uuid tables.conversations = .ok () := by
  rcases owned with ⟨row, member, mine⟩
  exact checkReference_eq_ok_iff.mpr ⟨row, member, id_of_isOwned mine⟩

section Read

variable (read : Uuid.ofText? conversationId = some uuid) (tenant : Storable tenantId)
  (user : Storable userId)

include read tenant user

theorem append_of_not_owned (unowned : ¬ Owned tables uuid tenantId userId) :
    PostgresConversationStore.append tables tenantId userId conversationId role
      content id now = .ok (none, tables) := by
  rw [append_of_read read tenant user, find?_of_not_owned unowned]

variable (owned : Owned tables uuid tenantId userId)

include owned

theorem append_of_messageRow_error
    (failed : messageRow id conversationId tenantId userId role
      (Str.take content maxContentLen) now = .error error) :
    PostgresConversationStore.append tables tenantId userId conversationId role
      content id now = .error error := by
  rcases owned.find? with ⟨owner, _, _, found⟩
  rw [append_of_read read tenant user, found]
  simp only [failed, bind, Except.bind]

variable {row : MessageRow}
  (row_eq : messageRow id conversationId tenantId userId role
    (Str.take content maxContentLen) now = .ok row)

include row_eq

theorem append_of_insert_error
    (failed : insertUnique MessageRow.id row tables.messages = .error error) :
    PostgresConversationStore.append tables tenantId userId conversationId role
      content id now = .error error := by
  rcases owned.find? with ⟨owner, _, _, found⟩
  rcases messageRow_eq_ok_iff.mp row_eq with ⟨_, _, uuid', read', _, _, _, _, rfl⟩
  cases Option.some.inj (read.symm.trans read')
  rw [append_of_read read tenant user, found]
  simp only [row_eq, owned.checkReference, failed, bind, Except.bind]

variable (fresh : ∀ message ∈ tables.messages, message.id ≠ row.id) {title : String}
  (titles : ∀ owner ∈ tables.conversations, owner.isOwned uuid tenantId userId →
    titleAfter owner.title role content = title)

include fresh titles

theorem append_of_title_error (failed : textParameter title = .error error) :
    PostgresConversationStore.append tables tenantId userId conversationId role
      content id now = .error error := by
  rcases owned.find? with ⟨owner, member, mine, found⟩
  rcases messageRow_eq_ok_iff.mp row_eq with ⟨_, _, uuid', read', _, _, _, _, rfl⟩
  cases Option.some.inj (read.symm.trans read')
  rw [append_of_read read tenant user, found]
  simp only [row_eq, owned.checkReference, titles owner member mine, failed,
    insertUnique_eq_ok_iff.mpr ⟨fresh, rfl⟩, bind, Except.bind]

theorem append_of_stored (storable : Storable title) :
    PostgresConversationStore.append tables tenantId userId conversationId role
      content id now =
        .ok (some ⟨id, role, Str.take content maxContentLen, now⟩,
          retitleRow uuid title now (insertRow row tables)) := by
  rcases owned.find? with ⟨owner, member, mine, found⟩
  rcases messageRow_eq_ok_iff.mp row_eq with ⟨_, _, uuid', read', _, _, _, _, rfl⟩
  cases Option.some.inj (read.symm.trans read')
  rw [append_of_read read tenant user, found]
  simp only [row_eq, owned.checkReference, titles owner member mine,
    textParameter_eq_ok_iff.mpr ⟨storable, rfl⟩,
    insertUnique_eq_ok_iff.mpr ⟨fresh, rfl⟩, bind, Except.bind, pure, Except.pure]

end Read

end Store

/-! ## What a commit changes -/

/-- Tables change only where locks allow it. -/
structure Covered (locks : List (ConversationKey × RowLock))
    (tables tables' : ConversationTables) : Prop where
  kept : ∀ {uuid tenantId userId}, (.conversation uuid, .update) ∉ locks →
    Owned tables uuid tenantId userId → Owned tables' uuid tenantId userId
  origin : ∀ {uuid tenantId userId},
    Owned tables' uuid tenantId userId → Owned tables uuid tenantId userId
  unedited : ∀ {row}, row ∈ tables'.conversations →
    (.conversation row.id, .noKeyUpdate) ∉ locks → row ∈ tables.conversations
  known : ∀ {message}, message ∈ tables'.messages →
    (.message message.id, .update) ∉ locks → message ∈ tables.messages

theorem Covered.refl (locks : List (ConversationKey × RowLock))
    (tables : ConversationTables) : Covered locks tables tables :=
  ⟨fun _ owned => owned, id, fun member _ => member, fun member _ => member⟩

section Commits

variable {locks : List (ConversationKey × RowLock)} {tables : ConversationTables}
  {uuid : Uuid} {tenantId userId title : String} {now : DateTime} {row : MessageRow}

theorem mem_retitleRow {edited : ConversationRow} :
    edited ∈ (retitleRow uuid title now tables).conversations ↔
      ∃ row ∈ tables.conversations,
        (if row.id = uuid then { row with updatedAt := now, title } else row) =
          edited := by
  simp only [retitleRow, updateWhere, List.mem_map, decide_eq_true_eq]

/-- A new title changes no owner. -/
theorem owned_retitleRow {uuid' : Uuid} :
    Owned (retitleRow uuid title now tables) uuid' tenantId userId ↔
      Owned tables uuid' tenantId userId := by
  constructor
  · intro owned
    rcases owned with ⟨edited, member, mine⟩
    rcases mem_retitleRow.mp member with ⟨row, member', same⟩
    refine ⟨row, member', ?_⟩
    rw [← same] at mine
    split at mine
    next => exact mine
    next => exact mine
  · intro owned
    rcases owned with ⟨row, member, mine⟩
    refine ⟨_, mem_retitleRow.mpr ⟨row, member, rfl⟩, ?_⟩
    split
    next => exact mine
    next => exact mine

/-- A message and a title are written under the locks of both rows. -/
theorem covered_of_append (inserted : (.message row.id, .update) ∈ locks)
    (updated : (.conversation uuid, .noKeyUpdate) ∈ locks) :
    Covered locks tables (retitleRow uuid title now (insertRow row tables)) where
  kept _ owned := owned_retitleRow.mpr owned
  origin owned := owned_retitleRow.mp owned
  unedited := by
    intro edited member unlocked
    rcases mem_retitleRow.mp member with ⟨row, member', same⟩
    split at same
    next found =>
      rw [← same] at unlocked
      exact absurd (found ▸ updated) unlocked
    next => exact same ▸ member'
  known := by
    intro message member unlocked
    rcases List.mem_append.mp member with known | new
    · exact known
    · cases List.mem_singleton.mp new
      exact absurd inserted unlocked

theorem mem_without {meant : ConversationRow → Bool} {row : ConversationRow} :
    row ∈ (without tables meant).conversations ↔
      row ∈ tables.conversations ∧ meant row = false := by
  simp only [without, deleteWhere, List.mem_filter, Bool.not_eq_true']

/-- A conversation is deleted under its lock. -/
theorem covered_of_delete
    (deleted : Owned tables uuid tenantId userId →
      (.conversation uuid, .update) ∈ locks) :
    Covered locks tables
      (without tables (ConversationRow.isOwned uuid tenantId userId)) where
  kept := by
    intro uuid' tenantId' userId' unlocked owned
    rcases owned with ⟨row, member, mine⟩
    refine ⟨row, mem_without.mpr ⟨member, ?_⟩, mine⟩
    apply Bool.eq_false_iff.mpr
    intro meant
    have same : uuid' = uuid := (id_of_isOwned mine).symm.trans (id_of_isOwned meant)
    exact unlocked (same ▸ deleted ⟨row, member, meant⟩)
  origin owned := by
    rcases owned with ⟨row, member, mine⟩
    exact ⟨row, (mem_without.mp member).1, mine⟩
  unedited member _ := (mem_without.mp member).1
  known member _ := List.mem_of_mem_filter member

end Commits

/-! ## How far a transaction has come -/

section Stages

variable (tenantId userId conversationId role content id : String) (now : DateTime)
  (title : String)

/-- `append` once it has read a title. -/
def storing : Connected (Option Message) := do
  run (.insertMessage id conversationId tenantId userId role
    (Str.take content maxContentLen) now)
  run (.updateConversation now (titleAfter title role content) conversationId)
  commit
  return some ⟨id, role, Str.take content maxContentLen, now⟩

/-- `append` once it has stored the message. -/
def retitling : Connected (Option Message) := do
  run (.updateConversation now title conversationId)
  commit
  return some ⟨id, role, Str.take content maxContentLen, now⟩

/-- `append` once it has written the title. -/
def committing : Connected (Option Message) := do
  commit
  return some ⟨id, role, Str.take content maxContentLen, now⟩

/-- `delete` once it has counted the rows. -/
def deleting (rowcount : Nat) : Connected Bool := do
  commit
  return decide (0 < rowcount)

end Stages

/-- `append` as an operation of the store. -/
def appending (program : Connected (Option Message)) : Connected ConversationResult :=
  program.bind fun message => .ret (.appended message)

/-- A message is stored but not committed. -/
structure Inserted (tables : ConversationTables)
    (locks : List (ConversationKey × RowLock)) (tenantId userId : String)
    (row : MessageRow) : Prop where
  fresh : ∀ message ∈ tables.messages, message.id ≠ row.id
  owned : Owned tables row.conversationId tenantId userId
  message : (.message row.id, .update) ∈ locks
  conversation : (.conversation row.conversationId, .keyShare) ∈ locks

/-- The title written is the one that follows the present title. -/
structure Retitled (tables : ConversationTables)
    (locks : List (ConversationKey × RowLock)) (tenantId userId role content : String)
    (uuid : Uuid) (title : String) : Prop where
  titles : ∀ owner ∈ tables.conversations, owner.isOwned uuid tenantId userId →
    titleAfter owner.title role content = title
  storable : Storable title
  conversation : (.conversation uuid, .noKeyUpdate) ∈ locks

/-- What a transaction has established about the committed tables and what it holds
for it, before each of its statements. -/
inductive Progress (tables : ConversationTables) : ConversationWrite →
    Transaction ConversationKey ConversationTables → Connected ConversationResult →
    Prop where
  | begun (write : ConversationWrite) : Progress tables write .begun write.program
  | ended {write : ConversationWrite} {program : Connected ConversationResult} :
      program.outcome?.isSome → Progress tables write .begun program
  | storing {tenantId userId conversationId role content id title : String}
      {now : DateTime} {uuid : Uuid} :
      Uuid.ofText? conversationId = some uuid → Storable tenantId →
      Storable userId →
      Progress tables (.append tenantId userId conversationId role content id now)
        .begun
        (appending
          (storing tenantId userId conversationId role content id now title))
  | retitling {tenantId userId conversationId role content id title : String}
      {now : DateTime} {row : MessageRow}
      {locks : List (ConversationKey × RowLock)} :
      messageRow id conversationId tenantId userId role
        (Str.take content maxContentLen) now = .ok row →
      Inserted tables locks tenantId userId row →
      Progress tables (.append tenantId userId conversationId role content id now)
        ⟨locks, insertRow row⟩
        (appending (retitling conversationId role content id now title))
  | committing {tenantId userId conversationId role content id title : String}
      {now : DateTime} {row : MessageRow}
      {locks : List (ConversationKey × RowLock)} :
      messageRow id conversationId tenantId userId role
        (Str.take content maxContentLen) now = .ok row →
      Inserted tables locks tenantId userId row →
      Retitled tables locks tenantId userId role content row.conversationId title →
      Progress tables (.append tenantId userId conversationId role content id now)
        ⟨locks, retitleRow row.conversationId title now ∘ insertRow row⟩
        (appending (committing role content id now))
  | deleting {tenantId userId conversationId : String} {uuid : Uuid}
      {rowcount : Nat} {locks : List (ConversationKey × RowLock)} :
      Uuid.ofText? conversationId = some uuid → Storable tenantId →
      Storable userId → (0 < rowcount ↔ Owned tables uuid tenantId userId) →
      (0 < rowcount → (.conversation uuid, .update) ∈ locks) →
      Progress tables (.delete tenantId userId conversationId)
        ⟨locks, fun tables =>
          without tables (ConversationRow.isOwned uuid tenantId userId)⟩
        ((deleting rowcount).bind fun found => .ret (.deleted found))

section Kept

variable {tables tables' : ConversationTables}
  {own locks : List (ConversationKey × RowLock)}

/-- A lock keeps others from the conflicting locks. -/
theorem not_mem_of_held
    (apart : ∀ held ∈ own, ∀ lock ∈ locks, held.1 = lock.1 →
      held.2.conflicts lock.2 = false)
    {key : ConversationKey} {mine other : RowLock} (held : (key, mine) ∈ own)
    (conflict : mine.conflicts other = true) : (key, other) ∉ locks := by
  intro member
  have free := apart _ held _ member rfl
  rw [conflict] at free
  cases free

theorem Inserted.kept {tenantId userId : String} {row : MessageRow}
    (inserted : Inserted tables own tenantId userId row)
    (covered : Covered locks tables tables')
    (apart : ∀ held ∈ own, ∀ lock ∈ locks, held.1 = lock.1 →
      held.2.conflicts lock.2 = false) :
    Inserted tables' own tenantId userId row where
  fresh := by
    intro message member same
    have unlocked := not_mem_of_held apart inserted.message
      (show RowLock.conflicts .update .update = true from rfl)
    exact inserted.fresh message (covered.known member (same ▸ unlocked)) same
  owned := covered.kept (not_mem_of_held apart inserted.conversation rfl)
    inserted.owned
  message := inserted.message
  conversation := inserted.conversation

theorem Retitled.kept {tenantId userId role content title : String} {uuid : Uuid}
    (retitled : Retitled tables own tenantId userId role content uuid title)
    (covered : Covered locks tables tables')
    (apart : ∀ held ∈ own, ∀ lock ∈ locks, held.1 = lock.1 →
      held.2.conflicts lock.2 = false) :
    Retitled tables' own tenantId userId role content uuid title where
  titles := by
    intro owner member mine
    have unlocked := not_mem_of_held apart retitled.conversation
      (show RowLock.conflicts .noKeyUpdate .noKeyUpdate = true from rfl)
    rw [← id_of_isOwned mine] at unlocked
    exact retitled.titles owner (covered.unedited member unlocked) mine
  storable := retitled.storable
  conversation := retitled.conversation

/-- Nothing a transaction has established is undone by the commit of another one. -/
theorem Progress.kept {write : ConversationWrite}
    {transaction : Transaction ConversationKey ConversationTables}
    {program : Connected ConversationResult}
    (progress : Progress tables write transaction program)
    (covered : Covered locks tables tables')
    (apart : ∀ held ∈ transaction.locks, ∀ lock ∈ locks, held.1 = lock.1 →
      held.2.conflicts lock.2 = false) :
    Progress tables' write transaction program := by
  cases progress with
  | begun => exact .begun write
  | ended finished => exact .ended finished
  | storing read tenant user => exact .storing read tenant user
  | retitling row_eq inserted =>
      exact .retitling row_eq (inserted.kept covered apart)
  | committing row_eq inserted retitled =>
      exact .committing row_eq (inserted.kept covered apart)
        (retitled.kept covered apart)
  | deleting read tenant user counted held =>
      refine .deleting read tenant user ⟨?_, ?_⟩ held
      · intro found
        exact covered.kept (not_mem_of_held apart (held found) rfl)
          (counted.mp found)
      · intro owned
        exact counted.mpr (covered.origin owned)

end Kept

/-! ## Steps -/

/-- What a row that cannot be built decides. -/
def settled : Except DatabaseError MessageRow →
    Option (Except DatabaseError ConversationResult)
  | .ok _ => none
  | .error error => some (.error error)

/-- The outcome of an operation that has ended or can only fail. -/
def decided : Connected ConversationResult →
    Option (Except DatabaseError ConversationResult)
  | .call (.execute (.insertMessage id conversationId tenantId userId role content
      createdAt)) _ =>
      settled (messageRow id conversationId tenantId userId role content createdAt)
  | program => program.outcome?

theorem decided_storing (tenantId userId conversationId role content id : String)
    (now : DateTime) (title : String) :
    decided (appending
        (storing tenantId userId conversationId role content id now title)) =
      settled (messageRow id conversationId tenantId userId role
        (Str.take content maxContentLen) now) := rfl

theorem decided_of_ended {program : Connected ConversationResult}
    (ended : program.outcome?.isSome) : decided program = program.outcome? := by
  cases program with
  | ret => rfl
  | raise => rfl
  | call => cases ended

/-- The server and what runs on its connections. -/
abbrev ConversationSessions (ι : Type) :=
  Sessions conversationStatements ι ConversationKey ConversationTables
    ConversationResult

section Steps

variable {ι : Type} {source target : ConversationSessions ι} {one : ι}
  {write : ConversationWrite}

/-- What one step of a transaction does. -/
structure Advance (write : ConversationWrite) (source target : ConversationSessions ι)
    (one : ι) : Prop where
  progress : Progress target.committed write (target.transactions one)
    (target.programs one)
  covered : Covered (source.transactions one).locks source.committed target.committed
  linear :
    target.committed = source.committed ∧
        decided (target.programs one) = decided (source.programs one) ∨
      decided (source.programs one) = none ∧
        ∃ outcome, decided (target.programs one) = some outcome ∧
          postgresConversationStore.step source.committed write.operation =
            (outcome, target.committed)

variable [DecidableEq ι]

/-- A step that does not commit. -/
theorem Advance.of_resume
    {transaction : Transaction ConversationKey ConversationTables}
    {program : Connected ConversationResult}
    (progress : Progress source.committed write transaction program)
    (linear : decided program = decided (source.programs one) ∨
      decided (source.programs one) = none ∧
        ∃ outcome, decided program = some outcome ∧
          postgresConversationStore.step source.committed write.operation =
            (outcome, source.committed)) :
    Advance write source (source.resume one transaction program) one where
  progress := by
    simpa only [Sessions.resume, Function.update_self] using progress
  covered := .refl _ _
  linear := by
    simp only [Sessions.resume, Function.update_self]
    exact linear.imp (fun same => ⟨trivial, same⟩) fun answered => answered

section Append

variable {tenantId userId conversationId role content id title : String}
  {now : DateTime} {row : MessageRow} {locks : List (ConversationKey × RowLock)}
  (step : Sessions.Step conversationSemantics source one target)

include step

/-- `SELECT`: who has no such conversation is told so. -/
theorem advance_of_append_begun (begun : source.transactions one = .begun)
    (issued : source.programs one =
      (ConversationWrite.append tenantId userId conversationId role content id
        now).program) :
    Advance (.append tenantId userId conversationId role content id now) source target
      one := by
  have seen : source.visible one = source.committed := by
    rw [Sessions.visible, begun]
    rfl
  have undecided : decided (source.programs one) = none := by
    rw [issued]
    rfl
  have front : source.programs one =
      .call (.execute (.selectTitle conversationId tenantId userId)) _ := issued
  rcases step.of_execute front with ⟨answer, written, done, rfl⟩ | ⟨error, failed, rfl⟩
  · rw [seen] at done
    simp only [conversationSemantics, executeConversation, bind_eq_ok_iff,
      ownedRow_eq_ok_iff] at done
    rcases done with ⟨_, ⟨uuid, read, tenant, user, rfl⟩, done⟩
    cases done
    rw [begun]
    by_cases owned : Owned source.committed uuid tenantId userId
    · rcases owned.find? with ⟨owner, _, _, found⟩
      rw [found]
      change Advance _ source (source.resume one .begun (appending
        (storing tenantId userId conversationId role content id now owner.title))) one
      apply Advance.of_resume (.storing read tenant user)
      -- Whether the insertion will be rejected for its parameters is settled here.
      rw [undecided, decided_storing]
      cases row : messageRow id conversationId tenantId userId role
          (Str.take content maxContentLen) now with
      | ok row => exact Or.inl rfl
      | error error =>
          refine Or.inr ⟨rfl, .error error, rfl, ?_⟩
          simp only [ConversationWrite.operation, postgresConversationStore,
            append_of_messageRow_error read tenant user owned row, transact]
    · rw [find?_of_not_owned owned]
      apply Advance.of_resume (.ended rfl)
      refine Or.inr ⟨undecided, _, rfl, ?_⟩
      simp only [ConversationWrite.operation, postgresConversationStore,
        append_of_not_owned read tenant user owned, transact]
  · rw [seen] at failed
    simp only [conversationSemantics, executeConversation, bind_eq_error_iff] at failed
    rcases failed with failed | ⟨_, _, impossible⟩
    · apply Advance.of_resume (.ended rfl)
      refine Or.inr ⟨undecided, _, rfl, ?_⟩
      simp only [ConversationWrite.operation, postgresConversationStore,
        append_of_ownedRow_error failed, transact]
    · cases impossible

/-- `INSERT`: the message is new and refers to the conversation. -/
theorem advance_of_storing (begun : source.transactions one = .begun)
    (issued : source.programs one = appending
      (storing tenantId userId conversationId role content id now title))
    (tenant : Storable tenantId) (user : Storable userId)
    (undisturbed : ∀ row, messageRow id conversationId tenantId userId role
      (Str.take content maxContentLen) now = .ok row →
        Owned source.committed row.conversationId tenantId userId) :
    Advance (.append tenantId userId conversationId role content id now) source target
      one := by
  have seen : source.visible one = source.committed := by
    rw [Sessions.visible, begun]
    rfl
  have front : source.programs one =
      .call (.execute (.insertMessage id conversationId tenantId userId role
        (Str.take content maxContentLen) now)) _ := issued
  have before : decided (source.programs one) =
      settled (messageRow id conversationId tenantId userId role
        (Str.take content maxContentLen) now) := by
    rw [issued, decided_storing]
  rcases step.of_execute front with ⟨answer, written, done, rfl⟩ | ⟨error, failed, rfl⟩
  · rw [seen] at done
    simp only [conversationSemantics, executeConversation, bind_eq_ok_iff,
      insertUnique_eq_ok_iff] at done
    rcases done with ⟨row, row_eq, _, ⟨fresh, _⟩, _, _, done⟩
    cases done
    rw [begun, seen]
    change Advance _ source (source.resume one
      ⟨conversationLocks (.insertMessage id conversationId tenantId userId role
        (Str.take content maxContentLen) now) source.committed ++ [], insertRow row⟩
      (appending (retitling conversationId role content id now
        (titleAfter title role content)))) one
    rw [List.append_nil, conversationLocks, row_eq]
    apply Advance.of_resume
    · exact .retitling row_eq ⟨fresh, undisturbed row row_eq, List.mem_cons_self,
        List.mem_cons_of_mem _ List.mem_cons_self⟩
    · rw [before, row_eq]
      exact Or.inl rfl
  · rw [seen] at failed
    simp only [conversationSemantics, executeConversation, bind_eq_error_iff]
      at failed
    apply Advance.of_resume (.ended rfl)
    rcases failed with failed | ⟨row, row_eq, failed | ⟨_, _, failed⟩⟩
    · rw [before, failed]
      exact Or.inl rfl
    · rw [before, row_eq]
      refine Or.inr ⟨rfl, _, rfl, ?_⟩
      have owned := undisturbed row row_eq
      rcases messageRow_eq_ok_iff.mp row_eq with ⟨_, _, _, read', _, _, _, _, rfl⟩
      simp only [ConversationWrite.operation, postgresConversationStore,
        append_of_insert_error read' tenant user owned row_eq failed, transact]
    · have referred := (undisturbed row row_eq).checkReference
      rcases failed with failed | ⟨_, _, impossible⟩
      · rw [referred] at failed
        cases failed
      · cases impossible

/-- `UPDATE`: the title is the one that follows the present title. -/
theorem advance_of_retitling
    (transaction : source.transactions one = ⟨locks, insertRow row⟩)
    (issued : source.programs one =
      appending (retitling conversationId role content id now title))
    (row_eq : messageRow id conversationId tenantId userId role
      (Str.take content maxContentLen) now = .ok row)
    (inserted : Inserted source.committed locks tenantId userId row)
    (undisturbed : ∀ uuid, Uuid.ofText? conversationId = some uuid →
      ∀ owner ∈ source.committed.conversations, owner.isOwned uuid tenantId userId →
        titleAfter owner.title role content = title) :
    Advance (.append tenantId userId conversationId role content id now) source target
      one := by
  rcases messageRow_eq_ok_iff.mp row_eq with
    ⟨messageId, _, uuid, read, tenant, user, _, _, built⟩
  have refers : row.conversationId = uuid := by rw [← built]
  have titles := undisturbed uuid read
  have undecided : decided (source.programs one) = none := by
    rw [issued]
    rfl
  have front : source.programs one =
      .call (.execute (.updateConversation now title conversationId)) _ := issued
  rcases step.of_execute front with ⟨answer, written, done, rfl⟩ | ⟨error, failed, rfl⟩
  · simp only [conversationSemantics, executeConversation, bind_eq_ok_iff,
      textParameter_eq_ok_iff, uuidParameter_eq_ok_iff] at done
    rcases done with ⟨_, ⟨storable, rfl⟩, uuid', read', done⟩
    cases Option.some.inj (read.symm.trans read')
    cases done
    rw [transaction]
    -- The row of the conversation is among those updated.
    have locked : (.conversation uuid, .noKeyUpdate) ∈
        conversationLocks (.updateConversation now title conversationId)
          (source.visible one) := by
      rcases inserted.owned with ⟨owner, member, mine⟩
      rw [conversationLocks, uuidParameter_eq_ok_iff.mpr read, Sessions.visible,
        transaction]
      refine List.mem_map.mpr ⟨owner, List.mem_filter.mpr ⟨member, ?_⟩, ?_⟩
      · exact decide_eq_true ((id_of_isOwned mine).trans refers)
      · rw [id_of_isOwned mine, refers]
    rw [← refers] at locked titles
    change Advance _ source (source.resume one
      ⟨conversationLocks (.updateConversation now title conversationId)
        (source.visible one) ++ locks, retitleRow uuid title now ∘ insertRow row⟩
      (appending (committing role content id now))) one
    rw [← refers]
    apply Advance.of_resume
    · exact .committing row_eq
        ⟨inserted.fresh, inserted.owned, List.mem_append_right _ inserted.message,
          List.mem_append_right _ inserted.conversation⟩
        ⟨titles, storable, List.mem_append_left _ locked⟩
    · exact Or.inl undecided.symm
  · simp only [conversationSemantics, executeConversation, bind_eq_error_iff,
      textParameter_eq_ok_iff] at failed
    have owned : Owned source.committed uuid tenantId userId := refers ▸ inserted.owned
    apply Advance.of_resume (.ended rfl)
    rcases failed with failed | ⟨_, _, failed | ⟨_, _, impossible⟩⟩
    · refine Or.inr ⟨undecided, _, rfl, ?_⟩
      simp only [ConversationWrite.operation, postgresConversationStore, transact,
        append_of_title_error read tenant user owned row_eq inserted.fresh titles
          failed]
    · rw [uuidParameter_eq_ok_iff.mpr read] at failed
      cases failed
    · cases impossible

/-- `COMMIT`: message and title appear at once. -/
theorem advance_of_committing
    (transaction : source.transactions one =
      ⟨locks, retitleRow row.conversationId title now ∘ insertRow row⟩)
    (issued : source.programs one = appending (committing role content id now))
    (row_eq : messageRow id conversationId tenantId userId role
      (Str.take content maxContentLen) now = .ok row)
    (inserted : Inserted source.committed locks tenantId userId row)
    (retitled : Retitled source.committed locks tenantId userId role content
      row.conversationId title) :
    Advance (.append tenantId userId conversationId role content id now) source target
      one := by
  have front : source.programs one = .call .commit _ := issued
  rw [step.of_commit front, Sessions.visible, transaction]
  rcases messageRow_eq_ok_iff.mp row_eq with
    ⟨messageId, _, uuid, read, tenant, user, _, _, built⟩
  have refers : row.conversationId = uuid := by rw [← built]
  rw [refers] at retitled
  have owned : Owned source.committed uuid tenantId userId := refers ▸ inserted.owned
  rw [refers]
  constructor
  · simp only [Sessions.resume, Function.update_self]
    exact .ended rfl
  · rw [transaction]
    exact covered_of_append inserted.message retitled.conversation
  · refine Or.inr ⟨by rw [issued]; rfl,
      .ok (.appended (some ⟨id, role, Str.take content maxContentLen, now⟩)), ?_, ?_⟩
    · simp only [Sessions.resume, Function.update_self]
      rfl
    · simp only [ConversationWrite.operation, postgresConversationStore, transact,
        append_of_stored read tenant user owned row_eq inserted.fresh retitled.titles
          retitled.storable]
      rfl

end Append

section Delete

variable {tenantId userId conversationId : String}
  {locks : List (ConversationKey × RowLock)}
  (step : Sessions.Step conversationSemantics source one target)

include step

/-- `DELETE`: the rows are counted and locked. -/
theorem advance_of_delete_begun (begun : source.transactions one = .begun)
    (issued : source.programs one =
      (ConversationWrite.delete tenantId userId conversationId).program) :
    Advance (.delete tenantId userId conversationId) source target one := by
  have seen : source.visible one = source.committed := by
    rw [Sessions.visible, begun]
    rfl
  have undecided : decided (source.programs one) = none := by
    rw [issued]
    rfl
  have front : source.programs one =
      .call (.execute (.deleteConversation conversationId tenantId userId)) _ := issued
  rcases step.of_execute front with ⟨answer, written, done, rfl⟩ | ⟨error, failed, rfl⟩
  · rw [seen] at done
    simp only [conversationSemantics, executeConversation, bind_eq_ok_iff] at done
    rcases done with ⟨meant, meant_eq, done⟩
    rcases ownedRow_eq_ok_iff.mp meant_eq with ⟨uuid, read, tenant, user, rfl⟩
    cases done
    rw [begun, seen]
    -- A row counted is a row of the caller, and locked.
    have counted : 0 < (deleteWhere (ConversationRow.isOwned uuid tenantId userId)
        source.committed.conversations).1 ↔
          Owned source.committed uuid tenantId userId := List.countP_pos_iff
    have locked : Owned source.committed uuid tenantId userId →
        (.conversation uuid, .update) ∈
          conversationLocks (.deleteConversation conversationId tenantId userId)
            source.committed := by
      intro owned
      rcases owned with ⟨row, member, mine⟩
      rw [conversationLocks, meant_eq]
      apply List.mem_append_left
      refine List.mem_map.mpr ⟨row, List.mem_filter.mpr ⟨member, mine⟩, ?_⟩
      rw [id_of_isOwned mine]
    change Advance _ source (source.resume one
      ⟨conversationLocks (.deleteConversation conversationId tenantId userId)
        source.committed ++ [],
        fun tables => without tables (ConversationRow.isOwned uuid tenantId userId)⟩
      ((deleting _).bind fun found => .ret (.deleted found))) one
    rw [List.append_nil]
    apply Advance.of_resume
    · exact .deleting read tenant user counted fun found => locked (counted.mp found)
    · exact Or.inl undecided.symm
  · rw [seen] at failed
    simp only [conversationSemantics, executeConversation, bind_eq_error_iff]
      at failed
    rcases failed with failed | ⟨_, _, impossible⟩
    · apply Advance.of_resume (.ended rfl)
      refine Or.inr ⟨undecided, _, rfl, ?_⟩
      simp only [ConversationWrite.operation, postgresConversationStore,
        delete_of_ownedRow_error failed, transact]
    · cases impossible

/-- `COMMIT`: the conversation goes with its messages. -/
theorem advance_of_deleting {uuid : Uuid} {rowcount : Nat}
    (transaction : source.transactions one = ⟨locks, fun tables =>
      without tables (ConversationRow.isOwned uuid tenantId userId)⟩)
    (issued : source.programs one =
      (deleting rowcount).bind fun found => .ret (.deleted found))
    (read : Uuid.ofText? conversationId = some uuid) (tenant : Storable tenantId)
    (user : Storable userId)
    (counted : 0 < rowcount ↔ Owned source.committed uuid tenantId userId)
    (held : 0 < rowcount → (.conversation uuid, .update) ∈ locks) :
    Advance (.delete tenantId userId conversationId) source target one := by
  have front : source.programs one = .call .commit _ := issued
  rw [step.of_commit front, Sessions.visible, transaction]
  constructor
  · simp only [Sessions.resume, Function.update_self]
    exact .ended rfl
  · rw [transaction]
    exact covered_of_delete fun owned => held (counted.mpr owned)
  · refine Or.inr ⟨by rw [issued]; rfl, .ok (.deleted (0 < rowcount)), ?_, ?_⟩
    · simp only [Sessions.resume, Function.update_self]
      rfl
    · have deleted : PostgresConversationStore.delete source.committed tenantId userId
          conversationId = .ok _ :=
        PostgresConversationStore.delete_eq_ok_iff.mpr ⟨uuid, read, tenant, user, rfl⟩
      have same : (0 < (deleteWhere (ConversationRow.isOwned uuid tenantId userId)
          source.committed.conversations).1) = (0 < rowcount) :=
        propext (Iff.trans List.countP_pos_iff counted.symm)
      simp only [ConversationWrite.operation, postgresConversationStore, transact,
        deleted, same]

end Delete

/-- Whatever a transaction does next, it stays a transaction of its operation. -/
theorem Progress.advance
    (progress : Progress source.committed write (source.transactions one)
      (source.programs one))
    (step : Sessions.Step conversationSemantics source one target)
    (undisturbed : write.Undisturbed source.committed (source.programs one)) :
    Advance write source target one := by
  generalize transaction : source.transactions one = own at progress
  generalize issued : source.programs one = program at progress undisturbed
  cases progress with
  | begun =>
      cases write with
      | append => exact advance_of_append_begun step transaction issued
      | delete => exact advance_of_delete_begun step transaction issued
  | ended finished =>
      rw [← issued, step.not_ended] at finished
      cases finished
  | storing read tenant user =>
      refine advance_of_storing step transaction issued tenant user fun row row_eq => ?_
      apply undisturbed row
      rw [row_eq]
      rfl
  | retitling row_eq inserted =>
      exact advance_of_retitling step transaction issued row_eq inserted undisturbed
  | committing row_eq inserted retitled =>
      exact advance_of_committing step transaction issued row_eq inserted retitled
  | deleting read tenant user counted held =>
      exact advance_of_deleting step transaction issued read tenant user counted held

/-- Each transaction is at some point of its operation, and no two of them have
conflicting locks. -/
structure Running (writes : ι → ConversationWrite) (sessions : ConversationSessions ι) :
    Prop where
  progress : ∀ one, Progress sessions.committed (writes one)
    (sessions.transactions one) (sessions.programs one)
  compatible : Sessions.Compatible sessions.transactions

omit [DecidableEq ι] in
theorem Running.start (writes : ι → ConversationWrite) (tables : ConversationTables) :
    Running writes (Sessions.start tables fun one => (writes one).program) where
  progress one := .begun (writes one)
  compatible := Sessions.compatible_begun

theorem Running.step {writes : ι → ConversationWrite} (running : Running writes source)
    (step : Sessions.Step conversationSemantics source one target)
    (undisturbed : (writes one).Undisturbed source.committed (source.programs one)) :
    Running writes target where
  progress other := by
    have advance := (running.progress one).advance step undisturbed
    by_cases same : other = one
    · rw [same]
      exact advance.progress
    · rw [(step.others same).1, (step.others same).2]
      exact (running.progress other).kept advance.covered
        (running.compatible other one same)
  compatible := step.compatible running.compatible

/-- Each step answers at most one operation, as the store does. -/
theorem Running.linearStep {writes : ι → ConversationWrite} {tables : ConversationTables}
    (running : Running writes source)
    (step : Sessions.Step conversationSemantics source one target)
    (undisturbed : (writes one).Undisturbed source.committed (source.programs one)) :
    SharedObject.LinearStep (conversationStoreOver tables)
      (fun one => (writes one).operation) Sessions.committed
      (fun sessions one => decided (sessions.programs one)) source target := by
  have others : ∀ other, other ≠ one →
      decided (target.programs other) = decided (source.programs other) :=
    fun other different => by rw [(step.others different).2]
  rcases ((running.progress one).advance step undisturbed).linear with
    ⟨kept, same⟩ | ⟨undecided, outcome, answered, served⟩
  · refine .silent kept fun other => ?_
    by_cases own : other = one
    · rw [own]
      exact same
    · exact others other own
  · refine .serves one undecided ?_ ?_ others
    · exact (congrArg Prod.snd served).symm
    · exact answered.trans (congrArg some (congrArg Prod.fst served).symm)

end Steps

/-! ## Titles -/

theorem titleAfter_of_seeded {title role content : String}
    (seeded : title ≠ "New conversation") : titleAfter title role content = title := by
  rw [titleAfter, if_neg]
  simp [seeded]

section Titles

variable {tables : ConversationTables}

/-- What an operation makes of the conversations: nothing, a new title for one that
follows its present title, or a deletion. -/
theorem conversations_after_write (write : ConversationWrite) :
    ∃ after, (postgresConversationStore.step tables write.operation).2.conversations =
        after ∧
      (after = tables.conversations ∨
        (∃ owner ∈ tables.conversations, ∃ role content now,
          after = (retitleRow owner.id (titleAfter owner.title role content) now
            tables).conversations) ∨
        ∃ meant, after = (without tables meant).conversations) := by
  refine ⟨_, rfl, ?_⟩
  cases write with
  | append tenantId userId conversationId role content id now =>
      cases appended : PostgresConversationStore.append tables tenantId userId
          conversationId role content id now with
      | error error =>
          simp only [ConversationWrite.operation, postgresConversationStore, appended,
            transact]
          exact Or.inl trivial
      | ok result =>
          rcases PostgresConversationStore.append_eq_ok_iff.mp appended with
            ⟨uuid, _, _, _, returned⟩
          simp only [ConversationWrite.operation, postgresConversationStore, appended,
            transact]
          split at returned
          next =>
            rw [← returned]
            exact Or.inl rfl
          next owner found =>
            rcases returned with ⟨_, _, _, _, _, _, _, returned⟩
            rw [← returned]
            refine Or.inr (Or.inl ⟨owner, List.mem_of_find?_eq_some found, role,
              content, now, ?_⟩)
            rw [id_of_isOwned (List.find?_some found)]
            rfl
  | delete tenantId userId conversationId =>
      cases deleted : PostgresConversationStore.delete tables tenantId userId
          conversationId with
      | error error =>
          simp only [ConversationWrite.operation, postgresConversationStore, deleted,
            transact]
          exact Or.inl trivial
      | ok result =>
          rcases PostgresConversationStore.delete_eq_ok_iff.mp deleted with
            ⟨uuid, _, _, _, returned⟩
          simp only [ConversationWrite.operation, postgresConversationStore, deleted,
            transact]
          rw [← returned]
          exact Or.inr (Or.inr ⟨_, rfl⟩)

/-- No operation makes two conversations of one id. -/
theorem unique_after_write
    (unique : (tables.conversations.map ConversationRow.id).Nodup)
    (write : ConversationWrite) :
    ((postgresConversationStore.step tables write.operation).2.conversations.map
      ConversationRow.id).Nodup := by
  rcases conversations_after_write write with
    ⟨after, after_eq, rfl | ⟨owner, _, role, content, now, rfl⟩ | ⟨meant, rfl⟩⟩
  · rw [after_eq]
    exact unique
  · rw [after_eq, retitleRow, updateWhere, List.map_map]
    have same : tables.conversations.map
        (ConversationRow.id ∘ fun row => if decide (row.id = owner.id) = true then
          { row with
            updatedAt := now
            title := titleAfter owner.title role content } else row) =
        tables.conversations.map ConversationRow.id := by
      apply List.map_congr_left
      intro row _
      rw [Function.comp_apply]
      split <;> rfl
    rw [same]
    exact unique
  · rw [after_eq]
    exact unique.sublist (List.filter_sublist.map _)

/-- A title other than the default is kept as long as its conversation. -/
theorem seeded_title_kept
    (unique : (tables.conversations.map ConversationRow.id).Nodup)
    (write : ConversationWrite) {row row' : ConversationRow}
    (member : row ∈ tables.conversations) (seeded : row.title ≠ "New conversation")
    (member' : row' ∈
      (postgresConversationStore.step tables write.operation).2.conversations)
    (same : row'.id = row.id) : row'.title = row.title := by
  have only : ∀ other ∈ tables.conversations, other.id = row.id → other = row :=
    fun other stored => List.inj_on_of_nodup_map unique stored member
  rcases conversations_after_write write with
    ⟨after, after_eq, rfl | ⟨owner, stored, role, content, now, rfl⟩ | ⟨meant, rfl⟩⟩
  · rw [after_eq] at member'
    rw [only row' member' same]
  · rw [after_eq] at member'
    rcases mem_retitleRow.mp member' with ⟨before, stored', edited⟩
    split at edited
    next meant =>
      have sameId : before.id = row.id := by rw [← same, ← edited]
      rw [← edited, only owner stored (meant.symm.trans sameId)]
      exact titleAfter_of_seeded seeded
    next =>
      rw [← edited] at same
      rw [← edited, only before stored' same]
  · rw [after_eq] at member'
    rw [only row' (mem_without.mp member').1 same]

end Titles

/-! ## Runs -/

/-- The transactions amount to their operations in some order. -/
def Serializable {ι : Type} (tables : ConversationTables)
    (writes : ι → ConversationWrite) (sessions : ConversationSessions ι) : Prop :=
  ∃ order : List ι, (∀ one, one ∈ order) ∧
    (conversationStoreOver tables).ServedInOrder (fun one => (writes one).operation)
      order sessions.committed (fun one => (sessions.programs one).outcome?)

/-- If no statement is overtaken, all transactions amount to their operations in
some order, and no title other than the default is replaced. -/
theorem conversation_writes_serializable {ι : Type} [DecidableEq ι]
    {tables : ConversationTables}
    (unique : (tables.conversations.map ConversationRow.id).Nodup)
    {writes : ι → ConversationWrite}
    {transitions : List (Transition (ConversationSessions ι) ι)}
    {sessions : ConversationSessions ι}
    (execution : Execution (Sessions.Step conversationSemantics)
      (Sessions.start tables fun one => (writes one).program) transitions sessions)
    (undisturbed : ∀ transition ∈ transitions,
      (writes transition.label).Undisturbed transition.source.committed
        (transition.source.programs transition.label))
    (complete : sessions.Complete) :
    Serializable tables writes sessions ∧
      ∀ transition ∈ transitions,
        ∀ row ∈ transition.source.committed.conversations,
          row.title ≠ "New conversation" →
          ∀ row' ∈ transition.target.committed.conversations,
            row'.id = row.id → row'.title = row.title := by
  have running : ∀ state ∈ Execution.states _ transitions, Running writes state :=
    execution.invariant_states (Running writes) (Running.start writes tables)
      fun transition member step before => before.step step (undisturbed _ member)
  have linear : ∀ transition ∈ transitions,
      SharedObject.LinearStep (conversationStoreOver tables)
        (fun one => (writes one).operation) Sessions.committed
        (fun sessions one => decided (sessions.programs one)) transition.source
        transition.target :=
    fun transition member =>
      (running _ (execution.source_mem_states member)).linearStep
        (execution.step_of_mem member) (undisturbed _ member)
  constructor
  · have undecided : ∀ one, decided (writes one).program = none := by
      intro one
      cases writes one <;> rfl
    rcases SharedObject.exists_servedInOrder execution rfl undecided linear with
      ⟨order, served⟩
    have ended : (fun one => decided (sessions.programs one)) =
        fun one => (sessions.programs one).outcome? :=
      funext fun one => decided_of_ended (complete one)
    rw [ended] at served
    exact ⟨order, fun one => (served.mem_iff one).mpr (complete one), served⟩
  · have distinct : ∀ state ∈ Execution.states
        (Sessions.start tables fun one => (writes one).program) transitions,
        (state.committed.conversations.map ConversationRow.id).Nodup := by
      apply execution.invariant_states fun state =>
        (state.committed.conversations.map ConversationRow.id).Nodup
      · exact unique
      · intro transition member _ before
        cases linear transition member with
        | silent kept _ =>
            rw [kept]
            exact before
        | serves one _ moved _ _ =>
            rw [moved]
            exact unique_after_write before (writes one)
    intro transition member row stored seeded row' stored' same
    have before := distinct _ (execution.source_mem_states member)
    cases linear transition member with
    | silent kept _ =>
        rw [kept] at stored'
        rw [List.inj_on_of_nodup_map before stored' stored same]
    | serves one _ moved _ _ =>
        rw [moved] at stored'
        exact seeded_title_kept before (writes one) stored seeded stored' same

/-! ## A lost title -/

/-- A conversation without messages. -/
def freshConversation : ConversationTables where
  conversations :=
    [⟨Uuid.repeated (1, 2), "acme.com", "ana", "New conversation",
      .fullHour 9,
      .fullHour 9⟩]
  messages := []

/-- A message of the assistant and one of the user. -/
def bothMessages : Bool → ConversationWrite
  | false => .append "acme.com" "ana" (Uuid.repeated (1, 2)).text "assistant" "Hi."
      (Uuid.repeated (1, 3)).text ⟨2026, 1, 1, 9, 0, 1, 0, by decide⟩
  | true => .append "acme.com" "ana" (Uuid.repeated (1, 2)).text "user" "Hello"
      (Uuid.repeated (1, 4)).text ⟨2026, 1, 1, 9, 0, 2, 0, by decide⟩

/-- The first transaction reads the title, the second one runs, the first one goes
on. -/
def overtaken : List (Transition (ConversationSessions Bool) Bool) ×
    ConversationSessions Bool :=
  Sessions.play conversationSemantics
    [false, true, true, true, true, false, false, false]
    (Sessions.start freshConversation fun one => (bothMessages one).program)

/-- Both transactions read the title before either of them writes. The message of the
assistant leaves it as it is. -/
def interleaved : List (Transition (ConversationSessions Bool) Bool) ×
    ConversationSessions Bool :=
  Sessions.play conversationSemantics
    [false, true, false, false, false, true, true, true]
    (Sessions.start freshConversation fun one => (bothMessages one).program)

theorem conversation_writes_serializable_both :
    Serializable freshConversation bothMessages interleaved.2 ∧
      interleaved.2.committed.conversations.map ConversationRow.title = ["Hello"] ∧
      interleaved.2.committed.messages.map MessageRow.content = ["Hi.", "Hello"] :=
  ⟨(conversation_writes_serializable (by decide)
    (Sessions.play_execution _ _) (by decide +kernel) (by decide +kernel)).1,
    by decide +kernel, by decide +kernel⟩

/-- The title that the message of the user has given is lost. -/
theorem conversation_writes_not_serializable :
    Execution (Sessions.Step conversationSemantics)
        (Sessions.start freshConversation fun one => (bothMessages one).program)
        overtaken.1 overtaken.2 ∧
      overtaken.2.Complete ∧
      ¬ Serializable freshConversation bothMessages overtaken.2 := by
  refine ⟨Sessions.play_execution _ _, by decide +kernel, ?_⟩
  intro serializable
  rcases serializable with ⟨order, all, served⟩
  have titles : overtaken.2.committed.conversations.map ConversationRow.title =
      ["New conversation"] := by decide +kernel
  rw [served.state_eq] at titles
  have both : order.Perm [false, true] :=
    (List.perm_ext_iff_of_nodup served.nodup (by decide)).mpr fun one =>
      iff_of_true (all one) (by cases one <;> decide)
  rcases List.perm_pair.mp both with rfl | rfl
  · exact absurd titles (by decide +kernel)
  · exact absurd titles (by decide +kernel)

end PrivateAiWorkspace.ControlPlane
