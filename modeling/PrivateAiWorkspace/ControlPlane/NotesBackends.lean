import PrivateAiWorkspace.ControlPlane.Notes
import PrivateAiWorkspace.Effects.Agreement
import PrivateAiWorkspace.Postgres.Chronicle
import PrivateAiWorkspace.Postgres.Mirrors

/-!
# The two stores of notes

`PostgresNotesStore` of `notes.py`, next to the store in memory: the histories both
answer alike, and the states they then end in.
-/

namespace PrivateAiWorkspace.ControlPlane

open Effects Postgres Python

/-- A row of the table `notes`. -/
structure NoteRow where
  id : Uuid
  tenantId : String
  userId : String
  kind : String
  title : String
  body : String
  done : Bool
  createdAt : DateTime
  updatedAt : DateTime

/-- `_row`. -/
def NoteRow.item (row : NoteRow) : NoteItem where
  id := row.id.text
  tenantId := row.tenantId
  userId := row.userId
  kind := row.kind
  title := row.title
  body := row.body
  done := row.done
  createdAt := row.createdAt
  updatedAt := row.updatedAt

/-- Whose row it is. -/
def NoteRow.owner (row : NoteRow) : Principal := (row.tenantId, row.userId)

namespace PostgresNotesStore

/-- `create`. -/
def create (notes : List NoteRow) (item : NoteItem) :
    Except DatabaseError (Unit × List NoteRow) := do
  let id ← uuidParameter item.id
  let tenantId ← textParameter item.tenantId
  let userId ← textParameter item.userId
  let kind ← textParameter item.kind
  let title ← textParameter item.title
  let body ← textParameter item.body
  let row : NoteRow :=
    { id, tenantId, userId, kind, title, body
      done := item.done
      createdAt := item.createdAt
      updatedAt := item.updatedAt }
  return ((), insertNew NoteRow.id row notes)

/-- `list_for_user`. A comparison with `NULL` does not hold. -/
def listForUser (driver : Driver) (notes : List NoteRow) (tenantId userId : String)
    (kind : Option String) (limit : Int) : Except DatabaseError (List NoteItem) := do
  let tenantId ← textParameter tenantId
  let userId ← textParameter userId
  let anyKind ← parameterIsNull driver kind
  let kind ← textOrNull kind
  let limit ← limitParameter limit
  let rows := selectLatest
    (fun row => row.tenantId = tenantId && row.userId = userId &&
      (anyKind || kind = some row.kind))
    (fun row => row.createdAt.instant) notes
  return (rows.take limit).map NoteRow.item

/-- `update` at a time. -/
def update (notes : List NoteRow) (tenantId userId itemId : String)
    (title body : Option String) (done : Option Bool) (now : DateTime) :
    Except DatabaseError (Option NoteItem × List NoteRow) := do
  let title ← textOrNull title
  let body ← textOrNull body
  let id ← uuidParameter itemId
  let tenantId ← textParameter tenantId
  let userId ← textParameter userId
  let (returned, notes) := updateWhere
    (fun row => row.id = id && row.tenantId = tenantId && row.userId = userId)
    (fun row =>
      { row with
        title := title.getD row.title
        body := body.getD row.body
        done := done.getD row.done
        updatedAt := now })
    notes
  return (returned.head?.map NoteRow.item, notes)

/-- `delete`. -/
def delete (notes : List NoteRow) (tenantId userId itemId : String) :
    Except DatabaseError (Bool × List NoteRow) := do
  let id ← uuidParameter itemId
  let tenantId ← textParameter tenantId
  let userId ← textParameter userId
  let (rowcount, notes) := deleteWhere
    (fun row => row.id = id && row.tenantId = tenantId && row.userId = userId) notes
  return (0 < rowcount, notes)

end PostgresNotesStore

open PostgresNotesStore in
/-- The store over a driver as its users share it. -/
def postgresNotesStore (driver : Driver) : SharedObject (List NoteRow)
    NotesOperation (Except DatabaseError NotesResult) Principal where
  initial := []
  step notes
    | .create item => transact notes (fun _ => .none) (create notes item)
    | .listForUser tenantId userId kind limit =>
        readOnly notes .items (listForUser driver notes tenantId userId kind limit)
    | .update tenantId userId itemId title body done now =>
        transact notes .updated
          (update notes tenantId userId itemId title body done now)
    | .delete tenantId userId itemId =>
        transact notes .deleted (delete notes tenantId userId itemId)
  issuer := notesStore.issuer

/-! ## Histories -/

/-- The item an operation creates. -/
def NotesOperation.created : NotesOperation → Option NoteItem
  | .create item => some item
  | _ => none

/-- The item id an operation names. -/
def NotesOperation.itemId : NotesOperation → Option String
  | .create item => some item.id
  | .listForUser _ _ _ _ => none
  | .update _ _ itemId _ _ _ _ => some itemId
  | .delete _ _ itemId => some itemId

/-- How many items an operation lists at most. -/
def NotesOperation.limit : NotesOperation → Option Int
  | .listForUser _ _ _ limit => some limit
  | _ => none

/-- Items and rows have ids and times of creation. -/
def noteRecording : Recording NoteItem NoteRow where
  name := NoteItem.id
  time item := item.createdAt.instant
  id := NoteRow.id
  timestamp row := row.createdAt.instant

/-- Ids are texts of `uuid` values, no limit is negative, and items are created
with new ids, one after the other. -/
structure NotesHistory (history : List NotesOperation) : Prop where
  canonical : ∀ operation ∈ history, ∀ id ∈ operation.itemId, Uuid.IsCanonical id
  limits : ∀ operation ∈ history, ∀ limit ∈ operation.limit, 0 ≤ limit
  orderly : noteRecording.Orderly (history.filterMap NotesOperation.created)

/-- The database takes the parameters of an operation: texts have no U+0000, a
limit is a `bigint`, and the driver says of which type the kind is. -/
def NotesOperation.Portable (driver : Driver) : NotesOperation → Prop
  | .create item =>
      Storable item.tenantId ∧ Storable item.userId ∧ Storable item.kind ∧
        Storable item.title ∧ Storable item.body
  | .listForUser tenantId userId kind limit =>
      Storable tenantId ∧ Storable userId ∧
        driver.declaresType kind = true ∧ (∀ text ∈ kind, Storable text) ∧
        limit < 9223372036854775808
  | .update tenantId userId _ title body _ _ =>
      (∀ text ∈ title, Storable text) ∧ (∀ text ∈ body, Storable text) ∧
        Storable tenantId ∧ Storable userId
  | .delete tenantId userId _ => Storable tenantId ∧ Storable userId

/-- The table holds the items of the store in memory. -/
def NotesCorrespond (items : InMemoryNotesStore) (notes : List NoteRow) : Prop :=
  Mirrors NoteRow.owner NoteRow.item items notes

/-- What both stores hold after a history. -/
structure NotesRelated (past : List NotesOperation) (items : InMemoryNotesStore)
    (notes : List NoteRow) : Prop where
  mirrors : NotesCorrespond items notes
  records : noteRecording.Records (past.filterMap NotesOperation.created) notes

/-! ## Steps -/

section Steps

variable {driver : Driver} {items : InMemoryNotesStore} {notes : List NoteRow}
  {past : List NotesOperation}

/-- The row of an item. -/
def NoteItem.row (item : NoteItem) (uuid : Uuid) : NoteRow :=
  { item with id := uuid }

open PostgresNotesStore

theorem PostgresNotesStore.create_eq_ok_iff {item : NoteItem}
    {result : Unit × List NoteRow} :
    create notes item = .ok result ↔
      ∃ uuid, Uuid.ofText? item.id = some uuid ∧
        (NotesOperation.create item).Portable driver ∧
        ((), insertNew NoteRow.id (item.row uuid) notes) = result := by
  simp only [create, bind_eq_ok_iff, uuidParameter_eq_ok_iff, textParameter_eq_ok_iff,
    NotesOperation.Portable, and_assoc, exists_and_left, exists_eq_left', pure,
    Except.pure, Except.ok.injEq, NoteItem.row]

theorem PostgresNotesStore.listForUser_eq_ok_iff {tenantId userId : String}
    {kind : Option String} {limit : Int} (positive : 0 ≤ limit) {result : List NoteItem} :
    listForUser driver notes tenantId userId kind limit = .ok result ↔
      (NotesOperation.listForUser tenantId userId kind limit).Portable driver ∧
        ((selectLatest (fun row => row.tenantId = tenantId && row.userId = userId &&
            (kind.isNone || kind = some row.kind))
          (fun row => row.createdAt.instant) notes).take limit.toNat).map
            NoteRow.item = result := by
  simp only [listForUser, bind_eq_ok_iff, textParameter_eq_ok_iff,
    textOrNull_eq_ok_iff, limitParameter_eq_ok_iff, parameterIsNull_eq_ok_iff,
    NotesOperation.Portable, and_assoc, exists_and_left, exists_eq_left', pure,
    Except.pure, Except.ok.injEq, positive, true_and]

/-- The rows an update or a deletion is about. -/
def NoteRow.isItem (uuid : Uuid) (tenantId userId : String) (row : NoteRow) : Bool :=
  row.id = uuid && row.tenantId = tenantId && row.userId = userId

/-- What an update makes of a row. -/
def NoteRow.updated (title body : Option String) (done : Option Bool)
    (now : DateTime) (row : NoteRow) : NoteRow :=
  { row with
    title := title.getD row.title
    body := body.getD row.body
    done := done.getD row.done
    updatedAt := now }

theorem PostgresNotesStore.update_eq_ok_iff {tenantId userId itemId : String}
    {title body : Option String} {done : Option Bool} {now : DateTime}
    {result : Option NoteItem × List NoteRow} :
    update notes tenantId userId itemId title body done now = .ok result ↔
      ∃ uuid, Uuid.ofText? itemId = some uuid ∧
        (NotesOperation.update tenantId userId itemId title body done now).Portable
          driver ∧
        ((updateWhere (NoteRow.isItem uuid tenantId userId)
            (NoteRow.updated title body done now) notes).1.head?.map NoteRow.item,
          (updateWhere (NoteRow.isItem uuid tenantId userId)
            (NoteRow.updated title body done now) notes).2) = result := by
  simp only [update, bind_eq_ok_iff, textParameter_eq_ok_iff, textOrNull_eq_ok_iff,
    uuidParameter_eq_ok_iff, NotesOperation.Portable, and_assoc, exists_and_left,
    exists_eq_left', pure, Except.pure, Except.ok.injEq]
  constructor
  · intro done
    rcases done with ⟨ht, hb, uuid, read, storable, storable', same⟩
    exact ⟨uuid, read, ht, hb, storable, storable', same⟩
  · intro done
    rcases done with ⟨uuid, read, ht, hb, storable, storable', same⟩
    exact ⟨ht, hb, uuid, read, storable, storable', same⟩

theorem PostgresNotesStore.delete_eq_ok_iff {tenantId userId itemId : String}
    {result : Bool × List NoteRow} :
    delete notes tenantId userId itemId = .ok result ↔
      ∃ uuid, Uuid.ofText? itemId = some uuid ∧
        (NotesOperation.delete tenantId userId itemId).Portable driver ∧
        (decide (0 < (deleteWhere (NoteRow.isItem uuid tenantId userId) notes).1),
          (deleteWhere (NoteRow.isItem uuid tenantId userId) notes).2) = result := by
  simp only [delete, bind_eq_ok_iff, textParameter_eq_ok_iff,
    uuidParameter_eq_ok_iff, NotesOperation.Portable, and_assoc, exists_and_left,
    exists_eq_left', pure, Except.pure, Except.ok.injEq]
  rfl

/-- Ids that are texts of `uuid` values mean the same in both stores. -/
theorem NotesRelated.meansAlike (related : NotesRelated past items notes)
    (uuid : Uuid) (tenantId userId : String) :
    MeansAlike NoteRow.owner NoteRow.item notes (tenantId, userId)
      (NoteRow.isItem uuid tenantId userId) (fun item => item.id = uuid.text) where
  alike row _ := by
    have texts : row.id = uuid ↔ row.id.text = uuid.text :=
      ⟨congrArg Uuid.text, Uuid.text_injective⟩
    rw [Bool.eq_iff_iff]
    simp only [NoteRow.isItem, NoteRow.owner, NoteRow.item, Prod.mk.injEq, texts,
      Bool.and_eq_true, decide_eq_true_eq]
    exact ⟨fun meant => ⟨⟨meant.1.2, meant.2⟩, decide_eq_true meant.1.1⟩,
      fun meant => ⟨⟨of_decide_eq_true meant.2, meant.1.1⟩, meant.1.2⟩⟩
  single := by
    apply (List.pairwise_map.mp related.records.distinct).imp
    intro one other different both
    simp only [NoteRow.isItem, Bool.and_eq_true, decide_eq_true_eq] at both
    exact different (both.1.1.1.trans both.2.1.1.symm)

/-- What the database answers, it can be asked. -/
theorem PostgresNotesStore.portable_of_ok {operation : NotesOperation}
    {result : NotesResult}
    (positive : ∀ limit ∈ operation.limit, 0 ≤ limit)
    (answered : ((postgresNotesStore driver).step notes operation).1 = .ok result) :
    operation.Portable driver := by
  cases operation with
  | create item =>
      rcases transact_eq_ok_iff.mp answered with ⟨_, _, done, _⟩
      rcases create_eq_ok_iff.mp done with ⟨_, _, portable, _⟩
      exact portable
  | listForUser tenantId userId kind limit =>
      rcases readOnly_eq_ok_iff.mp answered with ⟨_, done, _⟩
      exact ((listForUser_eq_ok_iff (positive limit rfl)).mp done).1
  | update tenantId userId itemId title body done now =>
      rcases transact_eq_ok_iff.mp answered with ⟨_, _, done, _⟩
      rcases update_eq_ok_iff.mp done with ⟨_, _, portable, _⟩
      exact portable
  | delete tenantId userId itemId =>
      rcases transact_eq_ok_iff.mp answered with ⟨_, _, done, _⟩
      rcases delete_eq_ok_iff.mp done with ⟨_, _, portable, _⟩
      exact portable

/-- A new item gets a row of its own. -/
theorem NotesRelated.create {item : NoteItem} {uuid : Uuid}
    (related : NotesRelated past items notes)
    (history : NotesHistory (past ++ [.create item])) (named : item.id = uuid.text) :
    NotesRelated (past ++ [.create item]) (items.create item)
      (insertNew NoteRow.id (item.row uuid) notes) := by
  have creations : (past ++ [NotesOperation.create item]).filterMap
        NotesOperation.created =
      past.filterMap NotesOperation.created ++ [item] := by
    rw [List.filterMap_append]
    rfl
  have orderly := history.orderly
  rw [creations] at orderly
  have inserted : insertNew NoteRow.id (item.row uuid) notes =
      notes ++ [item.row uuid] :=
    insertNew_of_fresh (related.records.fresh (item.row uuid) orderly named)
  rw [inserted]
  constructor
  · have pushed := related.mirrors.push (item.row uuid)
    have same : (item.row uuid).item = item := by
      rw [NoteRow.item, NoteItem.row, ← named]
    rwa [same] at pushed
  · rw [creations]
    exact related.records.snoc (item.row uuid) orderly named rfl

/-- Both stores list the same items. -/
theorem NotesRelated.listed (related : NotesRelated past items notes)
    (tenantId userId : String) (kind : Option String) {limit : Int}
    (positive : 0 ≤ limit) :
    ((selectLatest (fun row => row.tenantId = tenantId && row.userId = userId &&
        (kind.isNone || kind = some row.kind))
      (fun row => row.createdAt.instant) notes).take limit.toNat).map NoteRow.item =
      items.listForUser tenantId userId kind limit := by
  have ofKind : (notes.filter fun row => row.tenantId = tenantId &&
        row.userId = userId && (kind.isNone || kind = some row.kind)).map
          NoteRow.item =
      kind.elim (items.bucket (tenantId, userId))
        fun kind => (items.bucket (tenantId, userId)).filter (·.kind = kind) := by
    rw [related.mirrors, readOff]
    cases kind with
    | none =>
        simp only [Option.elim_none, Option.isNone_none, Bool.true_or, Bool.and_true,
          NoteRow.owner, Prod.mk.injEq, Bool.decide_and]
    | some kind =>
        rw [Option.elim_some, List.filter_map, List.filter_filter]
        congr 2
        funext row
        rw [Bool.eq_iff_iff]
        simp only [Option.isNone_some, Bool.false_or, Option.some.injEq,
          Function.comp_apply, NoteRow.item, NoteRow.owner, Prod.mk.injEq,
          Bool.and_eq_true, decide_eq_true_eq]
        exact ⟨fun both => ⟨decide_eq_true both.2.symm, both.1⟩,
          fun both => ⟨both.2, (of_decide_eq_true both.1).symm⟩⟩
  have ordered : notes.Pairwise fun one other =>
      one.createdAt.instant < other.createdAt.instant := related.records.ordered
  rw [selectLatest_of_increasing ordered, List.map_take, List.map_reverse, ofKind]
  cases kind with
  | none => exact (if_pos positive).symm
  | some kind => exact (if_pos positive).symm

/-- What is created does not change when nothing is. -/
theorem created_snoc_of_none (operation : NotesOperation)
    (nothing : operation.created = none) :
    (past ++ [operation]).filterMap NotesOperation.created =
      past.filterMap NotesOperation.created := by
  rw [List.filterMap_append, List.filterMap_cons_none nothing, List.filterMap_nil,
    List.append_nil]

/-- The stores agree on single steps. -/
theorem notes_agreement (driver : Driver) :
    SharedObject.Agreement notesStore (postgresNotesStore driver) NotesHistory
      (fun result result' => result' = .ok result)
      (fun _ _ operation => operation.Portable driver) NotesRelated where
  shortens := by
    intro past rest history
    have shorter : past.Sublist (past ++ rest) := List.sublist_append_left past rest
    exact ⟨fun operation member => history.canonical operation (shorter.subset member),
      fun operation member => history.limits operation (shorter.subset member),
      history.orderly.sublist (shorter.filterMap NotesOperation.created)⟩
  initial := ⟨Mirrors.nil, .nil⟩
  agrees := by
    intro past items notes operation history related portable
    have here : operation ∈ past ++ [operation] := by simp
    cases operation with
    | create item =>
        rcases history.canonical _ here item.id rfl with ⟨uuid, named⟩
        have answered : create notes item =
            .ok ((), insertNew NoteRow.id (item.row uuid) notes) :=
          create_eq_ok_iff.mpr
            ⟨uuid, by rw [named, Uuid.ofText?_text], portable, rfl⟩
        simp only [postgresNotesStore, answered, transact]
        exact ⟨rfl, related.create history named⟩
    | listForUser tenantId userId kind limit =>
        have positive := history.limits _ here limit rfl
        have answered := (listForUser_eq_ok_iff positive).mpr ⟨portable,
          related.listed tenantId userId kind positive⟩
        simp only [postgresNotesStore, answered, readOnly]
        refine ⟨rfl, related.mirrors, ?_⟩
        rw [created_snoc_of_none _ rfl]
        exact related.records
    | update tenantId userId itemId title body done now =>
        rcases history.canonical _ here itemId rfl with ⟨uuid, rfl⟩
        have means := related.meansAlike uuid tenantId userId
        have edited := related.mirrors.edit means (NoteRow.updated title body done now)
          (fun item =>
            { item with
              title := title.getD item.title
              body := body.getD item.body
              done := done.getD item.done
              updatedAt := now })
          (fun _ => rfl) (fun _ => rfl)
        have answered : update notes tenantId userId uuid.text title body done now =
            .ok _ := update_eq_ok_iff.mpr ⟨uuid, Uuid.ofText?_text uuid, portable, rfl⟩
        simp only [postgresNotesStore, answered, transact]
        refine ⟨congrArg (Except.ok ∘ NotesResult.updated) edited.1.symm, edited.2, ?_⟩
        rw [created_snoc_of_none _ rfl]
        exact related.records.updateWhere (fun _ => rfl) (fun _ => rfl)
    | delete tenantId userId itemId =>
        rcases history.canonical _ here itemId rfl with ⟨uuid, rfl⟩
        have means := related.meansAlike uuid tenantId userId
        have deleted := related.mirrors.delete means
        have answered : delete notes tenantId userId uuid.text = .ok _ :=
          delete_eq_ok_iff.mpr ⟨uuid, Uuid.ofText?_text uuid, portable, rfl⟩
        simp only [postgresNotesStore, answered, transact]
        refine ⟨congrArg (Except.ok ∘ NotesResult.deleted) deleted.1.symm, deleted.2, ?_⟩
        rw [created_snoc_of_none _ rfl]
        exact related.records.deleteWhere _
  differs := by
    intro past items notes operation history _ unportable answered
    exact unportable (portable_of_ok (history.limits operation (by simp)) answered)

end Steps

/-! ## Whole histories -/

/-- Both stores return equal results for every operation. -/
def NotesBackendsAgree (driver : Driver) (history : List NotesOperation) : Prop :=
  List.Forall₂ (fun result result' => result' = .ok result)
    (notesStore.answers history) ((postgresNotesStore driver).answers history)

/-- The stores return equal results and end in corresponding states exactly if the
database takes the parameters of every operation. -/
theorem notes_backends_agree_iff (driver : Driver) {history : List NotesOperation}
    (wellFormed : NotesHistory history) :
    NotesBackendsAgree driver history ∧
        NotesCorrespond (notesStore.after history)
          ((postgresNotesStore driver).after history) ↔
      ∀ operation ∈ history, operation.Portable driver := by
  have agreement := notes_agreement driver
  have each := (agreement.answers_iff wellFormed).trans SharedObject.eachMeets_const
  constructor
  · exact fun both => each.mp both.1
  · intro portable
    exact ⟨each.mpr portable, (agreement.related_of_eachMeets wellFormed
      (SharedObject.eachMeets_const.mpr portable)).mirrors⟩

/-- A task with the `uuid` of equal octets and some title, at some hour. -/
def sampleTask (octet : Octet) (title : String) (hour : Nat) : NoteItem where
  id := (Uuid.repeated octet).text
  tenantId := "acme.com"
  userId := "ana"
  kind := "task"
  title
  body := ""
  done := false
  createdAt := .fullHour hour
  updatedAt := .fullHour hour

/-- Two tasks are created, one of them is done and the other one deleted. -/
def taskHistory : List NotesOperation :=
  [.create (sampleTask (10, 11) "Reset" 9),
    .create (sampleTask (10, 12) "Plan" 10),
    .update "acme.com" "ana" (Uuid.repeated (10, 11)).text none none (some true)
      (.fullHour 11),
    .delete "acme.com" "ana" (Uuid.repeated (10, 12)).text]

/-- What is left is listed. -/
def taskList : NotesOperation := .listForUser "acme.com" "ana" (some "task") 100

theorem notesHistory_task : NotesHistory (taskHistory ++ [taskList]) where
  canonical := by
    simp [taskHistory, taskList, NotesOperation.itemId, sampleTask,
      Uuid.isCanonical_text]
  limits := by simp [taskHistory, taskList, NotesOperation.limit]
  orderly := ⟨by decide +kernel, by decide +kernel⟩

/-- With `psycopg` the tasks agree, and with a driver that declares types their list
does, too. -/
theorem notes_backends_agree_iff_task :
    (NotesBackendsAgree .psycopg taskHistory ∧
      NotesCorrespond (notesStore.after taskHistory)
        ((postgresNotesStore .psycopg).after taskHistory)) ∧
    NotesBackendsAgree .typed (taskHistory ++ [taskList]) ∧
      NotesCorrespond (notesStore.after (taskHistory ++ [taskList]))
        ((postgresNotesStore .typed).after (taskHistory ++ [taskList])) := by
  constructor
  · have history := (notes_agreement .psycopg).shortens notesHistory_task
    apply (notes_backends_agree_iff .psycopg history).mpr
    simp [taskHistory, NotesOperation.Portable, sampleTask]
    decide
  · apply (notes_backends_agree_iff .typed notesHistory_task).mpr
    simp [taskHistory, taskList, NotesOperation.Portable, sampleTask]
    decide

/-- One operation is a history. -/
theorem notesHistory_singleton {operation : NotesOperation}
    (canonical : ∀ id ∈ operation.itemId, Uuid.IsCanonical id)
    (limits : ∀ limit ∈ operation.limit, 0 ≤ limit) : NotesHistory [operation] where
  canonical _ member := List.mem_singleton.mp member ▸ canonical
  limits _ member := List.mem_singleton.mp member ▸ limits
  orderly := by
    cases operation with
    | create item => exact ⟨List.nodup_singleton item.id, List.pairwise_singleton _ item⟩
    | _ => exact ⟨List.nodup_nil, .nil⟩

/-- The database cannot tell the type of a kind that is not declared, a text with
U+0000 cannot be sent, and there are larger numbers than a `bigint`. -/
theorem notes_backends_differ :
    (NotesHistory [.listForUser "acme.com" "ana" none 100] ∧
      ¬ NotesBackendsAgree .psycopg [.listForUser "acme.com" "ana" none 100]) ∧
    (NotesHistory [.create (sampleTask (10, 11) "Re\x00set" 9)] ∧
      ¬ NotesBackendsAgree .typed [.create (sampleTask (10, 11) "Re\x00set" 9)]) ∧
    (NotesHistory [.listForUser "acme.com" "ana" none 9223372036854775808] ∧
      ¬ NotesBackendsAgree .typed
        [.listForUser "acme.com" "ana" none 9223372036854775808]) := by
  refine ⟨⟨notesHistory_singleton ?_ ?_, fun agree => ?_⟩,
    ⟨notesHistory_singleton ?_ ?_, fun agree => ?_⟩,
    ⟨notesHistory_singleton ?_ ?_, fun agree => ?_⟩⟩
  · exact nofun
  · simp [NotesOperation.limit]
  · cases (List.forall₂_cons.mp agree).1
  · simp [NotesOperation.itemId, sampleTask, Uuid.isCanonical_text]
  · exact nofun
  · have failed : (postgresNotesStore .typed).answers
        [.create (sampleTask (10, 11) "Re\x00set" 9)] = [.error .dataError] := by
      rfl
    rw [NotesBackendsAgree, failed] at agree
    cases (List.forall₂_cons.mp agree).1
  · exact nofun
  · simp [NotesOperation.limit]
  · cases (List.forall₂_cons.mp agree).1

end PrivateAiWorkspace.ControlPlane
