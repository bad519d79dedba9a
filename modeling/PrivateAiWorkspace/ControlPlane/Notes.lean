import PrivateAiWorkspace.ControlPlane.Conversations
import PrivateAiWorkspace.ControlPlane.Memory

/-!
# Notes and tasks

`notes.py`: the notes, tasks and documents of each principal and the store in
memory that keeps them. It is the last of the four stores in memory, each of
which gives a principal what depends on the principal's own operations only.
-/

namespace PrivateAiWorkspace.ControlPlane

open Effects Python

/-- `NoteItem`. -/
structure NoteItem where
  id : String
  tenantId : String
  userId : String
  kind : String
  title : String
  body : String
  done : Bool
  createdAt : DateTime
  updatedAt : DateTime

/-- `InMemoryNotesStore`: items of each principal, oldest first. -/
abbrev InMemoryNotesStore := Dict Principal (List NoteItem)

namespace InMemoryNotesStore

/-- `create`. -/
def create (items : InMemoryNotesStore) (item : NoteItem) : InMemoryNotesStore :=
  items.push (item.tenantId, item.userId) item

/-- `list_for_user`. -/
def listForUser (items : InMemoryNotesStore) (tenantId userId : String)
    (kind : Option String) (limit : Int) : List NoteItem :=
  let listed := items.bucket (tenantId, userId)
  let ofKind :=
    match kind with
    | none => listed
    | some kind => listed.filter (·.kind = kind)
  takeSlice ofKind.reverse limit

/-- `update` at a time: what is not given stays. -/
def update (items : InMemoryNotesStore) (tenantId userId itemId : String)
    (title body : Option String) (done : Option Bool) (now : DateTime) :
    Option NoteItem × InMemoryNotesStore :=
  items.changeBucket (tenantId, userId)
    (editFirst (fun item => item.id = itemId) fun item =>
      { item with
        title := title.getD item.title
        body := body.getD item.body
        done := done.getD item.done
        updatedAt := now })

/-- `delete`: whether there was such an item. -/
def delete (items : InMemoryNotesStore) (tenantId userId itemId : String) :
    Bool × InMemoryNotesStore :=
  let deleted := items.changeBucket (tenantId, userId)
    (deleteFirst fun item => item.id = itemId)
  (deleted.1.isSome, deleted.2)

end InMemoryNotesStore

/-- An operation of the store, with the time it reads. -/
inductive NotesOperation where
  | create (item : NoteItem)
  | listForUser (tenantId userId : String) (kind : Option String) (limit : Int)
  | update (tenantId userId itemId : String) (title body : Option String)
      (done : Option Bool) (now : DateTime)
  | delete (tenantId userId itemId : String)

/-- What an operation of the store returns. -/
inductive NotesResult where
  | none
  | items (items : List NoteItem)
  | updated (item : Option NoteItem)
  | deleted (found : Bool)

/-- The store as its users share it. -/
def notesStore :
    SharedObject InMemoryNotesStore NotesOperation NotesResult Principal where
  initial := .empty
  step items
    | .create item => (.none, items.create item)
    | .listForUser tenantId userId kind limit =>
        (.items (items.listForUser tenantId userId kind limit), items)
    | .update tenantId userId itemId title body done now =>
        let updated := items.update tenantId userId itemId title body done now
        (.updated updated.1, updated.2)
    | .delete tenantId userId itemId =>
        let deleted := items.delete tenantId userId itemId
        (.deleted deleted.1, deleted.2)
  issuer
    | .create item => (item.tenantId, item.userId)
    | .listForUser tenantId userId _ _ => (tenantId, userId)
    | .update tenantId userId _ _ _ _ _ => (tenantId, userId)
    | .delete tenantId userId _ => (tenantId, userId)

/-- The items of a principal. -/
def notesOf (principal : Principal) (items : InMemoryNotesStore) :
    List NoteItem :=
  items.bucket principal

theorem notesStore_isolated :
    notesStore.Isolated (fun _ => True) notesOf := by
  apply SharedObject.isolated_of_steps
  · intro principal items operation others
    cases operation with
    | listForUser => rfl
    | create item =>
        exact (Dict.bucket_insert _ _ _ _).trans (if_neg others.symm)
    | update | delete => exact Dict.bucket_changeBucket_ne _ _ others.symm
  · intro first second operation same
    cases operation with
    | create item =>
        simp only [notesStore, notesOf] at same ⊢
        simp [InMemoryNotesStore.create, Dict.push, same]
    | listForUser tenantId userId kind limit =>
        simp only [notesStore, notesOf] at same ⊢
        simp only [InMemoryNotesStore.listForUser, same, and_self]
    | update tenantId userId itemId title body done now =>
        simp only [notesStore, notesOf] at same ⊢
        simp only [InMemoryNotesStore.update, Dict.changeBucket_fst,
          Dict.bucket_changeBucket_self, same, and_self]
    | delete tenantId userId itemId =>
        simp only [notesStore, notesOf] at same ⊢
        simp only [InMemoryNotesStore.delete, Dict.changeBucket_fst,
          Dict.bucket_changeBucket_self, same, and_self]

/-! ## The four stores -/

/-- For each store: two histories that agree on the operations of a principal
return the principal the same results, and an operation of anybody else leaves
what the store holds for the principal as it is. The conversations are keyed by
their ids, which therefore have to differ. -/
theorem stores_isolated (arithmetic : FloatArithmetic) :
    notificationStore.Isolated (fun _ => True) notificationsOf ∧
      (memoryStore arithmetic).Isolated (fun _ => True) memoriesOf ∧
      notesStore.Isolated (fun _ => True) notesOf ∧
      conversationStore.Isolated FreshIds conversationsOf :=
  ⟨notificationStore_isolated, memoryStore_isolated arithmetic,
    notesStore_isolated, conversationStore_isolated⟩

end PrivateAiWorkspace.ControlPlane
