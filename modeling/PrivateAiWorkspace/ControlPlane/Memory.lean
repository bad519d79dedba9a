import PrivateAiWorkspace.ControlPlane.Notifications

/-!
# Memory of a user

`memory.py`: the memories of each principal and the store in memory that records,
lists, recalls and deletes them.
-/

namespace PrivateAiWorkspace.ControlPlane

open Effects Python

/-- `Memory`. -/
structure Memory where
  id : String
  tenantId : String
  userId : String
  content : String
  createdAt : DateTime

/-- `RecalledMemory`. -/
structure RecalledMemory where
  memory : Memory
  score : PyFloat

/-- The arithmetic of floats: `*` and `sum`. -/
structure FloatArithmetic where
  mul : PyFloat → PyFloat → PyFloat
  sum : List PyFloat → PyFloat

/-- `_cosine` of normalised embeddings. -/
def cosine (arithmetic : FloatArithmetic) (left right : List PyFloat) :
    PyFloat :=
  arithmetic.sum (List.zipWith arithmetic.mul left right)

/-- `InMemoryMemoryStore`: memories of each principal with their embeddings,
oldest first. -/
abbrev InMemoryMemoryStore := Dict Principal (List (Memory × List PyFloat))

namespace InMemoryMemoryStore

/-- `record`. -/
def record (items : InMemoryMemoryStore) (memory : Memory)
    (embedding : List PyFloat) : InMemoryMemoryStore :=
  items.push (memory.tenantId, memory.userId) (memory, embedding)

/-- `list_for_user`. -/
def listForUser (items : InMemoryMemoryStore) (tenantId userId : String)
    (limit : Int) : List Memory :=
  takeSlice ((items.bucket (tenantId, userId)).map Prod.fst).reverse limit

/-- `recall`: the best scores first, memories of equal score as recorded. -/
def recallMemories (arithmetic : FloatArithmetic) (items : InMemoryMemoryStore)
    (tenantId userId : String) (embedding : List PyFloat) (topK : Int) :
    List RecalledMemory :=
  let scored := (items.bucket (tenantId, userId)).map fun (memory, vector) =>
    { memory, score := cosine arithmetic embedding vector : RecalledMemory }
  takeSlice
    (scored.mergeSort fun left right => !left.score.lt right.score) topK

/-- `delete`: whether there was such a memory. -/
def delete (items : InMemoryMemoryStore) (tenantId userId memoryId : String) :
    Bool × InMemoryMemoryStore :=
  let deleted := items.changeBucket (tenantId, userId)
    (deleteFirst fun item => item.1.id = memoryId)
  (deleted.1.isSome, deleted.2)

end InMemoryMemoryStore

/-- An operation of the store. -/
inductive MemoryOperation where
  | record (memory : Memory) (embedding : List PyFloat)
  | listForUser (tenantId userId : String) (limit : Int)
  | recallMemories (tenantId userId : String) (embedding : List PyFloat) (topK : Int)
  | delete (tenantId userId memoryId : String)

/-- What an operation of the store returns. -/
inductive MemoryResult where
  | none
  | memories (memories : List Memory)
  | recalled (memories : List RecalledMemory)
  | deleted (found : Bool)

/-- The store as its users share it. -/
def memoryStore (arithmetic : FloatArithmetic) :
    SharedObject InMemoryMemoryStore MemoryOperation MemoryResult Principal where
  initial := .empty
  step items
    | .record memory embedding => (.none, items.record memory embedding)
    | .listForUser tenantId userId limit =>
        (.memories (items.listForUser tenantId userId limit), items)
    | .recallMemories tenantId userId embedding topK =>
        (.recalled (items.recallMemories arithmetic tenantId userId embedding topK),
          items)
    | .delete tenantId userId memoryId =>
        let deleted := items.delete tenantId userId memoryId
        (.deleted deleted.1, deleted.2)
  issuer
    | .record memory _ => (memory.tenantId, memory.userId)
    | .listForUser tenantId userId _ => (tenantId, userId)
    | .recallMemories tenantId userId _ _ => (tenantId, userId)
    | .delete tenantId userId _ => (tenantId, userId)

/-- The memories of a principal with their embeddings. -/
def memoriesOf (principal : Principal) (items : InMemoryMemoryStore) :
    List (Memory × List PyFloat) :=
  items.bucket principal

theorem memoryStore_isolated (arithmetic : FloatArithmetic) :
    (memoryStore arithmetic).Isolated (fun _ => True) memoriesOf := by
  apply SharedObject.isolated_of_steps
  · intro principal items operation others
    cases operation with
    | listForUser | recallMemories => rfl
    | record memory embedding =>
        exact (Dict.bucket_insert _ _ _ _).trans (if_neg others.symm)
    | delete tenantId userId memoryId =>
        exact Dict.bucket_changeBucket_ne _ _ others.symm
  · intro first second operation same
    cases operation with
    | record memory embedding =>
        simp only [memoryStore, memoriesOf] at same ⊢
        simp [InMemoryMemoryStore.record, Dict.push, same]
    | listForUser tenantId userId limit =>
        simp only [memoryStore, memoriesOf] at same ⊢
        simp only [InMemoryMemoryStore.listForUser, same, and_self]
    | recallMemories tenantId userId embedding topK =>
        simp only [memoryStore, memoriesOf] at same ⊢
        simp only [InMemoryMemoryStore.recallMemories, same, and_self]
    | delete tenantId userId memoryId =>
        simp only [memoryStore, memoriesOf] at same ⊢
        simp only [InMemoryMemoryStore.delete, Dict.changeBucket_fst,
          Dict.bucket_changeBucket_self, same, and_self]

end PrivateAiWorkspace.ControlPlane
