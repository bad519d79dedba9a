import PrivateAiWorkspace.ControlPlane.MemoryEndpoints
import PrivateAiWorkspace.ControlPlane.RequestBodies
import PrivateAiWorkspace.Effects.HostingWorld
import PrivateAiWorkspace.Lists.Ranking
import PrivateAiWorkspace.Lists.Survivors
import PrivateAiWorkspace.Python.FloatOrder

/-!
# The memories in effect

Any number of the memory endpoints run at once over one store. What a user is shown
is then determined by the order in which the store was called: a memory is in effect
from when it was recorded, which takes the consent of its user, until its user
deletes it, and lists and recalls show the memories of their user in effect.
-/

namespace PrivateAiWorkspace.ControlPlane

open Effects Python Survivors

/-- What `InMemoryMemoryStore` answers and what it holds then. -/
def InMemoryMemoryStore.serve (arithmetic : FloatArithmetic) (items : InMemoryMemoryStore) :
    (request : MemoryOperation) → MemoryStore.Answer request × InMemoryMemoryStore
  | .record memory embedding => ((), items.record memory embedding)
  | .listForUser tenantId userId limit =>
      (items.listForUser tenantId userId limit, items)
  | .recallMemories tenantId userId embedding topK =>
      (items.recallMemories arithmetic tenantId userId embedding topK, items)
  | .delete tenantId userId memoryId => items.delete tenantId userId memoryId

/-- Who a memory belongs to. -/
def Memory.principal (memory : Memory) : Principal := (memory.tenantId, memory.userId)

/-- Who a caller is. -/
def Caller.principal (caller : Caller) : Principal := (caller.tenantId, caller.userId)

namespace MemoryOperation

/-- The id an operation records a memory under. -/
def recordedIds : MemoryOperation → List String
  | .record memory _ => [memory.id]
  | _ => []

/-- The memory an operation records for a principal. -/
def adds (principal : Principal) : MemoryOperation → Option (Memory × List PyFloat)
  | .record memory embedding =>
      if memory.principal = principal then some (memory, embedding) else none
  | _ => none

/-- An operation deletes a memory of a principal. -/
def removes (principal : Principal) : MemoryOperation → Memory × List PyFloat → Bool
  | .delete tenantId userId memoryId, item =>
      decide ((tenantId, userId) = principal) && decide (item.1.id = memoryId)
  | _, _ => false

theorem removes_iff {principal : Principal} {one : MemoryOperation}
    {item : Memory × List PyFloat} :
    one.removes principal item = true ↔
      one = .delete principal.1 principal.2 item.1.id := by
  cases one with
  | delete tenantId userId memoryId =>
      simp only [removes, Bool.and_eq_true, decide_eq_true_eq, delete.injEq]
      constructor
      · intro ⟨own, named⟩
        rw [← own]
        exact ⟨rfl, rfl, named.symm⟩
      · intro ⟨tenant, user, named⟩
        exact ⟨Prod.ext tenant user, named.symm⟩
  | _ => simp [removes]

end MemoryOperation

/-- The memories of a principal that operations leave in effect, oldest first: they
were recorded and not deleted since. -/
def memoriesInEffect (principal : Principal) (history : List MemoryOperation) :
    List (Memory × List PyFloat) :=
  survivors (MemoryOperation.adds principal) (MemoryOperation.removes principal) history

/-! ## The store holds what is in effect -/

section Store

variable {history : List MemoryOperation}

theorem recordedIds_of_adds {principal : Principal} {one : MemoryOperation}
    {item : Memory × List PyFloat} (added : one.adds principal = some item) :
    one.recordedIds = [item.1.id] ∧ item.1.principal = principal := by
  cases one with
  | record memory embedding =>
      simp only [MemoryOperation.adds, Option.ite_none_right_eq_some,
        Option.some.injEq] at added
      rw [← added.2]
      exact ⟨rfl, added.1⟩
  | _ => cases added

/-- Memories in effect have different ids if no id was recorded twice. -/
theorem nodup_memoriesInEffect
    (distinct : (history.flatMap MemoryOperation.recordedIds).Nodup)
    (principal : Principal) :
    ((memoriesInEffect principal history).map (·.1.id)).Nodup := by
  have among : ((history.filterMap (MemoryOperation.adds principal)).map
      (·.1.id)).Sublist (history.flatMap MemoryOperation.recordedIds) := by
    clear distinct
    induction history with
    | nil => exact List.Sublist.refl _
    | cons one rest ih =>
        cases added : one.adds principal with
        | none =>
            rw [List.filterMap_cons_none added, List.flatMap_cons]
            exact ih.trans (List.sublist_append_right _ _)
        | some item =>
            rw [List.filterMap_cons_some added, List.flatMap_cons,
              (recordedIds_of_adds added).1]
            exact ih.cons_cons _
  exact (((survivors_sublist history).map _).trans among).nodup distinct

variable {arithmetic : FloatArithmetic}

/-- What one operation does to the memories of a principal, which have different
ids. -/
theorem bucket_step {items : InMemoryMemoryStore} {principal : Principal}
    (distinct : ((items.bucket principal).map (·.1.id)).Nodup) (one : MemoryOperation) :
    ((memoryStore arithmetic).step items one).2.bucket principal =
      (items.bucket principal).filter (fun item => !one.removes principal item) ++
        (one.adds principal).toList := by
  cases one with
  | record memory embedding =>
      change (items.push memory.principal (memory, embedding)).bucket principal = _
      by_cases own : memory.principal = principal
      · simp [Dict.push, own, MemoryOperation.removes, MemoryOperation.adds]
      · simp [Dict.push, own, Ne.symm own, MemoryOperation.removes, MemoryOperation.adds]
  | listForUser tenantId userId limit =>
      simp [memoryStore, MemoryOperation.removes, MemoryOperation.adds]
  | recallMemories tenantId userId embedding topK =>
      simp [memoryStore, MemoryOperation.removes, MemoryOperation.adds]
  | delete tenantId userId memoryId =>
      change (items.changeBucket (tenantId, userId)
        (deleteFirst fun item => item.1.id = memoryId)).2.bucket principal = _
      by_cases own : (tenantId, userId) = principal
      · have single : AtMostOne (fun item : Memory × List PyFloat =>
            decide (item.1.id = memoryId)) (items.bucket principal) := by
          apply (List.pairwise_map.mp distinct).imp
          intro first second different
          simp only [decide_eq_true_eq]
          intro both
          exact different (both.1.trans both.2.symm)
        rw [own, Dict.bucket_changeBucket_self, snd_deleteFirst single]
        simp [MemoryOperation.removes, MemoryOperation.adds, own]
      · rw [Dict.bucket_changeBucket_ne _ _ (Ne.symm own)]
        simp [MemoryOperation.removes, MemoryOperation.adds, own]

/-- What the store holds for a principal is what is in effect, as long as no id is
recorded twice. -/
theorem bucket_after_eq (distinct : (history.flatMap MemoryOperation.recordedIds).Nodup)
    (principal : Principal) :
    ((memoryStore arithmetic).after history).bucket principal =
      memoriesInEffect principal history := by
  induction history using List.reverseRecOn with
  | nil => rfl
  | append_singleton history one ih =>
      have sofar : (history.flatMap MemoryOperation.recordedIds).Nodup := by
        rw [List.flatMap_append] at distinct
        exact distinct.of_append_left
      have held := ih sofar
      have apart := nodup_memoriesInEffect sofar principal
      rw [← held] at apart
      rw [SharedObject.after_snoc, bucket_step apart, held, memoriesInEffect,
        memoriesInEffect, survivors_snoc]

end Store

/-! ## What a run of an endpoint has called -/

section Runs

variable {builtins : Builtins} {tokenVerifier : Option TokenVerifier}
  {authorization : Option String}
  {events : List (Event (Services.sum MemoryStore) PyException)}
  {response : WireResponse}

/-- A list that is answered has called the store once. -/
theorem run_list {limit : Int} {caller : Caller}
    (admitted : gate builtins authorization tokenVerifier (.ok ()) = .ok (.ok caller))
    (run : Program.Run (buildMemoryListResponse builtins tokenVerifier authorization limit)
      events (.ok response)) :
    ∃ memories : List Memory,
      events = [⟨Sum.inr (.listForUser caller.tenantId caller.userId
        (min (max 1 limit) maxListLimit)), .ok memories⟩] ∧
      response = (200, countedPayload "memories"
        (memories.map fun memory => .obj memory.toApiDict)) := by
  rw [buildMemoryListResponse, admitted] at run
  rcases Program.run_callThen_iff.mp run with
    ⟨error, _, raised⟩ | ⟨memories, more, rfl, later⟩
  · cases raised
  · rcases Program.run_ret_iff.mp later with ⟨rfl, returned⟩
    cases returned
    exact ⟨memories, rfl, rfl⟩

/-- A recall that is answered with results has called the store once, with the
embedding of its query. -/
theorem run_recall {round6 : PyFloat → PyFloat} {body : Bytes} {caller : Caller}
    {request : SimilarityRequest}
    (accepted : prepareSimilarity builtins tokenVerifier authorization body =
      .ok (.ok (caller, request)))
    (run : Program.Run (buildMemoryRecallResponse builtins tokenVerifier round6
      authorization body) events (.ok response))
    (shown : response.1 = 200) :
    ∃ (vector : List PyFloat) (others : List (List PyFloat))
      (results : List RecalledMemory),
      events = [⟨Sum.inl (ServiceCall.embed [request.query]), .ok (vector :: others)⟩,
        ⟨Sum.inr (.recallMemories caller.tenantId caller.userId vector request.topK),
          .ok results⟩] ∧
      response = (200, countedPayload "results"
        (results.map fun recalled => .obj (recalled.toApiDict round6))) := by
  rw [buildMemoryRecallResponse, accepted] at run
  simp only [Program.ofExcept_ok, Program.bind_eq, Program.ret_bind] at run
  rcases Program.run_bind_iff.mp run with
    ⟨error, _, raised⟩ | ⟨outcome, before, after, rfl, embedded, later⟩
  · cases raised
  · rcases run_embedFirst embedded with ⟨answer, rfl, vectors, unavailable⟩
    cases outcome with
    | error refusal =>
        rcases Program.run_ret_iff.mp later with ⟨-, returned⟩
        cases returned
        cases unavailable _ rfl
        cases shown
    | ok vector =>
        rcases vectors vector rfl with ⟨others, rfl⟩
        dsimp only at later
        split at later
        · rcases Program.run_ret_iff.mp later with ⟨-, returned⟩
          cases returned
          cases shown
        · rcases Program.run_callThen_iff.mp later with
            ⟨error, _, raised⟩ | ⟨results, more, rfl, ended⟩
          · cases raised
          · rcases Program.run_ret_iff.mp ended with ⟨rfl, returned⟩
            cases returned
            exact ⟨vector, others, results, rfl, rfl⟩

/-- A record that is acknowledged has recorded what it shows. -/
theorem run_record {body : Bytes} {caller : Caller} {request : MemoryRecordRequest}
    (accepted : prepareMemoryRecord builtins tokenVerifier authorization body =
      .ok (.ok (caller, request)))
    (run : Program.Run (buildMemoryRecordResponse builtins tokenVerifier authorization
      body) events (.ok response))
    (created : response.1 = 201) :
    ∃ (memory : Memory) (embedding : List PyFloat),
      ⟨Sum.inr (.record memory embedding), .ok ()⟩ ∈ events ∧
      memory.principal = caller.principal ∧ memory.content = request.content ∧
      response = (201, .obj memory.toApiDict) := by
  rw [buildMemoryRecordResponse, accepted] at run
  simp only [Program.ofExcept_ok, Program.bind_eq, Program.ret_bind] at run
  rcases Program.run_bind_iff.mp run with
    ⟨error, _, raised⟩ | ⟨outcome, before, after, rfl, embedded, later⟩
  · cases raised
  · rcases run_embedFirst embedded with ⟨answer, rfl, vectors, unavailable⟩
    cases outcome with
    | error refusal =>
        rcases Program.run_ret_iff.mp later with ⟨-, returned⟩
        cases returned
        cases unavailable _ rfl
        cases created
    | ok vector =>
        rcases Program.run_embedThen_iff.mp later with
          ⟨error, _, raised⟩ | ⟨id, more, rfl, named⟩
        · cases raised
        · rcases Program.run_embedThen_iff.mp named with
            ⟨error, _, raised⟩ | ⟨createdAt, more, rfl, dated⟩
          · cases raised
          · rcases Program.run_callThen_iff.mp dated with
              ⟨error, _, raised⟩ | ⟨_, more, rfl, ended⟩
            · cases raised
            · rcases Program.run_ret_iff.mp ended with ⟨rfl, returned⟩
              cases returned
              exact ⟨_, _, List.mem_cons_of_mem _ (List.mem_cons_of_mem _
                (List.mem_cons_of_mem _ List.mem_cons_self)), rfl, rfl, rfl⟩

/-- A deletion that is acknowledged has found the memory. -/
theorem run_delete {memoryId : String} {caller : Caller}
    (admitted : gate builtins authorization tokenVerifier (.ok ()) = .ok (.ok caller))
    (run : Program.Run (buildMemoryDeleteResponse builtins tokenVerifier authorization
      memoryId) events (.ok response))
    (deleted : response.1 = 200) :
    events = [⟨Sum.inr (.delete caller.tenantId caller.userId memoryId), .ok true⟩] := by
  rw [buildMemoryDeleteResponse, admitted] at run
  rcases Program.run_callThen_iff.mp run with
    ⟨error, _, raised⟩ | ⟨found, more, rfl, later⟩
  · cases raised
  · cases found with
    | false =>
        rcases Program.run_ret_iff.mp later with ⟨-, returned⟩
        cases returned
        cases deleted
    | true =>
        rcases Program.run_ret_iff.mp later with ⟨rfl, -⟩
        rfl

end Runs

/-! ## What the endpoints record -/

section Endpoints

variable (builtins : Builtins) (tokenVerifier : Option TokenVerifier)
  (round6 : PyFloat → PyFloat)

/-- The memory endpoints, each for some request. -/
inductive MemoryEndpoint : MemoryProgram WireResponse → Prop
  | record (authorization : Option String) (body : Bytes) :
      MemoryEndpoint (buildMemoryRecordResponse builtins tokenVerifier authorization body)
  | list (authorization : Option String) (limit : Int) :
      MemoryEndpoint (buildMemoryListResponse builtins tokenVerifier authorization limit)
  | recallMemories (authorization : Option String) (body : Bytes) :
      MemoryEndpoint
        (buildMemoryRecallResponse builtins tokenVerifier round6 authorization body)
  | delete (authorization : Option String) (memoryId : String) :
      MemoryEndpoint
        (buildMemoryDeleteResponse builtins tokenVerifier authorization memoryId)

/-- The user a memory belongs to has asked for it, with consent. -/
def Consented (memory : Memory) (program : MemoryProgram WireResponse) : Prop :=
  ∃ authorization body caller fields,
    program = buildMemoryRecordResponse builtins tokenVerifier authorization body ∧
    gate builtins authorization tokenVerifier (.ok ()) = .ok (.ok caller) ∧
    caller.principal = memory.principal ∧
    builtins.loadsBytes body = .ok (.obj fields) ∧
    Json.get fields "consent" = .bool true ∧
    Json.getOr fields "content" (.str "") = .str memory.content

variable {builtins tokenVerifier round6}

/-- A memory that may be recorded is the one the body asks for, with consent. -/
theorem of_readMemoryRecord {fields : List (String × Json)} {request : MemoryRecordRequest}
    (accepted : readMemoryRecord fields = .ok request) :
    Json.get fields "consent" = .bool true ∧
      Json.getOr fields "content" (.str "") = .str request.content := by
  unfold readMemoryRecord at accepted
  split at accepted
  next consent =>
    split at accepted
    next content found =>
      split at accepted
      · cases accepted
      · split at accepted
        · cases accepted
        · cases accepted
          exact ⟨consent, found⟩
    next => cases accepted
  next => cases accepted

/-- What the endpoints may call: they record under an id they were given and have not
used, and only what a user has asked for with consent, with its embedding. -/
def MemoryCalls (builtins : Builtins) (tokenVerifier : Option TokenVerifier)
    (program : MemoryProgram WireResponse)
    (past : List (Event (Services.sum MemoryStore) PyException))
    (request : (Services.sum MemoryStore).Call) : Prop :=
  (storeIds Service.givenId MemoryOperation.recordedIds).Own past request ∧
    ∀ memory embedding, request = Sum.inr (.record memory embedding) →
      Consented builtins tokenVerifier memory program ∧
      ∃ others, ⟨Sum.inl (ServiceCall.embed [memory.content]),
        .ok (embedding :: others)⟩ ∈ past

variable {program : MemoryProgram WireResponse}
  {past : List (Event (Services.sum MemoryStore) PyException)}

theorem memoryCalls_service (request : ServiceCall) :
    MemoryCalls builtins tokenVerifier program past (Sum.inl request) := by
  constructor
  · simp [IdUse.Own, storeIds]
  · intro memory embedding same
    cases same

theorem memoryCalls_store {request : MemoryOperation} (none : request.recordedIds = []) :
    MemoryCalls builtins tokenVerifier program past (Sum.inr request) := by
  constructor
  · simp [IdUse.Own, storeIds, none]
  · intro memory embedding same
    cases same
    cases none

theorem guarded_record (authorization : Option String) (body : Bytes) :
    Program.Guarded (MemoryCalls builtins tokenVerifier
        (buildMemoryRecordResponse builtins tokenVerifier authorization body)) []
      (buildMemoryRecordResponse builtins tokenVerifier authorization body) := by
  apply Program.Guarded.ofExceptThen
  intro read accepted
  cases read with
  | error response => trivial
  | ok request =>
      rcases of_readRequest accepted with ⟨admitted, fields, loaded, filled⟩
      have asked := of_readMemoryRecord filled
      apply (guarded_embedFirst (memoryCalls_service _)).bind
      intro embedded outcome run
      cases outcome with
      | error response => trivial
      | ok vector =>
          rcases run_embedFirst run with ⟨answer, rfl, vectors, -⟩
          rcases vectors vector rfl with ⟨others, rfl⟩
          apply Program.Guarded.embedThen (memoryCalls_service _)
          intro id
          apply Program.Guarded.embedThen (memoryCalls_service _)
          intro createdAt
          apply Program.Guarded.callThen
          · constructor
            · apply own_of_given rfl
              · exact ⟨⟨Sum.inl ServiceCall.uuid4, .ok id⟩, by simp [Embedding.inl], rfl⟩
              · simp [storeCall, Embedding.inl]
            · intro memory embedding same
              cases same
              constructor
              · exact ⟨authorization, body, request.1, fields, rfl, admitted, rfl,
                  body_of_loadObject loaded, asked⟩
              · exact ⟨others, List.mem_append_left _ (List.mem_append_left _
                  (List.mem_append_right _ List.mem_cons_self))⟩
          · intro _
            trivial

theorem guarded_memoryEndpoint (endpoint : MemoryEndpoint builtins tokenVerifier round6
      program) :
    Program.Guarded (MemoryCalls builtins tokenVerifier program) [] program := by
  cases endpoint with
  | record authorization body => exact guarded_record authorization body
  | list authorization limit =>
      apply Program.Guarded.ofExceptThen
      intro read _
      cases read with
      | error response => trivial
      | ok caller => exact Program.Guarded.callThen (memoryCalls_store rfl) fun _ => trivial
  | recallMemories authorization body =>
      apply Program.Guarded.ofExceptThen
      intro read _
      cases read with
      | error response => trivial
      | ok request =>
          apply (guarded_embedFirst (memoryCalls_service _)).bind
          intro embedded outcome _
          cases outcome with
          | error response => trivial
          | ok vector =>
              dsimp only
              split
              · trivial
              · exact Program.Guarded.callThen (memoryCalls_store rfl) fun _ => trivial
  | delete authorization memoryId =>
      apply Program.Guarded.ofExceptThen
      intro read _
      cases read with
      | error response => trivial
      | ok caller =>
          apply Program.Guarded.callThen (memoryCalls_store rfl)
          intro deleted
          cases deleted <;> trivial

end Endpoints

/-! ## Runs of the service -/

/-- A pool of memory endpoints. -/
abbrev MemoryPool :=
  Pool (Services.sum MemoryStore) PyException WireResponse
    (Hosted InMemoryMemoryStore String)

/-- A step of such a pool. -/
abbrev MemoryTransition :=
  Transition MemoryPool (Action (Services.sum MemoryStore) PyException WireResponse)

/-- A run of any number of memory endpoints, from an empty store on. -/
abbrev MemoryRun (builtins : Builtins) (tokenVerifier : Option TokenVerifier)
    (round6 : PyFloat → PyFloat) (arithmetic : FloatArithmetic)
    (transitions : List MemoryTransition) (target : MemoryPool) : Prop :=
  Execution
    (Pool.Step (HostingWorld Service.givenId (InMemoryMemoryStore.serve arithmetic))
      (MemoryEndpoint builtins tokenVerifier round6))
    ⟨⟨.empty, []⟩, []⟩ transitions target

/-- The operations on the store, in order. -/
abbrev memoryOperations (transitions : List MemoryTransition) : List MemoryOperation :=
  operationsOf storeCall transitions

/-- What a list shows of the memories in effect: the newest. -/
def shownMemories (limit : Int) (items : List (Memory × List PyFloat)) : List Memory :=
  (items.map Prod.fst).reverse.take (min (max 1 limit) maxListLimit).toNat

section Service

variable {builtins : Builtins} {tokenVerifier : Option TokenVerifier}
  {round6 : PyFloat → PyFloat} {arithmetic : FloatArithmetic} {target : MemoryPool}
  {transitions : List MemoryTransition}

/-- A list shows the newest memories of its user that are in effect when it calls the
store. -/
def ListsExactly (transitions : List MemoryTransition) (thread : Nat) (caller : Caller)
    (limit : Int) (response : WireResponse) : Prop :=
  ∃ before source event next after,
    transitions = before ++ ⟨source, .call thread event, next⟩ :: after ∧
    event.call = Sum.inr (.listForUser caller.tenantId caller.userId
      (min (max 1 limit) maxListLimit)) ∧
    response = (200, countedPayload "memories"
      ((shownMemories limit (memoriesInEffect caller.principal
        (memoryOperations before))).map fun memory => .obj memory.toApiDict))

/-- A recall shows the memories of its user that are closest to its query, of those in
effect when it calls the store. -/
def RecallsClosest (round6 : PyFloat → PyFloat) (arithmetic : FloatArithmetic)
    (transitions : List MemoryTransition) (thread : Nat) (caller : Caller)
    (request : SimilarityRequest) (response : WireResponse) : Prop :=
  ∃ before source event next after embedding others shown,
    transitions = before ++ ⟨source, .call thread event, next⟩ :: after ∧
    event.call = Sum.inr (.recallMemories caller.tenantId caller.userId embedding
      request.topK) ∧
    ⟨Sum.inl (ServiceCall.embed [request.query]), .ok (embedding :: others)⟩ ∈
      Pool.threadEvents thread transitions ∧
    response = (200, countedPayload "results"
      (shown.map fun recalled => .obj (recalled.toApiDict round6))) ∧
    let scored := (memoriesInEffect caller.principal (memoryOperations before)).map
      fun item => (⟨item.1, cosine arithmetic embedding item.2⟩ : RecalledMemory)
    (∀ recalled ∈ scored, recalled.score ≠ .nan) →
      Ranking.Best (fun recalled => recalled.score.rank) request.topK.toNat scored shown

/-- A program of the run was asked for a memory by the user it belongs to, with
consent, and recorded it with the embedding of its content. -/
def Attested (builtins : Builtins) (tokenVerifier : Option TokenVerifier)
    (transitions : List MemoryTransition) (item : Memory × List PyFloat) : Prop :=
  ∃ thread origin others, (Pool.origins transitions)[thread]? = some origin ∧
    Consented builtins tokenVerifier item.1 origin ∧
    ⟨Sum.inl (ServiceCall.embed [item.1.content]), .ok (item.2 :: others)⟩ ∈
      Pool.threadEvents thread transitions

namespace MemoryRun

/-- No id is recorded twice. -/
theorem distinct
    (execution : MemoryRun builtins tokenVerifier round6 arithmetic transitions target) :
    ((memoryOperations transitions).flatMap MemoryOperation.recordedIds).Nodup :=
  HostingWorld.nodup_ids
    (fun _ endpoint => (guarded_memoryEndpoint endpoint).mono fun _ _ calls => calls.1)
    execution

/-- The store that answers the endpoints holds what `memoryStore` holds. -/
theorem after_sharedStore (history : List MemoryOperation) :
    (@sharedStore MemoryStore _ _ (InMemoryMemoryStore.serve arithmetic) Dict.empty
        fun _ => ()).after history =
      (memoryStore arithmetic).after history := by
  have same : (fun (items : InMemoryMemoryStore) one => (items.serve arithmetic one).2) =
      fun items one => ((memoryStore arithmetic).step items one).2 := by
    funext items one
    cases one <;> rfl
  exact congrArg (fun step => history.foldl step Dict.empty) same

/-- What the store answers, the memories of each principal being those in effect. -/
theorem answered
    (execution : MemoryRun builtins tokenVerifier round6 arithmetic transitions target)
    {thread : Nat} {request : MemoryOperation} {answer : MemoryStore.Answer request}
    (member : ⟨Sum.inr request, .ok answer⟩ ∈ Pool.threadEvents thread transitions) :
    ∃ before source event next after items,
      transitions = before ++ ⟨source, .call thread event, next⟩ :: after ∧
      event.call = Sum.inr request ∧
      answer = (InMemoryMemoryStore.serve arithmetic items request).1 ∧
      ∀ principal, items.bucket principal =
        memoriesInEffect principal (memoryOperations before) := by
  rcases HostingWorld.answered (fun _ => ()) execution member with
    ⟨before, source, event, next, after, rfl, called, result⟩
  refine ⟨before, source, event, next, after,
    (memoryStore arithmetic).after (memoryOperations before), rfl, called, ?_, ?_⟩
  · rw [← after_sharedStore]
    exact result
  · rcases execution.split with ⟨first, -, -⟩
    exact bucket_after_eq (MemoryRun.distinct first)

theorem listed
    (execution : MemoryRun builtins tokenVerifier round6 arithmetic transitions target)
    {thread : Nat} {authorization : Option String} {limit : Int} {caller : Caller}
    {response : WireResponse}
    (admitted : gate builtins authorization tokenVerifier (.ok ()) = .ok (.ok caller))
    (returned : Returned transitions target thread
      (buildMemoryListResponse builtins tokenVerifier authorization limit) response) :
    ListsExactly transitions thread caller limit response := by
  rcases run_list admitted (returned.run execution) with ⟨memories, events, shown⟩
  have asked : ⟨Sum.inr (.listForUser caller.tenantId caller.userId
      (min (max 1 limit) maxListLimit)), .ok memories⟩ ∈
      Pool.threadEvents thread transitions := by
    rw [events]
    exact List.mem_cons_self
  rcases execution.answered asked with
    ⟨before, source, event, next, after, items, split, called, answer, held⟩
  refine ⟨before, source, event, next, after, split, called, ?_⟩
  have bounds := @clamp_bounds limit maxListLimit (by decide)
  rw [shown, answer, InMemoryMemoryStore.serve, InMemoryMemoryStore.listForUser,
    takeSlice, if_pos (by omega), held]
  rfl

theorem recalled
    (execution : MemoryRun builtins tokenVerifier round6 arithmetic transitions target)
    {thread : Nat} {authorization : Option String} {body : Bytes} {caller : Caller}
    {request : SimilarityRequest} {response : WireResponse}
    (accepted : prepareSimilarity builtins tokenVerifier authorization body =
      .ok (.ok (caller, request)))
    (returned : Returned transitions target thread
      (buildMemoryRecallResponse builtins tokenVerifier round6 authorization body) response)
    (shows : response.1 = 200) :
    RecallsClosest round6 arithmetic transitions thread caller request response := by
  rcases run_recall accepted (returned.run execution) shows with
    ⟨embedding, others, results, events, shown⟩
  have asked : ⟨Sum.inr (.recallMemories caller.tenantId caller.userId embedding
      request.topK), .ok results⟩ ∈ Pool.threadEvents thread transitions := by
    rw [events]
    exact List.mem_cons_of_mem _ List.mem_cons_self
  rcases execution.answered asked with
    ⟨before, source, event, next, after, items, split, called, answer, held⟩
  refine ⟨before, source, event, next, after, embedding, others, results, split, called,
    ?_, shown, ?_⟩
  · rw [events]
    exact List.mem_cons_self
  · intro scored numbers
    have positive := request.positive
    have sorted : results = (scored.mergeSort fun left right =>
        !left.score.lt right.score).take request.topK.toNat := by
      rw [answer, InMemoryMemoryStore.serve, InMemoryMemoryStore.recallMemories,
        takeSlice, if_pos (by omega), held]
      rfl
    rw [sorted]
    apply Ranking.best_take_mergeSort
    intro first among second among'
    exact PyFloat.not_lt_eq (numbers first among) (numbers second among')

theorem attested
    (execution : MemoryRun builtins tokenVerifier round6 arithmetic transitions target)
    {principal : Principal} {item : Memory × List PyFloat}
    (member : item ∈ memoriesInEffect principal (memoryOperations transitions)) :
    item.1.principal = principal ∧ Attested builtins tokenVerifier transitions item := by
  rcases mem_survivors_iff.mp member with ⟨before, one, after, split, added, -⟩
  refine ⟨(recordedIds_of_adds added).2, ?_⟩
  have among : one ∈ memoryOperations transitions := by
    rw [split]
    exact List.mem_append_right _ List.mem_cons_self
  rcases exists_origin_of_operation (fun _ endpoint => guarded_memoryEndpoint endpoint)
    execution among with
    ⟨thread, origin, placed, -, past, request, shorter, called, calls⟩
  cases one with
  | record memory embedding =>
      simp only [MemoryOperation.adds, Option.ite_none_right_eq_some,
        Option.some.injEq] at added
      rw [← added.2]
      cases request with
      | inl request => cases called
      | inr request =>
          cases called
          rcases calls.2 memory embedding rfl with ⟨asked, others, embedded⟩
          exact ⟨thread, origin, others, placed, asked, shorter.subset embedded⟩
  | _ => cases added

end MemoryRun

/-- Lists show exactly the newest memories of their user in effect, recalls the closest,
and every memory in effect is one its user asked for, with consent. -/
theorem memories_shown
    (execution : MemoryRun builtins tokenVerifier round6 arithmetic transitions target) :
    (∀ thread authorization limit caller response,
      gate builtins authorization tokenVerifier (.ok ()) = .ok (.ok caller) →
      Returned transitions target thread
        (buildMemoryListResponse builtins tokenVerifier authorization limit) response →
      ListsExactly transitions thread caller limit response) ∧
    (∀ thread authorization body caller request response,
      prepareSimilarity builtins tokenVerifier authorization body =
        .ok (.ok (caller, request)) →
      Returned transitions target thread
        (buildMemoryRecallResponse builtins tokenVerifier round6 authorization body)
        response →
      response.1 = 200 →
      RecallsClosest round6 arithmetic transitions thread caller request response) ∧
    ∀ principal, ∀ item ∈ memoriesInEffect principal (memoryOperations transitions),
      item.1.principal = principal ∧ Attested builtins tokenVerifier transitions item :=
  ⟨fun _ _ _ _ _ => execution.listed, fun _ _ _ _ _ _ => execution.recalled,
    fun _ _ => execution.attested⟩

/-! ## Acknowledged writes -/

section Histories

variable {before after : List MemoryOperation} {principal : Principal}

/-- The id of a memory in effect was recorded. -/
theorem mem_recordedIds {history : List MemoryOperation} {item : Memory × List PyFloat}
    (member : item ∈ memoriesInEffect principal history) :
    item.1.id ∈ history.flatMap MemoryOperation.recordedIds := by
  rcases mem_survivors_iff.mp member with ⟨before, one, after, rfl, added, -⟩
  simp [(recordedIds_of_adds added).1]

/-- A memory that was recorded is in effect exactly until its user deletes it. -/
theorem recorded_inEffect_iff {memory : Memory} {embedding : List PyFloat}
    (distinct : ((before ++ .record memory embedding :: after).flatMap
      MemoryOperation.recordedIds).Nodup) :
    (memory, embedding) ∈ memoriesInEffect memory.principal
        (before ++ .record memory embedding :: after) ↔
      .delete memory.tenantId memory.userId memory.id ∉ after := by
  have elsewhere : (memory, embedding) ∉ memoriesInEffect memory.principal before ∧
      (memory, embedding) ∉ memoriesInEffect memory.principal after := by
    simp only [List.flatMap_append, List.flatMap_cons, MemoryOperation.recordedIds,
      List.nodup_append, List.nodup_cons, List.mem_append, List.mem_cons] at distinct
    constructor
    · intro member
      exact distinct.2.2 _ (mem_recordedIds member) _ (Or.inl (Or.inl rfl)) rfl
    · intro member
      exact distinct.2.1.2.2 _ (Or.inl rfl) _ (mem_recordedIds member) rfl
  have kept : (!after.any (MemoryOperation.removes memory.principal ·
      (memory, embedding))) = true ↔
      .delete memory.tenantId memory.userId memory.id ∉ after := by
    rw [Bool.not_eq_true', List.any_eq_false]
    simp only [MemoryOperation.removes_iff]
    constructor
    · intro none member
      exact none _ member rfl
    · intro absent one member same
      exact absent (same ▸ member)
  have added : MemoryOperation.adds memory.principal (.record memory embedding) =
      some (memory, embedding) := if_pos rfl
  rw [← kept]
  simp only [memoriesInEffect] at elsewhere ⊢
  simp only [survivors_append, survivors, added, List.mem_append, List.mem_filter,
    Option.mem_toList, Option.filter_eq_some_iff, elsewhere.1, elsewhere.2, false_and,
    false_or, or_false, true_and]

/-- A memory that is deleted is gone for good. -/
theorem deleted_not_inEffect {memoryId : String} {item : Memory × List PyFloat}
    (distinct : ((before ++ .delete principal.1 principal.2 memoryId :: after).flatMap
      MemoryOperation.recordedIds).Nodup)
    (recorded : ∃ item ∈ memoriesInEffect principal before, item.1.id = memoryId)
    (member : item ∈ memoriesInEffect principal
      (before ++ .delete principal.1 principal.2 memoryId :: after)) :
    item.1.id ≠ memoryId := by
  intro same
  rw [List.append_cons, memoriesInEffect, survivors_append, survivors_snoc] at member
  rcases List.mem_append.mp member with earlier | later
  · have removed : MemoryOperation.removes principal
        (.delete principal.1 principal.2 memoryId) item = true :=
      MemoryOperation.removes_iff.mpr (by rw [same])
    simp [MemoryOperation.adds, removed] at earlier
  · rcases recorded with ⟨other, there, named⟩
    rw [List.flatMap_append, List.nodup_append] at distinct
    have again := mem_recordedIds later
    rw [same, ← named] at again
    exact distinct.2.2 _ (mem_recordedIds there) _ again rfl

/-- A deletion that finds a memory finds one in effect. -/
theorem exists_of_delete {items : InMemoryMemoryStore} {memoryId : String}
    (found : (items.delete principal.1 principal.2 memoryId).1 = true)
    (held : ∀ principal, items.bucket principal = memoriesInEffect principal before) :
    ∃ item ∈ memoriesInEffect principal before, item.1.id = memoryId := by
  rw [InMemoryMemoryStore.delete, Dict.changeBucket_fst, deleteFirst] at found
  rw [← held]
  split at found
  next some => simpa using some
  next => cases found

end Histories

/-- A memory whose record was acknowledged is in effect exactly until its user deletes
it; a memory whose deletion was acknowledged is gone for good. -/
theorem acknowledged_writes_last {earlier later : List MemoryTransition}
    {middle : MemoryPool}
    (first : MemoryRun builtins tokenVerifier round6 arithmetic earlier middle)
    (execution : MemoryRun builtins tokenVerifier round6 arithmetic (earlier ++ later)
      target) :
    (∀ thread authorization body caller request response,
      prepareMemoryRecord builtins tokenVerifier authorization body =
        .ok (.ok (caller, request)) →
      Returned earlier middle thread
        (buildMemoryRecordResponse builtins tokenVerifier authorization body) response →
      response.1 = 201 →
      ∃ memory embedding before after,
        response = (201, .obj memory.toApiDict) ∧
        memory.principal = caller.principal ∧ memory.content = request.content ∧
        memoryOperations (earlier ++ later) =
          before ++ .record memory embedding :: after ∧
        ((memory, embedding) ∈ memoriesInEffect caller.principal
            (memoryOperations (earlier ++ later)) ↔
          .delete caller.tenantId caller.userId memory.id ∉ after)) ∧
    (∀ thread authorization memoryId caller response,
      gate builtins authorization tokenVerifier (.ok ()) = .ok (.ok caller) →
      Returned earlier middle thread
        (buildMemoryDeleteResponse builtins tokenVerifier authorization memoryId)
        response →
      response.1 = 200 →
      ∀ item ∈ memoriesInEffect caller.principal (memoryOperations (earlier ++ later)),
        item.1.id ≠ memoryId) := by
  have distinct := execution.distinct
  constructor
  · intro thread authorization body caller request response accepted returned created
    rcases run_record accepted (returned.run first) created with
      ⟨memory, embedding, recorded, own, content, shown⟩
    rcases first.answered recorded with
      ⟨before, source, event, next, after, items, rfl, called, -⟩
    have split : memoryOperations
        ((before ++ ⟨source, .call thread event, next⟩ :: after) ++ later) =
        memoryOperations before ++
          .record memory embedding :: memoryOperations (after ++ later) := by
      rw [List.append_assoc, List.cons_append]
      apply operationsOf_split
      rw [called]
      rfl
    rw [split] at distinct ⊢
    have kept := recorded_inEffect_iff distinct
    rw [own] at kept
    rcases Prod.mk.inj own with ⟨tenant, user⟩
    rw [tenant, user] at kept
    exact ⟨memory, embedding, _, _, shown, own, content, rfl, kept⟩
  · intro thread authorization memoryId caller response admitted returned deleted
    have found : ⟨Sum.inr (.delete caller.tenantId caller.userId memoryId), .ok true⟩ ∈
        Pool.threadEvents thread earlier := by
      rw [run_delete admitted (returned.run first) deleted]
      exact List.mem_cons_self
    rcases first.answered found with
      ⟨before, source, event, next, after, items, rfl, called, answer, held⟩
    have split : memoryOperations
        ((before ++ ⟨source, .call thread event, next⟩ :: after) ++ later) =
        memoryOperations before ++
          .delete caller.tenantId caller.userId memoryId ::
            memoryOperations (after ++ later) := by
      rw [List.append_assoc, List.cons_append]
      apply operationsOf_split
      rw [called]
      rfl
    have recorded : ∃ item ∈ memoriesInEffect caller.principal (memoryOperations before),
        item.1.id = memoryId := by
      apply exists_of_delete _ held
      exact answer.symm
    rw [split] at distinct ⊢
    intro item member
    exact @deleted_not_inEffect _ _ caller.principal memoryId item distinct recorded member

end Service

/-! ## A run of the service -/

namespace MemoryRun

/-- Built-in functions that read every body as one request. -/
def sampleBuiltins : Builtins :=
  { Builtins.sample [] with
    loadsBytes := fun _ =>
      .ok (.obj [("consent", .bool true), ("content", .str "tea"), ("query", .str "tea")]) }

/-- The arithmetic of vectors that are all the same. -/
def sampleArithmetic : FloatArithmetic where
  mul left _ := left
  sum items := items.headD (.finite 0)

/-- What the services answer, with the next id. -/
def sampleAnswer (id : String) : (request : ServiceCall) →
    Option (Except PyException (Services.Answer request))
  | .embed _ => some (.ok [List.replicate embeddingDim (.finite 1)])
  | .uuid4 => some (.ok id)
  | .nowUtc => some (.ok someTime)
  | _ => none

/-- The requests of the run. -/
def sampleRecord : MemoryProgram WireResponse :=
  buildMemoryRecordResponse sampleBuiltins (some openVerifier) (some "Bearer token") []

def sampleList : MemoryProgram WireResponse :=
  buildMemoryListResponse sampleBuiltins (some openVerifier) (some "Bearer token") 50

def sampleRecall : MemoryProgram WireResponse :=
  buildMemoryRecallResponse sampleBuiltins (some openVerifier) id (some "Bearer token") []

def sampleDelete : MemoryProgram WireResponse :=
  buildMemoryDeleteResponse sampleBuiltins (some openVerifier) (some "Bearer token") "m1"

/-- A decision of the scheduler, with the next id. -/
abbrev SampleMove := Pool.Move (Services.sum MemoryStore) PyException WireResponse String

/-- Record a memory, list and recall it while another is recorded, and delete it. -/
def sampleMoves : List SampleMove :=
  [.start sampleRecord, .start sampleRecall, .start sampleRecord, .call 0 "", .call 2 "",
    .call 0 "m1", .call 1 "", .call 0 "", .call 0 "", .start sampleList, .call 3 "",
    .call 1 "", .start sampleDelete, .call 4 ""]

/-- The second memory is recorded after the deletion of the first. -/
def laterMoves : List SampleMove := [.call 2 "m2", .call 2 "", .call 2 ""]

/-- Play a schedule. -/
def playMemories (moves : List SampleMove) (pool : MemoryPool) :
    List MemoryTransition × MemoryPool :=
  Pool.play
    (fun id => HostingWorld.respond Service.givenId
      (InMemoryMemoryStore.serve sampleArithmetic) (sampleAnswer id))
    moves pool

/-- The run. -/
def sample : List MemoryTransition × MemoryPool :=
  playMemories sampleMoves ⟨⟨.empty, []⟩, []⟩

/-- What follows it. -/
def later : List MemoryTransition × MemoryPool := playMemories laterMoves sample.2

theorem sample_run : MemoryRun sampleBuiltins (some openVerifier) id sampleArithmetic
    sample.1 sample.2 := by
  apply Pool.play_execution
  · intro id state request answer next responds
    exact HostingWorld.respond_sound responds
  · intro program started
    simp only [sampleMoves, List.mem_cons, Pool.Move.start.injEq, reduceCtorEq,
      List.not_mem_nil, or_false, false_or] at started
    rcases started with rfl | rfl | rfl | rfl | rfl
    · exact .record _ _
    · exact .recallMemories _ _
    · exact .record _ _
    · exact .list _ _
    · exact .delete _ _

theorem later_run : MemoryRun sampleBuiltins (some openVerifier) id sampleArithmetic
    (sample.1 ++ later.1) later.2 := by
  apply sample_run.append
  apply Pool.play_execution
  · intro id state request answer next responds
    exact HostingWorld.respond_sound responds
  · intro program started
    simp [laterMoves] at started

theorem sample_admitted :
    gate sampleBuiltins (some "Bearer token") (some openVerifier) (.ok ()) =
      .ok (.ok ⟨"a.com", "user"⟩) := by
  have tenant : extractTenantId Str.asciiLower ⟨"user", "user@a.com", []⟩ = "a.com" := by
    decide +kernel
  change (verifyAndExtract Str.asciiLower _ _ >>= _) = _
  rw [openVerifier_authenticates, ← tenant]
  rfl

theorem sample_accepted : ∃ caller request,
    prepareSimilarity sampleBuiltins (some openVerifier) (some "Bearer token") [] =
      .ok (.ok (caller, request)) :=
  exists_accepted (by decide +kernel)

theorem sample_returned (thread : Nat) (shows : WireResponse → Bool)
    {program : MemoryProgram WireResponse}
    (started : (sampleMoves.filterMap Pool.Move.started)[thread]? = some program)
    (ended : sample.2.threads[thread]?.any (Program.returns shows) = true) :
    ∃ response, Returned sample.1 sample.2 thread program response ∧
      shows response = true := by
  rcases Program.exists_of_returns ended with ⟨response, placed, answered⟩
  refine ⟨response, ⟨?_, placed⟩, answered⟩
  rw [sample, playMemories, Pool.origins_play]
  exact started

end MemoryRun

/-- The list and the recall of the sample run show what was recorded before. -/
theorem memories_shown_sample :
    (∃ response, ListsExactly MemoryRun.sample.1 3 ⟨"a.com", "user"⟩ 50 response ∧
      contentsUnder "memories" response.2 = ["tea"]) ∧
    ∃ caller request response,
      RecallsClosest id MemoryRun.sampleArithmetic MemoryRun.sample.1 1 caller request
        response ∧
      contentsUnder "results" response.2 = ["tea"] := by
  constructor
  · rcases MemoryRun.sample_returned 3
      (fun response => contentsUnder "memories" response.2 == ["tea"])
      (show _ = some MemoryRun.sampleList from rfl) (by decide +kernel) with
      ⟨response, returned, answered⟩
    exact ⟨response, (memories_shown MemoryRun.sample_run).1 _ _ _ _ _
      MemoryRun.sample_admitted returned, beq_iff_eq.mp answered⟩
  · rcases MemoryRun.sample_accepted with ⟨caller, request, accepted⟩
    rcases MemoryRun.sample_returned 1
      (fun response => response.1 == 200 && contentsUnder "results" response.2 == ["tea"])
      (show _ = some MemoryRun.sampleRecall from rfl) (by decide +kernel) with
      ⟨response, returned, answered⟩
    rw [Bool.and_eq_true, beq_iff_eq, beq_iff_eq] at answered
    exact ⟨caller, request, response, (memories_shown MemoryRun.sample_run).2.1 _ _ _ _ _ _
      accepted returned answered.1, answered.2⟩

/-- The first memory of the sample run is gone after its deletion, also when another
one has been recorded since. -/
theorem acknowledged_writes_last_sample : ∃ response,
    Returned MemoryRun.sample.1 MemoryRun.sample.2 4 MemoryRun.sampleDelete response ∧
      ∀ item ∈ memoriesInEffect (Caller.principal ⟨"a.com", "user"⟩)
        (memoryOperations (MemoryRun.sample.1 ++ MemoryRun.later.1)), item.1.id ≠ "m1" := by
  rcases MemoryRun.sample_returned 4 (fun response => response.1 == 200)
    (show _ = some MemoryRun.sampleDelete from rfl) (by decide +kernel) with
    ⟨response, returned, answered⟩
  rw [beq_iff_eq] at answered
  have gone := (acknowledged_writes_last MemoryRun.sample_run MemoryRun.later_run).2 _ _ _ _ _
    MemoryRun.sample_admitted returned answered
  exact ⟨response, returned, gone⟩

end PrivateAiWorkspace.ControlPlane
