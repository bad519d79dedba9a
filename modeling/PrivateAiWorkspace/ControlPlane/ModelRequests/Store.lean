import Mathlib.Data.List.Sort
import PrivateAiWorkspace.Python.Basic
import PrivateAiWorkspace.Python.Dict
import PrivateAiWorkspace.Python.Pattern

/-!
# The store of model install requests

`ModelInstallRequest` and `InMemoryModelRequestStore` from
`model_requests.py`. Each method of the store holds its lock throughout, so it
is a function of the store.

The shape of a repository id and the deny-by-default allow-list come first. The
control plane and the model installer each carry their own copy of both; the
copies are equal and are written once here.
-/

namespace PrivateAiWorkspace

open Python

/-- `_HF_REPO_RE`: `^[A-Za-z0-9][A-Za-z0-9._-]*/[A-Za-z0-9][A-Za-z0-9._-]*$`. -/
def hfRepoRe : RegularExpression Char :=
  let part := Pattern.run Pattern.alphanumeric
    (Pattern.alphanumeric ++ ['.', '_', '-'])
  .comp part (.comp (.char '/') part)

/-- `_HF_REPO_RE.match(text)`. -/
def matchesRepo (text : String) : Bool :=
  Pattern.matchesWhole hfRepoRe text

/-- `is_repo_allowed`: an empty list denies all, `*` allows any, else the exact
repository or its organisation is listed. -/
def repoAllowed (allowlist : List String) (repoId : String) : Bool :=
  if allowlist.isEmpty then false
  else if "*" ∈ allowlist then true
  else if repoId ∈ allowlist then true
  else Str.before '/' repoId ∈ allowlist

@[simp] theorem repoAllowed_nil (repoId : String) :
    repoAllowed [] repoId = false := rfl

namespace ControlPlane

/-- `_STATUSES`. -/
inductive Status where
  | requested
  | installing
  | applied
  | failed
  deriving DecidableEq, Repr

namespace Status

/-- The text stored and sent for a status. -/
def text : Status → String
  | .requested => "requested"
  | .installing => "installing"
  | .applied => "applied"
  | .failed => "failed"

/-- `_RECONCILER_STATUSES`: every status but the one a user creates. -/
def reconcilerStatuses : List Status := [.installing, .applied, .failed]

/-- Statuses that count towards a tenant's open-request cap. -/
def isOpen : Status → Bool
  | .requested | .installing => true
  | .applied | .failed => false

@[simp] theorem isOpen_requested : Status.requested.isOpen = true := rfl

@[simp] theorem isOpen_installing : Status.installing.isOpen = true := rfl

@[simp] theorem isOpen_applied : Status.applied.isOpen = false := rfl

@[simp] theorem isOpen_failed : Status.failed.isOpen = false := rfl

/-- `status not in _RECONCILER_STATUSES`, keeping the status it is. -/
def ofReconciler : Json → Option Status
  | .str name => reconcilerStatuses.find? fun status => status.text = name
  | _ => none

theorem ofReconciler_ne_requested {value : Json} {status : Status}
    (accepted : ofReconciler value = some status) : status ≠ .requested := by
  cases value with
  | str name =>
      have listed := List.mem_of_find?_eq_some accepted
      intro requested
      rw [requested] at listed
      exact absurd listed (by decide)
  | _ => cases accepted

/-- A status the reconciler may set is read back from its text. -/
theorem ofReconciler_text {status : Status} (settable : status ≠ .requested) :
    ofReconciler (.str status.text) = some status := by
  cases status with
  | requested => exact absurd rfl settable
  | installing | applied | failed => decide

end Status

/-- `ModelInstallRequest`: a request owned by one tenant and user. -/
structure ModelInstallRequest where
  id : String
  tenantId : String
  userId : String
  hfRepoId : String
  revision : String
  status : Status
  errorClass : String
  createdAt : DateTime
  updatedAt : DateTime
  deriving DecidableEq, Repr

namespace ModelInstallRequest

/-- `text or None`. -/
def orNone (text : String) : Json := if text = "" then .null else .str text

/-- Items of `to_api_dict`. -/
def apiFields (request : ModelInstallRequest) : List (String × Json) :=
  [("id", .str request.id),
    ("hf_repo_id", .str request.hfRepoId),
    ("revision", orNone request.revision),
    ("status", .str request.status.text),
    ("error_class", orNone request.errorClass),
    ("created_at", .str request.createdAt.isoformat),
    ("updated_at", .str request.updatedAt.isoformat)]

/-- `to_api_dict`. -/
def toApiDict (request : ModelInstallRequest) : Json := .obj request.apiFields

/-- `to_admin_dict`: operators also see who asked. -/
def toAdminDict (request : ModelInstallRequest) : Json :=
  .obj (request.apiFields ++
    [("tenant_id", .str request.tenantId), ("requested_by", .str request.userId)])

/-- A request of a tenant that is requested or installing. -/
def isOpenFor (tenant : String) (request : ModelInstallRequest) : Bool :=
  request.tenantId = tenant && request.status.isOpen

/-- Order of `list_pending`: by creation time. -/
def createdBefore (left right : ModelInstallRequest) : Prop :=
  left.createdAt.instant ≤ right.createdAt.instant

instance : DecidableRel createdBefore := fun _ _ =>
  inferInstanceAs (Decidable (_ ≤ _))

@[simp] theorem getItem_id_toAdminDict (request : ModelInstallRequest) :
    Json.getItem "id" request.toAdminDict = .ok (.str request.id) := rfl

@[simp] theorem getItem_hfRepoId_toAdminDict (request : ModelInstallRequest) :
    Json.getItem "hf_repo_id" request.toAdminDict =
      .ok (.str request.hfRepoId) := rfl

end ModelInstallRequest

/-- `InMemoryModelRequestStore`: requests, each under its own id. -/
structure InMemoryModelRequestStore where
  items : Dict String ModelInstallRequest
  keyed : ∀ requestId request, items.get? requestId = some request →
    request.id = requestId

namespace InMemoryModelRequestStore

/-- A store without requests. -/
def empty : InMemoryModelRequestStore := ⟨.empty, nofun⟩

theorem keyed_insert {items : Dict String ModelInstallRequest}
    (keyed : ∀ requestId request, items.get? requestId = some request →
      request.id = requestId) (item : ModelInstallRequest) :
    ∀ requestId request, (items.insert item.id item).get? requestId =
      some request → request.id = requestId := by
  intro requestId request found
  rw [Dict.get?_insert] at found
  split at found
  next same =>
    cases found
    exact same.symm
  next => exact keyed requestId request found

variable (store : InMemoryModelRequestStore)

/-- All requests, in the order they were created. -/
def values : List ModelInstallRequest := store.items.values

/-- `get(request_id=requestId)`. -/
def get? (requestId : String) : Option ModelInstallRequest :=
  store.items.get? requestId

/-- `create(item)`. -/
def create (item : ModelInstallRequest) : InMemoryModelRequestStore :=
  ⟨store.items.insert item.id item, keyed_insert store.keyed item⟩

/-- Requests that wait for the reconciler, in the order they were created. -/
def waiting : List ModelInstallRequest :=
  store.values.filter fun request => request.status = .requested

/-- `list_pending(limit=limit)`: requests in status `requested`, oldest
first. -/
def listPending (limit : Nat) : List ModelInstallRequest :=
  (store.waiting.insertionSort ModelInstallRequest.createdBefore).take limit

/-- `replace(request, status=..., error_class=..., updated_at=...)`. -/
def updated (request : ModelInstallRequest) (status : Status)
    (errorClass : String) (now : DateTime) : ModelInstallRequest :=
  { request with status, errorClass, updatedAt := now }

/-- `update_status(request_id=..., status=..., error_class=...)` at a time: the
updated row, if there is one, and the store it leaves. -/
def updateStatus (requestId : String) (status : Status) (errorClass : String)
    (now : DateTime) :
    Option ModelInstallRequest × InMemoryModelRequestStore :=
  match store.get? requestId with
  | none => (none, store)
  | some request =>
      let row := updated request status errorClass now
      -- The row goes back under its own id, which is the one it was found by.
      (some row, store.create row)

/-- `count_open_for_tenant(tenant_id=tenant)`. -/
def countOpenForTenant (tenant : String) : Nat :=
  store.values.countP (ModelInstallRequest.isOpenFor tenant)

/-- Requests under other ids, in the order they were created. -/
def others (requestId : String) : List ModelInstallRequest :=
  store.values.filter fun request => request.id ≠ requestId

/-- Status the store holds for an id. -/
def statusOf (requestId : String) : Option Status :=
  (store.get? requestId).map ModelInstallRequest.status

/-- An updated row counts for the tenant it counted for before, if its new status
is open. -/
theorem isOpenFor_updated (request : ModelInstallRequest) (status : Status)
    (errorClass : String) (now : DateTime) (tenant : String) :
    (updated request status errorClass now).isOpenFor tenant =
      (decide (request.tenantId = tenant) && status.isOpen) := rfl

variable {store}

theorem updateStatus_missing {requestId : String} {status : Status}
    {errorClass : String} {now : DateTime}
    (missing : store.get? requestId = none) :
    store.updateStatus requestId status errorClass now = (none, store) := by
  simp [updateStatus, missing]

theorem updateStatus_found {requestId : String} {status : Status}
    {errorClass : String} {now : DateTime} {request : ModelInstallRequest}
    (found : store.get? requestId = some request) :
    store.updateStatus requestId status errorClass now =
      (some (updated request status errorClass now),
        store.create (updated request status errorClass now)) := by
  simp [updateStatus, found]

theorem get?_create (item : ModelInstallRequest) (requestId : String) :
    (store.create item).get? requestId =
      if requestId = item.id then some item else store.get? requestId :=
  Dict.get?_insert store.items item.id requestId item

theorem mem_values_iff {request : ModelInstallRequest} :
    request ∈ store.values ↔ store.get? request.id = some request := by
  constructor
  · intro member
    rcases Dict.mem_values_iff.mp member with ⟨requestId, found⟩
    rw [store.keyed requestId request found]
    exact found
  · intro found
    exact Dict.mem_values_of_get? found

/-- A request waits when it is stored as requested. -/
theorem mem_waiting_iff {request : ModelInstallRequest} :
    request ∈ store.waiting ↔
      store.get? request.id = some request ∧ request.status = .requested := by
  rw [waiting, List.mem_filter, mem_values_iff, decide_eq_true_eq]

/-- A pending request waits. -/
theorem mem_waiting_of_mem_listPending {limit : Nat}
    {request : ModelInstallRequest}
    (pending : request ∈ store.listPending limit) :
    request ∈ store.waiting :=
  List.mem_insertionSort _ |>.mp (List.mem_of_mem_take pending)

/-- Requests that were created one after another are listed as they were
created. -/
theorem listPending_of_ordered {limit : Nat}
    (ordered : store.waiting.Pairwise ModelInstallRequest.createdBefore) :
    store.listPending limit = store.waiting.take limit := by
  rw [listPending, ordered.insertionSort_eq]

/-- A status update keeps every other row. -/
theorem get?_updateStatus_of_ne {requestId other : String} (status : Status)
    (errorClass : String) (now : DateTime) (different : other ≠ requestId) :
    (store.updateStatus requestId status errorClass now).2.get? other =
      store.get? other := by
  cases found : store.get? requestId with
  | none => rw [updateStatus_missing found]
  | some request =>
      have own : (updated request status errorClass now).id = requestId :=
        store.keyed requestId request found
      rw [updateStatus_found found, get?_create, own, if_neg different]

/-- A status update changes the status, the error class and the time of its own
row and nothing else of it. -/
theorem get?_updateStatus_self (requestId : String) (status : Status)
    (errorClass : String) (now : DateTime) :
    (store.updateStatus requestId status errorClass now).2.get? requestId =
      (store.get? requestId).map fun request =>
        updated request status errorClass now := by
  cases found : store.get? requestId with
  | none => rw [updateStatus_missing found, found, Option.map_none]
  | some request =>
      have own : (updated request status errorClass now).id = requestId :=
        store.keyed requestId request found
      rw [updateStatus_found found, get?_create, own, if_pos rfl,
        Option.map_some]

theorem statusOf_updateStatus_self (requestId : String) (status : Status)
    (errorClass : String) (now : DateTime) :
    (store.updateStatus requestId status errorClass now).2.statusOf requestId =
      (store.statusOf requestId).map fun _ => status := by
  rw [statusOf, get?_updateStatus_self, statusOf, Option.map_map,
    Option.map_map]
  rfl

theorem statusOf_updateStatus_of_ne {requestId other : String} (status : Status)
    (errorClass : String) (now : DateTime) (different : other ≠ requestId) :
    (store.updateStatus requestId status errorClass now).2.statusOf other =
      store.statusOf other := by
  rw [statusOf, get?_updateStatus_of_ne status errorClass now different,
    statusOf]

/-- A status update leaves the other rows as they are, in their order. -/
theorem others_updateStatus (requestId : String) (status : Status)
    (errorClass : String) (now : DateTime) :
    (store.updateStatus requestId status errorClass now).2.others requestId =
      store.others requestId := by
  cases found : store.get? requestId with
  | none => rw [updateStatus_missing found]
  | some request =>
      have own := store.keyed requestId request found
      rw [updateStatus_found found]
      let row := updated request status errorClass now
      have moved : (updated request status errorClass now).id = requestId := own
      rcases Dict.values_insert_of_some row found with
        ⟨before, after, values_eq, inserted_eq⟩
      simp only [others, values, create, moved]
      rw [inserted_eq, values_eq]
      simp [row, moved, own]

/-- When only the row of the first waiting request changed and it waits no more,
the others wait as before. -/
theorem waiting_of_others {next : InMemoryModelRequestStore}
    {head : ModelInstallRequest} {rest : List ModelInstallRequest}
    (queue : store.waiting = head :: rest)
    (distinct : ∀ request ∈ rest, request.id ≠ head.id)
    (others : next.others head.id = store.others head.id)
    (settled : next.statusOf head.id ≠ some .requested) :
    next.waiting = rest := by
  have waits : ∀ request ∈ next.values,
      decide (request.status = .requested) =
        (decide (request.status = .requested) &&
          decide (request.id ≠ head.id)) := by
    intro request member
    cases decEq request.id head.id with
    | isTrue same =>
        have found := mem_values_iff.mp member
        rw [same] at found
        have stored : next.statusOf head.id = some request.status :=
          congrArg (Option.map ModelInstallRequest.status) found
        rw [stored] at settled
        simp [same, Option.some_inj.not.mp settled]
    | isFalse different => simp [different]
  have rest_eq : rest.filter (fun request => request.id ≠ head.id) = rest :=
    List.filter_eq_self.mpr fun request member =>
      decide_eq_true (distinct request member)
  calc
    next.waiting = (next.others head.id).filter
        fun request => request.status = .requested := by
      rw [waiting, InMemoryModelRequestStore.others, List.filter_filter]
      exact List.filter_congr waits
    _ = store.waiting.filter fun request => request.id ≠ head.id := by
      rw [others, InMemoryModelRequestStore.others, waiting,
        List.filter_filter, List.filter_filter]
      exact List.filter_congr fun _ _ => Bool.and_comm _ _
    _ = rest := by
      rw [queue, List.filter_cons_of_neg (by simp), rest_eq]

/-- Storing a row under a new id adds it to its tenant's count if it is open. -/
theorem countOpenForTenant_create {item : ModelInstallRequest}
    (fresh : store.get? item.id = none) (tenant : String) :
    (store.create item).countOpenForTenant tenant =
      store.countOpenForTenant tenant +
        if item.isOpenFor tenant then 1 else 0 := by
  have counted := Dict.countP_insert store.items item.id item
    (ModelInstallRequest.isOpenFor tenant)
  rw [get?] at fresh
  simpa [fresh, create, values, countOpenForTenant] using counted

/-- Updating a row moves its tenant's count by what the row counted before and
counts now. -/
theorem countOpenForTenant_updateStatus {requestId : String}
    {request : ModelInstallRequest}
    (found : store.get? requestId = some request) (status : Status)
    (errorClass : String) (now : DateTime) (tenant : String) :
    (store.updateStatus requestId status errorClass now).2.countOpenForTenant
        tenant + (if request.isOpenFor tenant then 1 else 0) =
      store.countOpenForTenant tenant +
        if request.tenantId = tenant ∧ status.isOpen then 1 else 0 := by
  have counted := Dict.countP_insert store.items request.id
    (updated request status errorClass now)
    (ModelInstallRequest.isOpenFor tenant)
  rw [updateStatus_found found]
  rw [get?, ← store.keyed requestId request found] at found
  rw [found, Option.any_some, isOpenFor_updated] at counted
  simp only [Bool.and_eq_true, decide_eq_true_eq] at counted
  exact counted

end InMemoryModelRequestStore

end ControlPlane

end PrivateAiWorkspace
