import PrivateAiWorkspace.ControlPlane.Notifications
import PrivateAiWorkspace.Effects.Agreement
import PrivateAiWorkspace.Lists.Recent
import PrivateAiWorkspace.Postgres.Chronicle
import PrivateAiWorkspace.Postgres.Mirrors

/-!
# The two stores of notifications

`PostgresNotificationStore` of `notifications.py`, next to the store in memory. The
table keeps every event, while memory forgets all but the last ones of a principal;
so the stores agree on a history as long as no operation asks for what memory has
forgotten.
-/

namespace PrivateAiWorkspace.ControlPlane

open Effects PrivateAiWorkspace.Lists Postgres Python

/-- A row of the table `notifications`. -/
structure NotificationRow where
  id : Uuid
  tenantId : String
  userId : String
  eventClass : String
  resourceId : String
  createdAt : DateTime
  readAt : Option DateTime
  deriving DecidableEq

/-- The event of a row. -/
def NotificationRow.event (row : NotificationRow) : NotificationEvent where
  id := row.id.text
  tenantId := row.tenantId
  userId := row.userId
  eventClass := row.eventClass
  resourceId := row.resourceId
  createdAt := row.createdAt
  readAt := row.readAt

/-- Whose row it is. -/
def NotificationRow.owner (row : NotificationRow) : Principal :=
  (row.tenantId, row.userId)

namespace PostgresNotificationStore

/-- `list_for_user`. -/
def listForUser (notifications : List NotificationRow) (tenantId userId : String)
    (limit : Int) (includeRead : Bool) :
    Except DatabaseError (List NotificationEvent) := do
  let tenantId ← textParameter tenantId
  let userId ← textParameter userId
  let limit ← limitParameter limit
  let rows := selectLatest
    (fun row => row.tenantId = tenantId && row.userId = userId &&
      (includeRead || row.readAt.isNone))
    (fun row => row.createdAt.instant) notifications
  return (rows.take limit).map NotificationRow.event

/-- `publish`. -/
def publish (notifications : List NotificationRow) (event : NotificationEvent) :
    Except DatabaseError (Unit × List NotificationRow) := do
  let id ← uuidParameter event.id
  let tenantId ← textParameter event.tenantId
  let userId ← textParameter event.userId
  let eventClass ← textParameter event.eventClass
  let resourceId ← textParameter event.resourceId
  let row : NotificationRow :=
    { id, tenantId, userId, eventClass, resourceId
      createdAt := event.createdAt
      readAt := none }
  return ((), insertNew NotificationRow.id row notifications)

/-- `mark_read` at a time of the server. -/
def markRead (notifications : List NotificationRow)
    (tenantId userId notificationId : String) (now : DateTime) :
    Except DatabaseError (Option NotificationEvent × List NotificationRow) := do
  let id ← uuidParameter notificationId
  let tenantId ← textParameter tenantId
  let userId ← textParameter userId
  let (returned, notifications) := updateWhere
    (fun row => row.id = id && row.tenantId = tenantId && row.userId = userId &&
      row.readAt.isNone)
    (fun row => { row with readAt := some now }) notifications
  return (returned.head?.map NotificationRow.event, notifications)

end PostgresNotificationStore

/-- An operation and the time at the server when it is run. -/
abbrev TimedNotificationOperation := NotificationOperation × DateTime

open PostgresNotificationStore in
/-- The store as its users share it. -/
def postgresNotificationStore : SharedObject (List NotificationRow)
    TimedNotificationOperation (Except DatabaseError NotificationResult)
    Principal where
  initial := []
  step notifications
    | (.listForUser tenantId userId limit includeRead, _) =>
        readOnly notifications .events
          (listForUser notifications tenantId userId limit includeRead)
    | (.publish event, _) =>
        transact notifications (fun _ => .none) (publish notifications event)
    | (.markRead tenantId userId notificationId _, serverNow) =>
        transact notifications .marked
          (markRead notifications tenantId userId notificationId serverNow)
  issuer operation := notificationStore.issuer operation.1

/-- The store in memory does not look at the time of the server. -/
def memoryNotificationStore : SharedObject InMemoryNotificationStore
    TimedNotificationOperation NotificationResult Principal where
  initial := notificationStore.initial
  step events operation := notificationStore.step events operation.1
  issuer operation := notificationStore.issuer operation.1

/-! ## Results up to the time of reading -/

/-- An event without the time at which it was read. -/
def NotificationEvent.stampless (event : NotificationEvent) :
    NotificationEvent × Bool :=
  ({ event with readAt := none }, event.readAt.isSome)

/-- Equal results, up to the times at which events were read. -/
def EqualButReadAt : NotificationResult → NotificationResult → Prop
  | .events events, .events events' =>
      events.map NotificationEvent.stampless =
        events'.map NotificationEvent.stampless
  | .none, .none => True
  | .marked event, .marked event' =>
      event.map NotificationEvent.stampless = event'.map NotificationEvent.stampless
  | _, _ => False

/-- Both stores return equal results, up to the times at which events were read. -/
def NotificationBackendsAgree (history : List TimedNotificationOperation) : Prop :=
  List.Forall₂ (fun result result' => ∃ value, result' = .ok value ∧
      EqualButReadAt result value)
    (memoryNotificationStore.answers history)
    (postgresNotificationStore.answers history)

/-! ## Histories -/

/-- The events a history publishes. -/
def published (history : List TimedNotificationOperation) : List NotificationEvent :=
  history.filterMap fun operation =>
    match operation.1 with
    | .publish event => some event
    | _ => none

/-- Events and rows have ids and times of creation. -/
def notificationRecording : Recording NotificationEvent NotificationRow where
  name := NotificationEvent.id
  time event := event.createdAt.instant
  id := NotificationRow.id
  timestamp row := row.createdAt.instant

/-- Events are published unread, with new ids that are texts of `uuid` values, one
after the other, and each limit is positive. -/
structure NotificationHistory (history : List TimedNotificationOperation) :
    Prop where
  canonical : ∀ event ∈ published history, Uuid.IsCanonical event.id
  unread : ∀ event ∈ published history, event.readAt = none
  orderly : notificationRecording.Orderly (published history)
  limits : ∀ tenantId userId limit includeRead now,
    (.listForUser tenantId userId limit includeRead, now) ∈ history → 1 ≤ limit

/-- The rows of a principal. -/
def rowsOf (principal : Principal) (notifications : List NotificationRow) :
    List NotificationRow :=
  notifications.filter fun row => row.owner = principal

/-- The rows a list shows. -/
def NotificationRow.listed (includeRead : Bool) (row : NotificationRow) : Bool :=
  includeRead || row.readAt.isNone

/-- The rows a mark is about. -/
def NotificationRow.isUnread (uuid : Uuid) (tenantId userId : String)
    (row : NotificationRow) : Bool :=
  row.id = uuid && row.tenantId = tenantId && row.userId = userId &&
    row.readAt.isNone

/-- The database takes the parameters of an operation, and the operation is about
events that memory still has. -/
def NotificationOperation.Portable (notifications : List NotificationRow) :
    NotificationOperation → Prop
  | .listForUser tenantId userId limit includeRead =>
      (Storable tenantId ∧ Storable userId ∧ limit < 9223372036854775808) ∧
        (limit ≤ (recent maxNotificationsPerUser
            (rowsOf (tenantId, userId) notifications)).countP
              (NotificationRow.listed includeRead) ∨
          ∀ row ∈ forgotten maxNotificationsPerUser
            (rowsOf (tenantId, userId) notifications),
              ¬ NotificationRow.listed includeRead row)
  | .publish event =>
      Storable event.tenantId ∧ Storable event.userId ∧
        Storable event.eventClass ∧ Storable event.resourceId
  | .markRead tenantId userId notificationId _ =>
      ∃ uuid, Uuid.ofText? notificationId = some uuid ∧
        (Storable tenantId ∧ Storable userId) ∧
        ∀ row ∈ notifications, row.isUnread uuid tenantId userId →
          notificationId = uuid.text ∧ row ∈ recent maxNotificationsPerUser
            (rowsOf (tenantId, userId) notifications)

/-! ## Steps -/

section Steps

variable {events : InMemoryNotificationStore} {notifications : List NotificationRow}
  {past : List TimedNotificationOperation}

/-- What is seen of a row. -/
def NotificationRow.seen (row : NotificationRow) : NotificationEvent × Bool :=
  row.event.stampless

/-- Memory holds the last events of each principal that the table has. -/
structure NotificationsRelated (past : List TimedNotificationOperation)
    (events : InMemoryNotificationStore) (notifications : List NotificationRow) :
    Prop where
  holds : ∀ principal, (events.bucket principal).map NotificationEvent.stampless =
    recent maxNotificationsPerUser
      (readOff NotificationRow.owner NotificationRow.seen notifications principal)
  records : notificationRecording.Records (published past) notifications

open PostgresNotificationStore

theorem PostgresNotificationStore.listForUser_eq_ok_iff {tenantId userId : String}
    {limit : Int} {includeRead : Bool} (positive : 1 ≤ limit)
    {result : List NotificationEvent} :
    listForUser notifications tenantId userId limit includeRead = .ok result ↔
      (Storable tenantId ∧ Storable userId ∧ limit < 9223372036854775808) ∧
        ((selectLatest (fun row => row.tenantId = tenantId && row.userId = userId &&
            (includeRead || row.readAt.isNone))
          (fun row => row.createdAt.instant) notifications).take limit.toNat).map
            NotificationRow.event = result := by
  have nonnegative : 0 ≤ limit := by omega
  simp only [listForUser, bind_eq_ok_iff, textParameter_eq_ok_iff,
    limitParameter_eq_ok_iff, and_assoc, exists_and_left, exists_eq_left', pure,
    Except.pure, Except.ok.injEq, nonnegative, true_and]

/-- What a list shows, of what is seen. -/
def shows (includeRead : Bool) (seen : NotificationEvent × Bool) : Bool :=
  includeRead || !seen.2

theorem shows_seen (includeRead : Bool) (row : NotificationRow) :
    shows includeRead row.seen = row.listed includeRead := by
  rw [shows, NotificationRow.listed, ← Option.not_isSome]
  rfl

/-- What memory lists. -/
theorem stampless_listForUser {tenantId userId : String} {limit : Int}
    {includeRead : Bool} (positive : 1 ≤ limit) :
    (events.listForUser tenantId userId limit includeRead).map
        NotificationEvent.stampless =
      (((events.bucket (tenantId, userId)).map NotificationEvent.stampless).filter
        (shows includeRead)).reverse.take limit.toNat := by
  have selected : (if includeRead then events.bucket (tenantId, userId)
        else (events.bucket (tenantId, userId)).filter (·.readAt.isNone)) =
      (events.bucket (tenantId, userId)).filter fun event =>
        shows includeRead event.stampless := by
    cases includeRead with
    | true => exact (List.filter_eq_self.mpr fun _ _ => rfl).symm
    | false =>
        rw [if_neg Bool.false_ne_true]
        apply List.filter_congr
        intro event _
        rw [← Option.not_isSome]
        rfl
  have negative : ¬ 0 ≤ -limit := by omega
  rw [InMemoryNotificationStore.listForUser, selected, dropSlice, if_neg negative,
    Int.neg_neg, List.filter_map, take_reverse_eq, List.map_reverse, recent_map]
  rfl

/-- What the database lists. -/
theorem stampless_selectLatest
    (related : NotificationsRelated past events notifications)
    (tenantId userId : String) (includeRead : Bool) (count : Nat) :
    (((selectLatest (fun row => row.tenantId = tenantId && row.userId = userId &&
        (includeRead || row.readAt.isNone))
      (fun row => row.createdAt.instant) notifications).take count).map
        NotificationRow.event).map NotificationEvent.stampless =
      ((readOff NotificationRow.owner NotificationRow.seen notifications
        (tenantId, userId)).filter (shows includeRead)).reverse.take count := by
  have selected : ((readOff NotificationRow.owner NotificationRow.seen notifications
        (tenantId, userId)).filter (shows includeRead)) =
      (notifications.filter fun row => row.tenantId = tenantId &&
        row.userId = userId && (includeRead || row.readAt.isNone)).map
          NotificationRow.seen := by
    rw [readOff, List.filter_map, List.filter_filter]
    congr 1
    apply List.filter_congr
    intro row _
    rw [Function.comp_apply, shows_seen, Bool.and_comm, NotificationRow.listed,
      NotificationRow.owner]
    simp only [Prod.mk.injEq, Bool.decide_and]
  have ordered : notifications.Pairwise fun one other =>
      one.createdAt.instant < other.createdAt.instant := related.records.ordered
  rw [selectLatest_of_increasing ordered, selected, List.map_map, List.map_take,
    List.map_reverse]
  rfl

/-- Memory and the table list the same exactly if memory still has what the list
shows. -/
theorem NotificationsRelated.listed_iff
    (related : NotificationsRelated past events notifications)
    {tenantId userId : String} {limit : Int} {includeRead : Bool}
    (positive : 1 ≤ limit) :
    (events.listForUser tenantId userId limit includeRead).map
        NotificationEvent.stampless =
      (((selectLatest (fun row => row.tenantId = tenantId && row.userId = userId &&
          (includeRead || row.readAt.isNone))
        (fun row => row.createdAt.instant) notifications).take limit.toNat).map
          NotificationRow.event).map NotificationEvent.stampless ↔
      limit ≤ (recent maxNotificationsPerUser
          (rowsOf (tenantId, userId) notifications)).countP
            (NotificationRow.listed includeRead) ∨
        ∀ row ∈ forgotten maxNotificationsPerUser
          (rowsOf (tenantId, userId) notifications),
            ¬ NotificationRow.listed includeRead row := by
  have shown : (shows includeRead ∘ NotificationRow.seen) =
      NotificationRow.listed includeRead := funext (shows_seen includeRead)
  rw [stampless_listForUser positive, stampless_selectLatest related, related.holds,
    eq_comm, take_reverse_filter_iff, readOff, recent_map, forgotten_map,
    List.countP_map, shown, List.forall_mem_map]
  apply or_congr
  · rw [← rowsOf]
    omega
  · simp only [shows_seen]
    rfl

/-! ### Publishing -/

/-- The row of an event. -/
def NotificationEvent.row (event : NotificationEvent) (uuid : Uuid) :
    NotificationRow :=
  { event with id := uuid, readAt := none }

theorem PostgresNotificationStore.publish_eq_ok_iff {event : NotificationEvent}
    {result : Unit × List NotificationRow} :
    publish notifications event = .ok result ↔
      ∃ uuid, Uuid.ofText? event.id = some uuid ∧
        (NotificationOperation.publish event).Portable notifications ∧
        ((), insertNew NotificationRow.id (event.row uuid) notifications) =
          result := by
  simp only [publish, bind_eq_ok_iff, uuidParameter_eq_ok_iff, textParameter_eq_ok_iff,
    NotificationOperation.Portable, and_assoc, exists_and_left, exists_eq_left', pure,
    Except.pure, Except.ok.injEq, NotificationEvent.row]

/-- Memory keeps the last events. -/
theorem bucket_publish (event : NotificationEvent) (principal : Principal) :
    (events.publish event).bucket principal =
      if principal = (event.tenantId, event.userId) then
        recent maxNotificationsPerUser (events.bucket principal ++ [event])
      else events.bucket principal := by
  have kept (items : List NotificationEvent) :
      (if maxNotificationsPerUser < items.length then
        dropSlice items (-maxNotificationsPerUser) else items) =
          recent maxNotificationsPerUser items := by
    split
    · rw [dropSlice, if_neg (by decide), Int.neg_neg, Int.toNat_natCast, recent]
    next short => exact (recent_of_length_le (Nat.le_of_not_lt short)).symm
  have stored : events.publish event = events.insert (event.tenantId, event.userId)
      (recent maxNotificationsPerUser
        (events.bucket (event.tenantId, event.userId) ++ [event])) := by
    rw [← kept, apply_ite (events.insert (event.tenantId, event.userId))]
    rfl
  rw [stored, Dict.bucket_insert]
  split
  next same => rw [same]
  · rfl

/-- A new event gets a row of its own. -/
theorem NotificationsRelated.publish {event : NotificationEvent} {uuid : Uuid}
    {now : DateTime} (related : NotificationsRelated past events notifications)
    (history : NotificationHistory (past ++ [(.publish event, now)]))
    (named : event.id = uuid.text) :
    NotificationsRelated (past ++ [(.publish event, now)]) (events.publish event)
      (insertNew NotificationRow.id (event.row uuid) notifications) := by
  have publications : published (past ++ [(.publish event, now)]) =
      published past ++ [event] := by
    rw [published, List.filterMap_append]
    rfl
  have orderly := history.orderly
  have unread := history.unread event (by rw [publications]; simp)
  rw [publications] at orderly
  have inserted : insertNew NotificationRow.id (event.row uuid) notifications =
      notifications ++ [event.row uuid] :=
    insertNew_of_fresh (related.records.fresh (event.row uuid) orderly named)
  rw [inserted]
  constructor
  · intro principal
    have seen : (event.row uuid).seen = event.stampless := by
      rw [NotificationRow.seen, NotificationRow.event, NotificationEvent.row, ← named,
        ← unread]
    rw [bucket_publish, readOff_append, seen]
    by_cases own : principal = (event.tenantId, event.userId)
    · have owned : (event.row uuid).owner = principal := own.symm
      rw [if_pos own, if_pos owned, ← recent_map, List.map_append, related.holds,
        List.map_singleton, recent_snoc]
    · have foreign : (event.row uuid).owner ≠ principal := fun same => own same.symm
      rw [if_neg own, if_neg foreign, List.append_nil, related.holds]
  · rw [publications]
    exact related.records.snoc (event.row uuid) orderly named rfl

/-! ### Marking -/

/-- What a mark makes of a row. -/
def NotificationRow.marked (now : DateTime) (row : NotificationRow) :
    NotificationRow :=
  { row with readAt := some now }

theorem PostgresNotificationStore.markRead_eq_ok_iff
    {tenantId userId notificationId : String} {now : DateTime}
    {result : Option NotificationEvent × List NotificationRow} :
    markRead notifications tenantId userId notificationId now = .ok result ↔
      ∃ uuid, Uuid.ofText? notificationId = some uuid ∧
        (Storable tenantId ∧ Storable userId) ∧
        ((updateWhere (NotificationRow.isUnread uuid tenantId userId)
            (NotificationRow.marked now) notifications).1.head?.map
              NotificationRow.event,
          (updateWhere (NotificationRow.isUnread uuid tenantId userId)
            (NotificationRow.marked now) notifications).2) = result := by
  simp only [markRead, bind_eq_ok_iff, uuidParameter_eq_ok_iff,
    textParameter_eq_ok_iff, and_assoc, exists_and_left, exists_eq_left', pure,
    Except.pure, Except.ok.injEq]
  rfl

/-- An unread event of an id, of what is seen. -/
def unreadSeen (id : String) (seen : NotificationEvent × Bool) : Bool :=
  seen.1.id = id && !seen.2

theorem unreadSeen_stampless (id : String) (event : NotificationEvent) :
    unreadSeen id event.stampless = (decide (event.id = id) && event.readAt.isNone) := by
  rw [← Option.not_isSome]
  rfl

/-- What a mark makes of what is seen. -/
def markSeen (seen : NotificationEvent × Bool) : NotificationEvent × Bool :=
  (seen.1, true)

theorem NotificationsRelated.meansAlike
    (related : NotificationsRelated past events notifications) (uuid : Uuid)
    (tenantId userId : String) :
    MeansAlike NotificationRow.owner NotificationRow.seen notifications
      (tenantId, userId) (NotificationRow.isUnread uuid tenantId userId)
      (unreadSeen uuid.text) where
  alike row _ := by
    have texts : row.id = uuid ↔ row.id.text = uuid.text :=
      ⟨congrArg Uuid.text, Uuid.text_injective⟩
    rw [NotificationRow.seen, unreadSeen_stampless, Bool.eq_iff_iff]
    simp only [NotificationRow.isUnread, NotificationRow.owner, NotificationRow.event,
      Prod.mk.injEq, texts, Bool.and_eq_true, decide_eq_true_eq]
    exact ⟨fun meant => ⟨⟨meant.1.1.2, meant.1.2⟩, decide_eq_true meant.1.1.1, meant.2⟩,
      fun meant => ⟨⟨⟨of_decide_eq_true meant.2.1, meant.1.1⟩, meant.1.2⟩, meant.2.2⟩⟩
  single := by
    apply (List.pairwise_map.mp related.records.distinct).imp
    intro one other different both
    simp only [NotificationRow.isUnread, Bool.and_eq_true, decide_eq_true_eq] at both
    exact different (both.1.1.1.1.trans both.2.1.1.1.symm)

/-- No two events of a principal have one id. -/
theorem NotificationsRelated.single
    (related : NotificationsRelated past events notifications) (principal : Principal)
    (id : String) :
    AtMostOne (unreadSeen id)
      ((events.bucket principal).map NotificationEvent.stampless) := by
  rw [related.holds, readOff, recent_map]
  apply List.pairwise_map.mpr
  have distinct := List.pairwise_map.mp related.records.distinct
  have fewer : (recent maxNotificationsPerUser
      (notifications.filter fun row => row.owner = principal)).Sublist notifications :=
    (List.drop_sublist _ _).trans List.filter_sublist
  apply (distinct.sublist fewer).imp
  intro one other different both
  simp only [unreadSeen, Bool.and_eq_true, decide_eq_true_eq] at both
  exact different (Uuid.text_injective (both.1.1.trans both.2.1.symm))

/-- What memory finds is a row that memory still has. -/
theorem NotificationsRelated.row_of_found
    (related : NotificationsRelated past events notifications)
    {tenantId userId notificationId : String} {uuid : Uuid}
    (read : Uuid.ofText? notificationId = some uuid)
    {seen : NotificationEvent × Bool}
    (found : ((events.bucket (tenantId, userId)).map
      NotificationEvent.stampless).find? (unreadSeen notificationId) = some seen) :
    ∃ row ∈ notifications, row.isUnread uuid tenantId userId ∧
      notificationId = uuid.text ∧
      row ∈ recent maxNotificationsPerUser (rowsOf (tenantId, userId) notifications) ∧
      row.seen = seen := by
  have unread := List.find?_some found
  have member := List.mem_of_find?_eq_some found
  rw [related.holds, readOff, recent_map] at member
  rcases List.mem_map.mp member with ⟨row, kept, rfl⟩
  have owned := List.mem_of_mem_drop kept
  rcases List.mem_filter.mp owned with ⟨stored, own⟩
  simp only [unreadSeen, Bool.and_eq_true, decide_eq_true_eq] at unread
  have named : row.id.text = notificationId := unread.1
  have same : row.id = uuid := by
    rw [← named, Uuid.ofText?_text] at read
    exact Option.some.inj read
  have meant := (related.meansAlike uuid tenantId userId).alike row stored
  rw [own, Bool.true_and, unreadSeen] at meant
  refine ⟨row, stored, ?_, by rw [← named, same], kept, rfl⟩
  rw [meant, Bool.and_eq_true, decide_eq_true_eq]
  exact ⟨named.trans (by rw [← named, same]), unread.2⟩

/-- Both stores find the same event if memory still has it, under its own id. -/
theorem NotificationsRelated.found_eq
    (related : NotificationsRelated past events notifications)
    {tenantId userId notificationId : String} {uuid : Uuid}
    (read : Uuid.ofText? notificationId = some uuid)
    (portable : ∀ row ∈ notifications, row.isUnread uuid tenantId userId →
      notificationId = uuid.text ∧ row ∈ recent maxNotificationsPerUser
        (rowsOf (tenantId, userId) notifications)) :
    ((events.bucket (tenantId, userId)).map NotificationEvent.stampless).find?
        (unreadSeen notificationId) =
      (notifications.find? (NotificationRow.isUnread uuid tenantId userId)).map
        NotificationRow.seen := by
  cases stored : notifications.find? (NotificationRow.isUnread uuid tenantId userId) with
  | none =>
      rw [Option.map_none]
      cases found : ((events.bucket (tenantId, userId)).map
          NotificationEvent.stampless).find? (unreadSeen notificationId) with
      | none => rfl
      | some seen =>
          rcases related.row_of_found read found with ⟨row, member, meant, _⟩
          exact absurd meant (List.find?_eq_none.mp stored row member)
  | some row =>
      have meant := List.find?_some stored
      have member := List.mem_of_find?_eq_some stored
      rcases portable row member meant with ⟨canonical, kept⟩
      apply (related.single _ _).find?_eq_some
      · rw [related.holds, readOff, recent_map]
        exact List.mem_map_of_mem kept
      · rw [(related.meansAlike uuid tenantId userId).alike row member,
          Bool.and_eq_true] at meant
        rw [canonical]
        exact meant.2

/-- Both stores mean the same events. -/
theorem NotificationsRelated.unreadSeen_eq
    (related : NotificationsRelated past events notifications)
    {tenantId userId notificationId : String} {uuid : Uuid}
    (read : Uuid.ofText? notificationId = some uuid)
    (portable : ∀ row ∈ notifications, row.isUnread uuid tenantId userId →
      notificationId = uuid.text ∧ row ∈ recent maxNotificationsPerUser
        (rowsOf (tenantId, userId) notifications)) :
    ∀ seen ∈ (events.bucket (tenantId, userId)).map NotificationEvent.stampless,
      unreadSeen notificationId seen = unreadSeen uuid.text seen := by
  intro seen member
  rw [related.holds, readOff, recent_map] at member
  rcases List.mem_map.mp member with ⟨row, kept, rfl⟩
  rcases List.mem_filter.mp (List.mem_of_mem_drop kept) with ⟨stored, own⟩
  rw [Bool.eq_iff_iff]
  constructor
  · intro unread
    simp only [unreadSeen, Bool.and_eq_true, decide_eq_true_eq] at unread ⊢
    have named : row.id.text = notificationId := unread.1
    rw [← named, Uuid.ofText?_text, Option.some.injEq] at read
    exact ⟨congrArg Uuid.text read, unread.2⟩
  · intro unread
    have meant := (related.meansAlike uuid tenantId userId).alike row stored
    rw [own, unread] at meant
    rw [(portable row stored meant).1]
    exact unread

/-- A mark changes the same events of both stores. -/
theorem NotificationsRelated.markRead
    (related : NotificationsRelated past events notifications)
    {tenantId userId notificationId : String} {now serverNow : DateTime} {uuid : Uuid}
    (read : Uuid.ofText? notificationId = some uuid)
    (portable : ∀ row ∈ notifications, row.isUnread uuid tenantId userId →
      notificationId = uuid.text ∧ row ∈ recent maxNotificationsPerUser
        (rowsOf (tenantId, userId) notifications)) (principal : Principal) :
    ((events.markRead tenantId userId notificationId now).2.bucket principal).map
        NotificationEvent.stampless =
      recent maxNotificationsPerUser (readOff NotificationRow.owner
        NotificationRow.seen (updateWhere
          (NotificationRow.isUnread uuid tenantId userId)
          (NotificationRow.marked serverNow) notifications).2 principal) := by
  rw [(related.meansAlike uuid tenantId userId).readOff_updateWhere
    (NotificationRow.marked serverNow) markSeen (fun _ => rfl) (fun _ => rfl),
    InMemoryNotificationStore.markRead]
  split
  next same =>
    subst same
    have single : AtMostOne (fun event : NotificationEvent =>
        event.id = notificationId && event.readAt.isNone)
          (events.bucket (tenantId, userId)) := by
      apply (List.pairwise_map.mp (related.single _ notificationId)).imp
      intro one other apart both
      rw [unreadSeen_stampless, unreadSeen_stampless] at apart
      exact apart both
    rw [Dict.bucket_changeBucket_self, snd_editFirst single, recent_map,
      ← related.holds, List.map_map, List.map_map]
    apply List.map_congr_left
    intro event member
    have meant := related.unreadSeen_eq read portable event.stampless
      (List.mem_map_of_mem member)
    rw [unreadSeen_stampless] at meant
    rw [Function.comp_apply, Function.comp_apply, ← meant]
    split <;> rfl
  next foreign => rw [Dict.bucket_changeBucket_ne _ _ foreign, related.holds]

/-- What memory marks, of what is seen. -/
theorem stampless_markRead {tenantId userId notificationId : String}
    {now : DateTime} :
    (events.markRead tenantId userId notificationId now).1.map
        NotificationEvent.stampless =
      (((events.bucket (tenantId, userId)).map NotificationEvent.stampless).find?
        (unreadSeen notificationId)).map markSeen := by
  rw [InMemoryNotificationStore.markRead, Dict.changeBucket_fst, fst_editFirst,
    List.find?_map, Option.map_map, Option.map_map]
  have meant : (unreadSeen notificationId ∘ NotificationEvent.stampless) =
      fun event => decide (event.id = notificationId) && event.readAt.isNone :=
    funext fun event => unreadSeen_stampless notificationId event
  rw [meant]
  rfl

/-- What the database marks, of what is seen. -/
theorem stampless_updateWhere {uuid : Uuid} {tenantId userId : String}
    {serverNow : DateTime} :
    ((updateWhere (NotificationRow.isUnread uuid tenantId userId)
        (NotificationRow.marked serverNow) notifications).1.head?.map
          NotificationRow.event).map NotificationEvent.stampless =
      ((notifications.find? (NotificationRow.isUnread uuid tenantId userId)).map
        NotificationRow.seen).map markSeen := by
  rw [updateWhere, List.head?_map, List.head?_filter, Option.map_map, Option.map_map,
    Option.map_map]
  rfl

/-! ### Agreement -/

/-- Nothing is published but by `publish`. -/
theorem published_snoc_listForUser {tenantId userId : String} {limit : Int}
    {includeRead : Bool} {now : DateTime} :
    published (past ++ [(.listForUser tenantId userId limit includeRead, now)]) =
      published past := by
  rw [published, List.filterMap_append]
  exact List.append_nil _

theorem published_snoc_markRead {tenantId userId notificationId : String}
    {now serverNow : DateTime} :
    published (past ++ [(.markRead tenantId userId notificationId now, serverNow)]) =
      published past := by
  rw [published, List.filterMap_append]
  exact List.append_nil _

/-- A mark that is answered alike was about an event that memory still has. -/
theorem NotificationsRelated.portable_of_marked
    (related : NotificationsRelated past events notifications)
    {tenantId userId notificationId : String} {now serverNow : DateTime} {uuid : Uuid}
    (read : Uuid.ofText? notificationId = some uuid)
    (alike : (events.markRead tenantId userId notificationId now).1.map
        NotificationEvent.stampless =
      ((updateWhere (NotificationRow.isUnread uuid tenantId userId)
        (NotificationRow.marked serverNow) notifications).1.head?.map
          NotificationRow.event).map NotificationEvent.stampless) :
    ∀ row ∈ notifications, row.isUnread uuid tenantId userId →
      notificationId = uuid.text ∧ row ∈ recent maxNotificationsPerUser
        (rowsOf (tenantId, userId) notifications) := by
  intro row member meant
  have single := (related.meansAlike uuid tenantId userId).single
  rw [stampless_markRead, stampless_updateWhere, single.find?_eq_some member meant]
    at alike
  cases found : ((events.bucket (tenantId, userId)).map
      NotificationEvent.stampless).find? (unreadSeen notificationId) with
  | none =>
      rw [found] at alike
      cases alike
  | some seen =>
      rcases related.row_of_found read found with
        ⟨other, member', meant', canonical, kept, _⟩
      have same := (single.find?_eq_some member' meant').symm.trans
        (single.find?_eq_some member meant)
      exact ⟨canonical, Option.some.inj same ▸ kept⟩

/-- The stores agree on single steps. -/
theorem notification_agreement :
    SharedObject.Agreement memoryNotificationStore postgresNotificationStore
      NotificationHistory
      (fun result result' => ∃ value, result' = .ok value ∧
        EqualButReadAt result value)
      (fun _ notifications operation => operation.1.Portable notifications)
      NotificationsRelated where
  shortens := by
    intro past rest history
    have shorter : past.Sublist (past ++ rest) := List.sublist_append_left past rest
    have publications : (published past).Sublist (published (past ++ rest)) :=
      shorter.filterMap _
    exact ⟨fun event member => history.canonical event (publications.subset member),
      fun event member => history.unread event (publications.subset member),
      history.orderly.sublist publications,
      fun tenantId userId limit includeRead now member =>
        history.limits tenantId userId limit includeRead now (shorter.subset member)⟩
  initial := by
    refine ⟨fun principal => ?_, .nil⟩
    exact (recent_of_length_le (Nat.zero_le maxNotificationsPerUser)).symm
  agrees := by
    intro past events notifications operation history related portable
    have here : operation ∈ past ++ [operation] := by simp
    rcases operation with ⟨operation, serverNow⟩
    cases operation with
    | listForUser tenantId userId limit includeRead =>
        have positive := history.limits _ _ _ _ _ here
        have answered : listForUser notifications tenantId userId limit includeRead =
            .ok _ := (listForUser_eq_ok_iff positive).mpr ⟨portable.1, rfl⟩
        simp only [postgresNotificationStore, answered, readOnly]
        refine ⟨⟨_, rfl, (related.listed_iff positive).mpr portable.2⟩, ?_, ?_⟩
        · exact related.holds
        · rw [published_snoc_listForUser]
          exact related.records
    | publish event =>
        have named := history.canonical event (by simp [published])
        rcases named with ⟨uuid, named⟩
        have answered : publish notifications event =
            .ok ((), insertNew NotificationRow.id (event.row uuid) notifications) :=
          publish_eq_ok_iff.mpr
            ⟨uuid, by rw [named, Uuid.ofText?_text], portable, rfl⟩
        simp only [postgresNotificationStore, answered, transact]
        exact ⟨⟨_, rfl, trivial⟩, related.publish history named⟩
    | markRead tenantId userId notificationId now =>
        rcases portable with ⟨uuid, read, storable, portable⟩
        have answered : markRead notifications tenantId userId notificationId
            serverNow = .ok _ := markRead_eq_ok_iff.mpr ⟨uuid, read, storable, rfl⟩
        simp only [postgresNotificationStore, answered, transact]
        refine ⟨⟨_, rfl, ?_⟩, related.markRead read portable, ?_⟩
        · exact stampless_markRead.trans
            ((congrArg (Option.map markSeen) (related.found_eq read portable)).trans
              stampless_updateWhere.symm)
        · rw [published_snoc_markRead]
          exact related.records.updateWhere (fun _ => rfl) (fun _ => rfl)
  differs := by
    intro past events notifications operation history related unportable alike
    have here : operation ∈ past ++ [operation] := by simp
    rcases operation with ⟨operation, serverNow⟩
    rcases alike with ⟨value, answered, alike⟩
    apply unportable
    cases operation with
    | listForUser tenantId userId limit includeRead =>
        have positive := history.limits _ _ _ _ _ here
        rcases readOnly_eq_ok_iff.mp answered with ⟨_, done, rfl⟩
        rcases (listForUser_eq_ok_iff positive).mp done with ⟨storable, rfl⟩
        exact ⟨storable, (related.listed_iff positive).mp alike⟩
    | publish event =>
        rcases transact_eq_ok_iff.mp answered with ⟨_, _, done, _⟩
        rcases publish_eq_ok_iff.mp done with ⟨_, _, portable, _⟩
        exact portable
    | markRead tenantId userId notificationId now =>
        rcases transact_eq_ok_iff.mp answered with ⟨_, _, done, rfl⟩
        rcases markRead_eq_ok_iff.mp done with ⟨uuid, read, storable, same⟩
        cases same
        exact ⟨uuid, read, storable, related.portable_of_marked read alike⟩

end Steps

/-! ## Whole histories -/

/-- The stores return equal results exactly if, before each operation, the database
takes its parameters and memory still has the events it is about. -/
theorem notification_backends_agree_iff {history : List TimedNotificationOperation}
    (wellFormed : NotificationHistory history) :
    NotificationBackendsAgree history ↔
      ∀ past operation rest, history = past ++ operation :: rest →
        operation.1.Portable (postgresNotificationStore.after past) :=
  notification_agreement.answers_iff wellFormed

/-- An event with the `uuid` of equal octets, at some hour. -/
def sampleEvent (octet : Octet) (hour : Nat) : NotificationEvent where
  id := (Uuid.repeated octet).text
  tenantId := "acme.com"
  userId := "ana"
  eventClass := "system_notice"
  resourceId := "r1"
  createdAt := .fullHour hour
  readAt := none

/-- Two events are published, one of them is read, and they are listed. -/
def noticeHistory : List TimedNotificationOperation :=
  [(.publish (sampleEvent (10, 11) 9), .fullHour 9),
    (.publish (sampleEvent (10, 12) 10), .fullHour 10),
    (.markRead "acme.com" "ana" (Uuid.repeated (10, 11)).text (.fullHour 11),
      .fullHour 11),
    (.listForUser "acme.com" "ana" 50 false, .fullHour 12)]

theorem notificationHistory_notice : NotificationHistory noticeHistory where
  canonical := by
    simp [noticeHistory, published, sampleEvent, Uuid.isCanonical_text]
  unread := by simp [noticeHistory, published, sampleEvent]
  orderly := ⟨by decide +kernel, by decide +kernel⟩
  limits := by
    intro tenantId userId limit includeRead now member
    simp only [noticeHistory, List.mem_cons, List.not_mem_nil, or_false,
      Prod.mk.injEq, NotificationOperation.listForUser.injEq, reduceCtorEq,
      false_and, false_or] at member
    omega

theorem notification_backends_agree_iff_notice :
    NotificationBackendsAgree noticeHistory := by
  apply (notification_backends_agree_iff notificationHistory_notice).mpr
  have storable : Storable "acme.com" ∧ Storable "ana" := by decide
  have text : Storable "system_notice" ∧ Storable "r1" := by decide
  rw [noticeHistory]
  simp only [SharedObject.forall_split_cons]
  refine ⟨⟨storable.1, storable.2, text⟩, ⟨storable.1, storable.2, text⟩,
    ⟨_, Uuid.ofText?_text _, storable, fun row member unread => ⟨rfl, ?_⟩⟩,
    ⟨⟨storable.1, storable.2, by decide⟩, .inr ?_⟩, SharedObject.forall_split_nil⟩
  · have own : row.owner = ("acme.com", "ana") := by
      simp only [NotificationRow.isUnread, Bool.and_eq_true, decide_eq_true_eq] at unread
      exact Prod.ext unread.1.1.2 unread.1.2
    rw [recent_of_length_le (by decide +kernel)]
    exact List.mem_filter.mpr ⟨member, decide_eq_true own⟩
  · have kept : forgotten maxNotificationsPerUser (rowsOf ("acme.com", "ana")
        (postgresNotificationStore.after (noticeHistory.take 3))) = [] :=
      List.isEmpty_iff.mp (by decide +kernel)
    intro row member
    cases (kept ▸ member : row ∈ [])

/-- An id that is no `uuid` is not found in memory and rejected by the server. -/
theorem notification_backends_differ :
    let history : List TimedNotificationOperation :=
      [(.markRead "acme.com" "ana" "x" ⟨2026, 1, 1, 9, 0, 0, 0, by decide⟩,
        ⟨2026, 1, 1, 9, 0, 0, 0, by decide⟩)]
    NotificationHistory history ∧ ¬ NotificationBackendsAgree history := by
  refine ⟨⟨nofun, nofun, ⟨List.nodup_nil, .nil⟩, ?_⟩, ?_⟩
  · simp
  · intro agree
    rcases (List.forall₂_cons.mp agree).1 with ⟨_, answered, _⟩
    cases answered

end PrivateAiWorkspace.ControlPlane
