import PrivateAiWorkspace.Effects.Isolation
import PrivateAiWorkspace.Python.Basic
import PrivateAiWorkspace.Python.Buckets

/-!
# Notifications

The event record of `notifications.py`, the classes of events that may be
published, and the store in memory.
-/

namespace PrivateAiWorkspace.ControlPlane

open Effects Python

/-- A tenant and one of its users. -/
abbrev Principal := String × String

/-- `NotificationEvent`. -/
structure NotificationEvent where
  id : String
  tenantId : String
  userId : String
  eventClass : String
  resourceId : String
  createdAt : DateTime
  readAt : Option DateTime

/-- `ALLOWED_EVENT_CLASSES`. -/
def allowedEventClasses : List String :=
  ["indexing_complete", "agent_task_done", "agent_task_progress",
    "agent_task_completed", "agent_task_failed", "media_generation_complete",
    "media_task_completed", "media_task_failed", "model_install_requested",
    "model_install_updated", "system_notice"]

/-! ## The store in memory -/

/-- `_MAX_NOTIFICATIONS_PER_USER`. -/
def maxNotificationsPerUser : Nat := 200

/-- `InMemoryNotificationStore`: events of each principal, oldest first. -/
abbrev InMemoryNotificationStore := Dict Principal (List NotificationEvent)

namespace InMemoryNotificationStore

/-- `list_for_user`. -/
def listForUser (events : InMemoryNotificationStore) (tenantId userId : String)
    (limit : Int) (includeRead : Bool) : List NotificationEvent :=
  let bucket := events.bucket (tenantId, userId)
  let listed :=
    if includeRead then bucket else bucket.filter (·.readAt.isNone)
  (dropSlice listed (-limit)).reverse

/-- `publish`. -/
def publish (events : InMemoryNotificationStore) (event : NotificationEvent) :
    InMemoryNotificationStore :=
  let key := (event.tenantId, event.userId)
  let bucket := events.bucket key ++ [event]
  if maxNotificationsPerUser < bucket.length then
    events.insert key (dropSlice bucket (-maxNotificationsPerUser))
  else events.insert key bucket

/-- `mark_read` at a time. -/
def markRead (events : InMemoryNotificationStore)
    (tenantId userId notificationId : String) (now : DateTime) :
    Option NotificationEvent × InMemoryNotificationStore :=
  events.changeBucket (tenantId, userId)
    (editFirst (fun event => event.id = notificationId && event.readAt.isNone)
      fun event => { event with readAt := some now })

end InMemoryNotificationStore

/-- An operation of the store, with the time it reads. -/
inductive NotificationOperation where
  | listForUser (tenantId userId : String) (limit : Int) (includeRead : Bool)
  | publish (event : NotificationEvent)
  | markRead (tenantId userId notificationId : String) (now : DateTime)

/-- What an operation of the store returns. -/
inductive NotificationResult where
  | events (events : List NotificationEvent)
  | none
  | marked (event : Option NotificationEvent)

/-- The store as its users share it. -/
def notificationStore : SharedObject InMemoryNotificationStore
    NotificationOperation NotificationResult Principal where
  initial := .empty
  step events
    | .listForUser tenantId userId limit includeRead =>
        (.events (events.listForUser tenantId userId limit includeRead), events)
    | .publish event => (.none, events.publish event)
    | .markRead tenantId userId notificationId now =>
        let marked := events.markRead tenantId userId notificationId now
        (.marked marked.1, marked.2)
  issuer
    | .listForUser tenantId userId _ _ => (tenantId, userId)
    | .publish event => (event.tenantId, event.userId)
    | .markRead tenantId userId _ _ => (tenantId, userId)

/-- The events of a principal. -/
def notificationsOf (principal : Principal)
    (events : InMemoryNotificationStore) : List NotificationEvent :=
  events.bucket principal

theorem notificationStore_isolated :
    notificationStore.Isolated (fun _ => True) notificationsOf := by
  apply SharedObject.isolated_of_steps
  · intro principal events operation others
    cases operation with
    | listForUser => rfl
    | publish event =>
        simp only [notificationStore, InMemoryNotificationStore.publish,
          notificationsOf] at others ⊢
        split <;> exact (Dict.bucket_insert _ _ _ _).trans (if_neg others.symm)
    | markRead tenantId userId notificationId now =>
        exact Dict.bucket_changeBucket_ne _ _ others.symm
  · intro first second operation same
    cases operation with
    | listForUser tenantId userId limit includeRead =>
        simp only [notificationStore, notificationsOf] at same ⊢
        simp only [InMemoryNotificationStore.listForUser, same, and_self]
    | publish event =>
        simp only [notificationStore, notificationsOf] at same ⊢
        simp only [InMemoryNotificationStore.publish, same]
        split <;> simp
    | markRead tenantId userId notificationId now =>
        simp only [notificationStore, notificationsOf] at same ⊢
        simp only [InMemoryNotificationStore.markRead, Dict.changeBucket_fst,
          Dict.bucket_changeBucket_self, same, and_self]

end PrivateAiWorkspace.ControlPlane
