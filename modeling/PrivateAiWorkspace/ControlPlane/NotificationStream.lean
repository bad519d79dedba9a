import PrivateAiWorkspace.ControlPlane.Notifications
import PrivateAiWorkspace.Lists.Novelties
import PrivateAiWorkspace.Python.Builtins
import PrivateAiWorkspace.Python.Utf8

/-!
# The stream of notifications

`format_notification_sse` and `stream_notification_frames` of
`notifications.py`, over the store in memory. Every tick lists the newest unread
events and sends those it has not sent yet; in between the store is used by
others. The frames are the novelties of what the ticks list, so an event is
missed, or sent too late, exactly when newer unread events keep it out of the
lists.
-/

namespace PrivateAiWorkspace.ControlPlane

open Effects PrivateAiWorkspace.Lists Python

/-! ## Frames -/

/-- `to_api_dict`. -/
def NotificationEvent.toApiDict (event : NotificationEvent) : Json :=
  .obj [("id", .str event.id), ("event_class", .str event.eventClass),
    ("resource_id", .str event.resourceId),
    ("created_at", .str event.createdAt.isoformat),
    ("read_at", (event.readAt.map fun time => Json.str time.isoformat).getD .null),
    ("read", .bool event.readAt.isSome)]

/-- A frame of the stream. -/
inductive NotificationFrame where
  | data (event : NotificationEvent)
  | ping

namespace NotificationFrame

/-- The event of a frame. -/
def event? : NotificationFrame → Option NotificationEvent
  | .data event => some event
  | .ping => none

/-- The text of a frame: `format_notification_sse`, or the heartbeat comment. -/
def text (builtins : Builtins) : NotificationFrame → String
  | .data event => "data: " ++ builtins.dumps event.toApiDict ++ "\n\n"
  | .ping => ": ping\n\n"

/-- The bytes of a frame. -/
def bytes (builtins : Builtins) (frame : NotificationFrame) : Bytes :=
  Utf8.encode (frame.text builtins)

end NotificationFrame

/-! ## The stream -/

/-- The loop over the events of a tick: what is sent, and what has been sent
after it. -/
def sendFresh (emitted : List String) :
    List NotificationEvent → List NotificationEvent × List String
  | [] => ([], emitted)
  | event :: events =>
      if event.id ∈ emitted then sendFresh emitted events
      else
        let sent := sendFresh (event.id :: emitted) events
        (event :: sent.1, sent.2)

section Stream

variable (tenantId userId : String) (limit : Int)

/-- The events of a tick, oldest first. -/
def tickEvents (store : InMemoryNotificationStore) : List NotificationEvent :=
  (store.listForUser tenantId userId limit false).reverse

/-- What the users of the store do to it between two ticks. -/
def useStore (store : InMemoryNotificationStore)
    (operations : List NotificationOperation) : InMemoryNotificationStore :=
  operations.foldl (fun store operation =>
    (notificationStore.step store operation).2) store

/-- `stream_notification_frames`, with the operations that come between its
ticks: there is a tick for each entry of the schedule. -/
def streamNotificationFrames (store : InMemoryNotificationStore)
    (emitted : List String) :
    List (List NotificationOperation) → List NotificationFrame
  | [] => []
  | operations :: schedule =>
      let sent := sendFresh emitted (tickEvents tenantId userId limit store)
      sent.1.map NotificationFrame.data ++ .ping ::
        streamNotificationFrames (useStore store operations) sent.2 schedule

/-- The stores of the ticks. -/
def tickStores (store : InMemoryNotificationStore) :
    List (List NotificationOperation) → List InMemoryNotificationStore
  | [] => []
  | operations :: schedule =>
      store :: tickStores (useStore store operations) schedule

end Stream

/-- The ids of the events of a stream, in the order of its frames. -/
def sentIds (frames : List NotificationFrame) : List String :=
  frames.filterMap fun frame => frame.event?.map NotificationEvent.id

theorem sentIds_append (before after : List NotificationFrame) :
    sentIds (before ++ after) = sentIds before ++ sentIds after :=
  List.filterMap_append

theorem sentIds_data (events : List NotificationEvent) :
    sentIds (events.map .data) = events.map NotificationEvent.id := by
  simp [sentIds, List.filterMap_map, NotificationFrame.event?]

theorem sendFresh_eq (emitted : List String) (events : List NotificationEvent) :
    (sendFresh emitted events).1.map NotificationEvent.id =
        fresh emitted (events.map NotificationEvent.id) ∧
      (sendFresh emitted events).2 =
        (fresh emitted (events.map NotificationEvent.id)).reverse ++ emitted := by
  induction events generalizing emitted with
  | nil => exact ⟨rfl, rfl⟩
  | cons event events ih =>
      rw [sendFresh, List.map_cons, fresh]
      split
      · exact ih emitted
      · have rest := ih (event.id :: emitted)
        constructor
        · rw [List.map_cons, rest.1]
        · rw [rest.2, List.reverse_cons, List.append_assoc]
          rfl

/-- The stream sends the novelties of its ticks. -/
theorem sentIds_stream (tenantId userId : String) (limit : Int)
    (store : InMemoryNotificationStore) (emitted : List String)
    (schedule : List (List NotificationOperation)) :
    sentIds (streamNotificationFrames tenantId userId limit store emitted
        schedule) =
      novelties emitted ((tickStores store schedule).map fun store =>
        (tickEvents tenantId userId limit store).map NotificationEvent.id) := by
  induction schedule generalizing store emitted with
  | nil => rfl
  | cons operations schedule ih =>
      have sent := sendFresh_eq emitted (tickEvents tenantId userId limit store)
      have rest := ih (useStore store operations)
        (sendFresh emitted (tickEvents tenantId userId limit store)).2
      rw [streamNotificationFrames, sentIds_append, sentIds_data, sent.1]
      change _ ++ sentIds (streamNotificationFrames _ _ _ _ _ _) = _
      rw [rest, sent.2]
      rfl

/-! ## The history of a store -/

/-- The id an operation publishes to a principal. -/
def publishedTo (principal : Principal) : NotificationOperation → Option String
  | .publish event =>
      if (event.tenantId, event.userId) = principal then some event.id else none
  | _ => none

/-- The ids of the events of a principal in the order they are published: those a
store holds at first, and those of the schedule. -/
def publishOrder (principal : Principal) (store : InMemoryNotificationStore)
    (schedule : List (List NotificationOperation)) : List String :=
  (store.bucket principal).map NotificationEvent.id ++
    schedule.flatten.filterMap (publishedTo principal)

/-- The ids of the unread events of a principal, oldest first. -/
def unreadIds (principal : Principal) (store : InMemoryNotificationStore) :
    List String :=
  ((store.bucket principal).filter (·.readAt.isNone)).map NotificationEvent.id

/-- The newest of some ids, as `events[-limit:]`. -/
def newest (limit : Int) (ids : List String) : List String :=
  dropSlice ids (-limit)

theorem map_id_editFirst {meant : NotificationEvent → Bool} {now : DateTime}
    {events changed : List NotificationEvent} {event : NotificationEvent}
    (edited : editFirst meant (fun event => { event with readAt := some now })
      events = some (event, changed)) :
    changed.map NotificationEvent.id = events.map NotificationEvent.id := by
  induction events generalizing changed with
  | nil => cases edited
  | cons head events ih =>
      rw [editFirst] at edited
      split at edited
      · cases edited
        rfl
      · rcases Option.map_eq_some_iff.mp edited with ⟨⟨found, rest⟩, deep, same⟩
        cases same
        rw [List.map_cons, List.map_cons, ih deep]

theorem dropSlice_sublist {α : Type} (items : List α) (start : Int) :
    (dropSlice items start).Sublist items := by
  rw [dropSlice]
  split <;> exact List.drop_sublist _ _

theorem map_dropSlice {α β : Type} (image : α → β) (items : List α)
    (start : Int) :
    (dropSlice items start).map image = dropSlice (items.map image) start := by
  simp only [dropSlice, List.length_map]
  split <;> exact List.map_drop

/-- An operation adds at most the event it publishes. -/
theorem bucket_step_sublist (principal : Principal)
    (store : InMemoryNotificationStore) (operation : NotificationOperation) :
    (((notificationStore.step store operation).2.bucket principal).map
        NotificationEvent.id).Sublist
      ((store.bucket principal).map NotificationEvent.id ++
        (publishedTo principal operation).toList) := by
  have others (same : (notificationStore.step store operation).2.bucket principal =
      store.bucket principal) :
      (((notificationStore.step store operation).2.bucket principal).map
        NotificationEvent.id).Sublist
      ((store.bucket principal).map NotificationEvent.id ++
        (publishedTo principal operation).toList) := by
    rw [same]
    exact List.sublist_append_left _ _
  cases operation with
  | listForUser => exact others rfl
  | publish event =>
      by_cases own : (event.tenantId, event.userId) = principal
      · have kept : ((notificationStore.step store
            (.publish event)).2.bucket principal).Sublist
            (store.bucket principal ++ [event]) := by
          simp only [notificationStore, InMemoryNotificationStore.publish, own]
          split
          · rw [Dict.bucket_insert, if_pos rfl]
            exact dropSlice_sublist _ _
          · rw [Dict.bucket_insert, if_pos rfl]
        simpa [publishedTo, own] using kept.map NotificationEvent.id
      · apply others
        simp only [notificationStore, InMemoryNotificationStore.publish]
        split <;> exact (Dict.bucket_insert _ _ _ _).trans (if_neg (Ne.symm own))
  | markRead tenantId userId notificationId now =>
      by_cases own : (tenantId, userId) = principal
      · subst own
        simp only [notificationStore, InMemoryNotificationStore.markRead,
          Dict.bucket_changeBucket_self, publishedTo, Option.toList_none,
          List.append_nil]
        cases edited : editFirst _ _ (store.bucket (tenantId, userId)) with
        | none => exact List.Sublist.refl _
        | some found =>
            have same := map_id_editFirst edited
            simp only [Option.map_some, Option.getD_some, same]
            exact List.Sublist.refl _
      · exact others (Dict.bucket_changeBucket_ne _ _ (Ne.symm own))

theorem bucket_useStore_sublist (principal : Principal)
    (store : InMemoryNotificationStore)
    (operations : List NotificationOperation) :
    (((useStore store operations).bucket principal).map
        NotificationEvent.id).Sublist
      ((store.bucket principal).map NotificationEvent.id ++
        operations.filterMap (publishedTo principal)) := by
  induction operations generalizing store with
  | nil => simp [useStore]
  | cons operation operations ih =>
      have step := bucket_step_sublist principal store operation
      have rest := ih (notificationStore.step store operation).2
      have published : (operation :: operations).filterMap (publishedTo principal) =
          (publishedTo principal operation).toList ++
            operations.filterMap (publishedTo principal) := by
        cases here : publishedTo principal operation <;> simp [here]
      rw [published, ← List.append_assoc]
      exact rest.trans (step.append (List.Sublist.refl _))

/-- What a tick can list comes from the history. -/
theorem sublist_publishOrder {principal : Principal}
    {store : InMemoryNotificationStore}
    {schedule : List (List NotificationOperation)}
    {reached : InMemoryNotificationStore}
    (member : reached ∈ tickStores store schedule) :
    (unreadIds principal reached).Sublist
      (publishOrder principal store schedule) := by
  induction schedule generalizing store with
  | nil => cases member
  | cons operations schedule ih =>
      rcases List.mem_cons.mp member with here | later
      · subst here
        exact ((List.filter_sublist.map _).trans
          (List.sublist_append_left _ _))
      · apply (ih later).trans
        rw [publishOrder, publishOrder, List.flatten_cons, List.filterMap_append,
          ← List.append_assoc]
        exact (bucket_useStore_sublist principal store operations).append
          (List.Sublist.refl _)

theorem map_id_tickEvents (tenantId userId : String) (limit : Int)
    (store : InMemoryNotificationStore) :
    (tickEvents tenantId userId limit store).map NotificationEvent.id =
      newest limit (unreadIds (tenantId, userId) store) := by
  simp only [tickEvents, InMemoryNotificationStore.listForUser,
    List.reverse_reverse, newest, unreadIds, Bool.false_eq_true, if_false]
  exact map_dropSlice _ _ _

/-! ## Completeness -/

/-- Every event that is unread at a tick and was not seen before is sent once, no
event is sent twice, and events are sent in the order they were published in. -/
structure StreamComplete (history seen : List String)
    (unread : List (List String)) (sent : List String) : Prop where
  once : ∀ tick ∈ unread, ∀ id ∈ tick, id ∉ seen → sent.count id = 1
  distinct : sent.Nodup
  inOrder : InOrderOf history sent

/-- The stream is complete exactly when every event that is unread at a tick, and
was not seen before, is at some tick among the newest unread ones, and no newer
event that was not seen before is among them at an earlier tick. -/
theorem stream_complete_iff (tenantId userId : String) (limit : Int)
    (store : InMemoryNotificationStore) (seen : List String)
    (schedule : List (List NotificationOperation))
    (distinct : (publishOrder (tenantId, userId) store schedule).Nodup) :
    StreamComplete (publishOrder (tenantId, userId) store schedule) seen
        ((tickStores store schedule).map (unreadIds (tenantId, userId)))
        (sentIds (streamNotificationFrames tenantId userId limit store seen
          schedule)) ↔
      ∀ reached ∈ tickStores store schedule,
        ∀ id ∈ unreadIds (tenantId, userId) reached, id ∉ seen →
          ShownInTime (publishOrder (tenantId, userId) store schedule) seen
            ((tickStores store schedule).map fun reached =>
              newest limit (unreadIds (tenantId, userId) reached)) id := by
  have drawn : ∀ shown ∈ (tickStores store schedule).map (fun reached =>
      newest limit (unreadIds (tenantId, userId) reached)),
      shown.Sublist (publishOrder (tenantId, userId) store schedule) := by
    intro shown tick
    rcases List.mem_map.mp tick with ⟨reached, member, rfl⟩
    exact (dropSlice_sublist _ _).trans (sublist_publishOrder member)
  have included : ∀ shown ∈ (tickStores store schedule).map (fun reached =>
      newest limit (unreadIds (tenantId, userId) reached)),
      ∀ id ∈ shown, id ∉ seen → id ∉ seen ∧
        ∃ reached ∈ tickStores store schedule,
          id ∈ unreadIds (tenantId, userId) reached := by
    intro shown tick id listed new
    rcases List.mem_map.mp tick with ⟨reached, member, rfl⟩
    exact ⟨new, reached, member, (dropSlice_sublist _ _).subset listed⟩
  have wanted := @novelties_iff _ _ _ seen _ distinct drawn
    (fun id => id ∉ seen ∧ ∃ reached ∈ tickStores store schedule,
      id ∈ unreadIds (tenantId, userId) reached)
    (fun _ meant => meant.1) included
  rw [sentIds_stream]
  simp only [map_id_tickEvents]
  constructor
  · intro complete reached member id unread new
    refine wanted.mp ⟨?_, complete.inOrder⟩ id ⟨new, reached, member, unread⟩
    intro id meant
    rcases meant with ⟨new, reached, member, unread⟩
    exact complete.once _ (List.mem_map_of_mem member) id unread new
  · intro timely
    rcases wanted.mpr fun id meant => by
      rcases meant with ⟨new, reached, member, unread⟩
      exact timely reached member id unread new with ⟨once, inOrder⟩
    refine ⟨?_, nodup_novelties _ _, inOrder⟩
    intro tick ticked id unread new
    rcases List.mem_map.mp ticked with ⟨reached, member, rfl⟩
    exact once id ⟨new, reached, member, unread⟩

/-- An unread notice of a user. -/
def noticeOf (index : Nat) : NotificationEvent where
  id := toString index
  tenantId := "example.com"
  userId := "user"
  eventClass := "system_notice"
  resourceId := "r"
  createdAt := .fullHour 0
  readAt := none

/-- A store to which some notices have been published. -/
def noticeStore (count : Nat) : InMemoryNotificationStore :=
  useStore .empty ((List.range count).map fun index => .publish (noticeOf index))

theorem stream_complete_iff_notices :
    StreamComplete
        (publishOrder ("example.com", "user") (noticeStore 2)
          [[.publish (noticeOf 2)], []])
        []
        ((tickStores (noticeStore 2) [[.publish (noticeOf 2)], []]).map
          (unreadIds ("example.com", "user")))
        (sentIds (streamNotificationFrames "example.com" "user" 50
          (noticeStore 2) [] [[.publish (noticeOf 2)], []])) ↔
      ∀ reached ∈ tickStores (noticeStore 2) [[.publish (noticeOf 2)], []],
        ∀ id ∈ unreadIds ("example.com", "user") reached, id ∉ [] →
          ShownInTime
            (publishOrder ("example.com", "user") (noticeStore 2)
              [[.publish (noticeOf 2)], []])
            []
            ((tickStores (noticeStore 2) [[.publish (noticeOf 2)], []]).map
              fun reached => newest 50 (unreadIds ("example.com", "user") reached))
            id :=
  stream_complete_iff "example.com" "user" 50 (noticeStore 2) []
    [[.publish (noticeOf 2)], []] (by decide +kernel)

/-- Fifty-one notices are unread at the only tick: the oldest is not sent. -/
theorem not_stream_complete :
    (publishOrder ("example.com", "user") (noticeStore 51) [[]]).Nodup ∧
      (sentIds (streamNotificationFrames "example.com" "user" 50
        (noticeStore 51) [] [[]])).count "0" = 0 ∧
      ¬ StreamComplete
        (publishOrder ("example.com", "user") (noticeStore 51) [[]]) []
        ((tickStores (noticeStore 51) [[]]).map
          (unreadIds ("example.com", "user")))
        (sentIds (streamNotificationFrames "example.com" "user" 50
          (noticeStore 51) [] [[]])) := by
  have unsent : (sentIds (streamNotificationFrames "example.com" "user" 50
      (noticeStore 51) [] [[]])).count "0" = 0 := by decide +kernel
  have unread : "0" ∈ unreadIds ("example.com", "user") (noticeStore 51) := by
    decide +kernel
  refine ⟨by decide +kernel, unsent, fun complete => ?_⟩
  have once := complete.once _ List.mem_cons_self "0" unread nofun
  cases unsent.symm.trans once

end PrivateAiWorkspace.ControlPlane
