import PrivateAiWorkspace.ControlPlane.Notifications

/-!
# Conversations

`conversations.py`: conversations with their messages and the store in memory
that keeps them. The store is keyed by the id of a conversation alone and checks
the owner on every access, so that its users are isolated as long as the ids it
generates differ.
-/

namespace PrivateAiWorkspace.ControlPlane

open Effects Python

/-- `_MAX_TITLE_LEN`. -/
def maxTitleLen : Nat := 200

/-- `_MAX_CONTENT_LEN`. -/
def maxContentLen : Nat := 100000

/-- `_MAX_MESSAGES_PER_CONVERSATION`. -/
def maxMessagesPerConversation : Nat := 2000

/-- `Message`. -/
structure Message where
  id : String
  role : String
  content : String
  createdAt : DateTime

/-- `Conversation`. -/
structure Conversation where
  id : String
  tenantId : String
  userId : String
  title : String
  createdAt : DateTime
  updatedAt : DateTime
  messages : List Message

/-- The conversation belongs to a principal. -/
def Conversation.ownedBy (conversation : Conversation)
    (principal : Principal) : Bool :=
  conversation.tenantId = principal.1 && conversation.userId = principal.2

/-- `InMemoryConversationStore`: conversations by id with their messages. -/
abbrev InMemoryConversationStore := Dict String (Conversation × List Message)

namespace InMemoryConversationStore

/-- `create` with a generated id at a time. -/
def create (convs : InMemoryConversationStore)
    (tenantId userId title id : String) (now : DateTime) :
    Conversation × InMemoryConversationStore :=
  let conversation : Conversation :=
    { id, tenantId, userId
      title := Str.take title maxTitleLen
      createdAt := now
      updatedAt := now
      messages := [] }
  (conversation, convs.insert id (conversation, []))

/-- `_owned`. -/
def owned (convs : InMemoryConversationStore)
    (conversationId tenantId userId : String) :
    Option (Conversation × List Message) :=
  (convs.get? conversationId).filter fun entry =>
    entry.1.ownedBy (tenantId, userId)

/-- `list_for_user`: the latest first, those of one time in order of creation. -/
def listForUser (convs : InMemoryConversationStore) (tenantId userId : String)
    (limit : Int) : List Conversation :=
  let listed := (convs.values.map Prod.fst).filter
    (·.ownedBy (tenantId, userId))
  takeSlice
    (listed.mergeSort fun left right =>
      right.updatedAt.instant ≤ left.updatedAt.instant)
    limit

/-- `get`. -/
def get (convs : InMemoryConversationStore)
    (tenantId userId conversationId : String) : Option Conversation :=
  (convs.owned conversationId tenantId userId).map fun (conversation, messages) =>
    { conversation with messages }

/-- `delete`: whether the caller owned such a conversation. -/
def delete (convs : InMemoryConversationStore)
    (tenantId userId conversationId : String) :
    Bool × InMemoryConversationStore :=
  match convs.owned conversationId tenantId userId with
  | none => (false, convs)
  | some _ => (true, convs.erase conversationId)

/-- The title after a message: the first message of a user gives it. -/
def retitled (conversation : Conversation) (role content : String) : String :=
  if conversation.title = "New conversation" && role = "user" then
    let seeded := Str.strip (Str.take content maxTitleLen)
    if seeded = "" then conversation.title else seeded
  else conversation.title

/-- An entry after a message. -/
def appended (entry : Conversation × List Message) (message : Message)
    (content : String) : Conversation × List Message :=
  let (conversation, messages) := entry
  let kept :=
    if maxMessagesPerConversation ≤ messages.length then messages.drop 1
    else messages
  ({ conversation with
      title := retitled conversation message.role content
      updatedAt := message.createdAt
      messages := [] },
    kept ++ [message])

/-- `append` with a generated id at a time. -/
def append (convs : InMemoryConversationStore)
    (tenantId userId conversationId role content id : String)
    (now : DateTime) : Option Message × InMemoryConversationStore :=
  match convs.owned conversationId tenantId userId with
  | none => (none, convs)
  | some entry =>
      let message : Message :=
        { id, role, content := Str.take content maxContentLen, createdAt := now }
      (some message,
        convs.insert conversationId (appended entry message content))

end InMemoryConversationStore

/-- An operation of the store, with the id it generates and the time it
reads. -/
inductive ConversationOperation where
  | create (tenantId userId title id : String) (now : DateTime)
  | listForUser (tenantId userId : String) (limit : Int)
  | get (tenantId userId conversationId : String)
  | delete (tenantId userId conversationId : String)
  | append (tenantId userId conversationId role content id : String)
      (now : DateTime)

/-- What an operation of the store returns. -/
inductive ConversationResult where
  | created (conversation : Conversation)
  | conversations (conversations : List Conversation)
  | found (conversation : Option Conversation)
  | deleted (found : Bool)
  | appended (message : Option Message)

/-- The store as its users share it. -/
def conversationStore : SharedObject InMemoryConversationStore
    ConversationOperation ConversationResult Principal where
  initial := .empty
  step convs
    | .create tenantId userId title id now =>
        let created := convs.create tenantId userId title id now
        (.created created.1, created.2)
    | .listForUser tenantId userId limit =>
        (.conversations (convs.listForUser tenantId userId limit), convs)
    | .get tenantId userId conversationId =>
        (.found (convs.get tenantId userId conversationId), convs)
    | .delete tenantId userId conversationId =>
        let deleted := convs.delete tenantId userId conversationId
        (.deleted deleted.1, deleted.2)
    | .append tenantId userId conversationId role content id now =>
        let appended :=
          convs.append tenantId userId conversationId role content id now
        (.appended appended.1, appended.2)
  issuer
    | .create tenantId userId _ _ _ => (tenantId, userId)
    | .listForUser tenantId userId _ => (tenantId, userId)
    | .get tenantId userId _ => (tenantId, userId)
    | .delete tenantId userId _ => (tenantId, userId)
    | .append tenantId userId _ _ _ _ _ => (tenantId, userId)

/-- The id a conversation is created with. -/
def ConversationOperation.createdId : ConversationOperation → Option String
  | .create _ _ _ id _ => some id
  | _ => none

/-- No two conversations are created with one id. -/
def FreshIds (history : List ConversationOperation) : Prop :=
  (history.filterMap ConversationOperation.createdId).Nodup

/-- The conversations of a principal with their messages. -/
def conversationsOf (principal : Principal)
    (convs : InMemoryConversationStore) :
    List (String × Conversation × List Message) :=
  convs.items.filter fun item => item.2.1.ownedBy principal

/-! ## What the store shows its users -/

namespace InMemoryConversationStore

variable {convs : InMemoryConversationStore}

theorem owned_eq_some_iff {tenantId userId conversationId : String}
    {entry : Conversation × List Message} :
    convs.owned conversationId tenantId userId = some entry ↔
      (conversationId, entry) ∈ conversationsOf (tenantId, userId) convs := by
  simp [owned, conversationsOf, Option.filter_eq_some_iff,
    Dict.get?_eq_some_iff]

/-- An access depends on what belongs to the caller. -/
theorem owned_congr {first second : InMemoryConversationStore}
    {tenantId userId : String}
    (same : conversationsOf (tenantId, userId) first =
      conversationsOf (tenantId, userId) second) (conversationId : String) :
    first.owned conversationId tenantId userId =
      second.owned conversationId tenantId userId := by
  apply Option.ext
  intro entry
  rw [owned_eq_some_iff, owned_eq_some_iff, same]

theorem listed_eq (principal : Principal) :
    (convs.values.map Prod.fst).filter (·.ownedBy principal) =
      (conversationsOf principal convs).map (·.2.1) := by
  simp [Dict.values, conversationsOf, List.filter_map, Function.comp_def]

theorem ownedBy_unique {conversation : Conversation}
    {one other : Principal} (first : conversation.ownedBy one)
    (second : conversation.ownedBy other) : one = other := by
  simp only [Conversation.ownedBy, Bool.and_eq_true, decide_eq_true_eq]
    at first second
  exact Prod.ext (first.1.symm.trans second.1) (first.2.symm.trans second.2)

@[simp] theorem appended_ownedBy (entry : Conversation × List Message)
    (message : Message) (content : String) (principal : Principal) :
    (appended entry message content).1.ownedBy principal =
      entry.1.ownedBy principal := rfl

/-- A conversation with a new id comes after those of its owner. -/
theorem conversationsOf_create {tenantId userId title id : String}
    {now : DateTime} (fresh : id ∉ convs.items.map Prod.fst)
    (principal : Principal) :
    conversationsOf principal
        (convs.create tenantId userId title id now).2 =
      conversationsOf principal convs ++
        if (tenantId, userId) = principal then
          [(id, (convs.create tenantId userId title id now).1, [])]
        else [] := by
  simp only [create, conversationsOf, Dict.insert, assign_of_not_mem fresh,
    List.filter_append]
  congr 1
  by_cases own : (tenantId, userId) = principal
  · subst own
    simp [Conversation.ownedBy]
  · have others : ¬ (tenantId = principal.1 ∧ userId = principal.2) :=
      fun both => own (Prod.ext both.1 both.2)
    simp [Conversation.ownedBy, own, others]

theorem conversationsOf_erase (principal : Principal) (id : String) :
    conversationsOf principal (convs.erase id) =
      (conversationsOf principal convs).filter fun item => item.1 ≠ id := by
  simp only [conversationsOf, Dict.erase, List.filter_filter]
  congr 1
  funext item
  exact Bool.and_comm _ _

/-- A message in a conversation of the principal changes that entry in place. -/
theorem conversationsOf_append_own {principal : Principal}
    {conversationId : String} {entry next : Conversation × List Message}
    (owned : (conversationId, entry) ∈ conversationsOf principal convs)
    (stays : next.1.ownedBy principal = entry.1.ownedBy principal) :
    conversationsOf principal (convs.insert conversationId next) =
      assign conversationId next (conversationsOf principal convs) := by
  rcases List.mem_filter.mp owned with ⟨found, mine⟩
  exact filter_assign_of_kept convs.nodup found mine (stays.trans mine)

/-- A message in somebody else's conversation does not show. -/
theorem conversationsOf_append_foreign {one principal : Principal}
    {conversationId : String} {entry next : Conversation × List Message}
    (owned : (conversationId, entry) ∈ conversationsOf one convs)
    (stays : next.1.ownedBy principal = entry.1.ownedBy principal)
    (others : one ≠ principal) :
    conversationsOf principal (convs.insert conversationId next) =
      conversationsOf principal convs := by
  rcases List.mem_filter.mp owned with ⟨found, theirs⟩
  have foreign : ¬ entry.1.ownedBy principal := fun mine =>
    others (ownedBy_unique theirs mine)
  exact filter_assign_of_dropped convs.nodup found foreign
    (stays ▸ foreign)

/-- Deleting somebody else's conversation does not show. -/
theorem conversationsOf_erase_foreign {one principal : Principal}
    {conversationId : String} {entry : Conversation × List Message}
    (owned : (conversationId, entry) ∈ conversationsOf one convs)
    (others : one ≠ principal) :
    conversationsOf principal (convs.erase conversationId) =
      conversationsOf principal convs := by
  rw [conversationsOf_erase, List.filter_eq_self]
  rintro ⟨id, stored⟩ member
  simp only [decide_eq_true_eq]
  rintro rfl
  rcases List.mem_filter.mp owned with ⟨found, theirs⟩
  rcases List.mem_filter.mp member with ⟨present, mine⟩
  -- One id has one entry.
  have same := (Dict.get?_eq_some_iff.mpr found).symm.trans
    (Dict.get?_eq_some_iff.mpr present)
  cases same
  exact others (ownedBy_unique theirs mine)

end InMemoryConversationStore

/-! ## Isolation -/

open InMemoryConversationStore

theorem FreshIds.of_sublist {short long : List ConversationOperation}
    (shorter : short.Sublist long) (fresh : FreshIds long) : FreshIds short :=
  fresh.sublist (shorter.filterMap _)

/-- What the store holds has been created. -/
theorem createdIds_of_mem_keys {history : List ConversationOperation}
    {id : String}
    (member : id ∈ (conversationStore.after history).items.map Prod.fst) :
    id ∈ history.filterMap ConversationOperation.createdId := by
  induction history using List.reverseRecOn with
  | nil => cases member
  | append_singleton history operation ih =>
      rw [SharedObject.after_snoc] at member
      rw [List.filterMap_append, List.mem_append]
      generalize conversationStore.after history = convs at member ih
      cases operation with
      | create tenantId userId title new now =>
          rcases mem_keys_assign.mp member with rfl | old
          · exact Or.inr (by simp [ConversationOperation.createdId])
          · exact Or.inl (ih old)
      | listForUser | get => exact Or.inl (ih member)
      | delete tenantId userId conversationId =>
          simp only [conversationStore, delete] at member
          split at member
          next => exact Or.inl (ih member)
          next =>
            exact Or.inl (ih
              ((List.filter_sublist.map Prod.fst).subset member))
      | append tenantId userId conversationId role content new now =>
          simp only [conversationStore, append] at member
          split at member
          next => exact Or.inl (ih member)
          next entry owned =>
            rcases mem_keys_assign.mp member with rfl | old
            · have present := (List.mem_filter.mp
                (owned_eq_some_iff.mp owned)).1
              exact Or.inl (ih (List.mem_map_of_mem present))
            · exact Or.inl (ih old)

/-- The id an operation generates, if any, is not in use. -/
def GeneratesNew (convs : InMemoryConversationStore)
    (operation : ConversationOperation) : Prop :=
  ∀ id, operation.createdId = some id → id ∉ convs.items.map Prod.fst

theorem FreshIds.generatesNew {history : List ConversationOperation}
    {operation : ConversationOperation}
    (fresh : FreshIds (history ++ [operation])) :
    GeneratesNew (conversationStore.after history) operation := by
  intro id generated member
  have created := createdIds_of_mem_keys member
  rw [FreshIds, List.filterMap_append, List.nodup_append] at fresh
  exact fresh.2.2 id created id (by simp [generated]) rfl

section Step

variable {first second convs : InMemoryConversationStore}
  {operation : ConversationOperation}

theorem conversationStore_foreign {principal : Principal}
    (generates : GeneratesNew convs operation)
    (others : conversationStore.issuer operation ≠ principal) :
    conversationsOf principal (conversationStore.step convs operation).2 =
      conversationsOf principal convs := by
  cases operation with
  | create tenantId userId title id now =>
      have nobody : ¬ (tenantId, userId) = principal := others
      refine (conversationsOf_create (generates id rfl) principal).trans ?_
      rw [if_neg nobody, List.append_nil]
  | listForUser | get => rfl
  | delete tenantId userId conversationId =>
      simp only [conversationStore, delete] at others ⊢
      split
      next => rfl
      next entry owned =>
        exact conversationsOf_erase_foreign (owned_eq_some_iff.mp owned) others
  | append tenantId userId conversationId role content id now =>
      simp only [conversationStore, append] at others ⊢
      split
      next => rfl
      next entry owned =>
        exact conversationsOf_append_foreign (owned_eq_some_iff.mp owned)
          (appended_ownedBy _ _ _ _) others

theorem conversationStore_own
    (generates : GeneratesNew first operation)
    (generates' : GeneratesNew second operation)
    (same : conversationsOf (conversationStore.issuer operation) first =
      conversationsOf (conversationStore.issuer operation) second) :
    (conversationStore.step first operation).1 =
        (conversationStore.step second operation).1 ∧
      conversationsOf (conversationStore.issuer operation)
          (conversationStore.step first operation).2 =
        conversationsOf (conversationStore.issuer operation)
          (conversationStore.step second operation).2 := by
  cases operation with
  | create tenantId userId title id now =>
      refine ⟨rfl, ?_⟩
      refine (conversationsOf_create (generates id rfl) _).trans ?_
      refine Eq.trans ?_ (conversationsOf_create (generates' id rfl) _).symm
      rw [same]
      rfl
  | listForUser tenantId userId limit =>
      refine ⟨?_, same⟩
      simp only [conversationStore, listForUser, listed_eq] at same ⊢
      rw [same]
  | get tenantId userId conversationId =>
      refine ⟨?_, same⟩
      have found := owned_congr same conversationId
      simp only [conversationStore, InMemoryConversationStore.get, found]
  | delete tenantId userId conversationId =>
      have found := owned_congr same conversationId
      simp only [conversationStore, delete, found] at same ⊢
      split
      next => exact ⟨rfl, same⟩
      next =>
        refine ⟨rfl, ?_⟩
        rw [conversationsOf_erase, conversationsOf_erase, same]
  | append tenantId userId conversationId role content id now =>
      have found := owned_congr same conversationId
      simp only [conversationStore, append, found] at same ⊢
      split
      next => exact ⟨rfl, same⟩
      next entry owned =>
        have mine := owned_eq_some_iff.mp owned
        refine ⟨rfl, ?_⟩
        rw [conversationsOf_append_own mine (appended_ownedBy _ _ _ _),
          conversationsOf_append_own (same ▸ mine) (appended_ownedBy _ _ _ _),
          same]

end Step

theorem conversationStore_isolated :
    conversationStore.Isolated FreshIds conversationsOf :=
  SharedObject.Unwinding.isolated
    { shrinks := FreshIds.of_sublist
      foreign := fun fresh others =>
        conversationStore_foreign fresh.generatesNew others
      own := fun fresh fresh' same =>
        conversationStore_own fresh.generatesNew fresh'.generatesNew same }

end PrivateAiWorkspace.ControlPlane
