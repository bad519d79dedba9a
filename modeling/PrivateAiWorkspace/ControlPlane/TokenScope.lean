import PrivateAiWorkspace.ControlPlane.TokenCache

/-!
# The scope of access tokens

Any number of calls of one executor at once. What the cache holds has been put
there by a refresh of the same tenant and integration, and what is written to is
a copy that the writing call has made.
-/

namespace PrivateAiWorkspace.ControlPlane

open Effects Python

/-! ## Many calls at once -/

/-- The steps of a run of calls of one executor. -/
abbrev ExecutorHistory :=
  List (Transition (Pool Services PyException IntegrationOutcome ExecutorState)
    (Action Services PyException IntegrationOutcome))

/-- The calls of one executor, each with any arguments. -/
inductive Invocation (builtins : Builtins) (integrations : Integrations)
    (secretResolver : Bool) : Service IntegrationOutcome → Prop where
  | invoke (tenantId integration operation : String)
      (params : List (String × Json)) :
      Invocation builtins integrations secretResolver
        (Integration.invoke builtins integrations secretResolver integration
          operation params tenantId)

/-- Some calls of one executor, from its start. -/
abbrev ExecutorRun (builtins : Builtins) (integrations : Integrations)
    (secretResolver : Bool) (history : ExecutorHistory)
    (target : Pool Services PyException IntegrationOutcome ExecutorState) :
    Prop :=
  Execution
    (Pool.Step ExecutorWorld (Invocation builtins integrations secretResolver))
    ⟨.init, []⟩ history target

/-- A refresh for a tenant and an integration has reported a token. -/
def Produced (history : ExecutorHistory) (tenantId integration token : String)
    (expiry : Rat) : Prop :=
  ∃ (thread : Nat) (refresh : Refresh),
    refresh.events tenantId integration <+: Pool.threadEvents thread history ∧
      refresh.token = token ∧ refresh.expiry = expiry

theorem Produced.grow {history : ExecutorHistory}
    {tenantId integration token : String} {expiry : Rat}
    (produced : Produced history tenantId integration token expiry)
    (more : ExecutorHistory) :
    Produced (history ++ more) tenantId integration token expiry := by
  rcases produced with ⟨thread, refresh, reported, same⟩
  refine ⟨thread, refresh, ?_, same⟩
  rw [Pool.threadEvents_append]
  exact reported.trans (List.prefix_append _ _)

/-- A call has made a copy. -/
def Copied (history : ExecutorHistory) (thread : Nat) (creds : MappingRef) :
    Prop :=
  ∃ ref : MappingRef,
    (⟨ServiceCall.copyMapping ref, (.ok creds : Except PyException MappingRef)⟩ :
      ServiceEvent) ∈ Pool.threadEvents thread history

/-- The resolver's mappings exist and nobody copies onto them; what the cache
holds and what has been found there was reported by a refresh. -/
structure Scoped (history : ExecutorHistory) (state : ExecutorState) :
    Prop where
  resolved : ∀ ref ∈ state.resolved, state.heap ref ≠ none
  copied : ∀ thread creds, Copied history thread creds →
    state.heap creds ≠ none ∧ creds ∉ state.resolved
  ownCopy : ∀ thread other creds, Copied history thread creds →
    Copied history other creds → thread = other
  cached : ∀ tenantId integration token expiry,
    state.cache.get? (tenantId, integration) = some (token, expiry) →
    Produced history tenantId integration token expiry
  found : ∀ thread tenantId integration token expiry,
    (⟨ServiceCall.cacheGet tenantId integration,
      (.ok (some (token, expiry)) :
        Except PyException (Option (String × Rat)))⟩ : ServiceEvent) ∈
      Pool.threadEvents thread history →
    Produced history tenantId integration token expiry

/-- Some call has preceded as `TokenUse` says. -/
def SomeTokenUse (past : List ServiceEvent) (request : Services.Call) : Prop :=
  ∃ tenantId integration, TokenUse tenantId integration past request

theorem Invocation.guarded {builtins : Builtins} {integrations : Integrations}
    {secretResolver : Bool} {program : Service IntegrationOutcome}
    (invocation : Invocation builtins integrations secretResolver program) :
    Program.Guarded SomeTokenUse [] program := by
  cases invocation with
  | invoke tenantId integration operation params =>
      exact (guarded_invoke _ _ _ _ _).mono fun _ _ permitted =>
        ⟨tenantId, integration, permitted⟩

section Step

variable {history : ExecutorHistory}
  {source target : Pool Services PyException IntegrationOutcome ExecutorState}
  {thread : Nat} {event : ServiceEvent}

/-- A copy is an old one or has just been made. -/
theorem copied_snoc_call {other : Nat} {creds : MappingRef}
    (copied : Copied (history ++ [⟨source, .call thread event, target⟩]) other
      creds) :
    Copied history other creds ∨
      thread = other ∧ ∃ ref : MappingRef,
        event = ⟨ServiceCall.copyMapping ref,
          (.ok creds : Except PyException MappingRef)⟩ := by
  rcases copied with ⟨ref, member⟩
  rcases Pool.mem_threadEvents_snoc_call.mp member with old | ⟨same, new⟩
  · exact Or.inl ⟨ref, old⟩
  · exact Or.inr ⟨same, ref, new.symm⟩

/-- What is put into the cache has just been reported. -/
theorem produced_of_cacheSet {tenantId integration token : String}
    {expiry : Rat}
    (permitted : SomeTokenUse (Pool.threadEvents thread history)
      (.cacheSet tenantId integration token expiry)) :
    Produced history tenantId integration token expiry := by
  rcases permitted with ⟨_, _, rfl, rfl, refresh, past, reported, expires⟩
  exact ⟨thread, refresh, past ▸ List.prefix_rfl, reported, expires⟩

theorem Scoped.call (kept : Scoped history source.shared)
    (permitted : SomeTokenUse (Pool.threadEvents thread history) event.call)
    (stepped : ExecutorWorld source.shared event target.shared) :
    Scoped (history ++ [⟨source, .call thread event, target⟩])
      target.shared := by
  have produced : ∀ tenantId integration token expiry,
      source.shared.cache.get? (tenantId, integration) = some (token, expiry) →
      Produced (history ++ [⟨source, .call thread event, target⟩]) tenantId
        integration token expiry := fun _ _ _ _ found =>
    (kept.cached _ _ _ _ found).grow _
  constructor
  · exact stepped.resolved_allocated kept.resolved
  · intro other creds copied
    rcases copied_snoc_call copied with old | ⟨rfl, ref, rfl⟩
    · rcases kept.copied other creds old with ⟨allocated, foreign⟩
      exact ⟨stepped.allocated allocated,
        fun member => foreign ((stepped.resolved_iff allocated).mp member)⟩
    · rcases stepped.of_copyMapping with ⟨free, allocated, same⟩
      refine ⟨allocated, fun member => ?_⟩
      rw [same] at member
      exact kept.resolved creds member free
  · -- A mapping that has just been made is nobody's old copy.
    intro one other creds first second
    rcases copied_snoc_call first with old | ⟨rfl, ref, rfl⟩
    · rcases copied_snoc_call second with older | ⟨rfl, ref, rfl⟩
      · exact kept.ownCopy one other creds old older
      · exact absurd stepped.of_copyMapping.1 (kept.copied one creds old).1
    · rcases copied_snoc_call second with old | ⟨rfl, _⟩
      · exact absurd stepped.of_copyMapping.1 (kept.copied other creds old).1
      · rfl
  · intro tenantId integration token expiry found
    rcases stepped.cached found with old | stored
    · exact produced _ _ _ _ old
    · rw [stored] at permitted
      exact (produced_of_cacheSet permitted).grow _
  · intro other tenantId integration token expiry member
    rcases Pool.mem_threadEvents_snoc_call.mp member with old | ⟨_, rfl⟩
    · exact (kept.found _ _ _ _ _ old).grow _
    · exact produced _ _ _ _ stepped.of_cacheGet.symm

theorem Scoped.spawn (kept : Scoped history source.shared)
    {program : Service IntegrationOutcome}
    (same : target.shared = source.shared) :
    Scoped (history ++ [⟨source, .spawn program, target⟩]) target.shared := by
  have silent : ∀ other, Pool.threadEvents other
      (history ++ [⟨source, .spawn program, target⟩]) =
      Pool.threadEvents other history := by
    intro other
    rw [Pool.threadEvents_append, Pool.threadEvents_spawn, List.append_nil]
  rw [same]
  constructor
  · exact kept.resolved
  · intro other creds copied
    simp only [Copied, silent] at copied
    exact kept.copied other creds copied
  · intro one other creds first second
    simp only [Copied, silent] at first second
    exact kept.ownCopy one other creds first second
  · intro tenantId integration token expiry found
    exact (kept.cached _ _ _ _ found).grow _
  · intro other tenantId integration token expiry member
    rw [silent] at member
    exact (kept.found _ _ _ _ _ member).grow _

end Step

section Run

variable {builtins : Builtins} {integrations : Integrations}
  {secretResolver : Bool} {history : ExecutorHistory}
  {final : Pool Services PyException IntegrationOutcome ExecutorState}

theorem scoped_init : Scoped [] .init := by
  constructor
  · simp [ExecutorState.init]
  · rintro _ _ ⟨_, member⟩
    cases member
  · rintro _ _ _ ⟨_, member⟩
    cases member
  · simp [ExecutorState.init]
  · intro _ _ _ _ _ member
    cases member

theorem scoped_of_run
    (run : ExecutorRun builtins integrations secretResolver history final) :
    Scoped history final.shared :=
  Pool.guarded_invariant (fun _ invocation => invocation.guarded) run Scoped
    scoped_init (fun _ _ _ _ kept same => kept.spawn same)
    fun _ _ _ _ _ kept permitted stepped => kept.call permitted stepped

theorem CopiedFor.copied {thread : Nat} {tenantId integration : String}
    {past : List ServiceEvent} {creds : MappingRef}
    (copied : CopiedFor past tenantId integration creds)
    (part : past <+: Pool.threadEvents thread history) :
    Copied history thread creds := by
  rcases copied with ⟨ref, _, made⟩
  exact ⟨ref, part.subset made⟩

/-- Only copies are written to. -/
theorem copied_of_writesTo {thread : Nat} {ref : MappingRef}
    {request : Services.Call}
    (permitted : SomeTokenUse (Pool.threadEvents thread history) request)
    (writes : WritesTo ref request) : Copied history thread ref := by
  rcases permitted with ⟨tenantId, integration, permitted⟩
  cases request with
  | setItem creds key token =>
      cases writes
      rcases permitted with
        ⟨lookup, _, past, rfl, _⟩ | ⟨refresh, past, rfl, _⟩
      · have part : lookup.events tenantId integration <+:
            Pool.threadEvents thread history := past ▸ List.prefix_rfl
        exact lookup.copiedFor.copied part
      · have part : refresh.toLookup.events tenantId integration <+:
            Pool.threadEvents thread history := by
          rw [past, Refresh.events, List.append_assoc]
          exact List.prefix_append _ _
        exact refresh.toLookup.copiedFor.copied part
  | buildRefresh name creds =>
      cases writes
      exact permitted.2.copied List.prefix_rfl
  | buildRequest name operation params creds =>
      cases creds with
      | none => exact writes.elim
      | some creds =>
          cases writes
          exact permitted.2.copied List.prefix_rfl
  | _ => exact writes.elim

/-- One step leaves the resolver's mappings as they are. -/
theorem heap_eq_of_step
    {source target :
      Pool Services PyException IntegrationOutcome ExecutorState}
    {act : Action Services PyException IntegrationOutcome} {ref : MappingRef}
    (run : ExecutorRun builtins integrations secretResolver history source)
    (taken : Pool.Step ExecutorWorld
      (Invocation builtins integrations secretResolver) source act target)
    (member : ref ∈ source.shared.resolved) :
    ref ∈ target.shared.resolved ∧
      target.shared.heap ref = source.shared.heap ref := by
  have kept := scoped_of_run run
  have allocated := kept.resolved ref member
  have longer := run.snoc taken
  cases taken with
  | spawn => exact ⟨member, rfl⟩
  | @call thread request next answer shared issued stepped =>
      have permitted :
          SomeTokenUse (Pool.threadEvents thread history) request :=
        Pool.guarded_call (fun _ invocation => invocation.guarded) longer
      have untouched : ¬ WritesTo ref request := fun writes =>
        (kept.copied thread ref (copied_of_writesTo permitted writes)).2 member
      exact ⟨(stepped.resolved_iff allocated).mpr member,
        stepped.heap_eq allocated untouched⟩

/-- What the resolver has returned is never written to. -/
theorem resolved_unchanged {before after : ExecutorHistory}
    {source target :
      Pool Services PyException IntegrationOutcome ExecutorState}
    {thread : Nat} {tenantId integration : String} {ref : MappingRef}
    (run : ExecutorRun builtins integrations secretResolver
      (before ++ ⟨source, .call thread
        ⟨ServiceCall.resolveSecret tenantId integration,
          (.ok (some ref) : Except PyException (Option MappingRef))⟩,
        target⟩ :: after) final) :
    final.shared.heap ref = target.shared.heap ref := by
  rcases run.split with ⟨first, taken, rest⟩
  dsimp only at first taken rest
  have returned : ref ∈ target.shared.resolved := by
    cases taken with
    | call _ _ stepped => exact stepped.of_resolveSecret
  -- The steps so far join the invariant, so that it is known who may write.
  have kept := rest.history_invariant (fun past pool =>
    (∃ history, ExecutorRun builtins integrations secretResolver history pool) ∧
      ref ∈ pool.shared.resolved ∧
      pool.shared.heap ref = target.shared.heap ref)
    ⟨⟨_, first.snoc taken⟩, returned, rfl⟩ ?_
  · exact kept.2.2
  · rintro _ ⟨middle, act, next⟩ _ stepped ⟨⟨_, reached⟩, member, same⟩
    have step := heap_eq_of_step reached stepped member
    exact ⟨⟨_, reached.snoc stepped⟩, step.1, step.2.trans same⟩

end Run

/-! ## The scope of tokens and credentials -/

/-- The call hands credentials to an integration. -/
def HandsOver (integration : String) (creds : MappingRef) :
    Services.Call → Prop
  | .buildRefresh name mapping => name = integration ∧ mapping = creds
  | .buildRequest name _ _ mapping => name = integration ∧ mapping = some creds
  | _ => False

section Invoked

variable {builtins : Builtins} {integrations : Integrations}
  {secretResolver : Bool} {before history : ExecutorHistory} {thread : Nat}
  {final : Pool Services PyException IntegrationOutcome ExecutorState}
  {tenantId integration operation : String} {params : List (String × Json)}

theorem tokenUse_of_run {after : ExecutorHistory} {event : ServiceEvent}
    {source target :
      Pool Services PyException IntegrationOutcome ExecutorState}
    (run : ExecutorRun builtins integrations secretResolver
      (before ++ ⟨source, .call thread event, target⟩ :: after) final)
    (invoked : (Pool.origins before)[thread]? =
      some (Integration.invoke builtins integrations secretResolver integration
        operation params tenantId)) :
    TokenUse tenantId integration (Pool.threadEvents thread before)
      event.call := by
  rcases Pool.residual_call run invoked with ⟨next, residual⟩
  exact ((guarded_invoke _ _ _ _ _).residual residual).1

/-- A call resolves credentials of its own tenant and integration only. -/
theorem resolved_for {tenant name : String} {ref : MappingRef}
    (run : ExecutorRun builtins integrations secretResolver history final)
    (invoked : (Pool.origins history)[thread]? =
      some (Integration.invoke builtins integrations secretResolver integration
        operation params tenantId))
    (member : (⟨ServiceCall.resolveSecret tenant name,
        (.ok (some ref) : Except PyException (Option MappingRef))⟩ :
        ServiceEvent) ∈ Pool.threadEvents thread history) :
    tenant = tenantId ∧ name = integration := by
  have guarded : Program.Guarded (TokenUse tenantId integration) []
      (Integration.invoke builtins integrations secretResolver integration
        operation params tenantId) := guarded_invoke _ _ _ _ _
  rcases Pool.guarded_past guarded run invoked member with ⟨_, _, used⟩
  exact used

/-- What is injected has been reported, and has not expired. -/
theorem fresh_of_tokenUse {state : ExecutorState} {creds : MappingRef}
    {key token : String} (kept : Scoped before state)
    (used : TokenUse tenantId integration (Pool.threadEvents thread before)
      (.setItem creds key token)) :
    ∃ (lookup : Lookup) (other : Nat) (refresh : Refresh),
      lookup.events tenantId integration <+: Pool.threadEvents thread before ∧
      lookup.creds = creds ∧
      refresh.events tenantId integration <+: Pool.threadEvents other before ∧
      refresh.token = token ∧
      (other = thread ∧ lookup.now = refresh.now ∨
        lookup.now < refresh.now +
          (max 0 (refresh.lifetime - tokenMarginS) : Int)) := by
  rcases used with
    ⟨lookup, expiry, past, copy, hit, fresh⟩ | ⟨refresh, past, copy, reported⟩
  · -- Found in the cache: some refresh has put it there.
    have found : (⟨ServiceCall.cacheGet tenantId integration,
        (.ok (some (token, expiry)) :
          Except PyException (Option (String × Rat)))⟩ : ServiceEvent) ∈
        Pool.threadEvents thread before := by
      rw [past, ← hit]
      simp [Lookup.events]
    rcases kept.found thread _ _ _ _ found with
      ⟨other, refresh, reported, same, expires⟩
    refine ⟨lookup, other, refresh, past ▸ List.prefix_rfl, copy, reported, same,
      Or.inr ?_⟩
    rw [← expires] at fresh
    exact fresh
  · -- Reported to this call itself.
    have reports : refresh.events tenantId integration <+:
        Pool.threadEvents thread before := past ▸ List.prefix_append _ _
    have looked : refresh.toLookup.events tenantId integration <+:
        Pool.threadEvents thread before :=
      (List.prefix_append _ _).trans reports
    exact ⟨refresh.toLookup, thread, refresh, looked, copy, reports, reported,
      Or.inl ⟨rfl, rfl⟩⟩

theorem copiedFor_of_handsOver {name : String} {creds : MappingRef}
    {past : List ServiceEvent} {request : Services.Call}
    (hands : HandsOver name creds request)
    (used : TokenUse tenantId integration past request) :
    name = integration ∧ CopiedFor past tenantId integration creds := by
  cases request with
  | buildRefresh =>
      rcases hands with ⟨rfl, rfl⟩
      exact used
  | buildRequest =>
      rcases hands with ⟨rfl, rfl⟩
      exact used
  | _ => exact hands.elim

end Invoked

/-- In every run of calls, for every step of a call for a tenant to an
integration: a token that is injected was reported by a refresh for the same
tenant and integration, made by this call at this time or not yet expired;
credentials are handed over to this integration only, were resolved for this
tenant and integration, and for no other; and what the resolver returns stays as
it is. -/
theorem access_tokens_scoped {builtins : Builtins} {integrations : Integrations}
    {secretResolver : Bool} {before after : ExecutorHistory}
    {source target final :
      Pool Services PyException IntegrationOutcome ExecutorState}
    {thread : Nat} {event : ServiceEvent}
    (run : ExecutorRun builtins integrations secretResolver
      (before ++ ⟨source, .call thread event, target⟩ :: after) final)
    {tenantId integration operation : String} {params : List (String × Json)}
    (invoked : (Pool.origins before)[thread]? =
      some (Integration.invoke builtins integrations secretResolver integration
        operation params tenantId)) :
    (∀ creds key token, event.call = .setItem creds key token →
      ∃ (lookup : Lookup) (other : Nat) (refresh : Refresh),
        lookup.events tenantId integration <+:
          Pool.threadEvents thread before ∧
        lookup.creds = creds ∧
        refresh.events tenantId integration <+:
          Pool.threadEvents other before ∧
        refresh.token = token ∧
        (other = thread ∧ lookup.now = refresh.now ∨
          lookup.now < refresh.now +
            (max 0 (refresh.lifetime - tokenMarginS) : Int))) ∧
    (∀ name creds, HandsOver name creds event.call →
      name = integration ∧
      CopiedFor (Pool.threadEvents thread before) tenantId integration creds ∧
      ∀ other tenant named,
        CopiedFor (Pool.threadEvents other
          (before ++ ⟨source, .call thread event, target⟩ :: after)) tenant
          named creds →
        tenant = tenantId ∧ named = integration) ∧
    (∀ tenant name ref,
      event = ⟨ServiceCall.resolveSecret tenant name,
        (.ok (some ref) : Except PyException (Option MappingRef))⟩ →
      final.shared.heap ref = target.shared.heap ref) := by
  have used := tokenUse_of_run run invoked
  refine ⟨?_, ?_, ?_⟩
  · intro creds key token injects
    rw [injects] at used
    exact fresh_of_tokenUse (scoped_of_run run.split.1) used
  · intro name creds hands
    rcases copiedFor_of_handsOver hands used with ⟨named, copied⟩
    refine ⟨named, copied, fun other tenant service made => ?_⟩
    have part : Pool.threadEvents thread before <+: Pool.threadEvents thread
        (before ++ ⟨source, .call thread event, target⟩ :: after) := by
      rw [Pool.threadEvents_append]
      exact List.prefix_append _ _
    have own := (scoped_of_run run).ownCopy thread other creds
      (copied.copied part) (made.copied List.prefix_rfl)
    subst own
    rcases made with ⟨ref, resolved, _⟩
    exact resolved_for run (Pool.origins_grow invoked _) resolved
  · rintro tenant name ref rfl
    exact resolved_unchanged run

/-- The registry with one integration. -/
def calendarOnly : Integrations :=
  [("calendar", ⟨["www.googleapis.com"], [], true,
    some ⟨["oauth2.googleapis.com"], "ACCESS_TOKEN"⟩⟩)]

/-- Credentials of a tenant. -/
def refreshable : Dict String String :=
  (Dict.empty.insert "CLIENT_ID" "c").insert "REFRESH_TOKEN" "r"

/-- A request for a new token. -/
def tokenRequest : OutboundRequest :=
  ⟨"POST", "https://oauth2.googleapis.com/token", [], none, false⟩

/-- A world with one mapping, number 0, and a network that answers. The choice is
the time, or the number of the next copy. -/
def oneMapping (choice : Nat) (state : ExecutorState) :
    (request : Services.Call) →
      Option (Except PyException (Services.Answer request) × ExecutorState)
  | .resolveSecret _ _ =>
      if 0 ∈ state.resolved then some (.ok (some (0 : MappingRef)), state)
      else if (state.heap 0).isNone then
        some (.ok (some (0 : MappingRef)),
          { state.write 0 refreshable with resolved := 0 :: state.resolved })
      else none
  | .readMapping ref =>
      match state.heap ref with
      | some content => some (.ok content, state)
      | none => none
  | .copyMapping ref =>
      match state.heap ref with
      | some content =>
          if (state.heap choice).isNone then
            some (.ok choice, state.write choice content)
          else none
      | none => none
  | .cacheGet tenantId integration =>
      some (.ok (state.cache.get? (tenantId, integration)), state)
  | .cacheSet tenantId integration token expiry =>
      some (.ok (), { state with
        cache := state.cache.insert (tenantId, integration) (token, expiry) })
  | .setItem ref key value =>
      match state.heap ref with
      | some content =>
          some (.ok (), state.write ref (content.insert key value))
      | none => none
  | .buildRefresh _ creds =>
      some (.ok tokenRequest, state.write creds refreshable)
  | .clock => some (.ok (choice : Rat), state)
  | .getaddrinfo _ _ => some (.ok ["93.184.215.14"], state)
  | .guardedOpen _ _ _ _ => some (.ok ⟨200, [], []⟩, state)
  | .parseToken _ _ _ => some (.ok (some "at-1", (3600 : Int)), state)
  | _ => none

theorem oneMapping_sound (choice : Nat) (state : ExecutorState)
    (request : Services.Call)
    (answer : Except PyException (Services.Answer request))
    (next : ExecutorState)
    (answered : oneMapping choice state request = some (answer, next)) :
    ExecutorWorld state ⟨request, answer⟩ next := by
  cases request with
  | resolveSecret tenantId integration =>
      simp only [oneMapping] at answered
      split at answered
      next member =>
        cases answered
        exact .resolved tenantId integration 0 member
      next =>
        split at answered
        next free =>
          cases answered
          exact .created tenantId integration 0 refreshable
            (Option.isNone_iff_eq_none.mp free)
        next => cases answered
  | readMapping ref =>
      simp only [oneMapping] at answered
      split at answered
      next found =>
        cases answered
        exact .read ref _ found
      next => cases answered
  | copyMapping ref =>
      simp only [oneMapping] at answered
      split at answered
      next found =>
        split at answered
        next free =>
          cases answered
          exact .copied ref choice _ found (Option.isNone_iff_eq_none.mp free)
        next => cases answered
      next => cases answered
  | setItem ref key value =>
      simp only [oneMapping] at answered
      split at answered
      next found =>
        cases answered
        exact .assigned ref key value _ found
      next => cases answered
  | cacheGet tenantId integration =>
      cases answered
      exact .cacheGet tenantId integration
  | cacheSet tenantId integration token expiry =>
      cases answered
      exact .cacheSet tenantId integration token expiry
  | buildRefresh integration creds =>
      cases answered
      exact .refreshBuilt integration creds _ refreshable
  | clock | getaddrinfo | guardedOpen | parseToken =>
      cases answered
      exact .other _ id
  | _ => cases answered

/-- A user of `acme.com` lists the events of a calendar. -/
def listEvents : Service IntegrationOutcome :=
  Integration.invoke (.sample []) calendarOnly true "calendar" "list_events" []
    "acme.com"

/-- Two calls: the first refreshes at time 5 and remembers the token, and the
second looks it up at time 60. -/
def secondLookup :=
  Pool.play oneMapping
    ([.start listEvents, .start listEvents] ++
      [0, 0, 1, 5, 0, 0, 0, 0, 0, 0, 0].map (.call 0 ·) ++
      [0, 0, 2, 60, 0].map (.call 1 ·))
    ⟨.init, []⟩

theorem secondLookup_run :
    ExecutorRun (.sample []) calendarOnly true secondLookup.1
      secondLookup.2 := by
  apply Pool.play_execution oneMapping_sound
  intro program member
  have same : program = listEvents := by simpa using member
  rw [same]
  exact .invoke "acme.com" "calendar" "list_events" []

/-- The program is about to inject a token. -/
def injects (creds : MappingRef) (token : String) :
    Service IntegrationOutcome → Bool
  | .call (.setItem mapping _ value) _ => mapping = creds && value = token
  | _ => false

/-- The second call injects a token that a refresh has reported. -/
theorem access_tokens_scoped_secondLookup :
    ∃ (lookup : Lookup) (other : Nat) (refresh : Refresh),
      lookup.events "acme.com" "calendar" <+:
        Pool.threadEvents 1 secondLookup.1 ∧
      refresh.events "acme.com" "calendar" <+:
        Pool.threadEvents other secondLookup.1 ∧
      refresh.token = "at-1" ∧
      (other = 1 ∧ lookup.now = refresh.now ∨
        lookup.now < refresh.now +
          (max 0 (refresh.lifetime - tokenMarginS) : Int)) := by
  have ready : (secondLookup.2.threads[1]?).any (injects 2 "at-1") = true := by
    decide +kernel
  have allocated : (secondLookup.2.shared.heap 2).isSome = true := by
    decide +kernel
  rcases Option.isSome_iff_exists.mp allocated with ⟨content, found⟩
  rcases (Option.any_eq_true _ _).mp ready with ⟨program, present, injecting⟩
  cases program with
  | ret | raise => cases injecting
  | call request next =>
      cases request with
      | setItem mapping key value =>
          simp only [injects, Bool.and_eq_true, decide_eq_true_eq] at injecting
          rcases injecting with ⟨rfl, rfl⟩
          have longer := secondLookup_run.snoc
            (.call (.ok ()) present (.assigned _ key _ content found))
          rcases (access_tokens_scoped longer
              (show (Pool.origins secondLookup.1)[1]? = some listEvents
                from rfl)).1 _ key _ rfl with
            ⟨lookup, other, refresh, looked, _, reported, same, fresh⟩
          exact ⟨lookup, other, refresh, looked, reported, same, fresh⟩
      | _ => cases injecting

end PrivateAiWorkspace.ControlPlane
