import PrivateAiWorkspace.ControlPlane.Integrations
import PrivateAiWorkspace.Effects.Pool

/-!
# The token cache of the integrations

The world of an executor is a heap of mapping objects, the token cache and a
resolver that hands out mappings of its own. A call of an integration looks up,
refreshes and injects in one order, which `TokenUse` records as what precedes
each of its calls.
-/

namespace PrivateAiWorkspace.ControlPlane

open Effects Python

/-! ## The world of an executor -/

/-- Mapping objects, those among them that are the resolver's, and the cache. -/
structure ExecutorState where
  heap : MappingRef → Option (Dict String String)
  resolved : List MappingRef
  cache : Dict (String × String) (String × Rat)

namespace ExecutorState

/-- A process that has just started. -/
def init : ExecutorState := ⟨fun _ => none, [], .empty⟩

/-- A mapping gets new content. -/
def write (state : ExecutorState) (ref : MappingRef)
    (content : Dict String String) : ExecutorState :=
  { state with
    heap := fun other => if other = ref then some content else state.heap other }

@[simp] theorem write_resolved (state : ExecutorState) (ref : MappingRef)
    (content : Dict String String) :
    (state.write ref content).resolved = state.resolved := rfl

@[simp] theorem write_cache (state : ExecutorState) (ref : MappingRef)
    (content : Dict String String) :
    (state.write ref content).cache = state.cache := rfl

@[simp] theorem write_heap_self (state : ExecutorState) (ref : MappingRef)
    (content : Dict String String) :
    (state.write ref content).heap ref = some content := if_pos rfl

theorem write_heap_ne (state : ExecutorState) {ref other : MappingRef}
    (content : Dict String String) (different : other ≠ ref) :
    (state.write ref content).heap other = state.heap other := if_neg different

end ExecutorState

/-- The call reads or writes the mappings or the cache. -/
def TouchesState : Services.Call → Prop
  | .resolveSecret _ _ => True
  | .readMapping _ => True
  | .copyMapping _ => True
  | .setItem _ _ _ => True
  | .cacheGet _ _ => True
  | .cacheSet _ _ _ _ => True
  | .buildRefresh _ _ => True
  | .buildRequest _ _ _ (some _) => True
  | _ => False

/-- The resolver hands out a mapping of its own, old or new, or fails; a copy is
a new object; a plug-in may write to the mapping it is given; everything that
touches neither mappings nor the cache may answer anything. -/
inductive ExecutorWorld : World Services PyException ExecutorState where
  | resolved {state : ExecutorState} (tenantId integration : String)
      (ref : MappingRef) :
      ref ∈ state.resolved →
      ExecutorWorld state
        ⟨ServiceCall.resolveSecret tenantId integration,
          (.ok (some ref) : Except PyException (Option MappingRef))⟩ state
  | created {state : ExecutorState} (tenantId integration : String)
      (ref : MappingRef) (content : Dict String String) :
      state.heap ref = none →
      ExecutorWorld state
        ⟨ServiceCall.resolveSecret tenantId integration,
          (.ok (some ref) : Except PyException (Option MappingRef))⟩
        { state.write ref content with resolved := ref :: state.resolved }
  | unresolved {state : ExecutorState} (tenantId integration : String)
      (answer : Except PyException (Option MappingRef)) :
      (∀ ref, answer ≠ .ok (some ref)) →
      ExecutorWorld state
        ⟨ServiceCall.resolveSecret tenantId integration, answer⟩ state
  | read {state : ExecutorState} (ref : MappingRef)
      (content : Dict String String) :
      state.heap ref = some content →
      ExecutorWorld state
        ⟨ServiceCall.readMapping ref,
          (.ok content : Except PyException (Dict String String))⟩ state
  | copied {state : ExecutorState} (ref new : MappingRef)
      (content : Dict String String) :
      state.heap ref = some content → state.heap new = none →
      ExecutorWorld state
        ⟨ServiceCall.copyMapping ref, (.ok new : Except PyException MappingRef)⟩
        (state.write new content)
  | assigned {state : ExecutorState} (ref : MappingRef) (key value : String)
      (content : Dict String String) :
      state.heap ref = some content →
      ExecutorWorld state
        ⟨ServiceCall.setItem ref key value, (.ok () : Except PyException Unit)⟩
        (state.write ref (content.insert key value))
  | cacheGet {state : ExecutorState} (tenantId integration : String) :
      ExecutorWorld state
        ⟨ServiceCall.cacheGet tenantId integration,
          (.ok (state.cache.get? (tenantId, integration)) :
            Except PyException (Option (String × Rat)))⟩ state
  | cacheSet {state : ExecutorState} (tenantId integration token : String)
      (expiry : Rat) :
      ExecutorWorld state
        ⟨ServiceCall.cacheSet tenantId integration token expiry,
          (.ok () : Except PyException Unit)⟩
        { state with
          cache := state.cache.insert (tenantId, integration) (token, expiry) }
  | refreshBuilt {state : ExecutorState} (integration : String)
      (creds : MappingRef) (answer : Except PyException OutboundRequest)
      (content : Dict String String) :
      ExecutorWorld state
        ⟨ServiceCall.buildRefresh integration creds, answer⟩
        (state.write creds content)
  | requestBuilt {state : ExecutorState} (integration operation : String)
      (params : List (String × Json)) (creds : MappingRef)
      (answer : Except PyException OutboundRequest)
      (content : Dict String String) :
      ExecutorWorld state
        ⟨ServiceCall.buildRequest integration operation params (some creds),
          answer⟩
        (state.write creds content)
  | other {state : ExecutorState} (event : ServiceEvent) :
      ¬ TouchesState event.call → ExecutorWorld state event state

/-! ## What a call of an integration does -/

/-- A call of the network. -/
def IsNetwork : Services.Call → Prop
  | .getaddrinfo _ _ => True
  | .guardedOpen _ _ _ _ => True
  | _ => False

/-- What a call has learned when it has looked into the cache. -/
structure Lookup where
  ref : MappingRef
  items : Dict String String
  creds : MappingRef
  now : Rat
  hit : Option (String × Rat)

/-- The calls up to a look into the cache. -/
def Lookup.events (tenantId integration : String) (lookup : Lookup) :
    List ServiceEvent :=
  [⟨ServiceCall.resolveSecret tenantId integration,
      (.ok (some lookup.ref) : Except PyException (Option MappingRef))⟩,
    ⟨ServiceCall.readMapping lookup.ref,
      (.ok lookup.items : Except PyException (Dict String String))⟩,
    ⟨ServiceCall.copyMapping lookup.ref,
      (.ok lookup.creds : Except PyException MappingRef)⟩,
    ⟨ServiceCall.clock, (.ok lookup.now : Except PyException Rat)⟩,
    ⟨ServiceCall.cacheGet tenantId integration,
      (.ok lookup.hit : Except PyException (Option (String × Rat)))⟩]

/-- What a call has learned when a refresh has reported a token. -/
structure Refresh extends Lookup where
  request : OutboundRequest
  network : List ServiceEvent
  onlyNetwork : ∀ event ∈ network, IsNetwork event.call
  status : Int
  body : Bytes
  token : String
  lifetime : Int

namespace Refresh

/-- The calls up to the report of a token. -/
def events (tenantId integration : String) (refresh : Refresh) :
    List ServiceEvent :=
  refresh.toLookup.events tenantId integration ++
    ⟨ServiceCall.buildRefresh integration refresh.creds,
      (.ok refresh.request : Except PyException OutboundRequest)⟩ ::
    (refresh.network ++
      [⟨ServiceCall.parseToken integration refresh.status refresh.body,
        (.ok (some refresh.token, refresh.lifetime) :
          Except PyException (Option String × Int))⟩])

/-- The same calls as they come one after another. -/
theorem events_eq (tenantId integration : String) (refresh : Refresh) :
    refresh.events tenantId integration =
      refresh.toLookup.events tenantId integration ++
        [⟨ServiceCall.buildRefresh integration refresh.creds,
          (.ok refresh.request : Except PyException OutboundRequest)⟩] ++
        refresh.network ++
        [⟨ServiceCall.parseToken integration refresh.status refresh.body,
          (.ok (some refresh.token, refresh.lifetime) :
            Except PyException (Option String × Int))⟩] := by
  simp [events]

/-- Until when the token is taken from the cache. -/
def expiry (refresh : Refresh) : Rat :=
  refresh.now + (max 0 (refresh.lifetime - tokenMarginS) : Int)

end Refresh

/-- A mapping is a copy of what the resolver returned. -/
def CopiedFor (past : List ServiceEvent) (tenantId integration : String)
    (creds : MappingRef) : Prop :=
  ∃ ref : MappingRef,
    (⟨ServiceCall.resolveSecret tenantId integration,
      (.ok (some ref) : Except PyException (Option MappingRef))⟩ :
        ServiceEvent) ∈ past ∧
    (⟨ServiceCall.copyMapping ref, (.ok creds : Except PyException MappingRef)⟩ :
      ServiceEvent) ∈ past

/-- What precedes the calls of a call to an integration. -/
def TokenUse (tenantId integration : String) (past : List ServiceEvent) :
    Services.Call → Prop
  | .resolveSecret tenant name => tenant = tenantId ∧ name = integration
  | .setItem creds _ token =>
      (∃ (lookup : Lookup) (expiry : Rat),
        past = lookup.events tenantId integration ∧ lookup.creds = creds ∧
          lookup.hit = some (token, expiry) ∧ lookup.now < expiry) ∨
      ∃ refresh : Refresh,
        past = refresh.events tenantId integration ++
          [⟨ServiceCall.cacheSet tenantId integration token refresh.expiry,
            (.ok () : Except PyException Unit)⟩] ∧
          refresh.creds = creds ∧ refresh.token = token
  | .cacheSet tenant name token expiry =>
      tenant = tenantId ∧ name = integration ∧
        ∃ refresh : Refresh, past = refresh.events tenantId integration ∧
          refresh.token = token ∧ refresh.expiry = expiry
  | .buildRefresh name creds =>
      name = integration ∧ CopiedFor past tenantId integration creds
  | .buildRequest name _ _ (some creds) =>
      name = integration ∧ CopiedFor past tenantId integration creds
  | _ => True

theorem tokenUse_of_isNetwork {tenantId integration : String}
    {past : List ServiceEvent} {request : Services.Call}
    (network : IsNetwork request) :
    TokenUse tenantId integration past request := by
  cases request with
  | getaddrinfo | guardedOpen => trivial
  | _ => exact network.elim

section Guarded

variable {past : List ServiceEvent}

theorem guarded_resolveAndPin (permitted : Bool) (scheme host : String)
    (port : Nat) (parts : SplitResult) :
    Program.Guarded (fun _ => IsNetwork) past
      (resolveAndPin permitted scheme host port parts) := by
  apply Program.Guarded.attemptThen trivial
  intro answer
  cases answer with
  | error error =>
      dsimp only
      split
      · exact Program.guarded_raise _
      · exact Program.guarded_raise _
      all_goals rename_i impossible
      all_goals cases impossible
  | ok addresses =>
      cases addresses with
      | nil => exact Program.guarded_raise _
      | cons pinnedIp others =>
          dsimp only
          split
          · exact Program.guarded_raise _
          · exact Program.guarded_ret _

theorem guarded_validateOutboundUrl (builtins : Builtins) (url : String)
    (allowedHosts : List String) (allowHttp : Bool)
    (permitHosts : List String) :
    Program.Guarded (fun _ => IsNetwork) past
      (validateOutboundUrl builtins url allowedHosts allowHttp permitHosts) := by
  unfold validateOutboundUrl
  cases Url.urlsplit builtins (Str.strip url) with
  | error error => cases error <;> exact Program.guarded_raise _
  | ok parts =>
      dsimp only
      generalize parts.hostname builtins = hostname
      generalize parts.port = port
      split
      · exact Program.guarded_raise _
      · split
        · exact Program.guarded_raise _
        · split
          · exact Program.guarded_raise _
          · exact Program.guarded_raise _
          · split
            · exact Program.guarded_raise _
            · cases port with
              | error error => cases error <;> exact Program.guarded_raise _
              | ok port => exact guarded_resolveAndPin _ _ _ _ _

end Guarded

-- The guard is used through `guarded_validateOutboundUrl` from here on.
attribute [local irreducible] validateOutboundUrl

theorem guarded_send (past : List ServiceEvent) (builtins : Builtins)
    (allowedHosts permitHosts : List String) (request : OutboundRequest) :
    Program.Guarded (fun _ => IsNetwork) past
      (Integration.send builtins allowedHosts permitHosts request) := by
  unfold Integration.send
  have validated : ∀ past, Program.Guarded (fun _ => IsNetwork) past
      (validateOutboundUrl builtins request.url allowedHosts request.allowHttp
        permitHosts) := fun _ => guarded_validateOutboundUrl _ _ _ _ _
  generalize validateOutboundUrl builtins request.url allowedHosts
    request.allowHttp permitHosts = validate at validated
  refine Program.Guarded.bind (validated past).attempt ?_
  intro more outcome _
  cases outcome with
  | error error => cases error <;> trivial
  | ok target =>
      apply Program.Guarded.attemptThen trivial
      intro answer
      cases answer with
      | ok response => trivial
      | error error => cases error <;> trivial

/-! ## The order of the calls of an invocation -/

section Invoke

variable {tenantId integration : String}

theorem Lookup.copiedFor (lookup : Lookup) :
    CopiedFor (lookup.events tenantId integration) tenantId integration
      lookup.creds :=
  ⟨lookup.ref, by simp [events], by simp [events]⟩

/-- A token that has been reported is remembered and then injected. -/
theorem guarded_remember (tenantId integration : String) (refresh : Refresh)
    (tokenKey : String) :
    Program.Guarded (TokenUse tenantId integration)
      (refresh.events tenantId integration)
      (do
        Integration.cacheSet tenantId integration refresh.token refresh.expiry
        Integration.setItem refresh.creds tokenKey refresh.token
        return (none : Option IntegrationResult)) := by
  apply Program.Guarded.callThen ⟨rfl, rfl, refresh, rfl, rfl, rfl⟩
  intro _
  exact Program.Guarded.callThen (Or.inr ⟨refresh, rfl, rfl, rfl⟩) fun _ =>
    trivial

theorem guarded_refreshToken (tenantId integration : String)
    (builtins : Builtins) (refresher : TokenRefresh) (lookup : Lookup) :
    Program.Guarded (TokenUse tenantId integration)
      (lookup.events tenantId integration)
      (Integration.refreshToken builtins integration tenantId refresher
        lookup.creds lookup.now) := by
  unfold Integration.refreshToken
  apply Program.Guarded.callThen ⟨rfl, lookup.copiedFor⟩
  intro request
  have sent : ∀ past, Program.Guarded (fun _ => IsNetwork) past
      (Integration.send builtins refresher.allowedHosts [] request) :=
    fun _ => guarded_send _ _ _ _ _
  generalize Integration.send builtins refresher.allowedHosts [] request =
    sending at sent
  have permitted : ∀ past, Program.Guarded (TokenUse tenantId integration) past
      sending := fun past =>
    (sent past).mono fun _ _ => tokenUse_of_isNetwork
  refine (permitted _).bind ?_
  intro network outcome ran
  have onlyNetwork : ∀ event ∈ network, IsNetwork event.call := by
    intro event member
    rcases List.append_of_mem member with ⟨before, after, split⟩
    exact (sent []).of_run ran split
  cases outcome with
  | error failure => trivial
  | ok response =>
      apply Program.Guarded.callThen trivial
      rintro ⟨reported, lifetime⟩
      cases reported with
      | none => trivial
      | some token =>
          dsimp only
          split
          · trivial
          · trivial
          · rename_i token _ reported
            cases reported
            cases added : addSeconds lookup.now
                (max 0 (lifetime - tokenMarginS)) with
            | error error => trivial
            | ok expiry =>
                have refreshed := guarded_remember tenantId integration
                  ⟨lookup, request, network, onlyNetwork, response.status,
                    response.body, token, lifetime⟩ refresher.tokenKey
                rw [Refresh.events_eq] at refreshed
                rw [eq_of_addSeconds added]
                exact refreshed

/-- A token is injected after a look into the cache, and only into the copy. -/
theorem guarded_ensureAccessToken (tenantId integration : String)
    (builtins : Builtins) (spec : IntegrationSpec) (ref : MappingRef)
    (items : Dict String String) (creds : MappingRef) :
    Program.Guarded (TokenUse tenantId integration)
      [⟨ServiceCall.resolveSecret tenantId integration,
          (.ok (some ref) : Except PyException (Option MappingRef))⟩,
        ⟨ServiceCall.readMapping ref,
          (.ok items : Except PyException (Dict String String))⟩,
        ⟨ServiceCall.copyMapping ref,
          (.ok creds : Except PyException MappingRef)⟩]
      (Integration.ensureAccessToken builtins integration spec tenantId
        creds) := by
  unfold Integration.ensureAccessToken
  cases spec.tokenRefresh with
  | none => trivial
  | some refresher =>
      apply Program.Guarded.callThen trivial
      intro now
      apply Program.Guarded.callThen trivial
      intro hit
      let lookup : Lookup := { ref, items, creds, now, hit }
      have refreshes := guarded_refreshToken tenantId integration builtins
        refresher lookup
      cases hit with
      | none => exact refreshes
      | some cached =>
          rcases cached with ⟨token, expiry⟩
          dsimp only
          split
          next fresh =>
            have found : TokenUse tenantId integration
                (lookup.events tenantId integration)
                (.setItem creds refresher.tokenKey token) :=
              Or.inl ⟨lookup, expiry, rfl, rfl, rfl, fresh⟩
            exact Program.Guarded.callThen found fun _ => trivial
          next => exact refreshes

theorem guarded_prepareCreds (builtins : Builtins) (secretResolver : Bool)
    (spec : IntegrationSpec) :
    Program.Guarded (TokenUse tenantId integration) []
      (Integration.prepareCreds builtins secretResolver integration spec
        tenantId) := by
  unfold Integration.prepareCreds
  split
  · trivial
  · split
    · trivial
    · apply Program.Guarded.callThen ⟨rfl, rfl⟩
      intro resolved
      cases resolved with
      | none => trivial
      | some ref =>
          apply Program.Guarded.callThen trivial
          intro items
          split
          · trivial
          · apply Program.Guarded.callThen trivial
            intro creds
            have ensured := guarded_ensureAccessToken tenantId integration
              builtins spec ref items creds
            refine ensured.bind ?_
            intro more failure _
            cases failure <;> trivial

/-- Credentials that are ready are a copy of what the resolver returned. -/
theorem copiedFor_of_run {builtins : Builtins} {secretResolver : Bool}
    {spec : IntegrationSpec} {events : List ServiceEvent} {creds : MappingRef}
    (run : Program.Run (Integration.prepareCreds builtins secretResolver
      integration spec tenantId) events (.ok (.ok (some creds)))) :
    CopiedFor events tenantId integration creds := by
  unfold Integration.prepareCreds at run
  split at run
  · simp at run
  · split at run
    · simp at run
    · rcases Program.run_callThen_iff.mp run with
        ⟨_, _, raised⟩ | ⟨resolved, _, rfl, found⟩
      · cases raised
      · cases resolved with
        | none => simp at found
        | some ref =>
            rcases Program.run_callThen_iff.mp found with
              ⟨_, _, raised⟩ | ⟨items, _, rfl, readIt⟩
            · cases raised
            · split at readIt
              · simp at readIt
              · rcases Program.run_callThen_iff.mp readIt with
                  ⟨_, _, raised⟩ | ⟨copy, _, rfl, copied⟩
                · cases raised
                · rcases Program.run_bind_iff.mp copied with
                    ⟨_, _, raised⟩ | ⟨failure, before, after, rfl, _, ended⟩
                  · cases raised
                  · cases failure with
                    | some failure => simp at ended
                    | none =>
                        rcases Program.run_ret_iff.mp ended with ⟨_, same⟩
                        cases same
                        exact ⟨ref, List.mem_cons_self,
                          List.mem_cons_of_mem _
                            (List.mem_cons_of_mem _ List.mem_cons_self)⟩

/-- Every call of an invocation comes after what `TokenUse` asks for. -/
theorem guarded_invoke (builtins : Builtins) (integrations : Integrations)
    (secretResolver : Bool) (operation : String)
    (params : List (String × Json)) :
    Program.Guarded (TokenUse tenantId integration) []
      (Integration.invoke builtins integrations secretResolver integration
        operation params tenantId) := by
  unfold Integration.invoke
  cases integrations.lookup integration with
  | none => trivial
  | some spec =>
      refine (guarded_prepareCreds builtins secretResolver spec).bind ?_
      intro before prepared ran
      cases prepared with
      | error failure => trivial
      | ok creds =>
          have built : TokenUse tenantId integration ([] ++ before)
              (.buildRequest integration operation params creds) := by
            cases creds with
            | none => trivial
            | some creds => exact ⟨rfl, copiedFor_of_run ran⟩
          apply Program.Guarded.attemptThen built
          intro answer
          cases answer with
          | error error => cases error <;> trivial
          | ok request =>
              have permitted : ∀ past,
                  Program.Guarded (TokenUse tenantId integration) past
                    (Integration.send builtins spec.allowedHosts
                      spec.permitPrivateHosts request) := fun past =>
                (guarded_send past _ _ _ _).mono fun _ _ =>
                  tokenUse_of_isNetwork
              dsimp only
              generalize Integration.send builtins spec.allowedHosts
                spec.permitPrivateHosts request = sending at permitted
              refine (permitted _).bind ?_
              intro network outcome _
              cases outcome with
              | error failure => trivial
              | ok response =>
                  dsimp only
                  cases Integration.decode builtins response <;> trivial

end Invoke

/-! ## What one step of the world changes -/

section World

variable {source target : ExecutorState} {event : ServiceEvent}

/-- The call lets something write to a mapping. -/
def WritesTo (ref : MappingRef) : Services.Call → Prop
  | .setItem creds _ _ => creds = ref
  | .buildRefresh _ creds => creds = ref
  | .buildRequest _ _ _ (some creds) => creds = ref
  | _ => False

theorem ExecutorWorld.heap_eq (stepped : ExecutorWorld source event target)
    {ref : MappingRef} (allocated : source.heap ref ≠ none)
    (untouched : ¬ WritesTo ref event.call) :
    target.heap ref = source.heap ref := by
  cases stepped with
  | created _ _ new _ free =>
      have different : ref ≠ new := fun same => allocated (same ▸ free)
      exact source.write_heap_ne _ different
  | copied _ new _ _ free =>
      have different : ref ≠ new := fun same => allocated (same ▸ free)
      exact source.write_heap_ne _ different
  | assigned creds =>
      exact source.write_heap_ne _ fun same => untouched same.symm
  | refreshBuilt _ creds =>
      exact source.write_heap_ne _ fun same => untouched same.symm
  | requestBuilt _ _ _ creds =>
      exact source.write_heap_ne _ fun same => untouched same.symm
  | _ => rfl

theorem ExecutorWorld.allocated (stepped : ExecutorWorld source event target)
    {ref : MappingRef} (allocated : source.heap ref ≠ none) :
    target.heap ref ≠ none := by
  have written : ∀ (other : MappingRef) (content : Dict String String),
      (source.write other content).heap ref ≠ none := by
    intro other content
    by_cases same : ref = other
    · subst same
      simp
    · rwa [source.write_heap_ne content same]
  cases stepped with
  | created | copied | assigned | refreshBuilt | requestBuilt =>
      exact written _ _
  | _ => exact allocated

/-- The resolver's mappings stay its own, and a new one has not been in use. -/
theorem ExecutorWorld.resolved_iff (stepped : ExecutorWorld source event target)
    {ref : MappingRef} (allocated : source.heap ref ≠ none) :
    ref ∈ target.resolved ↔ ref ∈ source.resolved := by
  cases stepped with
  | created _ _ new _ free =>
      have different : ref ≠ new := fun same => allocated (same ▸ free)
      simp [different]
  | _ => rfl

theorem ExecutorWorld.resolved_allocated
    (stepped : ExecutorWorld source event target)
    (allocated : ∀ ref ∈ source.resolved, source.heap ref ≠ none) :
    ∀ ref ∈ target.resolved, target.heap ref ≠ none := by
  intro ref member
  by_cases old : source.heap ref = none
  · cases stepped with
    | created _ _ new content free =>
        rcases List.mem_cons.mp member with rfl | member
        · simp
        · exact absurd old (allocated ref member)
    | _ => exact absurd old (allocated ref member)
  · exact stepped.allocated old

theorem ExecutorWorld.of_resolveSecret {tenantId integration : String}
    {ref : MappingRef}
    (stepped : ExecutorWorld source
      ⟨ServiceCall.resolveSecret tenantId integration,
        (.ok (some ref) : Except PyException (Option MappingRef))⟩ target) :
    ref ∈ target.resolved := by
  cases stepped with
  | resolved _ _ _ member => exact member
  | created => exact List.mem_cons_self
  | unresolved _ _ _ nothing => exact absurd rfl (nothing ref)
  | other _ untouched => exact absurd trivial untouched

/-- A copy is a new object, and not the resolver's. -/
theorem ExecutorWorld.of_copyMapping {ref creds : MappingRef}
    (stepped : ExecutorWorld source
      ⟨ServiceCall.copyMapping ref,
        (.ok creds : Except PyException MappingRef)⟩ target) :
    source.heap creds = none ∧ target.heap creds ≠ none ∧
      target.resolved = source.resolved := by
  cases stepped with
  | copied _ _ content found free => exact ⟨free, by simp, rfl⟩
  | other _ untouched => exact absurd trivial untouched

theorem ExecutorWorld.of_cacheGet {tenantId integration : String}
    {hit : Option (String × Rat)}
    (stepped : ExecutorWorld source
      ⟨ServiceCall.cacheGet tenantId integration,
        (.ok hit : Except PyException (Option (String × Rat)))⟩ target) :
    hit = source.cache.get? (tenantId, integration) := by
  cases stepped with
  | cacheGet => rfl
  | other _ untouched => exact absurd trivial untouched

/-- The cache holds what it has held, and what is put there. -/
theorem ExecutorWorld.cached (stepped : ExecutorWorld source event target)
    {tenantId integration token : String} {expiry : Rat}
    (found : target.cache.get? (tenantId, integration) = some (token, expiry)) :
    source.cache.get? (tenantId, integration) = some (token, expiry) ∨
      event.call = .cacheSet tenantId integration token expiry := by
  cases stepped with
  | cacheSet tenant name newToken newExpiry =>
      rw [Dict.get?_insert] at found
      split at found
      next same =>
        cases same
        cases found
        exact Or.inr rfl
      next => exact Or.inl found
  | _ => exact Or.inl found

end World

end PrivateAiWorkspace.ControlPlane
