import PrivateAiWorkspace.ControlPlane.IntegrationSecrets
import PrivateAiWorkspace.ControlPlane.TokenCache
import PrivateAiWorkspace.Effects.Safe

/-!
# Rotation of integration secrets

The two caches of a call of an integration put together: the resolver keeps what
it has fetched for its TTL, and the executor keeps an access token for as long as
the provider says. The world of `TokenCache` is extended by a clock, by the
secret store and by the resolver's cache; what a mapping or a token derives from
is followed along the calls.
-/

namespace PrivateAiWorkspace.ControlPlane

open Effects Python

/-! ## Where credentials come from -/

/-- A secret string that was fetched, and when the store got another in its
place, if it has. -/
structure SecretOrigin where
  secretId : String
  secret : String
  replacedAt : Option Rat
  deriving DecidableEq

/-- The store gets another string under an id. -/
def SecretOrigin.replace (now : Rat) (secretId : String)
    (origin : SecretOrigin) : SecretOrigin :=
  if origin.secretId = secretId ∧ origin.replacedAt = none then
    { origin with replacedAt := some now }
  else origin

/-- An executor, the clock, the secret store and the cache of the resolver. What
the mappings, the cached tokens and the token at hand derive from is recorded
beside them. -/
structure SecretState extends ExecutorState where
  now : Rat
  secrets : String → Option String
  secretCache : SecretCache
  origins : MappingRef → List SecretOrigin
  minted : String × String → List SecretOrigin
  token : List SecretOrigin

namespace SecretState

/-- A process that has just started. -/
def start (now : Rat) (secrets : String → Option String) : SecretState :=
  { ExecutorState.init with
    now, secrets
    secretCache := .empty
    origins := fun _ => []
    minted := fun _ => []
    token := [] }

/-- The store gets a string under an id, or loses the one it has. -/
def rotate (state : SecretState) (secretId : String) (secret : Option String) :
    SecretState :=
  if state.secrets secretId = secret then state
  else
    let replace := List.map (SecretOrigin.replace state.now secretId)
    { state with
      secrets := Function.update state.secrets secretId secret
      origins := fun ref => replace (state.origins ref)
      minted := fun key => replace (state.minted key)
      token := replace state.token }

end SecretState

/-- The call reads the clock or the resolver, or changes a record. -/
def IsRecorded : Services.Call → Prop
  | .clock => True
  | .resolveSecret _ _ => True
  | .copyMapping _ => True
  | .setItem _ _ _ => True
  | .cacheGet _ _ => True
  | .cacheSet _ _ _ _ => True
  | .buildRefresh _ _ => True
  | _ => False

/-- What a call does to the clock, the resolver and the records, in a world whose
executor goes on as `next`: a fetched secret is what the store holds, a copy
derives from what is copied, and so on with the token at hand. -/
inductive SecretStep (builtins : Builtins) (settings : ResolverSettings)
    (state : SecretState) (next : ExecutorState) :
    ServiceEvent → SecretState → Prop where
  | resolved (tenantId integration secretId : String) (new : MappingRef)
      (value : Option MappingRef) (cache : SecretCache) :
      state.heap new = none →
      buildSecretId settings.env tenantId integration none settings.project =
        .ok secretId →
      resolver builtins settings state.now (fun id => .ok (state.secrets id)) new
        state.secretCache tenantId integration = .ok (value, cache) →
      (value = some new →
        parseSecretString builtins (state.secrets secretId) =
          .ok (next.heap new)) →
      SecretStep builtins settings state next
        ⟨ServiceCall.resolveSecret tenantId integration,
          (.ok value : Except PyException (Option MappingRef))⟩
        { state with
          toExecutorState := next
          secretCache := cache
          origins :=
            if value = some new then
              Function.update state.origins new
                ((state.secrets secretId).toList.map (⟨secretId, ·, none⟩))
            else state.origins }
  | unresolved (tenantId integration : String) (error : PyException) :
      SecretStep builtins settings state next
        ⟨ServiceCall.resolveSecret tenantId integration,
          (.error error : Except PyException (Option MappingRef))⟩
        { state with toExecutorState := next }
  | clock :
      SecretStep builtins settings state next
        ⟨ServiceCall.clock, (.ok state.now : Except PyException Rat)⟩
        { state with toExecutorState := next }
  | copied (ref new : MappingRef) :
      SecretStep builtins settings state next
        ⟨ServiceCall.copyMapping ref, (.ok new : Except PyException MappingRef)⟩
        { state with
          toExecutorState := next
          origins := Function.update state.origins new (state.origins ref) }
  | assigned (ref : MappingRef) (key value : String) :
      SecretStep builtins settings state next
        ⟨ServiceCall.setItem ref key value, (.ok () : Except PyException Unit)⟩
        { state with
          toExecutorState := next
          origins := Function.update state.origins ref
            (state.origins ref ++ state.token) }
  | looked (tenantId integration : String) (hit : Option (String × Rat)) :
      SecretStep builtins settings state next
        ⟨ServiceCall.cacheGet tenantId integration,
          (.ok hit : Except PyException (Option (String × Rat)))⟩
        { state with
          toExecutorState := next
          token :=
            if hit.any (state.now < ·.2) then state.minted (tenantId, integration)
            else state.token }
  | remembered (tenantId integration token : String) (expiry : Rat) :
      SecretStep builtins settings state next
        ⟨ServiceCall.cacheSet tenantId integration token expiry,
          (.ok () : Except PyException Unit)⟩
        { state with
          toExecutorState := next
          minted := Function.update state.minted (tenantId, integration)
            state.token }
  | refreshed (integration : String) (creds : MappingRef)
      (answer : Except PyException OutboundRequest) :
      SecretStep builtins settings state next
        ⟨ServiceCall.buildRefresh integration creds, answer⟩
        { state with
          toExecutorState := next
          token := state.origins creds }
  | other (event : ServiceEvent) :
      ¬ IsRecorded event.call →
      SecretStep builtins settings state next event
        { state with toExecutorState := next }

/-- A call of the executor in such a world. -/
def SecretWorld (builtins : Builtins) (settings : ResolverSettings) :
    World Services PyException SecretState :=
  fun state event target =>
    ∃ next, ExecutorWorld state.toExecutorState event next ∧
      SecretStep builtins settings state next event target

/-! ## Histories -/

/-- What happens to an executor: time passes, the store gets a string under an
id or loses it, or an integration is called. -/
inductive SecretAction where
  | advance (elapsed : Rat)
  | rotate (secretId : String) (secret : Option String)
  | invoke (tenantId integration operation : String)
      (params : List (String × Json))
      (calls : List (Transition SecretState ServiceEvent))
      (outcome : Except PyException IntegrationOutcome)

/-- One step of a history. A call of an integration is a whole run of `invoke`,
which takes no time. -/
inductive RotationStep (builtins : Builtins) (integrations : Integrations)
    (settings : ResolverSettings) :
    SecretState → SecretAction → SecretState → Prop where
  | advance (state : SecretState) (elapsed : Rat) :
      0 ≤ elapsed →
      RotationStep builtins integrations settings state (.advance elapsed)
        { state with now := state.now + elapsed }
  | rotate (state : SecretState) (secretId : String)
      (secret : Option String) :
      RotationStep builtins integrations settings state
        (.rotate secretId secret) (state.rotate secretId secret)
  | invoke {state target : SecretState} {tenantId integration operation : String}
      {params : List (String × Json)}
      {calls : List (Transition SecretState ServiceEvent)}
      {outcome : Except PyException IntegrationOutcome} :
      Execution (SecretWorld builtins settings) state calls target →
      Program.Run (Integration.invoke builtins integrations true integration
        operation params tenantId) (calls.map Transition.label) outcome →
      RotationStep builtins integrations settings state
        (.invoke tenantId integration operation params calls outcome) target

/-- A history of one executor with its resolver. -/
abbrev RotationHistory := List (Transition SecretState SecretAction)

/-- The mapping a plug-in builds a request from, be it the request of the
operation or that of a refresh. -/
def usedCreds : Services.Call → Option MappingRef
  | .buildRefresh _ creds => some creds
  | .buildRequest _ _ _ creds => creds
  | _ => none

/-- The string was what the store held at some time of the window that ends
now. -/
def CurrentWithin (settings : ResolverSettings) (states : List SecretState)
    (now : Rat) (origin : SecretOrigin) : Prop :=
  ∃ state ∈ states, now - settings.ttlSeconds ≤ state.now ∧ state.now ≤ now ∧
    state.secrets origin.secretId = some origin.secret

/-- Every call of an integration uses credentials, injected tokens included, that
derive from strings that were current within the TTL before it. -/
def UsesCurrentSecrets (settings : ResolverSettings) (initial : SecretState)
    (history : RotationHistory) : Prop :=
  ∀ before after transition,
    history = before ++ transition :: after →
    ∀ tenantId integration operation params calls outcome,
      transition.label =
        .invoke tenantId integration operation params calls outcome →
      ∀ call ∈ calls, ∀ creds, usedCreds call.label.call = some creds →
        ∀ origin ∈ call.source.origins creds,
          CurrentWithin settings (Execution.states initial before)
            transition.source.now origin

/-- A string is still current, or was replaced no longer ago than the TTL. -/
def SecretOrigin.Fresh (settings : ResolverSettings) (now : Rat)
    (origin : SecretOrigin) : Prop :=
  ∀ replaced, origin.replacedAt = some replaced →
    now ≤ replaced + settings.ttlSeconds

/-- The call does not find an access token in the cache that has not expired yet
and whose secret was replaced longer ago than the TTL. -/
def FindsNoStaleToken (settings : ResolverSettings) (state : SecretState)
    (event : ServiceEvent) : Prop :=
  ∀ tenantId integration token expiry,
    event = ⟨ServiceCall.cacheGet tenantId integration,
      (.ok (some (token, expiry)) :
        Except PyException (Option (String × Rat)))⟩ →
    state.now < expiry →
    ∀ origin ∈ state.minted (tenantId, integration),
      origin.Fresh settings state.now

/-- No look-up of an action finds a stale token. -/
def SecretAction.FindsNoStaleToken (settings : ResolverSettings) :
    SecretAction → Prop
  | .invoke _ _ _ _ calls _ =>
      ∀ call ∈ calls,
        ControlPlane.FindsNoStaleToken settings call.source call.label
  | _ => True

/-! ## What a call keeps -/

section Step

variable {builtins : Builtins} {settings : ResolverSettings}
  {source target : SecretState} {event : ServiceEvent}

theorem SecretWorld.now_eq
    (stepped : SecretWorld builtins settings source event target) :
    target.now = source.now := by
  rcases stepped with ⟨next, _, recorded⟩
  cases recorded <;> rfl

theorem SecretWorld.executor
    (stepped : SecretWorld builtins settings source event target) :
    ExecutorWorld source.toExecutorState event target.toExecutorState := by
  rcases stepped with ⟨next, moved, recorded⟩
  cases recorded <;> exact moved

theorem SecretWorld.secrets_eq
    (stepped : SecretWorld builtins settings source event target) :
    target.secrets = source.secrets := by
  rcases stepped with ⟨next, _, recorded⟩
  cases recorded <;> rfl

/-- What an object derives from changes only when something is put into it. -/
theorem SecretWorld.origins_eq
    (stepped : SecretWorld builtins settings source event target)
    {ref : MappingRef} (allocated : source.heap ref ≠ none)
    (untouched : ∀ key value, event.call ≠ .setItem ref key value) :
    target.origins ref = source.origins ref := by
  rcases stepped with ⟨next, moved, recorded⟩
  cases recorded with
  | resolved tenantId integration secretId new value cache free =>
      have different : ref ≠ new := fun same => allocated (same ▸ free)
      dsimp only
      split
      · exact Function.update_of_ne different _ _
      · rfl
  | copied _ new =>
      have different : ref ≠ new := fun same =>
        allocated (same ▸ moved.of_copyMapping.1)
      exact Function.update_of_ne different _ _
  | assigned other key value =>
      have different : ref ≠ other := fun same =>
        untouched key value (by rw [same])
      exact Function.update_of_ne different _ _
  | _ => rfl

/-! ## Invariants -/

/-- The mappings of the resolver exist, and what its cache holds counts for at
most the TTL and was current when that began. -/
structure Vaulted (settings : ResolverSettings) (state : SecretState) :
    Prop where
  allocated : ∀ ref ∈ state.resolved, state.heap ref ≠ none
  cached : ∀ secretId expiry ref,
    state.secretCache.get? secretId = some (expiry, some ref) →
    ref ∈ state.resolved ∧ expiry ≤ state.now + settings.ttlSeconds ∧
      ∀ origin ∈ state.origins ref, ∀ replaced,
        origin.replacedAt = some replaced →
        expiry ≤ replaced + settings.ttlSeconds

/-- A call that has the resolver's mappings alone keeps what is known of them. -/
theorem Vaulted.step (vaulted : Vaulted settings source)
    (stepped : SecretWorld builtins settings source event target)
    (apart : ∀ ref key value, event.call = .setItem ref key value →
      ref ∉ source.resolved) :
    Vaulted settings target := by
  have moved := stepped.executor
  -- An entry that has been there before still has what it needs.
  have kept : ∀ secretId expiry ref,
      source.secretCache.get? secretId = some (expiry, some ref) →
      ref ∈ target.resolved ∧ expiry ≤ target.now + settings.ttlSeconds ∧
        ∀ origin ∈ target.origins ref, ∀ replaced,
          origin.replacedAt = some replaced →
          expiry ≤ replaced + settings.ttlSeconds := by
    intro secretId expiry ref found
    rcases vaulted.cached secretId expiry ref found with ⟨own, bound, began⟩
    have exists_ : source.heap ref ≠ none := vaulted.allocated ref own
    have same : target.origins ref = source.origins ref := by
      apply stepped.origins_eq exists_
      intro key value assigns
      exact apart ref key value assigns own
    rw [same, stepped.now_eq]
    exact ⟨(moved.resolved_iff exists_).mpr own, bound, began⟩
  refine ⟨moved.resolved_allocated vaulted.allocated, ?_⟩
  rcases stepped with ⟨next, _, recorded⟩
  cases recorded with
  | resolved tenantId integration secretId new value cache free named found =>
      rcases of_resolver found with ⟨id, _, reused | fetched⟩
      · rcases reused with ⟨_, _, _, rfl⟩
        exact kept
      · rcases fetched with ⟨rfl, absent | present⟩
        · subst absent
          intro other expiry ref listed
          rw [Dict.get?_insert] at listed
          split at listed
          next => cases listed
          next => exact kept other expiry ref listed
        · rcases present with ⟨rfl, _⟩
          intro other expiry ref listed
          rw [Dict.get?_insert] at listed
          split at listed
          next =>
            cases listed
            refine ⟨moved.of_resolveSecret, Rat.le_refl, ?_⟩
            intro origin member replaced gone
            simp only [if_true, Function.update_self, List.mem_map] at member
            rcases member with ⟨secret, _, rfl⟩
            cases gone
          next => exact kept other expiry ref listed
  | _ => exact kept

/-- A mapping that a call has made for itself, with what it derives from. -/
structure Holds (settings : ResolverSettings) (creds : MappingRef)
    (state : SecretState) : Prop where
  vaulted : Vaulted settings state
  allocated : state.heap creds ≠ none
  own : creds ∉ state.resolved
  fresh : ∀ origin ∈ state.origins creds, origin.Fresh settings state.now

/-- The access token at hand derives from secrets that are fresh. -/
def HoldsToken (settings : ResolverSettings) (state : SecretState) : Prop :=
  ∀ origin ∈ state.token, origin.Fresh settings state.now

theorem Holds.step {creds : MappingRef} (holds : Holds settings creds source)
    (stepped : SecretWorld builtins settings source event target)
    (assigns : ∀ ref key value, event.call ≠ .setItem ref key value) :
    Holds settings creds target where
  vaulted := holds.vaulted.step stepped fun ref key value assigned =>
    absurd assigned (assigns ref key value)
  allocated := stepped.executor.allocated holds.allocated
  own := fun member =>
    holds.own ((stepped.executor.resolved_iff holds.allocated).mp member)
  fresh := by
    rw [stepped.origins_eq holds.allocated (assigns creds), stepped.now_eq]
    exact holds.fresh

/-- A token that is fresh may be put into the mapping. -/
theorem Holds.assign {creds : MappingRef} {key value : String}
    {answer : Except PyException Unit} (holds : Holds settings creds source)
    (token : HoldsToken settings source)
    (stepped : SecretWorld builtins settings source
      ⟨ServiceCall.setItem creds key value, answer⟩ target) :
    Holds settings creds target where
  vaulted := by
    apply holds.vaulted.step stepped
    intro ref _ _ assigned
    cases assigned
    exact holds.own
  allocated := stepped.executor.allocated holds.allocated
  own := fun member =>
    holds.own ((stepped.executor.resolved_iff holds.allocated).mp member)
  fresh := by
    rw [stepped.now_eq]
    rcases stepped with ⟨next, _, recorded⟩
    cases recorded with
    | assigned =>
        simp only [Function.update_self]
        intro origin member
        rcases List.mem_append.mp member with old | new
        · exact holds.fresh origin old
        · exact token origin new
    | other _ unrecorded => exact absurd trivial unrecorded

theorem HoldsToken.step (token : HoldsToken settings source)
    (stepped : SecretWorld builtins settings source event target)
    (looks : ∀ tenantId integration,
      event.call ≠ .cacheGet tenantId integration)
    (refreshes : ∀ integration creds,
      event.call ≠ .buildRefresh integration creds) :
    HoldsToken settings target := by
  have same : target.token = source.token := by
    rcases stepped with ⟨next, _, recorded⟩
    cases recorded with
    | looked tenantId integration => exact absurd rfl (looks _ _)
    | refreshed integration creds => exact absurd rfl (refreshes _ _)
    | _ => rfl
  unfold HoldsToken
  rw [same, stepped.now_eq]
  exact token

end Step

end PrivateAiWorkspace.ControlPlane
