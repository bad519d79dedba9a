import Mathlib.Algebra.Order.Ring.Rat
import Mathlib.Tactic.Linarith
import PrivateAiWorkspace.ControlPlane.SecretRotation
import PrivateAiWorkspace.ControlPlane.TokenScope

/-!
# The window of a rotated secret

A call of an integration that takes no stale token out of the cache uses fresh
credentials only: the resolver's are fresh, and a token is fresh when it has just
been minted from them. Over a history this bounds the age of every secret value
in use by the TTL of the resolver.
-/

namespace PrivateAiWorkspace.ControlPlane

open Effects Python

-- What is sent is used through `guarded_send` only.
attribute [local irreducible] Integration.send

/-! ## A call of an integration -/

/-- The world of a call that finds no stale token. -/
def WatchedWorld (builtins : Builtins) (settings : ResolverSettings) :
    World Services PyException SecretState :=
  fun source event target =>
    SecretWorld builtins settings source event target ∧
      FindsNoStaleToken settings source event

/-- A plug-in builds its request from fresh credentials. -/
def UsesFresh (settings : ResolverSettings) (state : SecretState)
    (request : Services.Call) : Prop :=
  ∀ creds, usedCreds request = some creds →
    ∀ origin ∈ state.origins creds, origin.Fresh settings state.now

section Invoke

variable {builtins : Builtins} {settings : ResolverSettings}
  {state : SecretState} {creds : MappingRef}

theorem usesFresh_of_none {request : Services.Call}
    (unused : usedCreds request = none) : UsesFresh settings state request := by
  intro creds used
  rw [unused] at used
  cases used

theorem Holds.usesFresh {request : Services.Call}
    (holds : Holds settings creds state)
    (used : usedCreds request = some creds) :
    UsesFresh settings state request := by
  intro other uses
  rw [used] at uses
  cases uses
  exact holds.fresh

/-- What is put together for a call to the network keeps the credentials. -/
theorem safe_send (allowedHosts permitHosts : List String)
    (request : OutboundRequest) (holds : Holds settings creds state)
    (token : HoldsToken settings state) :
    Program.Safe (WatchedWorld builtins settings) (UsesFresh settings)
      (fun target _ => Holds settings creds target ∧ HoldsToken settings target)
      state (Integration.send builtins allowedHosts permitHosts request) := by
  refine Program.Safe.of_guarded
    (guarded_send [] builtins allowedHosts permitHosts request) ?_ ?_
    ⟨holds, token⟩
  · intro source event target network answered kept
    rcases event with ⟨call, answer⟩
    cases call with
    | getaddrinfo | guardedOpen =>
        exact ⟨kept.1.step answered.1 nofun, kept.2.step answered.1 nofun nofun⟩
    | _ => exact network.elim
  · intro state call network _
    cases call with
    | getaddrinfo | guardedOpen => exact usesFresh_of_none rfl
    | _ => exact network.elim

/-- A refresh mints a token from the credentials it is given. -/
theorem safe_refreshToken (integration tenantId : String)
    (refresher : TokenRefresh) (now : Rat)
    (holds : Holds settings creds state) :
    Program.Safe (WatchedWorld builtins settings) (UsesFresh settings)
      (fun target _ => Holds settings creds target) state
      (Integration.refreshToken builtins integration tenantId refresher creds
        now) := by
  unfold Integration.refreshToken
  apply Program.Safe.callThen (holds.usesFresh rfl)
  · intro request asked answered
    have stepped := answered.1
    have held : Holds settings creds asked := holds.step stepped nofun
    have minted : HoldsToken settings asked := by
      unfold HoldsToken
      rw [stepped.now_eq]
      rcases stepped with ⟨next, _, recorded⟩
      cases recorded with
      | refreshed => exact holds.fresh
      | other _ unrecorded => exact absurd trivial unrecorded
    refine (safe_send refresher.allowedHosts [] request held minted).bind ?_
      fun _ _ kept => kept.1
    intro sent outcome kept
    have held := kept.1
    have minted := kept.2
    cases outcome with
    | error failure => exact held
    | ok response =>
        apply Program.Safe.callThen (usesFresh_of_none rfl)
        · intro reported parsed answered
          have stepped := answered.1
          have held := held.step stepped nofun
          have minted := minted.step stepped nofun nofun
          rcases reported with ⟨token, lifetime⟩
          dsimp only
          split
          · exact held
          · exact held
          · split
            · exact held
            · apply Program.Safe.callThen (usesFresh_of_none rfl)
              · intro _ remembered answered
                have stepped := answered.1
                have held := held.step stepped nofun
                have minted := minted.step stepped nofun nofun
                apply Program.Safe.callThen (usesFresh_of_none rfl)
                · intro _ injected answered
                  exact held.assign minted answered.1
                · intro _ injected answered
                  exact held.assign minted answered.1
              · intro _ remembered answered
                exact held.step answered.1 nofun
        · intro _ parsed answered
          exact held.step answered.1 nofun
  · intro _ asked answered
    exact holds.step answered.1 nofun

/-- A token is taken from the cache if it is fresh there, or minted. -/
theorem safe_ensureAccessToken (integration : String) (spec : IntegrationSpec)
    (tenantId : String) (holds : Holds settings creds state) :
    Program.Safe (WatchedWorld builtins settings) (UsesFresh settings)
      (fun target _ => Holds settings creds target) state
      (Integration.ensureAccessToken builtins integration spec tenantId
        creds) := by
  unfold Integration.ensureAccessToken
  cases spec.tokenRefresh with
  | none => exact holds
  | some refresher =>
      apply Program.Safe.callThen (usesFresh_of_none rfl)
      · intro now timed answered
        have stepped := answered.1
        have held := holds.step stepped nofun
        have clock_eq : now = timed.now := by
          rcases stepped with ⟨next, _, recorded⟩
          cases recorded with
          | clock => rfl
          | other _ unrecorded => exact absurd trivial unrecorded
        apply Program.Safe.callThen (usesFresh_of_none rfl)
        · intro hit looked answered
          have stepped := answered.1
          have found := held.step stepped nofun
          have refreshes : Program.Safe (WatchedWorld builtins settings)
              (UsesFresh settings) (fun target _ => Holds settings creds target)
              looked (Integration.refreshToken builtins integration tenantId
                refresher creds now) :=
            safe_refreshToken integration tenantId refresher now found
          cases hit with
          | none => exact refreshes
          | some cached =>
              rcases cached with ⟨token, expiry⟩
              dsimp only
              split
              next live =>
                rw [clock_eq] at live
                have fresh : HoldsToken settings looked := by
                  have known :=
                    answered.2 tenantId integration token expiry rfl live
                  unfold HoldsToken
                  rw [stepped.now_eq]
                  rcases stepped with ⟨next, _, recorded⟩
                  cases recorded with
                  | looked =>
                      simpa only [Option.any_some, live, decide_true, if_true]
                        using known
                  | other _ unrecorded => exact absurd trivial unrecorded
                apply Program.Safe.callThen (usesFresh_of_none rfl)
                · intro _ injected answered
                  exact found.assign fresh answered.1
                · intro _ injected answered
                  exact found.assign fresh answered.1
              next => exact refreshes
        · intro _ looked answered
          exact held.step answered.1 nofun
      · intro _ timed answered
        exact holds.step answered.1 nofun

/-- What the resolver hands out is fresh. -/
theorem fresh_of_resolveSecret {target : SecretState}
    {tenantId integration : String} {ref : MappingRef}
    (vaulted : Vaulted settings state)
    (stepped : SecretWorld builtins settings state
      ⟨ServiceCall.resolveSecret tenantId integration,
        (.ok (some ref) : Except PyException (Option MappingRef))⟩ target) :
    ∀ origin ∈ target.origins ref, origin.Fresh settings target.now := by
  have moved := stepped.now_eq
  have elsewhere : ∀ (_ : state.heap ref ≠ none)
      (_ : ∀ key value, (ServiceCall.resolveSecret tenantId integration) ≠
        .setItem ref key value), target.origins ref = state.origins ref :=
    fun allocated untouched => stepped.origins_eq allocated untouched
  rcases stepped with ⟨next, _, recorded⟩
  cases recorded with
  | resolved _ _ secretId new _ cache free named found =>
      rcases of_resolver found with ⟨id, _, reused | fetched⟩
      · rcases reused with ⟨expiry, listed, live, rfl⟩
        rcases vaulted.cached id expiry ref listed with ⟨own, _, began⟩
        rw [elsewhere (vaulted.allocated ref own) nofun]
        intro origin member replaced gone
        have bound := began origin member replaced gone
        exact le_trans (le_of_lt live) bound
      · rcases fetched with ⟨_, absent | ⟨present, _⟩⟩
        · cases absent
        · cases present
          intro origin member replaced gone
          simp only [if_true, Function.update_self, List.mem_map] at member
          rcases member with ⟨secret, _, rfl⟩
          cases gone
  | other _ unrecorded => exact absurd trivial unrecorded

/-- A copy of a fresh mapping is the call's own and fresh. -/
theorem holds_of_copyMapping {target : SecretState} {ref : MappingRef}
    (vaulted : Vaulted settings state)
    (fresh : ∀ origin ∈ state.origins ref, origin.Fresh settings state.now)
    (stepped : SecretWorld builtins settings state
      ⟨ServiceCall.copyMapping ref,
        (.ok creds : Except PyException MappingRef)⟩ target) :
    Holds settings creds target := by
  have copied := stepped.executor.of_copyMapping
  have moved := stepped.now_eq
  refine ⟨vaulted.step stepped nofun, copied.2.1, ?_, ?_⟩
  · intro member
    rw [copied.2.2] at member
    exact vaulted.allocated creds member copied.1
  · rw [moved]
    rcases stepped with ⟨next, _, recorded⟩
    cases recorded with
    | copied =>
        simp only [Function.update_self]
        exact fresh
    | other _ unrecorded => exact absurd trivial unrecorded

theorem safe_prepareCreds (secretResolver : Bool) (integration : String)
    (spec : IntegrationSpec) (tenantId : String)
    (vaulted : Vaulted settings state) :
    Program.Safe (WatchedWorld builtins settings) (UsesFresh settings)
      (fun target result => Vaulted settings target ∧
        ∀ creds, result = .ok (.ok (some creds)) →
          Holds settings creds target)
      state
      (Integration.prepareCreds builtins secretResolver integration spec
        tenantId) := by
  unfold Integration.prepareCreds
  split
  · exact ⟨vaulted, nofun⟩
  split
  · exact ⟨vaulted, nofun⟩
  apply Program.Safe.callThen (usesFresh_of_none rfl)
  · intro value resolved answered
    have stepped := answered.1
    have kept := vaulted.step stepped nofun
    cases value with
    | none => exact ⟨kept, nofun⟩
    | some ref =>
        have handed := fresh_of_resolveSecret vaulted stepped
        have own := stepped.executor.of_resolveSecret
        apply Program.Safe.callThen (usesFresh_of_none rfl)
        · intro items seen answered
          have stepped := answered.1
          have same := stepped.origins_eq (kept.allocated ref own) nofun
          have moved := stepped.now_eq
          have kept := kept.step stepped nofun
          split
          · exact ⟨kept, nofun⟩
          · apply Program.Safe.callThen (usesFresh_of_none rfl)
            · intro creds made answered
              have stepped := answered.1
              have holds : Holds settings creds made := by
                apply holds_of_copyMapping kept ?_ stepped
                rw [same, moved]
                exact handed
              refine (safe_ensureAccessToken integration spec tenantId
                holds).bind ?_ fun _ _ holds => ⟨holds.vaulted, nofun⟩
              intro ended failure holds
              cases failure with
              | some failure => exact ⟨holds.vaulted, nofun⟩
              | none =>
                  refine ⟨holds.vaulted, ?_⟩
                  intro other returned
                  cases returned
                  exact holds
            · intro _ made answered
              exact ⟨kept.step answered.1 nofun, nofun⟩
        · intro _ seen answered
          exact ⟨kept.step answered.1 nofun, nofun⟩
  · intro _ resolved answered
    exact ⟨vaulted.step answered.1 nofun, nofun⟩

/-- A call that finds no stale token uses fresh credentials only, and keeps what
is known of the resolver. -/
theorem safe_invoke (integrations : Integrations) (secretResolver : Bool)
    (integration operation : String) (params : List (String × Json))
    (tenantId : String) (vaulted : Vaulted settings state) :
    Program.Safe (WatchedWorld builtins settings) (UsesFresh settings)
      (fun target _ => Vaulted settings target) state
      (Integration.invoke builtins integrations secretResolver integration
        operation params tenantId) := by
  unfold Integration.invoke
  cases integrations.lookup integration with
  | none => exact vaulted
  | some spec =>
      refine (safe_prepareCreds secretResolver integration spec tenantId
        vaulted).bind ?_ fun _ _ kept => kept.1
      intro prepared outcome safe
      have kept := safe.1
      cases outcome with
      | error failure => exact kept
      | ok creds =>
          have permitted : UsesFresh settings prepared
              (.buildRequest integration operation params creds) := by
            intro used uses
            cases creds with
            | none => cases uses
            | some own =>
                cases uses
                exact (safe.2 used rfl).fresh
          apply Program.Safe.attemptThen permitted
          intro answer built answered
          have stepped := answered.1
          have kept := kept.step stepped nofun
          cases answer with
          | error error => cases error <;> exact kept
          | ok request =>
              dsimp only
              have sent : Program.Safe (WatchedWorld builtins settings)
                  (UsesFresh settings)
                  (fun target _ => Vaulted settings target) built
                  (Integration.send builtins spec.allowedHosts
                    spec.permitPrivateHosts request) := by
                refine Program.Safe.of_guarded (guarded_send [] _ _ _ _) ?_ ?_
                  kept
                · intro source event target network answered kept
                  rcases event with ⟨call, answer⟩
                  cases call with
                  | getaddrinfo | guardedOpen =>
                      exact kept.step answered.1 nofun
                  | _ => exact network.elim
                · intro state call network _
                  cases call with
                  | getaddrinfo | guardedOpen => exact usesFresh_of_none rfl
                  | _ => exact network.elim
              refine sent.bind ?_ fun _ _ kept => kept
              intro ended response kept
              cases response with
              | error failure => exact kept
              | ok response =>
                  dsimp only
                  cases Integration.decode builtins response <;> exact kept

end Invoke

/-! ## Histories -/

section History

variable {builtins : Builtins} {integrations : Integrations}
  {settings : ResolverSettings} {source target state : SecretState}

/-- Everything that is recorded to be derived from derives from such. -/
structure EveryOrigin (property : SecretOrigin → Prop) (state : SecretState) :
    Prop where
  origins : ∀ ref, ∀ origin ∈ state.origins ref, property origin
  minted : ∀ key, ∀ origin ∈ state.minted key, property origin
  token : ∀ origin ∈ state.token, property origin

/-- A string is current, or was so in one of the states, when it was
replaced. -/
structure WasHeld (states : List SecretState) (state : SecretState)
    (origin : SecretOrigin) : Prop where
  current : origin.replacedAt = none →
    state.secrets origin.secretId = some origin.secret
  replaced : ∀ replaced, origin.replacedAt = some replaced →
    replaced ≤ state.now ∧ ∃ earlier ∈ states, earlier.now = replaced ∧
      earlier.secrets origin.secretId = some origin.secret

/-- Only the resolver brings in something new, and that is current. -/
theorem SecretWorld.everyOrigin {event : ServiceEvent}
    (stepped : SecretWorld builtins settings source event target)
    {property : SecretOrigin → Prop}
    (current : ∀ secretId secret, source.secrets secretId = some secret →
      property ⟨secretId, secret, none⟩)
    (every : EveryOrigin property source) : EveryOrigin property target := by
  -- One list of origins is exchanged for another.
  have update : ∀ {κ : Type} [DecidableEq κ] (records : κ → List SecretOrigin)
      (key : κ) (value : List SecretOrigin),
      (∀ key, ∀ origin ∈ records key, property origin) →
      (∀ origin ∈ value, property origin) →
      ∀ other, ∀ origin ∈ Function.update records key value other,
        property origin := by
    intro κ _ records key value old new other
    by_cases same : other = key
    · rw [same, Function.update_self]
      exact new
    · rw [Function.update_of_ne same]
      exact old other
  rcases stepped with ⟨next, _, recorded⟩
  cases recorded with
  | resolved tenantId integration secretId new value =>
      refine ⟨?_, every.minted, every.token⟩
      dsimp only
      split
      · apply update _ _ _ every.origins
        intro origin member
        rcases List.mem_map.mp member with ⟨secret, held, rfl⟩
        exact current secretId secret (Option.mem_toList.mp held)
      · exact every.origins
  | copied ref new =>
      exact ⟨update _ _ _ every.origins (every.origins ref), every.minted,
        every.token⟩
  | assigned ref =>
      refine ⟨update _ _ _ every.origins ?_, every.minted, every.token⟩
      intro origin member
      rcases List.mem_append.mp member with old | new
      · exact every.origins ref origin old
      · exact every.token origin new
  | looked tenantId integration hit =>
      refine ⟨every.origins, every.minted, ?_⟩
      dsimp only
      split
      · exact every.minted _
      · exact every.token
  | remembered =>
      exact ⟨every.origins, update _ _ _ every.minted every.token, every.token⟩
  | refreshed integration creds =>
      exact ⟨every.origins, every.minted, every.origins creds⟩
  | _ => exact ⟨every.origins, every.minted, every.token⟩

/-- What is known over a history: the resolver's cache, and when every secret in
use was held. -/
structure Dated (settings : ResolverSettings) (states : List SecretState)
    (state : SecretState) : Prop where
  reached : state ∈ states
  vaulted : Vaulted settings state
  held : EveryOrigin (WasHeld states state) state

theorem Dated.start (now : Rat) (secrets : String → Option String) :
    Dated settings [SecretState.start now secrets]
      (SecretState.start now secrets) where
  reached := List.mem_singleton_self _
  vaulted := ⟨nofun, nofun⟩
  held := ⟨nofun, nofun, nofun⟩

theorem WasHeld.grow {states : List SecretState} {origin : SecretOrigin}
    (held : WasHeld states source origin) (more : List SecretState)
    (later : source.now ≤ target.now)
    (same : target.secrets = source.secrets) :
    WasHeld (states ++ more) target origin where
  current := by
    rw [same]
    exact held.current
  replaced := by
    intro replaced gone
    rcases held.replaced replaced gone with ⟨bound, earlier, member, found⟩
    exact ⟨le_trans bound later, earlier, List.mem_append_left _ member, found⟩

theorem Dated.advance {states : List SecretState}
    (dated : Dated settings states source) {elapsed : Rat}
    (forward : 0 ≤ elapsed) :
    Dated settings (states ++ [{ source with now := source.now + elapsed }])
      { source with now := source.now + elapsed } := by
  have later : source.now ≤ source.now + elapsed := by linarith
  have grown : ∀ origin, WasHeld states source origin →
      WasHeld (states ++ [{ source with now := source.now + elapsed }])
        { source with now := source.now + elapsed } origin :=
    fun origin held => held.grow _ later rfl
  refine ⟨by simp, ⟨dated.vaulted.allocated, ?_⟩, ?_⟩
  · intro secretId expiry ref listed
    rcases dated.vaulted.cached secretId expiry ref listed with
      ⟨own, bound, began⟩
    refine ⟨own, ?_, began⟩
    dsimp only
    linarith
  · exact ⟨fun ref origin member => grown _ (dated.held.origins ref _ member),
      fun key origin member => grown _ (dated.held.minted key _ member),
      fun origin member => grown _ (dated.held.token _ member)⟩

theorem SecretOrigin.replace_of_replaced {now replaced : Rat}
    {secretId : String} {origin : SecretOrigin}
    (gone : (origin.replace now secretId).replacedAt = some replaced) :
    replaced = now ∨ origin.replacedAt = some replaced := by
  unfold SecretOrigin.replace at gone
  split at gone
  next =>
    cases gone
    exact Or.inl rfl
  next => exact Or.inr gone

theorem WasHeld.rotate {states : List SecretState} {origin : SecretOrigin}
    (reached : source ∈ states) (held : WasHeld states source origin)
    {secretId : String} {secret : Option String}
    (rotated : target.secrets =
      Function.update source.secrets secretId secret)
    (same : target.now = source.now) (more : List SecretState) :
    WasHeld (states ++ more) target (origin.replace source.now secretId) := by
  unfold SecretOrigin.replace
  split
  next gone =>
    rcases gone with ⟨_, current⟩
    refine ⟨nofun, ?_⟩
    intro replaced at_
    cases at_
    exact ⟨le_of_eq same.symm, source, List.mem_append_left _ reached, rfl,
      held.current current⟩
  next kept =>
    refine ⟨?_, ?_⟩
    · intro current
      have other : origin.secretId ≠ secretId := fun equal =>
        kept ⟨equal, current⟩
      rw [rotated, Function.update_of_ne other]
      exact held.current current
    · intro replaced gone
      rcases held.replaced replaced gone with ⟨bound, earlier, member, found⟩
      exact ⟨same ▸ bound, earlier, List.mem_append_left _ member, found⟩

theorem Dated.rotate {states : List SecretState}
    (dated : Dated settings states source) (secretId : String)
    (secret : Option String) :
    Dated settings (states ++ [source.rotate secretId secret])
      (source.rotate secretId secret) := by
  by_cases same : source.secrets secretId = secret
  · have unchanged : source.rotate secretId secret = source := if_pos same
    have grown : ∀ origin, WasHeld states source origin →
        WasHeld (states ++ [source]) source origin :=
      fun origin held => held.grow _ le_rfl rfl
    rw [unchanged]
    exact ⟨by simp, dated.vaulted,
      fun ref origin member => grown _ (dated.held.origins ref _ member),
      fun key origin member => grown _ (dated.held.minted key _ member),
      fun origin member => grown _ (dated.held.token _ member)⟩
  · simp only [SecretState.rotate, if_neg same]
    refine ⟨by simp, ⟨dated.vaulted.allocated, ?_⟩, ?_, ?_, ?_⟩
    · intro id expiry ref listed
      rcases dated.vaulted.cached id expiry ref listed with ⟨own, bound, began⟩
      refine ⟨own, bound, ?_⟩
      intro origin member replaced gone
      rcases List.mem_map.mp member with ⟨old, kept, rfl⟩
      rcases SecretOrigin.replace_of_replaced gone with rfl | before
      · exact bound
      · exact began old kept replaced before
    · intro ref origin member
      rcases List.mem_map.mp member with ⟨old, kept, rfl⟩
      exact WasHeld.rotate dated.reached (dated.held.origins ref old kept)
        (by rfl) (by rfl) _
    · intro key origin member
      rcases List.mem_map.mp member with ⟨old, kept, rfl⟩
      exact WasHeld.rotate dated.reached (dated.held.minted key old kept)
        (by rfl) (by rfl) _
    · intro origin member
      rcases List.mem_map.mp member with ⟨old, kept, rfl⟩
      exact WasHeld.rotate dated.reached (dated.held.token old kept)
        (by rfl) (by rfl) _

/-- Along a call neither the clock nor the store changes, and everything in use
was held at some time. -/
theorem held_of_execution {states : List SecretState}
    {calls : List (Transition SecretState ServiceEvent)}
    (held : EveryOrigin (WasHeld states source) source)
    (execution : Execution (SecretWorld builtins settings) source calls
      target) :
    ∀ reached ∈ Execution.states source calls, reached.now = source.now ∧
      reached.secrets = source.secrets ∧
      EveryOrigin (WasHeld states source) reached := by
  apply execution.invariant_states
  · exact ⟨rfl, rfl, held⟩
  · intro call _ stepped kept
    rcases kept with ⟨now_eq, secrets_eq, every⟩
    refine ⟨stepped.now_eq.trans now_eq, stepped.secrets_eq.trans secrets_eq,
      stepped.everyOrigin ?_ every⟩
    intro secretId secret found
    rw [secrets_eq] at found
    exact ⟨fun _ => found, nofun⟩

/-- A call keeps what is known, and uses fresh credentials that were held. -/
theorem Dated.invoke {states : List SecretState}
    (dated : Dated settings states source)
    {tenantId integration operation : String} {params : List (String × Json)}
    {calls : List (Transition SecretState ServiceEvent)}
    {outcome : Except PyException IntegrationOutcome}
    (execution : Execution (SecretWorld builtins settings) source calls target)
    (run : Program.Run (Integration.invoke builtins integrations true
      integration operation params tenantId) (calls.map Transition.label)
      outcome)
    (unstale : ∀ call ∈ calls,
      FindsNoStaleToken settings call.source call.label) :
    Dated settings (states ++ [target]) target ∧
      ∀ call ∈ calls, ∀ creds, usedCreds call.label.call = some creds →
        ∀ origin ∈ call.source.origins creds,
          origin.Fresh settings source.now ∧ WasHeld states source origin := by
  have watched : Execution (WatchedWorld builtins settings) source calls
      target := execution.strengthen unstale
  have safe := (safe_invoke integrations true integration operation params
    tenantId dated.vaulted).of_execution watched run
  have along := held_of_execution dated.held execution
  refine ⟨⟨by simp, safe.2, ?_⟩, ?_⟩
  · rcases along target execution.end_mem_states with
      ⟨now_eq, secrets_eq, every⟩
    have grown : ∀ origin, WasHeld states source origin →
        WasHeld (states ++ [target]) target origin :=
      fun origin held => held.grow _ (le_of_eq now_eq.symm) secrets_eq
    exact ⟨fun ref origin member => grown _ (every.origins ref _ member),
      fun key origin member => grown _ (every.minted key _ member),
      fun origin member => grown _ (every.token _ member)⟩
  · intro call member creds used origin derives
    rcases along call.source (execution.source_mem_states member) with
      ⟨now_eq, _, every⟩
    have fresh := safe.1 call member creds used origin derives
    rw [now_eq] at fresh
    exact ⟨fresh, every.origins creds origin derives⟩

theorem dated_of_execution {now : Rat} {secrets : String → Option String}
    {history : RotationHistory}
    (execution : Execution (RotationStep builtins integrations settings)
      (SecretState.start now secrets) history state)
    (unstale : ∀ transition ∈ history,
      transition.label.FindsNoStaleToken settings) :
    Dated settings
      (Execution.states (SecretState.start now secrets) history) state := by
  apply execution.history_invariant (fun past reached =>
    Dated settings (Execution.states (SecretState.start now secrets) past)
      reached)
  · exact Dated.start now secrets
  · intro past transition member stepped dated
    have states_eq : Execution.states (SecretState.start now secrets)
          (past ++ [transition]) =
        Execution.states (SecretState.start now secrets) past ++
          [transition.target] := by
      simp [Execution.states]
    rw [states_eq]
    have unstale := unstale transition member
    rcases transition with ⟨before, act, after⟩
    dsimp only at stepped dated unstale ⊢
    cases stepped with
    | advance elapsed forward => exact dated.advance forward
    | rotate secretId secret => exact dated.rotate secretId secret
    | invoke calls run => exact (dated.invoke calls run unstale).1

/-- A fresh credential that was held was held within the window. -/
theorem WasHeld.currentWithin {states : List SecretState}
    {origin : SecretOrigin} (held : WasHeld states state origin)
    (reached : state ∈ states) (fresh : origin.Fresh settings state.now)
    (ttl : 0 ≤ settings.ttlSeconds) :
    CurrentWithin settings states state.now origin := by
  have ttl' : (0 : Rat) ≤ settings.ttlSeconds := by exact_mod_cast ttl
  cases gone : origin.replacedAt with
  | none => exact ⟨state, reached, by linarith, le_rfl, held.current gone⟩
  | some replaced =>
      rcases held.replaced replaced gone with
        ⟨bound, earlier, member, rfl, found⟩
      have window := fresh _ gone
      exact ⟨earlier, member, by linarith, bound, found⟩

/-- In a history whose look-ups in the token cache find no token that has outlived
its secret by more than the TTL, every credential in use derives from a string
that was current within the TTL. -/
theorem credentials_current_within_ttl {now : Rat}
    {secrets : String → Option String} {history : RotationHistory}
    (execution : Execution (RotationStep builtins integrations settings)
      (SecretState.start now secrets) history state)
    (ttl : 0 ≤ settings.ttlSeconds)
    (unstale : ∀ transition ∈ history,
      transition.label.FindsNoStaleToken settings) :
    UsesCurrentSecrets settings (SecretState.start now secrets) history := by
  intro before after transition split tenantId integration operation params
    calls outcome invoked call member creds used origin derives
  subst split
  rcases execution.split with ⟨earlier, stepped, _⟩
  have dated := dated_of_execution earlier fun transition member =>
    unstale transition (List.mem_append_left _ member)
  have calls_unstale := unstale transition (by simp)
  rcases transition with ⟨source, act, target⟩
  dsimp only at invoked stepped dated calls_unstale
  subst invoked
  cases stepped with
  | invoke calls_run run =>
      have used := (dated.invoke calls_run run calls_unstale).2 call member creds
        used origin derives
      exact used.2.currentWithin dated.reached used.1 ttl

end History

/-! ## A token that outlives its secret -/

/-- The resolver of the development environment, with its default TTL. -/
def devResolver : ResolverSettings := ⟨"dev", "private-ai-workspace", 300⟩

/-- The id of the calendar secret of `acme.com`. -/
def calendarSecretId : String :=
  "private-ai-workspace/dev/integrations/acme.com/calendar"

theorem buildSecretId_calendar :
    buildSecretId devResolver.env "acme.com" "calendar" none
      devResolver.project = .ok calendarSecretId := by
  have project : checkComponent "private-ai-workspace" =
      .ok "private-ai-workspace" :=
    checkComponent_of_safe rfl (by decide) (by decide)
  have env : checkComponent "dev" = .ok "dev" :=
    checkComponent_of_safe rfl (by decide) (by decide)
  have tenant : checkComponent "acme.com" = .ok "acme.com" :=
    checkComponent_of_safe rfl (by decide) (by decide)
  have integration : checkComponent "calendar" = .ok "calendar" :=
    checkComponent_of_safe rfl (by decide) (by decide)
  exact buildSecretId_of_safe project env tenant integration

/-- A mapping that is not in use yet, among the first few. -/
def unusedRef (state : SecretState) : MappingRef :=
  ((List.range 16).find? fun ref => (state.heap ref).isNone).getD 0

/-- A world of one calendar, whose secret is fetched on every call and whose access
tokens last an hour. -/
def hourlyTokens (builtins : Builtins) (state : SecretState) :
    (request : Services.Call) →
      Option (Except PyException (Services.Answer request) × SecretState)
  | .resolveSecret tenantId integration =>
      let new := unusedRef state
      let expired := (state.secretCache.get? calendarSecretId).all
        (¬ state.now < ·.1)
      match fetchSecret builtins devResolver state.now
          (fun id => .ok (state.secrets id)) new state.secretCache
          calendarSecretId,
        parseSecretString builtins (state.secrets calendarSecretId) with
      | .ok (some ref, cache), .ok (some content) =>
          if (tenantId, integration) = ("acme.com", "calendar") ∧ expired ∧
              (state.heap new).isNone ∧ ref = new then
            some (.ok (some new),
              { state with
                toExecutorState :=
                  { state.write new content with
                    resolved := new :: state.resolved }
                secretCache := cache
                origins := Function.update state.origins new
                  ((state.secrets calendarSecretId).toList.map
                    (⟨calendarSecretId, ·, none⟩)) })
          else none
      | _, _ => none
  | .readMapping ref =>
      match state.heap ref with
      | none => none
      | some content => some (.ok content, state)
  | .copyMapping ref =>
      let new := unusedRef state
      match state.heap ref with
      | none => none
      | some content =>
          if (state.heap new).isNone then
            some (.ok new,
              { state with
                toExecutorState := state.write new content
                origins := Function.update state.origins new
                  (state.origins ref) })
          else none
  | .setItem ref key value =>
      match state.heap ref with
      | none => none
      | some content =>
          some (.ok (),
            { state with
              toExecutorState := state.write ref (content.insert key value)
              origins := Function.update state.origins ref
                (state.origins ref ++ state.token) })
  | .clock => some (.ok state.now, state)
  | .cacheGet tenantId integration =>
      let hit := state.cache.get? (tenantId, integration)
      some (.ok hit,
        { state with
          token :=
            if hit.any (state.now < ·.2) then state.minted (tenantId, integration)
            else state.token })
  | .cacheSet tenantId integration token expiry =>
      some (.ok (),
        { state with
          cache := state.cache.insert (tenantId, integration) (token, expiry)
          minted := Function.update state.minted (tenantId, integration)
            state.token })
  | .buildRefresh _ creds =>
      some (.ok tokenRequest,
        { state with
          toExecutorState := state.write creds refreshable
          token := state.origins creds })
  | .buildRequest _ _ _ (some creds) =>
      some (.ok ⟨"GET", "https://www.googleapis.com/calendar/v3", [], none, false⟩,
        { state with toExecutorState := state.write creds refreshable })
  | .getaddrinfo _ _ => some (.ok ["93.184.215.14"], state)
  | .guardedOpen _ _ _ _ => some (.ok ⟨200, [], []⟩, state)
  | .parseToken _ _ _ => some (.ok (some "at-1", (3600 : Int)), state)
  | _ => none

theorem hourlyTokens_sound (builtins : Builtins) (state : SecretState)
    (request : Services.Call)
    (answer : Except PyException (Services.Answer request)) (next : SecretState)
    (answered : hourlyTokens builtins state request = some (answer, next)) :
    SecretWorld builtins devResolver state ⟨request, answer⟩ next := by
  cases request with
  | resolveSecret tenantId integration =>
      simp only [hourlyTokens] at answered
      split at answered
      next ref cache content found parsed =>
        split at answered
        next met =>
          rcases met with ⟨user, expired, free, rfl⟩
          cases user
          cases answered
          have unused := Option.isNone_iff_eq_none.mp free
          have filled : (state.write (unusedRef state) content).heap
              (unusedRef state) = some content :=
            state.write_heap_self (unusedRef state) content
          rw [← resolver_of_expired buildSecretId_calendar] at found
          · have recorded := @SecretStep.resolved builtins devResolver state
              { state.write (unusedRef state) content with
                resolved := unusedRef state :: state.resolved }
              "acme.com" "calendar" calendarSecretId (unusedRef state)
              (some (unusedRef state)) cache unused buildSecretId_calendar found
              fun _ => parsed.trans (congrArg Except.ok filled.symm)
            rw [if_pos rfl] at recorded
            exact ⟨_, .created _ _ _ content unused, recorded⟩
          · intro expiry value listed
            rw [listed] at expired
            simpa using expired
        next => cases answered
      next => cases answered
  | readMapping ref =>
      simp only [hourlyTokens] at answered
      split at answered
      next => cases answered
      next content found =>
        cases answered
        exact ⟨_, .read ref content found, .other _ id⟩
  | copyMapping ref =>
      simp only [hourlyTokens] at answered
      split at answered
      next => cases answered
      next content found =>
        split at answered
        next free =>
          cases answered
          exact ⟨_, .copied ref _ content found
            (Option.isNone_iff_eq_none.mp free), .copied ref _⟩
        next => cases answered
  | setItem ref key value =>
      simp only [hourlyTokens] at answered
      split at answered
      next => cases answered
      next content found =>
        cases answered
        exact ⟨_, .assigned ref key value content found,
          .assigned ref key value⟩
  | clock =>
      cases answered
      exact ⟨_, .other _ id, .clock⟩
  | cacheGet tenantId integration =>
      cases answered
      exact ⟨_, .cacheGet tenantId integration, .looked tenantId integration _⟩
  | cacheSet tenantId integration token expiry =>
      cases answered
      exact ⟨_, .cacheSet tenantId integration token expiry,
        .remembered tenantId integration token expiry⟩
  | buildRefresh integration creds =>
      cases answered
      exact ⟨_, .refreshBuilt integration creds _ refreshable,
        .refreshed integration creds _⟩
  | buildRequest integration operation params creds =>
      cases creds with
      | none => cases answered
      | some creds =>
          cases answered
          exact ⟨_, .requestBuilt integration operation params creds _
            refreshable, .other _ id⟩
  | getaddrinfo | guardedOpen | parseToken =>
      cases answered
      exact ⟨_, .other _ id, .other _ id⟩
  | _ => cases answered

/-- The secret is `"first"` at the start. -/
def beforeRotation : SecretState :=
  SecretState.start 0 fun id =>
    if id = calendarSecretId then some "first" else none

/-- Serve one call of `listEvents`. -/
def serveListEvents (state : SecretState) :
    List (Transition SecretState ServiceEvent) ×
      Except PyException IntegrationOutcome × SecretState :=
  (listEvents.serve (hourlyTokens (.sample [])) state).getD
    ([], .error .valueError, state)

/-- The state after a call, a rotation and some time. -/
def afterRotation (elapsed : Rat) : SecretState :=
  let rotated := (serveListEvents beforeRotation).2.2.rotate calendarSecretId
    (some "second")
  { rotated with now := rotated.now + elapsed }

/-- A call, a rotation, some time, and another call. -/
def callsApart (elapsed : Rat) : RotationHistory :=
  let first := serveListEvents beforeRotation
  let second := serveListEvents (afterRotation elapsed)
  let rotated := first.2.2.rotate calendarSecretId (some "second")
  [⟨beforeRotation, .invoke "acme.com" "calendar" "list_events" [] first.1
      first.2.1, first.2.2⟩,
    ⟨first.2.2, .rotate calendarSecretId (some "second"), rotated⟩,
    ⟨rotated, .advance elapsed, afterRotation elapsed⟩,
    ⟨afterRotation elapsed, .invoke "acme.com" "calendar" "list_events" []
      second.1 second.2.1, second.2.2⟩]

theorem serveListEvents_step {state : SecretState}
    (answered : (listEvents.serve (hourlyTokens (.sample []))
      state).isSome = true) :
    RotationStep (.sample []) calendarOnly devResolver state
      (.invoke "acme.com" "calendar" "list_events" [] (serveListEvents state).1
        (serveListEvents state).2.1) (serveListEvents state).2.2 := by
  rcases Option.isSome_iff_exists.mp answered with ⟨served, equal⟩
  have found : listEvents.serve (hourlyTokens (.sample [])) state =
      some (serveListEvents state) := by
    rw [serveListEvents, equal]
    rfl
  have ran := Program.of_serve (hourlyTokens_sound (.sample [])) found
  exact .invoke ran.1 ran.2

theorem callsApart_execution {elapsed : Rat} (forward : 0 ≤ elapsed)
    (answered : (listEvents.serve (hourlyTokens (.sample []))
      (afterRotation elapsed)).isSome = true) :
    Execution (RotationStep (.sample []) calendarOnly devResolver)
      beforeRotation (callsApart elapsed)
      (serveListEvents (afterRotation elapsed)).2.2 :=
  .cons (serveListEvents_step (by decide +kernel))
    (.cons (.rotate _ _ _)
      (.cons (.advance _ _ forward)
        (.cons (serveListEvents_step answered) (.nil _))))

/-- The call finds no live token. -/
def findsNothing (state : SecretState) : ServiceEvent → Bool
  | ⟨.cacheGet _ _, .ok (some (_, expiry))⟩ => expiry ≤ state.now
  | _ => true

theorem findsNoStaleToken_of_nothing {calls : List (Transition SecretState
      ServiceEvent)}
    (nothing : (calls.all fun call => findsNothing call.source call.label) =
      true) :
    ∀ call ∈ calls, FindsNoStaleToken devResolver call.source call.label := by
  intro call member tenantId integration token expiry found live
  have expired := List.all_eq_true.mp nothing call member
  rw [found] at expired
  exact absurd live (not_lt.mpr (of_decide_eq_true expired))

/-- After four thousand seconds the token is gone, and so is the first secret. -/
theorem credentials_current_within_ttl_callsApart :
    UsesCurrentSecrets devResolver beforeRotation (callsApart 4000) := by
  refine credentials_current_within_ttl
    (callsApart_execution (by decide) (by decide +kernel)) (by decide) ?_
  intro transition member
  simp only [callsApart, List.mem_cons, List.not_mem_nil, or_false] at member
  rcases member with rfl | rfl | rfl | rfl
  · exact findsNoStaleToken_of_nothing (by decide +kernel)
  · trivial
  · trivial
  · exact findsNoStaleToken_of_nothing (by decide +kernel)

/-- After a thousand seconds the token of the first secret is still used. -/
theorem not_usesCurrentSecrets_callsApart :
    Execution (RotationStep (.sample []) calendarOnly devResolver)
      beforeRotation (callsApart 1000)
      (serveListEvents (afterRotation 1000)).2.2 ∧
    ¬ UsesCurrentSecrets devResolver beforeRotation (callsApart 1000) := by
  refine ⟨callsApart_execution (by decide) (by decide +kernel), ?_⟩
  intro current
  have seen : ((serveListEvents (afterRotation 1000)).1.any fun call =>
      (usedCreds call.label.call).any fun creds =>
        (call.source.origins creds).any fun origin =>
          origin.secretId = calendarSecretId && origin.secret = "first") =
      true := by
    decide +kernel
  have gone : ((Execution.states beforeRotation ((callsApart 1000).take 3)).all
      fun state => state.now < 700 ||
        state.secrets calendarSecretId ≠ some "first") = true := by
    decide +kernel
  have begins : (afterRotation 1000).now - devResolver.ttlSeconds = 700 := by
    decide +kernel
  rcases List.any_eq_true.mp seen with ⟨call, member, seen⟩
  rcases (Option.any_eq_true _ _).mp seen with ⟨creds, uses, seen⟩
  rcases List.any_eq_true.mp seen with ⟨origin, derives, first⟩
  rw [Bool.and_eq_true, decide_eq_true_eq, decide_eq_true_eq] at first
  rcases current ((callsApart 1000).take 3) [] _ rfl _ _ _ _ _ _ rfl call member
    creds uses origin derives with ⟨state, reached, window, _, held⟩
  change (afterRotation 1000).now - devResolver.ttlSeconds ≤ state.now at window
  rw [begins] at window
  rw [first.1, first.2] at held
  have known := List.all_eq_true.mp gone state reached
  rw [Bool.or_eq_true, decide_eq_true_eq, decide_eq_true_eq] at known
  rcases known with early | other
  · exact absurd window (not_le.mpr early)
  · exact other held

end PrivateAiWorkspace.ControlPlane
