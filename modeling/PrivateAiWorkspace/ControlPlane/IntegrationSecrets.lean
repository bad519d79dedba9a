import PrivateAiWorkspace.ControlPlane.Services
import PrivateAiWorkspace.Python.Pattern

/-!
# Integration secrets

`integration_secrets.py`: the id of a tenant's secret, what a secret string is
parsed into, and the resolver that keeps what it has fetched for a while.
-/

namespace PrivateAiWorkspace.ControlPlane

open Python

/-- `IntegrationSecretError`. -/
def integrationSecretError : PyException := .other "IntegrationSecretError"

/-- `[A-Za-z0-9._-]`. -/
def componentChars : List Char := Pattern.alphanumeric ++ ['.', '_', '-']

/-- `_SAFE_COMPONENT`. -/
def safeComponent : RegularExpression Char :=
  Pattern.run Pattern.alphanumeric componentChars

/-- `_check`. -/
def checkComponent (component : String) : Except PyException String :=
  if component = "" || !Pattern.matchesWhole safeComponent component then
    .error integrationSecretError
  else .ok component

/-- A component of safe characters passes. -/
theorem checkComponent_of_safe {component : String} {first : Char}
    {rest : List Char} (spelled : component.toList = first :: rest)
    (starts : first ∈ Pattern.alphanumeric)
    (goes : ∀ c ∈ rest, c ∈ componentChars) :
    checkComponent component = .ok component := by
  have given : component ≠ "" := by
    intro empty
    rw [empty] at spelled
    cases spelled
  have matched : Pattern.matchesWhole safeComponent component = true := by
    unfold Pattern.matchesWhole
    rw [Bool.or_eq_true]
    exact Or.inl (Pattern.rmatch_run_iff.mpr ⟨first, rest, spelled, starts, goes⟩)
  simp [checkComponent, given, matched]

/-- `build_secret_id`. -/
def buildSecretId (env tenant integration : String) (user : Option String)
    (project : String) : Except PyException String := do
  let project ← checkComponent project
  let env ← checkComponent env
  let tenant ← checkComponent tenant
  let integration ← checkComponent integration
  let parts := [project, env, "integrations", tenant, integration]
  match user with
  | none => return "/".intercalate parts
  | some user => return "/".intercalate (parts ++ [← checkComponent user])

/-- Components that pass make an id. -/
theorem buildSecretId_of_safe {env tenant integration project : String}
    (safeProject : checkComponent project = .ok project)
    (safeEnv : checkComponent env = .ok env)
    (safeTenant : checkComponent tenant = .ok tenant)
    (safeIntegration : checkComponent integration = .ok integration) :
    buildSecretId env tenant integration none project =
      .ok ("/".intercalate
        [project, env, "integrations", tenant, integration]) := by
  simp only [buildSecretId, safeProject, safeEnv, safeTenant, safeIntegration,
    bind, Except.bind]
  rfl

/-- `_parse_secret_string`. -/
def parseSecretString (builtins : Builtins) :
    Option String → Except PyException (Option (Dict String String))
  | none => .ok none
  | some raw =>
      match builtins.loads raw with
      | .error .valueError => .ok (some (Dict.empty.insert "value" raw))
      | .error error => .error error
      | .ok (.obj fields) =>
          .ok (some (fields.foldl
            (fun mapping field =>
              mapping.insert field.1 (builtins.str field.2))
            .empty))
      | .ok data =>
          .ok (some (Dict.empty.insert "value" (builtins.str data)))

/-! ## The resolver -/

/-- The arguments of `build_resolver`, apart from `fetch` and `clock`. -/
structure ResolverSettings where
  env : String
  project : String
  ttlSeconds : Int

/-- `cache` of a resolver: until when a value counts, by secret id. -/
abbrev SecretCache := Dict String (Rat × Option MappingRef)

/-- The part of `resolver` that fetches a secret and remembers it: the parsed
mapping is a new object. -/
def fetchSecret (builtins : Builtins) (settings : ResolverSettings) (now : Rat)
    (fetch : String → Except PyException (Option String)) (new : MappingRef)
    (cache : SecretCache) (secretId : String) :
    Except PyException (Option MappingRef × SecretCache) := do
  let value ← parseSecretString builtins (← fetch secretId)
  let value := value.map fun _ => new
  return (value, cache.insert secretId (now + settings.ttlSeconds, value))

/-- `resolver` of `build_resolver`, with the cache it leaves. -/
def resolver (builtins : Builtins) (settings : ResolverSettings) (now : Rat)
    (fetch : String → Except PyException (Option String)) (new : MappingRef)
    (cache : SecretCache) (tenantId integration : String) :
    Except PyException (Option MappingRef × SecretCache) := do
  let secretId ← buildSecretId settings.env tenantId integration none
    settings.project
  match cache.get? secretId with
  | some (expiry, value) =>
      if now < expiry then return (value, cache)
      else fetchSecret builtins settings now fetch new cache secretId
  | none => fetchSecret builtins settings now fetch new cache secretId

section Resolver

variable {builtins : Builtins} {settings : ResolverSettings} {now : Rat}
  {fetch : String → Except PyException (Option String)} {new : MappingRef}
  {cache after : SecretCache} {value : Option MappingRef}

/-- A fetched value is the new object, and there is something to parse, or there
is nothing. -/
theorem of_fetchSecret {secretId : String}
    (fetched : fetchSecret builtins settings now fetch new cache secretId =
      .ok (value, after)) :
    after = cache.insert secretId (now + settings.ttlSeconds, value) ∧
      (value = none ∨ value = some new ∧
        ∃ raw, fetch secretId = .ok (some raw)) := by
  unfold fetchSecret at fetched
  cases found : fetch secretId with
  | error error => simp [found, bind, Except.bind] at fetched
  | ok raw =>
      cases parsed : parseSecretString builtins raw with
      | error error => simp [found, parsed, bind, Except.bind] at fetched
      | ok mapping =>
          simp only [found, parsed, bind, Except.bind, pure, Except.pure,
            Except.ok.injEq, Prod.mk.injEq] at fetched
          rcases fetched with ⟨rfl, rfl⟩
          refine ⟨rfl, ?_⟩
          cases mapping with
          | none => exact Or.inl rfl
          | some content =>
              cases raw with
              | none => cases parsed
              | some raw => exact Or.inr ⟨rfl, raw, rfl⟩

/-- A value that no longer counts is fetched again. -/
theorem resolver_of_expired {tenantId integration secretId : String}
    (named : buildSecretId settings.env tenantId integration none
      settings.project = .ok secretId)
    (expired : ∀ expiry value, cache.get? secretId = some (expiry, value) →
      ¬ now < expiry) :
    resolver builtins settings now fetch new cache tenantId integration =
      fetchSecret builtins settings now fetch new cache secretId := by
  unfold resolver
  rw [named]
  simp only [bind, Except.bind]
  split
  next expiry value found => exact if_neg (expired expiry value found)
  next => rfl

/-- What the resolver returns is a value that still counts, or has just been
fetched. -/
theorem of_resolver {tenantId integration : String}
    (resolved : resolver builtins settings now fetch new cache tenantId
      integration = .ok (value, after)) :
    ∃ secretId, buildSecretId settings.env tenantId integration none
        settings.project = .ok secretId ∧
      ((∃ expiry, cache.get? secretId = some (expiry, value) ∧ now < expiry ∧
          after = cache) ∨
        after = cache.insert secretId (now + settings.ttlSeconds, value) ∧
          (value = none ∨ value = some new ∧
            ∃ raw, fetch secretId = .ok (some raw))) := by
  unfold resolver at resolved
  cases named : buildSecretId settings.env tenantId integration none
      settings.project with
  | error error => simp [named, bind, Except.bind] at resolved
  | ok secretId =>
      simp only [named, bind, Except.bind, pure, Except.pure] at resolved
      refine ⟨secretId, rfl, ?_⟩
      split at resolved
      next expiry stored found =>
        split at resolved
        next live =>
          cases resolved
          exact Or.inl ⟨expiry, found, live, rfl⟩
        next => exact Or.inr (of_fetchSecret resolved)
      next => exact Or.inr (of_fetchSecret resolved)

end Resolver

end PrivateAiWorkspace.ControlPlane
