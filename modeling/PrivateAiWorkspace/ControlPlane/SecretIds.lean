import PrivateAiWorkspace.ControlPlane.IntegrationSecrets
import PrivateAiWorkspace.Lists.Separated

/-!
# Ids of integration secrets

The ids that `build_secret_id` puts together, with and without a user, share one
namespace. No component has a slash, so an id tells its components, and it lies
below the prefix of its own tenant only.
-/

namespace PrivateAiWorkspace.ControlPlane

open Python

/-- What the id of a secret is built of. -/
structure SecretName where
  project : String
  env : String
  tenant : String
  integration : String
  user : Option String
  deriving DecidableEq

/-- The id of a secret, if all components pass. -/
def SecretName.secretId (name : SecretName) : Except PyException String :=
  buildSecretId name.env name.tenant name.integration name.user name.project

/-- The components of an id. -/
def SecretName.parts (name : SecretName) : List String :=
  [name.project, name.env, "integrations", name.tenant, name.integration] ++
    name.user.toList

/-- `<project>/<env>/integrations/<tenant>/`. -/
def tenantPrefix (project env tenant : String) : String :=
  "/".intercalate [project, env, "integrations", tenant] ++ "/"

/-- A component that passes is kept and has no slash. -/
theorem checkComponent_eq_ok {component checked : String}
    (passed : checkComponent component = .ok checked) :
    checked = component ∧ component ≠ "" ∧ '/' ∉ component.toList := by
  have clean : ∀ text : List Char, safeComponent.rmatch text = true → '/' ∉ text := by
    intro text matched member
    rcases Pattern.rmatch_run_iff.mp matched with ⟨c, more, rfl, starts, goes⟩
    rcases List.mem_cons.mp member with rfl | later
    · exact absurd starts (by decide)
    · exact absurd (goes '/' later) (by decide)
  rw [checkComponent] at passed
  split at passed
  next => cases passed
  next kept =>
    cases passed
    rw [Bool.or_eq_true, decide_eq_true_eq, not_or, Bool.not_eq_true',
      Bool.not_eq_false] at kept
    refine ⟨rfl, kept.1, ?_⟩
    rcases Pattern.matchesWhole_iff.mp kept.2 with whole | ⟨initial, text_eq, matched⟩
    · exact clean _ whole
    · -- The line feed that `$` lets pass is no slash either.
      rw [text_eq]
      intro member
      rcases List.mem_append.mp member with inside | last
      · exact clean _ matched inside
      · exact absurd last (by decide)

/-- An id joins its components, and none of them has a slash. -/
theorem secretId_eq_ok {name : SecretName} {id : String}
    (built : name.secretId = .ok id) :
    id = "/".intercalate name.parts ∧
      ∀ part ∈ name.parts, part ≠ "" ∧ '/' ∉ part.toList := by
  rcases name with ⟨project, env, tenant, integration, user⟩
  rcases value_of_bind built with ⟨_, passed, afterProject⟩
  rcases checkComponent_eq_ok passed with ⟨rfl, projectOk⟩
  rcases value_of_bind afterProject with ⟨_, passed, afterEnv⟩
  rcases checkComponent_eq_ok passed with ⟨rfl, envOk⟩
  rcases value_of_bind afterEnv with ⟨_, passed, afterTenant⟩
  rcases checkComponent_eq_ok passed with ⟨rfl, tenantOk⟩
  rcases value_of_bind afterTenant with ⟨_, passed, joined⟩
  rcases checkComponent_eq_ok passed with ⟨rfl, integrationOk⟩
  have fixed : "integrations" ≠ "" ∧ '/' ∉ "integrations".toList := by decide
  cases user with
  | none =>
      cases joined
      refine ⟨rfl, ?_⟩
      simp only [SecretName.parts, Option.toList_none, List.append_nil,
        List.forall_mem_cons]
      exact ⟨projectOk, envOk, fixed, tenantOk, integrationOk, nofun⟩
  | some user =>
      rcases value_of_bind joined with ⟨_, passed, joined'⟩
      rcases checkComponent_eq_ok passed with ⟨rfl, userOk⟩
      cases joined'
      refine ⟨rfl, ?_⟩
      simp only [SecretName.parts, Option.toList_some, List.cons_append,
        List.nil_append, List.forall_mem_cons]
      exact ⟨projectOk, envOk, fixed, tenantOk, integrationOk, userOk, nofun⟩

/-- The components tell everything. -/
theorem parts_injective {name other : SecretName} (same : name.parts = other.parts) :
    name = other := by
  rcases name with ⟨project, env, tenant, integration, user⟩
  rcases other with ⟨project', env', tenant', integration', user'⟩
  simp only [SecretName.parts, List.cons_append, List.nil_append,
    List.cons.injEq] at same
  rcases same with ⟨rfl, rfl, _, rfl, rfl, users⟩
  cases user with
  | none =>
      cases user' with
      | none => rfl
      | some user' => cases users
  | some user =>
      cases user' with
      | none => cases users
      | some user' =>
          cases users
          rfl

/-- The characters of joined components. -/
theorem toList_join (parts : List String) :
    ("/".intercalate parts).toList = ['/'].intercalate (parts.map String.toList) := by
  rw [String.toList_intercalate]
  rfl

/-- Components without a slash, as lists of characters. -/
theorem clean_of_parts {parts : List String}
    (clean : ∀ part ∈ parts, '/' ∉ part.toList) :
    ∀ part ∈ parts.map String.toList, '/' ∉ part := by
  intro part member
  rcases List.mem_map.mp member with ⟨text, inside, rfl⟩
  exact clean text inside

theorem toList_map_injective {parts parts' : List String}
    (same : parts.map String.toList = parts'.map String.toList) : parts = parts' :=
  List.map_injective_iff.mpr (fun _ _ => String.toList_inj.mp) same

/-- An id belongs to one tuple, lies strictly below the prefix of its tenant and
below that of no other tenant. -/
theorem secret_ids_confined {name : SecretName} {id : String}
    (built : name.secretId = .ok id) :
    (∀ other : SecretName, other.secretId = .ok id → other = name) ∧
    (∃ rest, rest ≠ "" ∧
      id = tenantPrefix name.project name.env name.tenant ++ rest) ∧
    ∀ project env tenant, checkComponent project = .ok project →
      checkComponent env = .ok env → checkComponent tenant = .ok tenant →
      (tenantPrefix project env tenant).toList <+: id.toList →
      project = name.project ∧ env = name.env ∧ tenant = name.tenant := by
  rcases secretId_eq_ok built with ⟨id_eq, clean⟩
  have cleanList := clean_of_parts fun part member => (clean part member).2
  have begun : name.parts.map String.toList ≠ [] := List.cons_ne_nil _ _
  refine ⟨?_, ?_, ?_⟩
  · intro other built'
    rcases secretId_eq_ok built' with ⟨id_eq', clean'⟩
    apply parts_injective
    apply toList_map_injective
    apply Lists.intercalate_inj
      (clean_of_parts fun part member => (clean' part member).2)
      (List.cons_ne_nil _ _) cleanList begun
    rw [← toList_join, ← toList_join, ← id_eq', id_eq]
  · have below := clean name.integration (by simp [SecretName.parts])
    refine ⟨"/".intercalate (name.integration :: name.user.toList), ?_, ?_⟩
    · cases name.user with
      | none => simpa using below.1
      | some user => simp [String.intercalate_cons_cons]
    · rw [id_eq, tenantPrefix, ← String.intercalate_append_of_ne_nil
        (List.cons_ne_nil _ _) (List.cons_ne_nil _ _)]
      rfl
  · intro project env tenant projectOk envOk tenantOk begins
    have cleanPrefix : ∀ part ∈ [project, env, "integrations", tenant],
        '/' ∉ part.toList := by
      simp only [List.forall_mem_cons]
      exact ⟨(checkComponent_eq_ok projectOk).2.2, (checkComponent_eq_ok envOk).2.2,
        by decide, (checkComponent_eq_ok tenantOk).2.2, nofun⟩
    rw [tenantPrefix, String.toList_append, toList_join, id_eq, toList_join] at begins
    rcases Lists.prefix_of_intercalate_prefix cleanList begun
        (clean_of_parts cleanPrefix) (List.cons_ne_nil _ _) begins with
      ⟨more, parts_eq, _⟩
    simp only [SecretName.parts, List.map_cons, List.cons_append, List.nil_append,
      List.cons.injEq, String.toList_inj] at parts_eq
    exact ⟨parts_eq.1.symm, parts_eq.2.1.symm, parts_eq.2.2.2.1.symm⟩

/-- The id of a user's own secret. -/
def mailSecret : SecretName where
  project := "private-ai-workspace"
  env := "dev"
  tenant := "tenant-a.test"
  integration := "mail"
  user := some "abc-123"

theorem secret_ids_confined_mail :
    mailSecret.secretId =
        .ok "private-ai-workspace/dev/integrations/tenant-a.test/mail/abc-123" ∧
      ∀ other : SecretName, other.secretId =
          .ok "private-ai-workspace/dev/integrations/tenant-a.test/mail/abc-123" →
        other = mailSecret := by
  have named : mailSecret.secretId =
      .ok "private-ai-workspace/dev/integrations/tenant-a.test/mail/abc-123" := by
    decide +kernel
  exact ⟨named, (secret_ids_confined named).1⟩

end PrivateAiWorkspace.ControlPlane
