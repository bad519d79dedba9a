import PrivateAiWorkspace.ControlPlane.Media
import PrivateAiWorkspace.Lists.Separated

/-!
# Artifacts of the media services

Which objects of the bucket a principal writes and addresses. The key of an
artifact joins tenant, user and id with slashes. An id has no slash, but a tenant
and a subject may: two principals share their keys exactly when one tenant goes
on, after a slash, with what the other subject starts with.
-/

namespace PrivateAiWorkspace.ControlPlane

open Effects Python

/-! ## Keys -/

/-- The key an executor builds for a principal. -/
def Caller.key (caller : Caller) (artifactId : String) : String :=
  artifactKey caller.tenantId caller.userId artifactId

/-- Two principals run into each other: one tenant is the other, a slash and
more, and the other subject is that more, a slash and the one subject. -/
def Entangled (one other : Caller) : Prop :=
  ∃ middle : String,
    other.tenantId = one.tenantId ++ "/" ++ middle ∧
    one.userId = middle ++ "/" ++ other.userId

theorem slash_notMem_of_safe {artifactId : String}
    (safe : safeArtifactId artifactId = true) : '/' ∉ artifactId.toList := by
  have part : ∀ text : List Char,
      (Pattern.run Pattern.alphanumeric
        (Pattern.alphanumeric ++ ['.', '_', '-'])).rmatch text = true →
      '/' ∉ text := by
    intro text matched member
    rcases Pattern.rmatch_run_iff.mp matched with ⟨c, more, rfl, first, rest⟩
    rcases List.mem_cons.mp member with rfl | later
    · exact absurd first (by decide)
    · exact absurd (rest '/' later) (by decide)
  simp only [safeArtifactId, Pattern.matchesWhole, Bool.and_eq_true,
    Bool.or_eq_true] at safe
  rcases safe.1 with whole | ⟨ended, matched⟩
  · exact part _ whole
  · -- The text before the line feed has no slash, nor is the line feed one.
    intro member
    rcases List.getLast?_eq_some_iff.mp (by simpa using ended) with
      ⟨initial, text_eq⟩
    rw [text_eq, List.dropLast_concat] at matched
    rw [text_eq, List.mem_append] at member
    rcases member with inside | last
    · exact part _ matched inside
    · simp at last

/-- The key of a safe id tells the id and the joined principal. -/
theorem key_eq_key_iff {one other : Caller} {a b : String}
    (safeA : safeArtifactId a = true) (safeB : safeArtifactId b = true) :
    one.key a = other.key b ↔
      one.tenantId ++ "/" ++ one.userId = other.tenantId ++ "/" ++ other.userId ∧
        a = b := by
  have shape : ∀ (caller : Caller) (id : String),
      (caller.key id).toList = "media/".toList ++
        ((caller.tenantId ++ "/" ++ caller.userId).toList ++ '/' :: id.toList ++
          ".bin".toList) := by
    intro caller id
    simp [Caller.key, artifactKey]
  rw [← String.toList_inj, shape, shape, List.append_cancel_left_eq,
    List.append_cancel_right_eq,
    Lists.append_cons_inj (slash_notMem_of_safe safeA)
      (slash_notMem_of_safe safeB),
    String.toList_inj, String.toList_inj]

theorem entangled_iff {one other : Caller} :
    Entangled one other ↔
      ∃ middle : List Char,
        other.tenantId.toList = one.tenantId.toList ++ '/' :: middle ∧
        one.userId.toList = middle ++ '/' :: other.userId.toList := by
  constructor
  · rintro ⟨middle, tenant, user⟩
    exact ⟨middle.toList, by simp [tenant], by simp [user]⟩
  · rintro ⟨middle, tenant, user⟩
    refine ⟨String.ofList middle, ?_, ?_⟩
    · rw [← String.toList_inj, tenant]
      simp
    · rw [← String.toList_inj, user]
      simp

/-- Two principals are joined to the same text when they are the same or run into
each other. -/
theorem joined_eq_iff {one other : Caller} :
    one.tenantId ++ "/" ++ one.userId = other.tenantId ++ "/" ++ other.userId ↔
      one = other ∨ Entangled one other ∨ Entangled other one := by
  have shape : ∀ caller : Caller,
      (caller.tenantId ++ "/" ++ caller.userId).toList =
        caller.tenantId.toList ++ '/' :: caller.userId.toList := by
    intro caller
    simp
  have parts : one = other ↔
      one.tenantId.toList = other.tenantId.toList ∧
        one.userId.toList = other.userId.toList := by
    rw [String.toList_inj, String.toList_inj]
    rcases one with ⟨tenant, user⟩
    rcases other with ⟨tenant', user'⟩
    simp
  rw [← String.toList_inj, shape, shape, Lists.append_cons_eq_append_cons_iff,
    parts, entangled_iff, entangled_iff]

/-! ## What is written and addressed -/

/-- A principal of verified claims. -/
def principal (lower : String → String) (claims : TokenClaims) : Caller :=
  ⟨extractTenantId lower claims, claims.subject⟩

/-- Every object put is put under a key of the principal, for an id generated
before. -/
def PutsFor (caller : Caller) (past : List ServiceEvent) :
    Services.Call → Prop
  | .putObject key _ _ => ∃ id : String,
      (⟨ServiceCall.uuid4, (.ok id : Except PyException String)⟩ : ServiceEvent) ∈
        past ∧ key = caller.key id
  | _ => True

theorem putsFor_storeArtifact (executor : MediaExecutor) (defaultType : String)
    (caller : Caller) (response : MediaResponse) (past : List ServiceEvent) :
    Program.Guarded (PutsFor caller) past
      (executor.storeArtifact defaultType caller.tenantId caller.userId
        response) := by
  apply Program.Guarded.callThen trivial
  intro artifactId
  dsimp only
  split
  · trivial
  · apply Program.Guarded.attemptThen
    · exact ⟨artifactId, List.mem_append_right _ List.mem_cons_self, rfl⟩
    · intro answer
      cases answer <;> trivial

theorem putsFor_produce (executor : MediaExecutor) (kind : MediaKind)
    (path defaultType : String) (payload : MediaService → List (String × Json))
    (service : String) (caller : Caller) :
    Program.Guarded (PutsFor caller) []
      (executor.produce kind path defaultType payload service caller.tenantId
        caller.userId) := by
  unfold MediaExecutor.produce
  cases executor.services.lookup service with
  | none => trivial
  | some spec =>
      dsimp only
      split
      · trivial
      · apply Program.Guarded.bind
        · apply Program.Guarded.attemptThen trivial
          intro answer
          split
          all_goals try trivial
          split <;> trivial
        · intro more outcome _
          cases outcome with
          | error failure => trivial
          | ok response => exact putsFor_storeArtifact executor _ _ _ _

/-- A generation or synthesis for the principal puts an object under the key;
the ids that are generated have the form of ids. -/
inductive Writes (caller : Caller) (key : String) : Prop where
  | generate (executor : MediaExecutor) (service prompt : String)
      (params : List (String × Json)) (events : List ServiceEvent)
      (result : Except PyException MediaOutcome) (body : Bytes)
      (contentType : String) (answer : Except PyException Unit) :
      Program.Run (executor.generate service prompt params caller.tenantId
        caller.userId) events result →
      (∀ id : String, ⟨ServiceCall.uuid4, .ok id⟩ ∈ events → safeArtifactId id) →
      ⟨ServiceCall.putObject key body contentType, answer⟩ ∈ events →
      Writes caller key
  | synthesize (executor : MediaExecutor) (service text : String)
      (params : List (String × Json)) (events : List ServiceEvent)
      (result : Except PyException MediaOutcome) (body : Bytes)
      (contentType : String) (answer : Except PyException Unit) :
      Program.Run (executor.synthesize service text params caller.tenantId
        caller.userId) events result →
      (∀ id : String, ⟨ServiceCall.uuid4, .ok id⟩ ∈ events → safeArtifactId id) →
      ⟨ServiceCall.putObject key body contentType, answer⟩ ∈ events →
      Writes caller key

/-- An object is put under the key of a safe id. -/
theorem Writes.key {caller : Caller} {key : String} (writes : Writes caller key) :
    ∃ id, safeArtifactId id = true ∧ key = caller.key id := by
  have located : ∀ {program : Service MediaOutcome} {events : List ServiceEvent}
      {result : Except PyException MediaOutcome} {body : Bytes}
      {contentType : String} {answer : Except PyException Unit},
      Program.Guarded (PutsFor caller) [] program →
      Program.Run program events result →
      (∀ id : String, ⟨ServiceCall.uuid4, .ok id⟩ ∈ events → safeArtifactId id) →
      ⟨ServiceCall.putObject key body contentType, answer⟩ ∈ events →
      ∃ id, safeArtifactId id = true ∧ key = caller.key id := by
    intro program events result body contentType answer guarded run safe put
    rcases List.append_of_mem put with ⟨before, after, split⟩
    rcases guarded.of_run run split with ⟨id, generated, key_eq⟩
    refine ⟨id, safe id ?_, key_eq⟩
    rw [split]
    exact List.mem_append_left _ generated
  cases writes with
  | generate executor service prompt params events result body contentType answer
      run safe put =>
      exact located (putsFor_produce executor _ _ _ _ _ caller) run safe put
  | synthesize executor service text params events result body contentType answer
      run safe put =>
      exact located (putsFor_produce executor _ _ _ _ _ caller) run safe put

/-- A call addresses an object for reading. -/
def addressedKey : Services.Call → Option String
  | .generatePresignedUrl key _ => some key
  | .getObjectWithType key => some key
  | _ => none

/-- A request of the principal for an artifact or its URL addresses the key. -/
inductive Addresses (caller : Caller) (key : String) : Prop where
  | url (builtins : Builtins) (authorization : Option String)
      (artifactId : String) (tokenVerifier : Option TokenVerifier)
      (executor : MediaExecutor) (claims : TokenClaims)
      (events : List ServiceEvent) (result : Except PyException JsonResponse)
      (event : ServiceEvent) :
      verifyAndExtract builtins.lower authorization tokenVerifier =
        .ok (.ok claims) →
      principal builtins.lower claims = caller →
      Program.Run (buildMediaArtifactResponse builtins authorization artifactId
        tokenVerifier executor) events result →
      event ∈ events → addressedKey event.call = some key →
      Addresses caller key
  | content (builtins : Builtins) (authorization : Option String)
      (artifactId : String) (tokenVerifier : Option TokenVerifier)
      (executor : MediaExecutor) (claims : TokenClaims)
      (events : List ServiceEvent) (result : Except PyException RawResponse)
      (event : ServiceEvent) :
      verifyAndExtract builtins.lower authorization tokenVerifier =
        .ok (.ok claims) →
      principal builtins.lower claims = caller →
      Program.Run (buildMediaArtifactContent builtins authorization artifactId
        tokenVerifier executor) events result →
      event ∈ events → addressedKey event.call = some key →
      Addresses caller key

/-- Every object addressed is addressed by the key of a principal for a safe
id. -/
def ReadsFor (caller : Caller) (call : Services.Call) : Prop :=
  ∀ key, addressedKey call = some key →
    ∃ id, safeArtifactId id = true ∧ key = caller.key id

section Reads

variable {builtins : Builtins} {authorization : Option String}
  {tokenVerifier : Option TokenVerifier} {claims : TokenClaims}

/-- A verified request goes on as its principal when its id is safe. -/
theorem readArtifactRequest_of_verified {ρ : Type}
    (verified : verifyAndExtract builtins.lower authorization tokenVerifier =
      .ok (.ok claims)) (artifactId : String) (refused : JsonResponse → ρ)
    (unsafeId : ρ) :
    readArtifactRequest builtins authorization artifactId tokenVerifier refused
        unsafeId =
      .ok (if safeArtifactId artifactId then
        .ok (principal builtins.lower claims) else .error unsafeId) := by
  unfold readArtifactRequest
  rw [verified]
  change (if safeArtifactId artifactId = true then _ else _) = _
  split <;> rfl

theorem readsFor_artifactResponse (executor : MediaExecutor)
    (artifactId : String)
    (verified : verifyAndExtract builtins.lower authorization tokenVerifier =
      .ok (.ok claims)) :
    Program.Guarded (fun _ => ReadsFor (principal builtins.lower claims)) []
      (buildMediaArtifactResponse builtins authorization artifactId
        tokenVerifier executor) := by
  unfold buildMediaArtifactResponse
  rw [readArtifactRequest_of_verified verified]
  split
  next safe =>
    simp only [Program.ofExcept_ok, Program.bind_eq, Program.ret_bind]
    apply Program.Guarded.bind
    · unfold MediaExecutor.artifactUrl
      split
      · trivial
      · apply Program.Guarded.attemptThen
        · rintro key ⟨⟩
          exact ⟨artifactId, safe, rfl⟩
        · intro answer
          cases answer <;> trivial
    · intro more url _
      cases url <;> trivial
  next => trivial

theorem readsFor_artifactContent (executor : MediaExecutor)
    (artifactId : String)
    (verified : verifyAndExtract builtins.lower authorization tokenVerifier =
      .ok (.ok claims)) :
    Program.Guarded (fun _ => ReadsFor (principal builtins.lower claims)) []
      (buildMediaArtifactContent builtins authorization artifactId
        tokenVerifier executor) := by
  unfold buildMediaArtifactContent
  rw [readArtifactRequest_of_verified verified]
  split
  next safe =>
    simp only [Program.ofExcept_ok, Program.bind_eq, Program.ret_bind]
    apply Program.Guarded.bind
    · unfold MediaExecutor.artifactBytes
      split
      · trivial
      · apply Program.Guarded.attemptThen
        · rintro key ⟨⟩
          exact ⟨artifactId, safe, rfl⟩
        · intro answer
          cases answer <;> trivial
    · intro more object _
      cases object <;> trivial
  next => trivial

end Reads

/-- A request addresses an object by the key of a safe id. -/
theorem Addresses.key {caller : Caller} {key : String}
    (addresses : Addresses caller key) :
    ∃ id, safeArtifactId id = true ∧ key = caller.key id := by
  cases addresses with
  | url builtins authorization artifactId tokenVerifier executor claims events
      result event verified same run member addressed =>
      subst same
      rcases List.append_of_mem member with ⟨before, after, split⟩
      exact (readsFor_artifactResponse executor artifactId verified).of_run run
        split key addressed
  | content builtins authorization artifactId tokenVerifier executor claims
      events result event verified same run member addressed =>
      subst same
      rcases List.append_of_mem member with ⟨before, after, split⟩
      exact (readsFor_artifactContent executor artifactId verified).of_run run
        split key addressed

/-! ## Isolation -/

/-- Two principals have no key in common, and so neither a read nor a URL request
of the other addresses an object written for the one, exactly when neither of
them runs into the other. -/
theorem artifacts_isolated_iff {one other : Caller} (different : one ≠ other) :
    ((∀ a b, safeArtifactId a = true → safeArtifactId b = true →
        one.key a ≠ other.key b) ∧
      ∀ key, Writes one key → ¬ Addresses other key) ↔
    ¬ Entangled one other ∧ ¬ Entangled other one := by
  constructor
  · intro isolated
    have apart : ¬ (Entangled one other ∨ Entangled other one) := by
      intro entangled
      have safe : safeArtifactId "a" = true := by decide +kernel
      have joined := joined_eq_iff.mpr (Or.inr entangled)
      exact isolated.1 "a" "a" safe safe
        ((key_eq_key_iff safe safe).mpr ⟨joined, rfl⟩)
    exact not_or.mp apart
  · rintro ⟨forward, backward⟩
    have distinct : ∀ a b, safeArtifactId a = true → safeArtifactId b = true →
        one.key a ≠ other.key b := by
      intro a b safeA safeB same
      have joined := ((key_eq_key_iff safeA safeB).mp same).1
      rcases joined_eq_iff.mp joined with equal | entangled | entangled
      · exact different equal
      · exact forward entangled
      · exact backward entangled
    refine ⟨distinct, ?_⟩
    intro key writes addresses
    rcases writes.key with ⟨a, safeA, written⟩
    rcases addresses.key with ⟨b, safeB, addressed⟩
    exact distinct a b safeA safeB (written.symm.trans addressed)

/-- Two users of one tenant. -/
theorem artifacts_isolated_iff_colleagues :
    ((∀ a b, safeArtifactId a = true → safeArtifactId b = true →
        Caller.key ⟨"acme.com", "ana"⟩ a ≠ Caller.key ⟨"acme.com", "bob"⟩ b) ∧
      ∀ key, Writes ⟨"acme.com", "ana"⟩ key →
        ¬ Addresses ⟨"acme.com", "bob"⟩ key) ↔
    ¬ Entangled ⟨"acme.com", "ana"⟩ ⟨"acme.com", "bob"⟩ ∧
      ¬ Entangled ⟨"acme.com", "bob"⟩ ⟨"acme.com", "ana"⟩ :=
  artifacts_isolated_iff (by simp)

/-- A tenant with a slash: user `b/c` of tenant `a` and user `c` of tenant `a/b`
have the same keys. -/
theorem artifacts_shared :
    ¬ ∀ claims claims' : TokenClaims,
      Str.contains claims.email "@" = true →
      Str.contains claims'.email "@" = true →
      claims.subject ≠ "" → claims'.subject ≠ "" →
      principal Str.asciiLower claims ≠ principal Str.asciiLower claims' →
      ∀ a b, safeArtifactId a = true → safeArtifactId b = true →
        (principal Str.asciiLower claims).key a ≠
          (principal Str.asciiLower claims').key b := by
  intro distinct
  exact distinct ⟨"b/c", "ana@a", []⟩ ⟨"c", "bob@a/b", []⟩ (by decide)
    (by decide) (by decide) (by decide) (by simp [principal]) "x" "x"
    (by decide +kernel) (by decide +kernel) (by decide)

end PrivateAiWorkspace.ControlPlane
