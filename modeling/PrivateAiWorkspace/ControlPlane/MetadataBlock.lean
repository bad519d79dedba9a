import PrivateAiWorkspace.ControlPlane.Outbound

/-!
# The metadata block

Which resolver answers `validate_outbound_url` lets pass for a permit host. The
block goes by the text of an address, and an IPv6 address has many spellings:
another spelling of `fd00:ec2::254` is taken for a private address, and that
reason is waived.
-/

namespace PrivateAiWorkspace.ControlPlane

open Effects Python

/-- `169.254.169.254`. -/
def imdsV4 : BitVec 32 := 0xa9fea9fe

/-- `fd00:ec2::254`. -/
def imdsV6 : BitVec 128 := 0xfd000ec2000000000000000000000254

/-- A text denotes a metadata address, or the IPv4-mapped form of one. -/
def DenotesMetadata (rawIp : String) : Prop :=
  ∃ ip, IpAddress.ofString rawIp = .ok ip ∧ isMetadata ip = true

/-- A spelling of the IPv6 metadata address other than the one that is listed. -/
def Disguised (rawIp : String) : Prop :=
  rawIp ≠ "fd00:ec2::254" ∧
    ∃ scopeId, IpAddress.ofString rawIp = .ok (.v6 imdsV6 scopeId)

/-- An answer that is refused whatever host it is for: a listed spelling, no
address at all, or the IPv4-mapped form of the IPv4 metadata address. -/
def Refused (rawIp : String) : Prop :=
  rawIp ∈ metadataIps ∨ (∀ ip, IpAddress.ofString rawIp ≠ .ok ip) ∨
    ∃ ip, IpAddress.ofString rawIp = .ok ip ∧ ip.ipv4Mapped = some imdsV4

/-! ## Single answers -/

theorem v4Text_mem_metadataIps_iff {value : BitVec 32} :
    IpAddress.v4Text value ∈ metadataIps ↔ value = imdsV4 := by
  have reads : IpAddress.parseV4 (IpAddress.v4Text value).toList = some value :=
    IpAddress.parseV4_eq_some_iff.mpr rfl
  constructor
  · intro listed
    rcases List.mem_cons.mp listed with same | listed
    · rw [same] at reads
      have canonical : IpAddress.parseV4 "169.254.169.254".toList = some imdsV4 := by
        decide +kernel
      exact Option.some.inj (reads.symm.trans canonical)
    · rw [List.mem_singleton.mp listed] at reads
      have notV4 : IpAddress.parseV4 "fd00:ec2::254".toList = none := by
        decide +kernel
      cases reads.symm.trans notV4
  · intro same
    have text : IpAddress.v4Text imdsV4 = "169.254.169.254" := by decide +kernel
    rw [same, text]
    exact List.mem_cons_self

/-- Only the listed text spells the IPv4 metadata address. -/
theorem mem_metadataIps_of_v4 {rawIp : String}
    (read : IpAddress.ofString rawIp = .ok (.v4 imdsV4)) :
    rawIp ∈ metadataIps := by
  have parsed : IpAddress.parseV4 rawIp.toList = some imdsV4 := by
    rw [IpAddress.ofString] at read
    split at read
    next value parsed =>
      cases read
      exact parsed
    next =>
      dsimp only at read
      split at read
      · cases read
      · split at read <;> cases read
  rw [String.toList_injective (IpAddress.parseV4_eq_some_iff.mp parsed)]
  exact v4Text_mem_metadataIps_iff.mpr rfl

theorem mapsMetadata_iff {ip : IpAddress} :
    (ip.ipv4Mapped.any fun mapped => IpAddress.v4Text mapped ∈ metadataIps) =
      true ↔ ip.ipv4Mapped = some imdsV4 := by
  cases ip.ipv4Mapped with
  | none => simp
  | some mapped => simp [v4Text_mem_metadataIps_iff]

/-- An address is refused whatever its host exactly for the reasons that are not
waived. -/
theorem refused_iff {rawIp : String} :
    Refused rawIp ↔
      classifyIp rawIp = some .metadata ∨ classifyIp rawIp = some .malformed := by
  rw [Refused, classifyIp]
  by_cases listed : rawIp ∈ metadataIps
  · simp [listed]
  · simp only [listed, false_or, if_false]
    cases IpAddress.ofString rawIp with
    | error error => simp
    | ok ip =>
        simp only [mapsMetadata_iff, Except.ok.injEq, exists_eq_left']
        by_cases maps : ip.ipv4Mapped = some imdsV4
        · simp [maps]
        · simp only [maps, if_false, ne_eq, or_false]
          refine iff_of_false (fun unread => unread ip rfl) ?_
          split <;> simp

/-- A text that denotes a metadata address is refused, unless it is another
spelling of the IPv6 one. -/
theorem refused_or_disguised {rawIp : String} (denotes : DenotesMetadata rawIp) :
    Refused rawIp ∨ Disguised rawIp := by
  rcases denotes with ⟨ip, read, metadata⟩
  rw [isMetadata, IpAddress.classify, IpAddress.unmapped] at metadata
  cases mapped : ip.ipv4Mapped with
  | some value =>
      simp only [mapped, Option.map_some, Option.getD_some, beq_iff_eq] at metadata
      exact Or.inl (Or.inr (Or.inr ⟨ip, read, by rw [mapped, metadata]; rfl⟩))
  | none =>
      simp only [mapped, Option.map_none, Option.getD_none] at metadata
      cases ip with
      | v4 value =>
          have same : value = imdsV4 := eq_of_beq metadata
          rw [same] at read
          exact Or.inl (Or.inl (mem_metadataIps_of_v4 read))
      | v6 value scopeId =>
          have same : value = imdsV6 := eq_of_beq metadata
          rw [same] at read
          by_cases canonical : rawIp = "fd00:ec2::254"
          · exact Or.inl (Or.inl (by rw [canonical]; decide))
          · exact Or.inr ⟨canonical, scopeId, read⟩

theorem Disguised.denotes {rawIp : String} (disguised : Disguised rawIp) :
    DenotesMetadata rawIp := by
  rcases disguised with ⟨_, scopeId, read⟩
  exact ⟨_, read, rfl⟩

/-- The reasons there are. -/
theorem classifyIp_cases (rawIp : String) :
    classifyIp rawIp = none ∨ classifyIp rawIp = some .metadata ∨
      classifyIp rawIp = some .malformed ∨ classifyIp rawIp = some .privateIp := by
  rw [classifyIp]
  split
  · simp
  · split
    · simp
    · split
      · simp
      · split <;> simp

/-- For a permit host the loop lets pass what is not refused whatever the host. -/
theorem firstRefusal_permitted_iff {resolved : List String} :
    firstRefusal true resolved = none ↔ ∀ rawIp ∈ resolved, ¬Refused rawIp := by
  simp only [firstRefusal, List.findSome?_eq_none_iff, refused_iff]
  apply forall₂_congr
  intro rawIp _
  rcases classifyIp_cases rawIp with reason | reason | reason | reason <;>
    simp [reason]

/-- For any other host it lets no metadata address pass. -/
theorem not_denotes_of_firstRefusal {resolved : List String}
    (passed : firstRefusal false resolved = none) {rawIp : String}
    (mem : rawIp ∈ resolved) : ¬DenotesMetadata rawIp := by
  intro denotes
  rcases isPublic_of_classifyIp (firstRefusal_eq_none_iff.mp passed rawIp mem) with
    ⟨ip, read, isPublic, _⟩
  rcases denotes with ⟨other, read', metadata⟩
  cases read.symm.trans read'
  rw [isPublic.notMetadata] at metadata
  cases metadata

/-! ## The guard -/

section Guard

variable {builtins : Builtins} {url : String} {allowedHosts : List String}
  {allowHttp : Bool} {permitHosts resolved : List String} {host : String}

/-- A host that is looked up is resolved and pinned. -/
theorem LooksUp.resolves
    (looksUp : LooksUp builtins url allowedHosts allowHttp host) :
    ∃ parts scheme port,
      validateOutboundUrl builtins url allowedHosts allowHttp permitHosts =
        resolveAndPin (host ∈ permitHosts.map builtins.lower) scheme host port
          parts := by
  rcases looksUp with
    ⟨parts, scheme, hostname, port, presentable, named, nonempty, rfl, readPort⟩
  have schemeOk : ¬((Str.asciiLower parts.scheme ≠ "https" &&
      !(allowHttp && Str.asciiLower parts.scheme = "http")) = true) := by
    rw [← presentable.scheme_eq]
    rcases presentable.allowedScheme with https | ⟨http, plain⟩ <;> simp [*]
  have credentialsOk :
      ¬((isGiven parts.username || isGiven parts.password) = true) := by
    simp [isGiven, presentable.noUsername, presentable.noPassword]
  have hostOk : ¬builtins.lower hostname ∉ allowedHosts.map builtins.lower :=
    not_not.mpr presentable.allowedHost
  rw [validateOutboundUrl, presentable.split]
  dsimp only
  rw [if_neg schemeOk, if_neg credentialsOk, named]
  split
  next unnamed => cases unnamed
  next empty => exact absurd (Option.some.inj empty) nonempty
  next found _ same =>
    cases same
    rw [if_neg hostOk, readPort]
    exact ⟨_, _, _, rfl⟩

/-- The look-up of a host with its answer. -/
def answered (host : String) (port : Nat) (resolved : List String) :
    List ServiceEvent :=
  [⟨ServiceCall.getaddrinfo host port,
    (.ok resolved : Except PyException (List String))⟩]

/-- A target is returned when the loop lets all answers pass. -/
theorem passed_of_run {permitted : Bool} {scheme : String} {port port' : Nat}
    {parts : SplitResult} {host' : String} {target : ValidatedTarget}
    (run : Program.Run (resolveAndPin permitted scheme host port parts)
      (answered host' port' resolved) (.ok target)) :
    firstRefusal permitted resolved = none := by
  rcases Program.run_attemptThen_iff.mp run with ⟨answer, more, same, rest⟩
  cases same
  cases resolved with
  | nil => cases (Program.run_raise_iff.mp rest).2
  | cons pinnedIp others =>
      dsimp only at rest
      cases judged : firstRefusal permitted (pinnedIp :: others) with
      | none => rfl
      | some reason =>
          simp only [judged] at rest
          cases (Program.run_raise_iff.mp rest).2

/-- Answers that all pass are pinned. -/
theorem run_of_passed {permitted : Bool} {scheme : String} {port : Nat}
    {parts : SplitResult} (nonempty : resolved ≠ [])
    (passed : firstRefusal permitted resolved = none) :
    ∃ target, Program.Run (resolveAndPin permitted scheme host port parts)
      (answered host port resolved) (.ok target) := by
  cases resolved with
  | nil => exact absurd rfl nonempty
  | cons pinnedIp others =>
      let path := if parts.path = "" then "/" else parts.path
      refine ⟨{ scheme, host, ip := pinnedIp, port
                path := if parts.query = "" then path
                  else path ++ "?" ++ parts.query }, ?_⟩
      apply Program.run_attemptThen_iff.mpr
      refine ⟨_, _, rfl, ?_⟩
      dsimp only
      rw [passed]
      exact Program.run_ret_iff.mpr ⟨rfl, rfl⟩

end Guard

/-- No target is returned when an answer of the resolver denotes a metadata
address, exactly when the host that is looked up is no permit host, or no answer
is a disguised metadata address, or some other answer is refused. -/
theorem metadata_blocked_iff (builtins : Builtins) (url : String)
    (allowedHosts : List String) (allowHttp : Bool) (permitHosts : List String)
    (resolved : List String) :
    (∀ host port target, Program.Run
        (validateOutboundUrl builtins url allowedHosts allowHttp permitHosts)
        (answered host port resolved) (.ok target) →
      ∀ rawIp ∈ resolved, ¬DenotesMetadata rawIp) ↔
    (∀ host, LooksUp builtins url allowedHosts allowHttp host →
      host ∈ permitHosts.map builtins.lower →
      (∃ rawIp ∈ resolved, Disguised rawIp) → ∃ rawIp ∈ resolved, Refused rawIp) := by
  constructor
  · intro blocked host looksUp permitted disguised
    rcases disguised with ⟨rawIp, mem, disguised⟩
    by_contra unrefused
    have passed : firstRefusal true resolved = none :=
      firstRefusal_permitted_iff.mpr fun other among refused =>
        unrefused ⟨other, among, refused⟩
    rcases @LooksUp.resolves _ _ _ _ permitHosts _ looksUp with
      ⟨parts, scheme, port, resolves⟩
    rw [decide_eq_true permitted] at resolves
    rcases @run_of_passed resolved host true scheme port parts
      (List.ne_nil_of_mem mem) passed with ⟨target, run⟩
    rw [← resolves] at run
    exact blocked host port target run rawIp mem disguised.denotes
  · intro condition host port target run rawIp mem denotes
    rcases @validateOutboundUrl_cases builtins url allowedHosts allowHttp
      permitHosts with
      ⟨reason, refused⟩ | ⟨parts, scheme, host', port', _, looksUp, resolves⟩
    · rw [refused] at run
      cases (Program.run_raise_iff.mp run).2
    · rw [resolves] at run
      have passed := passed_of_run run
      by_cases permitted : host' ∈ permitHosts.map builtins.lower
      · rw [decide_eq_true permitted] at passed
        have unrefused := firstRefusal_permitted_iff.mp passed
        rcases refused_or_disguised denotes with refused | disguised
        · exact unrefused rawIp mem refused
        · rcases condition host' looksUp permitted ⟨rawIp, mem, disguised⟩ with
            ⟨other, among, refused⟩
          exact unrefused other among refused
      · rw [decide_eq_false permitted] at passed
        exact not_denotes_of_firstRefusal passed mem denotes

/-- A permit host that resolves to the IPv6 metadata address, written with a
leading zero, is let through. -/
theorem not_metadata_blocked :
    ¬∀ host port target, Program.Run
        (validateOutboundUrl (.sample []) "https://db.internal/" ["db.internal"]
          false ["db.internal"])
        (answered host port ["fd00:0ec2::254"]) (.ok target) →
      ∀ rawIp ∈ ["fd00:0ec2::254"], ¬DenotesMetadata rawIp := by
  intro blocked
  have looked : validateOutboundUrl (.sample []) "https://db.internal/"
        ["db.internal"] false ["db.internal"] =
      resolveAndPin true "https" "db.internal" 443
        ⟨"https", "db.internal", "/", ""⟩ := rfl
  have passed : firstRefusal true ["fd00:0ec2::254"] = none := by decide +kernel
  rcases @run_of_passed _ "db.internal" true "https" 443
    ⟨"https", "db.internal", "/", ""⟩ (List.cons_ne_nil _ _) passed with
    ⟨target, run⟩
  rw [← looked] at run
  apply blocked "db.internal" 443 target run _ List.mem_cons_self
  exact ⟨.v6 imdsV6 none, by decide +kernel, by decide⟩

end PrivateAiWorkspace.ControlPlane
