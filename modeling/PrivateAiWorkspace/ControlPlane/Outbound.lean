import PrivateAiWorkspace.ControlPlane.Services
import PrivateAiWorkspace.Python.Url

/-!
# The outbound URL guard

`validate_outbound_url` of `outbound.py`: scheme, credentials, host and port are
judged before the one look-up of the host, and every address it resolves to is
judged before the first of them is pinned.

What a returned target says about the URL and the addresses is proved against
what the addresses are, not against the code's own test of them.
-/

namespace PrivateAiWorkspace.ControlPlane

open Effects Python

/-- `_METADATA_IPS`. -/
def metadataIps : List String := ["169.254.169.254", "fd00:ec2::254"]

/-- The ranges `_classify_ip` refuses. -/
def inRefusedRange (ip : IpAddress) : Bool :=
  ip.isPrivate || ip.isLoopback || ip.isLinkLocal || ip.isReserved ||
    ip.isMulticast || ip.isUnspecified

/-- `_classify_ip`: why an address is refused, if it is. -/
def classifyIp (rawIp : String) : Option RejectReason :=
  if rawIp ∈ metadataIps then some .metadata
  else
    match IpAddress.ofString rawIp with
    | .error _ => some .malformed
    | .ok ip =>
        if ip.ipv4Mapped.any fun mapped => IpAddress.v4Text mapped ∈ metadataIps
        then some .metadata
        else if inRefusedRange ip.unmapped then some .privateIp
        else none

/-- `raise OutboundReject(reason)`. -/
def reject {α : Type} (reason : RejectReason) : Service α :=
  .raise (.outboundReject reason)

/-- The loop over the resolved addresses: the first reason that is not waived. -/
def firstRefusal (permitted : Bool) (resolved : List String) :
    Option RejectReason :=
  resolved.findSome? fun rawIp =>
    match classifyIp rawIp with
    | some .privateIp => if permitted then none else some .privateIp
    | reason => reason

/-- `_DEFAULT_PORTS[scheme]`. -/
def defaultPort (scheme : String) : Nat := if scheme = "http" then 80 else 443

/-- `socket.getaddrinfo(host, port, proto=socket.IPPROTO_TCP)`: the addresses of
the records. -/
def getaddrinfo (host : String) (port : Nat) : Service (List String) :=
  .call (ServiceCall.getaddrinfo host port) Program.ofExcept

/-- `text or ""` is not empty. -/
def isGiven (text : Option String) : Bool := text.getD "" != ""

/-- The part of `validate_outbound_url` that resolves an allowed host. -/
def resolveAndPin (permitted : Bool) (scheme host : String) (port : Nat)
    (parts : SplitResult) : Service ValidatedTarget := do
  match ← (getaddrinfo host port).attempt with
  | .error .gaierror => reject .dns
  | .error error => .raise error
  | .ok [] => reject .dns
  | .ok (pinnedIp :: others) =>
      match firstRefusal permitted (pinnedIp :: others) with
      | some reason => reject reason
      | none =>
          let path := if parts.path = "" then "/" else parts.path
          let target :=
            if parts.query = "" then path else path ++ "?" ++ parts.query
          return { scheme, host, ip := pinnedIp, port, path := target }

/-- `validate_outbound_url`. -/
def validateOutboundUrl (builtins : Builtins) (url : String)
    (allowedHosts : List String) (allowHttp : Bool) (permitHosts : List String) :
    Service ValidatedTarget :=
  match Url.urlsplit builtins (Str.strip url) with
  | .error .valueError | .error .attributeError => reject .malformed
  | .error error => .raise error
  | .ok parts =>
      let scheme := Str.asciiLower parts.scheme
      if scheme ≠ "https" && !(allowHttp && scheme = "http") then reject .scheme
      else if isGiven parts.username || isGiven parts.password then
        reject .credentials
      else
        match parts.hostname builtins with
        | none | some "" => reject .malformed
        | some host =>
            let host := builtins.lower host
            if host ∉ allowedHosts.map builtins.lower then
              reject .hostNotAllowed
            else
              match parts.port with
              | .error .valueError => reject .malformed
              | .error error => .raise error
              | .ok port =>
                  let port :=
                    if port.getD 0 = 0 then defaultPort scheme
                    else port.getD 0
                  resolveAndPin (host ∈ permitHosts.map builtins.lower) scheme
                    host port parts

/-! ## Public addresses -/

/-- The cloud metadata addresses, in whatever form they are written. -/
def isMetadata : IpAddress → Bool :=
  IpAddress.classify (· == 0xa9fea9fe)
    (· == 0xfd000ec2000000000000000000000254)

/-- An address outside every range and address that must not be reached. -/
structure IsPublic (ip : IpAddress) : Prop where
  notPrivate : ip.isPrivate = false
  notLoopback : ip.isLoopback = false
  notLinkLocal : ip.isLinkLocal = false
  notReserved : ip.isReserved = false
  notMulticast : ip.isMulticast = false
  notUnspecified : ip.isUnspecified = false
  notMetadata : isMetadata ip = false

@[simp] theorem unmapped_unmapped (ip : IpAddress) :
    ip.unmapped.unmapped = ip.unmapped := by
  cases mapped : ip.ipv4Mapped with
  | none => simp only [IpAddress.unmapped, mapped, Option.map_none,
      Option.getD_none]
  | some value =>
      have unmapped : ip.unmapped = .v4 value := by
        simp only [IpAddress.unmapped, mapped, Option.map_some, Option.getD_some]
      rw [unmapped]
      rfl

/-- The properties of an address are those of the address it maps. -/
@[simp] theorem classify_unmapped (ofV4 : BitVec 32 → Bool)
    (ofV6 : BitVec 128 → Bool) (ip : IpAddress) :
    IpAddress.classify ofV4 ofV6 ip.unmapped =
      IpAddress.classify ofV4 ofV6 ip := by
  simp only [IpAddress.classify, unmapped_unmapped]

/-- The metadata addresses are link-local or unique local. -/
theorem isMetadata_false {ip : IpAddress} (notPrivate : ip.isPrivate = false)
    (notLinkLocal : ip.isLinkLocal = false) : isMetadata ip = false := by
  simp only [isMetadata, IpAddress.isPrivate, IpAddress.isLinkLocal,
    IpAddress.classify] at *
  generalize ip.unmapped = shown at *
  cases shown with
  | v4 value =>
      simp only [beq_eq_false_iff_ne]
      intro equal
      dsimp only at notLinkLocal
      rw [equal] at notLinkLocal
      exact absurd notLinkLocal (by decide)
  | v6 value scopeId =>
      simp only [beq_eq_false_iff_ne]
      intro equal
      dsimp only at notPrivate
      rw [equal] at notPrivate
      exact absurd notPrivate (by decide)

theorem isPublic_of_inRefusedRange {ip : IpAddress}
    (outside : inRefusedRange ip = false) : IsPublic ip := by
  simp only [inRefusedRange, Bool.or_eq_false_iff] at outside
  rcases outside with
    ⟨⟨⟨⟨⟨notPrivate, notLoopback⟩, notLinkLocal⟩, notReserved⟩, notMulticast⟩,
      notUnspecified⟩
  exact ⟨notPrivate, notLoopback, notLinkLocal, notReserved, notMulticast,
    notUnspecified, isMetadata_false notPrivate notLinkLocal⟩

/-- An address is public when the address it maps is. -/
theorem isPublic_of_unmapped {ip : IpAddress} (unmapped : IsPublic ip.unmapped) :
    IsPublic ip := by
  rcases unmapped with
    ⟨notPrivate, notLoopback, notLinkLocal, notReserved, notMulticast,
      notUnspecified, notMetadata⟩
  simp only [IpAddress.isPrivate, IpAddress.isLoopback, IpAddress.isLinkLocal,
    IpAddress.isReserved, IpAddress.isMulticast, IpAddress.isUnspecified,
    isMetadata, classify_unmapped] at *
  exact ⟨notPrivate, notLoopback, notLinkLocal, notReserved, notMulticast,
    notUnspecified, notMetadata⟩

/-- What `_classify_ip` lets pass is an address that is public, and so is the
address it maps. -/
theorem isPublic_of_classifyIp {rawIp : String}
    (passed : classifyIp rawIp = none) :
    ∃ ip, IpAddress.ofString rawIp = .ok ip ∧ IsPublic ip ∧
      IsPublic ip.unmapped := by
  simp only [classifyIp] at passed
  split at passed
  next => cases passed
  next =>
    cases read : IpAddress.ofString rawIp with
    | error error =>
        rw [read] at passed
        cases passed
    | ok ip =>
        simp only [read] at passed
        split at passed
        next => cases passed
        next =>
          split at passed
          next => cases passed
          next outside =>
            have unmapped := isPublic_of_inRefusedRange
              (Bool.eq_false_iff.mpr outside)
            exact ⟨ip, rfl, isPublic_of_unmapped unmapped, unmapped⟩

/-! ## Runs of the guard -/

/-- A waiver for nobody: only a list of addresses that all pass is let through. -/
theorem firstRefusal_eq_none_iff {resolved : List String} :
    firstRefusal false resolved = none ↔
      ∀ rawIp ∈ resolved, classifyIp rawIp = none := by
  simp only [firstRefusal, List.findSome?_eq_none_iff]
  constructor
  · intro passed rawIp member
    have unwaived := passed rawIp member
    split at unwaived
    next => cases unwaived
    next => exact unwaived
  · intro passed rawIp member
    rw [passed rawIp member]

/-- What a URL has to show before its host is looked up. -/
structure Presentable (builtins : Builtins) (url : String)
    (allowedHosts : List String) (allowHttp : Bool) (parts : SplitResult)
    (scheme host : String) : Prop where
  split : Url.urlsplit builtins (Str.strip url) = .ok parts
  scheme_eq : scheme = Str.asciiLower parts.scheme
  allowedScheme : scheme = "https" ∨ allowHttp = true ∧ scheme = "http"
  noUsername : parts.username.getD "" = ""
  noPassword : parts.password.getD "" = ""
  host_eq : ∃ hostname, parts.hostname builtins = some hostname ∧
    host = builtins.lower hostname
  allowedHost : host ∈ allowedHosts.map builtins.lower

/-- The host of a URL is looked up. -/
def LooksUp (builtins : Builtins) (url : String) (allowedHosts : List String)
    (allowHttp : Bool) (host : String) : Prop :=
  ∃ parts scheme hostname port,
    Presentable builtins url allowedHosts allowHttp parts scheme host ∧
    parts.hostname builtins = some hostname ∧ hostname ≠ "" ∧
    builtins.lower hostname = host ∧ parts.port = .ok port

section Runs

variable {builtins : Builtins} {url : String} {allowedHosts : List String}
  {allowHttp : Bool} {permitHosts : List String} {events : List ServiceEvent}
  {result : Except PyException ValidatedTarget}

/-- The guard refuses a URL at once or looks its host up. -/
theorem validateOutboundUrl_cases :
    (∃ reason, validateOutboundUrl builtins url allowedHosts allowHttp
      permitHosts = reject reason) ∨
    ∃ parts scheme host port,
      Presentable builtins url allowedHosts allowHttp parts scheme host ∧
      LooksUp builtins url allowedHosts allowHttp host ∧
      validateOutboundUrl builtins url allowedHosts allowHttp permitHosts =
        resolveAndPin (host ∈ permitHosts.map builtins.lower) scheme host port
          parts := by
  rw [validateOutboundUrl]
  cases split : Url.urlsplit builtins (Str.strip url) with
  | error error =>
      rw [Url.urlsplit_error split]
      exact Or.inl ⟨_, rfl⟩
  | ok parts =>
      dsimp only
      split
      next => exact Or.inl ⟨_, rfl⟩
      next schemeOk =>
      split
      next => exact Or.inl ⟨_, rfl⟩
      next credentialsOk =>
      split
      next => exact Or.inl ⟨_, rfl⟩
      next => exact Or.inl ⟨_, rfl⟩
      next hostname nonempty named =>
      split
      next => exact Or.inl ⟨_, rfl⟩
      next hostOk =>
      cases readPort : parts.port with
      | error error =>
          rw [Url.port_error readPort]
          exact Or.inl ⟨_, rfl⟩
      | ok port =>
          simp only [isGiven, Bool.or_eq_true, bne_iff_ne, ne_eq, not_or,
            not_not] at credentialsOk
          have presentable : Presentable builtins url allowedHosts allowHttp parts
              (Str.asciiLower parts.scheme) (builtins.lower hostname) := by
            refine ⟨split, rfl, ?_, credentialsOk.1, credentialsOk.2,
              ⟨hostname, named, rfl⟩, not_not.mp hostOk⟩
            grind
          exact Or.inr ⟨parts, _, _, _, presentable,
            ⟨parts, _, hostname, port, presentable, named, nonempty, rfl,
              readPort⟩, rfl⟩

/-- A run of the guard refuses the URL before any look-up, or looks up a host
that may be looked up. -/
theorem presentable_of_run
    (run : Program.Run
      (validateOutboundUrl builtins url allowedHosts allowHttp []) events
      result) :
    (events = [] ∧ ∃ reason, result = .error (.outboundReject reason)) ∨
      ∃ parts scheme host port,
        Presentable builtins url allowedHosts allowHttp parts scheme host ∧
        Program.Run (resolveAndPin false scheme host port parts) events
          result := by
  rcases @validateOutboundUrl_cases builtins url allowedHosts allowHttp [] with
    ⟨reason, refused⟩ | ⟨parts, scheme, host, port, presentable, _, looked⟩
  · rw [refused] at run
    rcases Program.run_raise_iff.mp run with ⟨silent, raised⟩
    exact Or.inl ⟨silent, reason, raised⟩
  · rw [looked] at run
    simp only [List.map_nil, List.not_mem_nil, decide_false] at run
    exact Or.inr ⟨parts, scheme, host, port, presentable, run⟩

/-- A run over the resolver ends in a target pinned to the first of addresses
that are all public, or in a rejection. -/
theorem resolved_of_run {scheme host : String} {port : Nat}
    {parts : SplitResult}
    (run : Program.Run (resolveAndPin false scheme host port parts) events
      result)
    (resolver : ∀ event ∈ events, ∀ error,
      event.answer = .error error → error = .gaierror) :
    (∃ reason, result = .error (.outboundReject reason)) ∨
      ∃ (addresses : List String) (target : ValidatedTarget),
        events = [⟨ServiceCall.getaddrinfo host port, .ok addresses⟩] ∧
        result = .ok target ∧ target.scheme = scheme ∧ target.host = host ∧
        target.port = port ∧ addresses.head? = some target.ip ∧
        ∀ address ∈ addresses, classifyIp address = none := by
  rcases Program.run_attemptThen_iff.mp run with ⟨answer, more, rfl, rest⟩
  cases answer with
  | error error =>
      have unresolved : error = .gaierror := resolver _ List.mem_cons_self _ rfl
      subst unresolved
      exact Or.inl ⟨_, (Program.run_raise_iff.mp rest).2⟩
  | ok addresses =>
      cases addresses with
      | nil => exact Or.inl ⟨_, (Program.run_raise_iff.mp rest).2⟩
      | cons pinnedIp others =>
          simp only at rest
          cases judged : firstRefusal false (pinnedIp :: others) with
          | some reason =>
              simp only [judged] at rest
              exact Or.inl ⟨_, (Program.run_raise_iff.mp rest).2⟩
          | none =>
              simp only [judged] at rest
              rcases Program.run_ret_iff.mp rest with ⟨rfl, rfl⟩
              exact Or.inr ⟨_, _, rfl, rfl, rfl, rfl, rfl, rfl,
                firstRefusal_eq_none_iff.mp judged⟩

end Runs

/-- The guard without permit hosts, over every URL, allow-list and resolver that
answers with a list of addresses or raises `gaierror`: a returned target is
backed by one look-up of an allowed host whose addresses are all public, the
pinned one being the first; any other end is a rejection; and a host that is not
allowed is never looked up. -/
theorem validateOutboundUrl_sound (builtins : Builtins) (url : String)
    (allowedHosts : List String) (allowHttp : Bool)
    {events : List ServiceEvent} {result : Except PyException ValidatedTarget}
    (run : Program.Run
      (validateOutboundUrl builtins url allowedHosts allowHttp []) events result)
    (resolver : ∀ event ∈ events, ∀ error,
      event.answer = .error error → error = .gaierror) :
    (∀ target, result = .ok target →
      ∃ (parts : SplitResult) (addresses : List String),
        Presentable builtins url allowedHosts allowHttp parts target.scheme
          target.host ∧
        events =
          [⟨ServiceCall.getaddrinfo target.host target.port, .ok addresses⟩] ∧
        addresses.head? = some target.ip ∧
        ∀ address ∈ addresses, ∃ ip, IpAddress.ofString address = .ok ip ∧
          IsPublic ip ∧ IsPublic ip.unmapped) ∧
      (∀ error, result = .error error →
        ∃ reason, error = .outboundReject reason) ∧
      ((∀ parts hostname,
          Url.urlsplit builtins (Str.strip url) = .ok parts →
          parts.hostname builtins = some hostname →
          builtins.lower hostname ∉ allowedHosts.map builtins.lower) →
        events = []) := by
  rcases presentable_of_run run with
    ⟨silent, reason, rejected⟩ | ⟨parts, scheme, host, port, shown, resolve⟩
  · refine ⟨?_, ?_, fun _ => silent⟩
    · intro target returned
      rw [rejected] at returned
      cases returned
    · intro error raised
      rw [rejected] at raised
      cases raised
      exact ⟨reason, rfl⟩
  · refine ⟨?_, ?_, ?_⟩
    · intro target returned
      rcases resolved_of_run resolve resolver with
        ⟨reason, rejected⟩ |
          ⟨addresses, found, called, ended, rfl, rfl, rfl, pinned, passed⟩
      · rw [rejected] at returned
        cases returned
      · rw [ended] at returned
        cases returned
        exact ⟨parts, addresses, shown, called, pinned,
          fun address member => isPublic_of_classifyIp (passed address member)⟩
    · intro error raised
      rcases resolved_of_run resolve resolver with
        ⟨reason, rejected⟩ | ⟨addresses, found, called, ended, _⟩
      · rw [rejected] at raised
        cases raised
        exact ⟨reason, rfl⟩
      · rw [ended] at raised
        cases raised
    · intro foreign
      rcases shown.host_eq with ⟨hostname, named, host_eq⟩
      exact absurd (host_eq ▸ shown.allowedHost)
        (foreign parts hostname shown.split named)

/-- One address record for a host. -/
def oneRecord : List ServiceEvent :=
  [⟨ServiceCall.getaddrinfo "api.example.com" 443,
    .ok (["93.184.215.14"] : List String)⟩]

/-- The target that record is pinned to. -/
def onePinned : ValidatedTarget :=
  ⟨"https", "api.example.com", "93.184.215.14", 443, "/v1?q=1"⟩

theorem validateOutboundUrl_sound_onePinned :
    ∃ (parts : SplitResult) (addresses : List String),
      Presentable (.sample []) "https://API.example.com/v1?q=1"
        ["api.example.com"] false parts onePinned.scheme onePinned.host ∧
      oneRecord =
        [⟨ServiceCall.getaddrinfo onePinned.host onePinned.port,
          .ok addresses⟩] ∧
      addresses.head? = some onePinned.ip ∧
      ∀ address ∈ addresses, ∃ ip, IpAddress.ofString address = .ok ip ∧
        IsPublic ip ∧ IsPublic ip.unmapped := by
  have run : Program.Run
      (validateOutboundUrl (.sample []) "https://API.example.com/v1?q=1"
        ["api.example.com"] false [])
      oneRecord (.ok onePinned) := by
    have looked : validateOutboundUrl (.sample [])
          "https://API.example.com/v1?q=1" ["api.example.com"] false [] =
        resolveAndPin false "https" "api.example.com" 443
          ⟨"https", "API.example.com", "/v1", "q=1"⟩ := rfl
    rw [looked]
    exact Program.run_attemptThen_iff.mpr
      ⟨_, _, rfl, Program.run_ret_iff.mpr ⟨rfl, rfl⟩⟩
  refine (validateOutboundUrl_sound _ _ _ _ run ?_).1 onePinned rfl
  intro event member error raised
  rw [List.mem_singleton.mp member] at raised
  cases raised

end PrivateAiWorkspace.ControlPlane
