import PrivateAiWorkspace.ControlPlane.IntegrationsGoogle
import PrivateAiWorkspace.Effects.Discipline

/-!
# How a call of the executor ends

The executor folds what its collaborators do into its outcomes, but not all of
it. `Unforeseen` lists the answers that nobody catches. A ledger kept along the
calls tells whether one of them has come up: the executor returns from a clean
ledger and raises from one that is upset.
-/

namespace PrivateAiWorkspace.ControlPlane

open Effects Python

/-! ## Answers nobody catches -/

/-- A call of the plug-in for the request of the operation itself. -/
def isBuildRequest : Services.Call → Bool
  | .buildRequest _ _ _ _ => true
  | _ => false

/-- A call of the audit log. -/
def isAudit : Services.Call → Bool
  | .audit _ => true
  | _ => false

/-- `json.loads` raises something else than `ValueError` on the body. -/
def Unreadable (builtins : Builtins) (body : Bytes) : Prop :=
  ∃ error, builtins.loadsBytes body = .error error ∧ error ≠ .valueError

/-- An answer the executor does not reckon with: the resolver or the builder of
the token request raises, the look-up of a host or the connection raises outside
of what is caught, a token response is not digested, or `json.loads` chokes on
the response to the operation's own request, which is built by then. -/
def Unforeseen (builtins : Builtins) (intOf : String → Option Int)
    (built : Bool) : ServiceEvent → Prop
  | ⟨.resolveSecret _ _, answer⟩ =>
      ∃ error, (answer : Except PyException (Option MappingRef)) = .error error
  | ⟨.buildRefresh _ _, answer⟩ =>
      ∃ error, (answer : Except PyException OutboundRequest) = .error error
  | ⟨.getaddrinfo _ _, answer⟩ =>
      ∃ error, (answer : Except PyException (List String)) = .error error ∧
        error ≠ .gaierror ∧ ∀ reason, error ≠ .outboundReject reason
  | ⟨.guardedOpen _ _ _ _, answer⟩ =>
      (∃ error, (answer : Except PyException OutboundResponse) = .error error ∧
        isOsError error = false) ∨
      ∃ response, (answer : Except PyException OutboundResponse) =
        .ok response ∧ built = true ∧ Unreadable builtins response.body
  | ⟨.parseToken _ status body, _⟩ =>
      status = 200 ∧ GoogleOAuthRefresh.Indigestible builtins intOf body
  | _ => False

/-- No answer is unforeseen. `built` says whether the request of the operation
has been built before. -/
def Foreseen (builtins : Builtins) (intOf : String → Option Int) :
    Bool → List ServiceEvent → Prop
  | _, [] => True
  | built, event :: later =>
      ¬ Unforeseen builtins intOf built event ∧
        Foreseen builtins intOf (built || isBuildRequest event.call) later

/-- Clocks, the log, mapping objects and the token cache answer, and token
responses are read by `parse_token`. -/
def Regular (builtins : Builtins) (intOf : String → Option Int) :
    ServiceEvent → Prop
  | ⟨.parseToken _ status body, answer⟩ =>
      (answer : Except PyException (Option String × Int)) =
        GoogleOAuthRefresh.parseToken builtins intOf status body
  | ⟨.monotonic, answer⟩ => answer.isOk
  | ⟨.audit _, answer⟩ => answer.isOk
  | ⟨.clock, answer⟩ => answer.isOk
  | ⟨.readMapping _, answer⟩ => answer.isOk
  | ⟨.copyMapping _, answer⟩ => answer.isOk
  | ⟨.setItem _ _ _, answer⟩ => answer.isOk
  | ⟨.cacheGet _ _, answer⟩ => answer.isOk
  | ⟨.cacheSet _ _ _ _, answer⟩ => answer.isOk
  | _ => True

/-! ## The ledger of a call -/

/-- What the events so far amount to. -/
structure Ledger where
  built : Bool
  upset : Prop
  audits : Nat

/-- The ledger at the start of a call. -/
def Ledger.blank : Ledger := ⟨false, False, 0⟩

/-- Keep the ledger of a call. -/
def ledger (builtins : Builtins) (intOf : String → Option Int) :
    Discipline Services PyException Ledger where
  expected := Regular builtins intOf
  allowed _ _ := True
  advance ledger event :=
    { built := ledger.built || isBuildRequest event.call
      upset := ledger.upset ∨ Unforeseen builtins intOf ledger.built event
      audits := ledger.audits + if isAudit event.call then 1 else 0 }

section Ledger

variable {builtins : Builtins} {intOf : String → Option Int}
  {built : Bool} {audits : Nat} {start : Ledger}

theorem after_upset (builtins : Builtins) (intOf : String → Option Int)
    (start : Ledger) (events : List ServiceEvent) :
    ((ledger builtins intOf).after start events).upset ↔
      start.upset ∨ ¬ Foreseen builtins intOf start.built events := by
  induction events generalizing start with
  | nil => simp [Foreseen]
  | cons event events ih =>
      rw [Discipline.after_cons, ih]
      simp only [ledger, Foreseen]
      tauto

theorem after_audits (builtins : Builtins) (intOf : String → Option Int)
    (start : Ledger) (events : List ServiceEvent) :
    ((ledger builtins intOf).after start events).audits =
      start.audits + events.countP fun event => isAudit event.call := by
  induction events generalizing start with
  | nil => rfl
  | cons event events ih =>
      rw [Discipline.after_cons, ih, List.countP_cons]
      simp only [ledger]
      omega

/-- Nothing unforeseen has come up. -/
structure Clean (built : Bool) (audits : Nat) (reached : Ledger) : Prop where
  built_eq : reached.built = built
  audits_eq : reached.audits = audits
  calm : ¬ reached.upset

/-- Something unforeseen has come up. -/
structure Upset (audits : Nat) (reached : Ledger) : Prop where
  audits_eq : reached.audits = audits
  upset : reached.upset

theorem clean_blank : Clean false 0 .blank := ⟨rfl, rfl, id⟩

/-- A call that is not unforeseen, not audited and builds nothing. -/
theorem Clean.quiet (clean : Clean built audits start) {event : ServiceEvent}
    (silent : isAudit event.call = false)
    (builds : isBuildRequest event.call = false)
    (foreseen : ¬ Unforeseen builtins intOf built event) :
    Clean built audits ((ledger builtins intOf).advance start event) := by
  rcases clean with ⟨rfl, rfl, calm⟩
  constructor
  · simp [ledger, builds]
  · simp [ledger, silent]
  · simp [ledger, calm, foreseen]

theorem Clean.upset (clean : Clean built audits start) {event : ServiceEvent}
    (silent : isAudit event.call = false)
    (unforeseen : Unforeseen builtins intOf built event) :
    Upset audits ((ledger builtins intOf).advance start event) := by
  rcases clean with ⟨rfl, rfl, _⟩
  constructor
  · simp [ledger, silent]
  · exact Or.inr unforeseen

/-- A call whose exceptions are taken care of. -/
theorem Clean.quietThen {α : Type} {request : Services.Call}
    {rest : Services.Answer request → Service α}
    {post : Ledger → Except PyException α → Prop}
    (clean : Clean built audits start)
    (silent : isAudit request = false) (builds : isBuildRequest request = false)
    (foreseen : ∀ answer, ¬ Unforeseen builtins intOf built ⟨request, answer⟩)
    (answered : ∀ value reached, Clean built audits reached →
      Program.Follows (ledger builtins intOf) post reached (rest value))
    (raised : ∀ error reached, Clean built audits reached →
      post reached (.error error)) :
    Program.Follows (ledger builtins intOf) post start
      (.call request fun answer => (Program.ofExcept answer).bind rest) := by
  apply Program.Follows.callThen trivial
  · intro value _
    exact answered value _ (clean.quiet silent builds (foreseen _))
  · intro error _
    exact raised error _ (clean.quiet silent builds (foreseen _))

/-- A call that always has an answer. -/
theorem Clean.routine {α : Type} {request : Services.Call}
    {rest : Services.Answer request → Service α}
    {post : Ledger → Except PyException α → Prop}
    (clean : Clean built audits start)
    (silent : isAudit request = false) (builds : isBuildRequest request = false)
    (answers : ∀ answer, Regular builtins intOf ⟨request, answer⟩ → answer.isOk)
    (foreseen : ∀ answer, ¬ Unforeseen builtins intOf built ⟨request, answer⟩)
    (answered : ∀ value reached, Clean built audits reached →
      Program.Follows (ledger builtins intOf) post reached (rest value)) :
    Program.Follows (ledger builtins intOf) post start
      (.call request fun answer => (Program.ofExcept answer).bind rest) := by
  apply Program.Follows.callThen trivial
  · intro value _
    exact answered value _ (clean.quiet silent builds (foreseen _))
  · intro error expected
    exact Bool.noConfusion (answers _ expected)

/-- A call whose exceptions nobody catches. -/
theorem Clean.fallible {α : Type} {request : Services.Call}
    {rest : Services.Answer request → Service α}
    {post : Ledger → Except PyException α → Prop}
    (clean : Clean built audits start)
    (silent : isAudit request = false) (builds : isBuildRequest request = false)
    (returns : ∀ value, ¬ Unforeseen builtins intOf built ⟨request, .ok value⟩)
    (raises : ∀ error,
      Unforeseen builtins intOf built ⟨request, .error error⟩)
    (answered : ∀ value reached, Clean built audits reached →
      Program.Follows (ledger builtins intOf) post reached (rest value))
    (raised : ∀ error reached, Upset audits reached →
      post reached (.error error)) :
    Program.Follows (ledger builtins intOf) post start
      (.call request fun answer => (Program.ofExcept answer).bind rest) := by
  apply Program.Follows.callThen trivial
  · intro value _
    exact answered value _ (clean.quiet silent builds (returns value))
  · intro error _
    exact raised error _ (clean.upset silent (raises error))

/-! ## The stages of a call -/

/-- Where the outbound guard can end: its rejections are caught. -/
def Validated {α : Type} (built : Bool) (audits : Nat) (reached : Ledger) :
    Except PyException α → Prop
  | .ok _ => Clean built audits reached
  | .error (.outboundReject _) => Clean built audits reached
  | .error _ => Upset audits reached

theorem validated_resolveAndPin (clean : Clean built audits start)
    (permitted : Bool) (scheme host : String) (port : Nat)
    (parts : SplitResult) :
    Program.Follows (ledger builtins intOf) (Validated built audits) start
      (resolveAndPin permitted scheme host port parts) := by
  apply Program.Follows.attemptThen trivial
  intro answer _
  cases answer with
  | ok resolved =>
      have reached : Clean built audits ((ledger builtins intOf).advance start
          ⟨ServiceCall.getaddrinfo host port, .ok resolved⟩) := by
        refine clean.quiet rfl rfl fun unforeseen => ?_
        rcases unforeseen with ⟨_, impossible, _⟩
        cases impossible
      cases resolved with
      | nil => exact reached
      | cons pinnedIp others =>
          dsimp only
          split
          · exact reached
          · exact reached
  | error error =>
      -- A host that is not found and a rejection are caught.
      have caught : error = .gaierror ∨ (∃ reason, error = .outboundReject reason) →
          Clean built audits ((ledger builtins intOf).advance start
            ⟨ServiceCall.getaddrinfo host port, .error error⟩) := by
        intro caught
        refine clean.quiet rfl rfl fun unforeseen => ?_
        rcases unforeseen with ⟨_, same, missing, rejected⟩
        cases same
        rcases caught with rfl | ⟨reason, rfl⟩
        · exact missing rfl
        · exact rejected reason rfl
      have escapes : error ≠ .gaierror →
          (∀ reason, error ≠ .outboundReject reason) →
          Upset audits ((ledger builtins intOf).advance start
            ⟨ServiceCall.getaddrinfo host port, .error error⟩) :=
        fun missing rejected =>
          clean.upset rfl ⟨error, rfl, missing, rejected⟩
      cases error with
      | gaierror => exact caught (Or.inl rfl)
      | outboundReject reason => exact caught (Or.inr ⟨reason, rfl⟩)
      | _ => exact escapes nofun nofun

theorem validated_validateOutboundUrl (clean : Clean built audits start)
    (url : String) (allowedHosts : List String) (allowHttp : Bool)
    (permitHosts : List String) :
    Program.Follows (ledger builtins intOf) (Validated built audits) start
      (validateOutboundUrl builtins url allowedHosts allowHttp permitHosts) := by
  unfold validateOutboundUrl
  cases split : Url.urlsplit builtins (Str.strip url) with
  | error error =>
      cases Url.urlsplit_error split
      exact clean
  | ok parts =>
      dsimp only
      split
      · exact clean
      split
      · exact clean
      split
      · exact clean
      · exact clean
      split
      · exact clean
      cases readPort : parts.port with
      | error error =>
          cases Url.port_error readPort
          exact clean
      | ok port => exact validated_resolveAndPin clean _ _ _ _ _

-- The guard is used through `validated_validateOutboundUrl` from here on.
attribute [local irreducible] validateOutboundUrl

/-- Where sending a request can end: a response that cannot be read has been
noticed when it is the one to the operation's own request. -/
def Sent (builtins : Builtins) (built : Bool) (audits : Nat)
    (reached : Ledger) :
    Except PyException (Except IntegrationResult OutboundResponse) → Prop
  | .ok (.ok response) =>
      (¬ (built = true ∧ Unreadable builtins response.body) →
        Clean built audits reached) ∧
      (built = true ∧ Unreadable builtins response.body →
        Upset audits reached)
  | .ok (.error _) => Clean built audits reached
  | .error _ => Upset audits reached

section Open

variable {target : ValidatedTarget} {method : String}
  {headers : List (String × String)} {data : Option Bytes}

theorem sent_open (clean : Clean built audits start)
    (response : OutboundResponse) :
    Sent builtins built audits
      ((ledger builtins intOf).advance start
        ⟨ServiceCall.guardedOpen target method headers data, .ok response⟩)
      (.ok (.ok response)) := by
  constructor
  · intro readable
    refine clean.quiet rfl rfl fun unforeseen => ?_
    rcases unforeseen with ⟨_, impossible, _⟩ | ⟨_, same, unread⟩
    · cases impossible
    · cases same
      exact readable unread
  · intro unread
    exact clean.upset rfl (Or.inr ⟨response, rfl, unread⟩)

theorem clean_open (clean : Clean built audits start) {error : PyException}
    (caught : isOsError error = true) :
    Clean built audits
      ((ledger builtins intOf).advance start
        ⟨ServiceCall.guardedOpen target method headers data,
          .error error⟩) := by
  refine clean.quiet rfl rfl fun unforeseen => ?_
  rcases unforeseen with ⟨_, same, other⟩ | ⟨_, impossible, _⟩
  · cases same
    cases caught.symm.trans other
  · cases impossible

theorem upset_open (clean : Clean built audits start) {error : PyException}
    (escapes : isOsError error = false) :
    Upset audits
      ((ledger builtins intOf).advance start
        ⟨ServiceCall.guardedOpen target method headers data, .error error⟩) :=
  clean.upset rfl (Or.inl ⟨error, rfl, escapes⟩)

end Open

theorem sent_send (clean : Clean built audits start)
    (allowedHosts permitHosts : List String) (request : OutboundRequest) :
    Program.Follows (ledger builtins intOf) (Sent builtins built audits) start
      (Integration.send builtins allowedHosts permitHosts request) := by
  unfold Integration.send
  have validated : Program.Follows (ledger builtins intOf)
      (fun reached outcome => ∃ result, outcome = .ok result ∧
        Validated built audits reached result) start
      (validateOutboundUrl builtins request.url allowedHosts request.allowHttp
        permitHosts).attempt :=
    (validated_validateOutboundUrl clean _ _ _ _).attempt
      fun _ result reached => ⟨result, rfl, reached⟩
  apply validated.bind
  · intro reached outcome validated
    rcases validated with ⟨_, same, validated⟩
    cases same
    cases outcome with
    | error error => cases error <;> exact validated
    | ok target =>
        apply Program.Follows.attemptThen trivial
        intro answer _
        cases answer with
        | ok response => exact sent_open validated response
        | error error =>
            cases error with
            | timeoutError => exact clean_open validated rfl
            | osError | gaierror | brokenPipeError | connectionResetError
            | urlError | httpError => exact clean_open validated rfl
            | _ => exact upset_open validated rfl
  · intro reached error validated
    rcases validated with ⟨_, impossible, _⟩
    cases impossible

-- Sending is used through `sent_send` from here on.
attribute [local irreducible] Integration.send

/-- A value is returned from a clean ledger, an exception is unforeseen. -/
def Settled {α : Type} (built : Bool) (audits : Nat) (reached : Ledger) :
    Except PyException α → Prop
  | .ok _ => Clean built audits reached
  | .error _ => Upset audits reached

/-- The end of a refresh: a token that is reported is remembered. -/
theorem settled_remember (clean : Clean false audits start)
    (integration tenantId : String) (refresher : TokenRefresh)
    (creds : MappingRef) (now : Rat) (response : OutboundResponse) :
    Program.Follows (ledger builtins intOf) (Settled false audits) start
      (do
        let (token, lifetime) ←
          Integration.parseToken integration response.status response.body
        match token with
        | none | some "" => return some IntegrationResult.refreshFailed
        | some token =>
            match addSeconds now (max 0 (lifetime - tokenMarginS)) with
            | .error error => .raise error
            | .ok expiry =>
                Integration.cacheSet tenantId integration token expiry
                Integration.setItem creds refresher.tokenKey token
                return none) := by
  have digested := GoogleOAuthRefresh.digested_iff builtins intOf
    response.status response.body
  apply Program.Follows.callThen trivial
  · intro reported parsed
    change Except.ok reported = _ at parsed
    rw [← parsed] at digested
    rcases reported with ⟨token, lifetime⟩
    have next (foreseen : GoogleOAuthRefresh.Digested (.ok (token, lifetime))) :
        Clean false audits ((ledger builtins intOf).advance start
          ⟨ServiceCall.parseToken integration response.status response.body,
            (.ok (token, lifetime) :
              Except PyException (Option String × Int))⟩) :=
      clean.quiet rfl rfl (digested.mp foreseen)
    cases token with
    | none => exact next trivial
    | some token =>
        have nonempty := GoogleOAuthRefresh.parseToken_nonempty parsed.symm
        dsimp only
        split
        · rename_i same
          cases same
        · rename_i same
          exact absurd (Option.some.inj same) nonempty
        · rename_i token' _ same
          cases same
          rcases addSeconds_margin now lifetime with
            ⟨⟨expiry, added⟩, near⟩ | ⟨⟨error, failed⟩, far⟩
          · rw [added]
            apply (next near).routine rfl rfl (fun _ => id) (fun _ => id)
            intro _ stored clean
            apply clean.routine rfl rfl (fun _ => id) (fun _ => id)
            exact fun _ injected clean => clean
          · rw [failed]
            refine clean.upset rfl (not_not.mp fun foreseen => ?_)
            exact absurd (digested.mpr foreseen) (Int.not_lt.mpr far)
  · intro error parsed
    change Except.error error = _ at parsed
    rw [← parsed] at digested
    exact clean.upset rfl (not_not.mp fun foreseen => digested.mpr foreseen)

theorem settled_refreshToken (clean : Clean false audits start)
    (integration tenantId : String) (refresher : TokenRefresh)
    (creds : MappingRef) (now : Rat) :
    Program.Follows (ledger builtins intOf) (Settled false audits) start
      (Integration.refreshToken builtins integration tenantId refresher creds
        now) := by
  unfold Integration.refreshToken
  apply clean.fallible rfl rfl
  · intro request unforeseen
    rcases unforeseen with ⟨_, impossible⟩
    cases impossible
  · exact fun error => ⟨error, rfl⟩
  · intro request asked clean
    apply (sent_send clean refresher.allowedHosts [] request).bind
    · intro sent outcome kept
      cases outcome with
      | error failure => exact kept
      | ok response =>
          have clean := kept.1 fun impossible => nomatch impossible.1
          exact settled_remember clean integration tenantId refresher creds now
            response
    · exact fun _ _ upset => upset
  · exact fun _ _ upset => upset

theorem settled_ensureAccessToken (clean : Clean false audits start)
    (integration : String) (spec : IntegrationSpec) (tenantId : String)
    (creds : MappingRef) :
    Program.Follows (ledger builtins intOf) (Settled false audits) start
      (Integration.ensureAccessToken builtins integration spec tenantId
        creds) := by
  unfold Integration.ensureAccessToken
  cases spec.tokenRefresh with
  | none => exact clean
  | some refresher =>
      apply clean.routine rfl rfl (fun _ => id) (fun _ => id)
      intro now _ clean
      apply clean.routine rfl rfl (fun _ => id) (fun _ => id)
      intro cached _ clean
      rcases cached with _ | ⟨token, expiry⟩
      · exact settled_refreshToken clean _ _ _ _ _
      · dsimp only
        split
        · apply clean.routine rfl rfl (fun _ => id) (fun _ => id)
          exact fun _ _ clean => clean
        · exact settled_refreshToken clean _ _ _ _ _

theorem settled_prepareCreds (clean : Clean false audits start)
    (secretResolver : Bool) (integration : String) (spec : IntegrationSpec)
    (tenantId : String) :
    Program.Follows (ledger builtins intOf) (Settled false audits) start
      (Integration.prepareCreds builtins secretResolver integration spec
        tenantId) := by
  unfold Integration.prepareCreds
  split
  · exact clean
  split
  · exact clean
  apply clean.fallible rfl rfl
  · intro resolved unforeseen
    rcases unforeseen with ⟨_, impossible⟩
    cases impossible
  · exact fun error => ⟨error, rfl⟩
  · intro resolved _ clean
    cases resolved with
    | none => exact clean
    | some resolved =>
        apply clean.routine rfl rfl (fun _ => id) (fun _ => id)
        intro items _ clean
        split
        · exact clean
        · apply clean.routine rfl rfl (fun _ => id) (fun _ => id)
          intro creds _ clean
          apply (settled_ensureAccessToken clean integration spec tenantId
            creds).bind
          · intro reached ready clean
            cases ready <;> exact clean
          · exact fun _ _ upset => upset
  · exact fun _ _ upset => upset

/-- Building the request of the operation is not unforeseen, whatever it
raises. -/
theorem Clean.build (builtins : Builtins) (intOf : String → Option Int)
    (clean : Clean false audits start) (integration operation : String)
    (params : List (String × Json)) (creds : Option MappingRef)
    (answer : Except PyException OutboundRequest) :
    Clean true audits ((ledger builtins intOf).advance start
      ⟨ServiceCall.buildRequest integration operation params creds,
        answer⟩) := by
  rcases clean with ⟨_, rfl, calm⟩
  constructor
  · simp [ledger, isBuildRequest]
  · simp [ledger, isAudit]
  · simp [ledger, calm, Unforeseen]

theorem decode_cases (builtins : Builtins) (response : OutboundResponse) :
    (∃ value, Integration.decode builtins response = .ok value) ∧
        ¬ Unreadable builtins response.body ∨
      (∃ error, Integration.decode builtins response = .error error) ∧
        Unreadable builtins response.body := by
  unfold Integration.decode Unreadable
  cases loaded : builtins.loadsBytes response.body with
  | ok value =>
      refine Or.inl ⟨⟨_, rfl⟩, fun unread => ?_⟩
      rcases unread with ⟨_, impossible, _⟩
      cases impossible
  | error error =>
      cases error with
      | valueError =>
          refine Or.inl ⟨⟨_, rfl⟩, fun unread => ?_⟩
          rcases unread with ⟨_, same, other⟩
          cases same
          exact other rfl
      | _ => exact Or.inr ⟨⟨_, rfl⟩, _, rfl, nofun⟩

/-- Where a call of the executor can end. -/
def Concluded {α : Type} (audits : Nat) (reached : Ledger) :
    Except PyException α → Prop
  | .ok _ => ∃ built, Clean built audits reached
  | .error _ => Upset audits reached

theorem concluded_invoke (clean : Clean false audits start)
    (integrations : Integrations) (secretResolver : Bool)
    (integration operation : String) (params : List (String × Json))
    (tenantId : String) :
    Program.Follows (ledger builtins intOf) (Concluded audits) start
      (Integration.invoke builtins integrations secretResolver integration
        operation params tenantId) := by
  unfold Integration.invoke
  cases integrations.lookup integration with
  | none => exact ⟨_, clean⟩
  | some spec =>
      apply (settled_prepareCreds clean secretResolver integration spec
        tenantId).bind
      · intro _ prepared clean
        cases prepared with
        | error failure => exact ⟨_, clean⟩
        | ok creds =>
            apply Program.Follows.attemptThen trivial
            intro answer _
            have built := clean.build builtins intOf integration operation
              params creds answer
            cases answer with
            | error error => cases error <;> exact ⟨true, built⟩
            | ok request =>
                apply (sent_send built spec.allowedHosts
                  spec.permitPrivateHosts request).bind
                · intro reached sent kept
                  cases sent with
                  | error failure => exact ⟨true, kept⟩
                  | ok response =>
                      rcases decode_cases builtins response with
                        ⟨⟨value, decoded⟩, readable⟩ | ⟨⟨error, failed⟩, unread⟩
                      · dsimp only
                        rw [decoded]
                        exact ⟨true, kept.1 fun unread => readable unread.2⟩
                      · dsimp only
                        rw [failed]
                        exact kept.2 ⟨rfl, unread⟩
                · exact fun _ _ upset => upset
      · exact fun _ _ upset => upset

end Ledger

end PrivateAiWorkspace.ControlPlane
