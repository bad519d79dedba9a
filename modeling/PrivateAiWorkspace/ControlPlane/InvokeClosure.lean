import PrivateAiWorkspace.ControlPlane.IntegrationSecrets
import PrivateAiWorkspace.ControlPlane.InvokeLedger
import PrivateAiWorkspace.ControlPlane.Permits
import PrivateAiWorkspace.ControlPlane.TokenScope

/-!
# How a request to an integration ends

A request that the limiter admits comes to a response its outcome maps to, is
audited once and gives its permit back once exactly when nothing unforeseen comes
up in the executor.
-/

namespace PrivateAiWorkspace.ControlPlane

open Effects Python

/-! ## The ledger of a request -/

/-- The calls of the services in a run of a handler. -/
def serviceEvents :
    List (Event (Limited Services) PyException) → List ServiceEvent
  | [] => []
  | ⟨.backend request, answer⟩ :: later =>
      ⟨request, (answer : Except PyException (Services.Answer request))⟩ ::
        serviceEvents later
  | _ :: later => serviceEvents later

/-- The ledger of a handler, with its permit. -/
structure PermitLedger where
  services : Ledger
  granted : Bool
  releases : Nat

/-- The limiter and its clock answer, and the services do as `Regular` says. -/
def RegularRequest (builtins : Builtins) (intOf : String → Option Int) :
    Event (Limited Services) PyException → Prop
  | ⟨.backend request, answer⟩ =>
      Regular builtins intOf
        ⟨request, (answer : Except PyException (Services.Answer request))⟩
  | ⟨_, answer⟩ => answer.isOk

/-- Keep the ledger of a handler. -/
def permitLedger (builtins : Builtins) (intOf : String → Option Int) :
    Discipline (Limited Services) PyException PermitLedger where
  expected := RegularRequest builtins intOf
  allowed _ _ := True
  advance reached event :=
    { services := (ledger builtins intOf).after reached.services
        (serviceEvents [event])
      granted := isGrant event || reached.granted
      releases := reached.releases + if isRelease event.call then 1 else 0 }

section PermitLedger

variable {builtins : Builtins} {intOf : String → Option Int}

theorem serviceEvents_cons (event : Event (Limited Services) PyException)
    (later : List (Event (Limited Services) PyException)) :
    serviceEvents (event :: later) =
      serviceEvents [event] ++ serviceEvents later := by
  rcases event with ⟨call, answer⟩
  cases call <;> rfl

theorem after_permitLedger (start : PermitLedger)
    (events : List (Event (Limited Services) PyException)) :
    (permitLedger builtins intOf).after start events =
      { services := (ledger builtins intOf).after start.services
          (serviceEvents events)
        granted := events.any isGrant || start.granted
        releases := start.releases +
          events.countP fun event => isRelease event.call } := by
  induction events generalizing start with
  | nil => simp [serviceEvents]
  | cons event events ih =>
      rw [Discipline.after_cons, ih, serviceEvents_cons, List.countP_cons,
        List.any_cons]
      simp only [permitLedger, Discipline.after_append, PermitLedger.mk.injEq,
        true_and]
      constructor
      · rw [← Bool.or_assoc, Bool.or_comm (events.any isGrant)]
      · omega

/-- Programs over the services keep their own ledger and leave the permit
alone. -/
theorem follows_permitLedger {α : Type}
    {post : Ledger → Except PyException α → Prop} {start : PermitLedger}
    {program : Service α}
    (follows : Program.Follows (ledger builtins intOf) post start.services
      program) :
    Program.Follows (permitLedger builtins intOf)
      (fun reached result => reached.granted = start.granted ∧
        reached.releases = start.releases ∧ post reached.services result)
      start (Handler.lift program) := by
  induction program generalizing start with
  | ret value => exact ⟨rfl, rfl, follows⟩
  | raise error => exact ⟨rfl, rfl, follows⟩
  | call request next ih =>
      refine ⟨trivial, fun answer expected => ?_⟩
      have later := follows.2 answer expected
      cases answer with
      | ok value => exact @ih (.ok value) ((permitLedger builtins intOf).advance
          start ⟨.backend request, .ok value⟩) later
      | error error => exact @ih (.error error) ((permitLedger builtins
          intOf).advance start ⟨.backend request, .error error⟩) later

/-- A request that is authorized has not been audited. -/
theorem clean_authorize (caller : Caller) (name label notAllowed : String)
    (allowlist : Allowlist) (shape : List ArgShape) :
    Program.Follows (ledger builtins intOf)
      (fun reached outcome => outcome = .ok none → Clean false 0 reached) .blank
      (authorize caller name label notAllowed allowlist shape) := by
  unfold authorize
  split
  · apply Program.Follows.callThen trivial
    · exact fun _ _ => nofun
    · exact fun _ _ => nofun
  · apply Program.Follows.callThen trivial
    · intro enabled _
      cases enabled with
      | false =>
          apply Program.Follows.callThen trivial
          · exact fun _ _ => nofun
          · exact fun _ _ => nofun
      | true => exact fun _ => clean_blank.quiet rfl rfl id
    · exact fun _ _ => nofun

/-- A request that is prepared has not been audited. -/
theorem clean_prepare (authorization : Option String)
    (body : Except PyException Json) (tokenVerifier : Option TokenVerifier)
    (enabled : Bool) (allowlist : Allowlist) :
    Program.Follows (ledger builtins intOf)
      (fun reached prepared => ∀ request, prepared = .ok (.ok request) →
        Clean false 0 reached)
      .blank
      (prepareIntegrationsInvoke builtins authorization body tokenVerifier
        enabled allowlist) := by
  unfold prepareIntegrationsInvoke
  dsimp only
  generalize readRequest _ _ _ = read
  cases read with
  | error error => exact nofun
  | ok read =>
      cases read with
      | error response => exact nofun
      | ok read =>
          rcases read with ⟨caller, integration, operation, params⟩
          apply (clean_authorize caller integration _ _ _ _).bind
          · intro reached refusal authorized
            cases refusal with
            | some refusal => exact nofun
            | none => exact fun _ _ => authorized rfl
          · exact fun _ _ _ => nofun

/-- Announcing the outcome changes nothing. -/
theorem clean_emit {built : Bool} {audits : Nat} {start : Ledger}
    (clean : Clean built audits start) (store : Bool)
    (tenantId userId eventClass resourceId : String) :
    Program.Follows (ledger builtins intOf)
      (fun reached result => result = .ok () ∧ Clean built audits reached) start
      (Service.emit store tenantId userId eventClass resourceId) := by
  unfold Service.emit
  split
  · exact ⟨rfl, clean⟩
  · have body : Program.Follows (ledger builtins intOf)
        (fun reached _ => Clean built audits reached) start
        (do
          let id ← Service.uuid4
          let createdAt ← Service.nowUtc
          .call (ServiceCall.publish
              { id, tenantId, userId, eventClass, resourceId, createdAt,
                readAt := none })
            Program.ofExcept : Service Unit) := by
      apply clean.quietThen rfl rfl fun _ => id
      · intro eventId _ clean
        apply clean.quietThen rfl rfl fun _ => id
        · intro createdAt _ clean
          refine ⟨trivial, fun published _ => ?_⟩
          cases published <;> exact clean.quiet rfl rfl not_false
        · exact fun _ _ clean => clean
      · exact fun _ _ clean => clean
    apply body.tryCatch
    · exact fun _ _ clean => ⟨rfl, clean⟩
    · exact fun _ _ clean => ⟨rfl, clean⟩

theorem clean_latencyMs {built : Bool} {audits : Nat} {start : Ledger}
    (clean : Clean built audits start) (started : Rat) :
    Program.Follows (ledger builtins intOf)
      (fun reached result => result.isOk ∧ Clean built audits reached) start
      (Service.latencyMs started) := by
  apply clean.routine rfl rfl (fun _ => id) (fun _ => id)
  exact fun _ _ clean => ⟨rfl, clean⟩

/-- A record is counted. -/
theorem Clean.audit (builtins : Builtins) (intOf : String → Option Int)
    {built : Bool} {audits : Nat} {start : Ledger}
    (clean : Clean built audits start) (record : AuditRecord) :
    Clean built (audits + 1) ((ledger builtins intOf).advance start
      ⟨ServiceCall.audit record, .ok ()⟩) := by
  rcases clean with ⟨rfl, rfl, calm⟩
  constructor
  · simp [ledger, isBuildRequest]
  · simp [ledger, isAudit]
  · simp [ledger, calm, Unforeseen]

/-- After the permit is given back the call is audited, and answered by what its
outcome maps to. -/
theorem clean_answer {built : Bool} {audits : Nat} {start : Ledger}
    (clean : Clean built audits start) (store : Bool)
    (request : IntegrationRequest) (started : Rat)
    (outcome : IntegrationOutcome) :
    Program.Follows (ledger builtins intOf)
      (fun reached result => result = .ok (integrationToHttp outcome) ∧
        Clean built (audits + 1) reached) start
      (answerIntegrationsInvoke store request started outcome) := by
  unfold answerIntegrationsInvoke
  apply (clean_latencyMs clean started).bind
  · intro reached latencyMs measured
    apply Program.Follows.callThen trivial
    · intro _ _
      have audited := measured.2.audit builtins intOf
      apply (clean_emit (audited _) _ _ _ _ _).bind
      · exact fun _ _ told => ⟨rfl, told.2⟩
      · intro _ _ told
        cases told.1
    · intro _ impossible
      cases impossible
  · intro _ _ measured
    cases measured.1

/-! ## Requests -/

/-- What an admitted request comes to: a response an outcome maps to, one audit
record and one release. -/
structure Closed (result : Except PyException JsonResponse) (audits releases : Nat) :
    Prop where
  mapped : ∃ outcome, result = .ok (integrationToHttp outcome)
  audited : audits = 1
  released : releases = 1

/-- Where a handler can end. -/
def Ending (reached : PermitLedger) (result : Except PyException JsonResponse) :
    Prop :=
  reached.granted = true →
    (Closed result reached.services.audits reached.releases ↔
      ¬ reached.services.upset)

/-- Programs over the services do not ask for a permit. -/
theorem ungranted_lift {start : PermitLedger} (ungranted : start.granted = false)
    (program : Service JsonResponse) :
    Program.Follows (permitLedger builtins intOf) Ending start
      (Handler.lift program) := by
  have unconstrained (phase : Ledger) : Program.Follows (ledger builtins intOf)
      (fun _ _ => True) phase program := by
    induction program generalizing phase with
    | ret value => trivial
    | raise error => trivial
    | call request next ih => exact ⟨trivial, fun answer _ => ih answer _⟩
  apply (follows_permitLedger (unconstrained _)).mono
  intro reached result kept granted
  cases ungranted.symm.trans (kept.1.symm.trans granted)

/-- From the grant on: the executor runs, the permit is given back, and an
outcome is audited and answered. -/
theorem ending_granted {start : PermitLedger} (unreleased : start.releases = 0)
    (clean : Clean false 0 start.services)
    (integrations : Integrations) (secretResolver notificationStore : Bool)
    (request : IntegrationRequest) :
    Program.Follows (permitLedger builtins intOf) Ending start
      (do
        let started ← Handler.lift Service.monotonic
        let outcome ← (Handler.lift (Integration.invoke builtins integrations
          secretResolver request.integration request.operation request.params
          request.caller.tenantId)).tryFinally Handler.release
        Handler.lift (answerIntegrationsInvoke notificationStore request started
          outcome)) := by
  have measured : Program.Follows (ledger builtins intOf)
      (fun reached result => result.isOk ∧ Clean false 0 reached) start.services
      Service.monotonic := by
    refine ⟨trivial, fun answer answers => ?_⟩
    cases answer with
    | ok value => exact ⟨rfl, clean.quiet rfl rfl id⟩
    | error error => cases answers
  apply (follows_permitLedger measured).bind
  · intro reached started kept
    rcases kept with ⟨still, held, _, clean⟩
    -- The executor ends clean or upset, and then the permit is given back.
    have worked : Program.Follows (permitLedger builtins intOf)
        (fun reached result => reached.releases = 1 ∧
          Concluded 0 reached.services result) reached
        ((Handler.lift (Integration.invoke builtins integrations secretResolver
          request.integration request.operation request.params
          request.caller.tenantId)).tryFinally Handler.release) := by
      apply (follows_permitLedger (concluded_invoke clean integrations
        secretResolver request.integration request.operation request.params
        request.caller.tenantId)).tryFinally
      intro ended result concluded
      refine ⟨trivial, fun answer answers => ?_⟩
      cases answer with
      | ok value =>
          have released : ended.releases + 1 = 1 := by
            rw [concluded.2.1, held, unreleased]
          exact ⟨released, concluded.2.2⟩
      | error error => cases answers
    apply worked.bind
    · intro ended outcome concluded
      rcases concluded with ⟨released, built, clean⟩
      apply (follows_permitLedger (clean_answer clean notificationStore request
        started outcome)).mono
      intro final result answered _
      rcases answered with ⟨_, kept, mapped, clean⟩
      refine iff_of_true ⟨⟨outcome, mapped⟩, clean.audits_eq, ?_⟩ clean.calm
      exact kept.trans released
    · intro ended error concluded _
      refine iff_of_false (fun closed => ?_) (not_not.mpr concluded.2.upset)
      rcases closed.mapped with ⟨_, impossible⟩
      cases impossible
  · intro reached error kept
    cases kept.2.2.1

theorem ending_invoke (authorization : Option String)
    (body : Except PyException Json) (tokenVerifier : Option TokenVerifier)
    (enabled : Bool) (allowlist : Allowlist) (integrations : Integrations)
    (secretResolver notificationStore : Bool) :
    Program.Follows (permitLedger builtins intOf) Ending
      ⟨.blank, false, 0⟩
      (buildIntegrationsInvokeResponse builtins authorization body tokenVerifier
        enabled allowlist integrations secretResolver notificationStore) := by
  have prepared := @follows_permitLedger builtins intOf _ _ ⟨.blank, false, 0⟩ _
    (clean_prepare authorization body tokenVerifier enabled allowlist)
  apply prepared.bind
  · intro reached prepared kept
    rcases kept with ⟨ungranted, unreleased, kept⟩
    cases prepared with
    | error response =>
        intro granted
        cases ungranted.symm.trans granted
    | ok request =>
        have clean := kept request rfl
        apply Program.Follows.callThen trivial
        · intro now _
          apply Program.Follows.callThen trivial
          · intro granted _
            cases granted with
            | false => exact ungranted_lift ungranted _
            | true =>
                apply ending_granted
                · exact unreleased
                · exact clean
          · intro _ impossible
            cases impossible
        · intro _ impossible
          cases impossible
  · intro reached error kept granted
    cases kept.1.symm.trans granted

end PermitLedger

/-! ## Closure -/

/-- The executor comes to an outcome, and an admitted request is closed, exactly
when nothing unforeseen comes up. -/
theorem invoke_closed_iff (builtins : Builtins) (intOf : String → Option Int)
    (integrations : Integrations) (secretResolver : Bool) :
    (∀ integration operation params tenantId events result,
      Program.Run (Integration.invoke builtins integrations secretResolver
        integration operation params tenantId) events result →
      (∀ event ∈ events, Regular builtins intOf event) →
      ((∃ outcome, result = .ok outcome) ↔
        Foreseen builtins intOf false events)) ∧
    ∀ authorization body tokenVerifier enabled allowlist notificationStore
      events result,
      Program.Run (buildIntegrationsInvokeResponse builtins authorization body
        tokenVerifier enabled allowlist integrations secretResolver
        notificationStore) events result →
      (∀ event ∈ events, RegularRequest builtins intOf event) →
      events.any isGrant = true →
      (Closed result
          ((serviceEvents events).countP fun event => isAudit event.call)
          (events.countP fun event => isRelease event.call) ↔
        Foreseen builtins intOf false (serviceEvents events)) := by
  constructor
  · intro integration operation params tenantId events result run regular
    have concluded := (concluded_invoke clean_blank integrations secretResolver
      integration operation params tenantId).of_run run regular
    have upset := after_upset builtins intOf .blank events
    simp only [Ledger.blank, false_or] at upset
    cases result with
    | ok outcome =>
        rcases concluded with ⟨_, clean⟩
        exact iff_of_true ⟨outcome, rfl⟩
          (not_not.mp fun unforeseen => clean.calm (upset.mpr unforeseen))
    | error error =>
        exact iff_of_false (fun impossible => nomatch impossible)
          (upset.mp concluded.upset)
  · intro authorization body tokenVerifier enabled allowlist notificationStore
      events result run regular admitted
    have ending := (ending_invoke authorization body tokenVerifier enabled
      allowlist integrations secretResolver notificationStore).of_run run regular
    rw [after_permitLedger] at ending
    have closed := ending (by simp [admitted])
    have upset := after_upset builtins intOf .blank (serviceEvents events)
    have audits := after_audits builtins intOf .blank (serviceEvents events)
    simp only [Ledger.blank, false_or, Nat.zero_add] at upset audits closed
    rw [audits, upset, not_not] at closed
    exact closed

/-- Built-in functions that read the body `\x7b\x7d` as a token response. -/
def tokenBody : Builtins :=
  { Builtins.sample [] with
    loadsBytes := fun body =>
      if body = [123, 125] then
        .ok (.obj [("access_token", .str "at-1"), ("expires_in", .int 3600)])
      else .error .valueError }

/-- Services that answer, over a resolver that answers as given. -/
def standIns (resolved : Except PyException (Option MappingRef)) :
    (request : Services.Call) → Except PyException (Services.Answer request)
  | .monotonic => .ok (0 : Rat)
  | .clock => .ok (0 : Rat)
  | .isEnabled _ _ => .ok true
  | .audit _ => .ok ()
  | .resolveSecret _ _ => resolved
  | .readMapping _ => .ok refreshable
  | .copyMapping _ => .ok (1 : Nat)
  | .setItem _ _ _ => .ok ()
  | .cacheGet _ _ => .ok none
  | .cacheSet _ _ _ _ => .ok ()
  | .buildRefresh _ _ => .ok tokenRequest
  | .parseToken _ status body =>
      GoogleOAuthRefresh.parseToken tokenBody (fun _ => none) status body
  | .buildRequest _ _ _ _ =>
      .ok ⟨"GET", "https://www.googleapis.com/events", [], none, false⟩
  | .getaddrinfo _ _ => .ok ["93.184.215.14"]
  | .guardedOpen _ _ _ _ => .ok ⟨200, [], [123, 125]⟩
  | _ => .error (.other "unused")

/-- The same behind a limiter that grants. -/
def grantingStandIns (resolved : Except PyException (Option MappingRef)) :
    Unit → (request : (Limited Services).Call) →
      Except PyException ((Limited Services).Answer request) × Unit
  | _, .time => (.ok (0 : Int), ())
  | _, .tryAcquire _ _ => (.ok true, ())
  | _, .release => (.ok (), ())
  | _, .backend request => (standIns resolved request, ())

theorem regular_grantingStandIns
    {resolved : Except PyException (Option MappingRef)} {α : Type}
    {program : Handler Services α} :
    ∀ event ∈ program.trace (grantingStandIns resolved) (),
      RegularRequest tokenBody (fun _ => none) event := by
  intro event member
  rcases Program.answered_of_trace member with ⟨_, same⟩
  rcases event with ⟨call, answer⟩
  cases call with
  | time | tryAcquire | release =>
      cases same
      rfl
  | backend request =>
      cases request with
      | parseToken => exact same
      | monotonic | audit | clock | readMapping | copyMapping | setItem
      | cacheGet | cacheSet =>
          cases same
          rfl
      | _ => trivial

/-- A user lists the events of a calendar. -/
def listCalendar : Handler Services JsonResponse :=
  buildIntegrationsInvokeResponse tokenBody (some "bearer t1")
    (.ok (.obj [("integration", .str "calendar"),
      ("operation", .str "list_events")]))
    (some fun _ => .ok ⟨"user", "", []⟩) true
    (Dict.empty.insert "default" ["calendar"]) calendarOnly true false

/-- The events of a request over a resolver that answers as given. -/
def listing (resolved : Except PyException (Option MappingRef)) :
    List (Event (Limited Services) PyException) :=
  listCalendar.trace (grantingStandIns resolved) ()

/-- The response to it. -/
def listed (resolved : Except PyException (Option MappingRef)) :
    Except PyException JsonResponse :=
  (listCalendar.eval (grantingStandIns resolved) ()).1

theorem invoke_closed_iff_listing :
    (listing (.ok (some 0))).any isGrant = true ∧
      (Closed (listed (.ok (some 0)))
          ((serviceEvents (listing (.ok (some 0)))).countP fun event =>
            isAudit event.call)
          ((listing (.ok (some 0))).countP fun event => isRelease event.call) ↔
        Foreseen tokenBody (fun _ => none) false
          (serviceEvents (listing (.ok (some 0))))) := by
  have admitted : (listing (.ok (some 0))).any isGrant = true := by
    decide +kernel
  exact ⟨admitted, (invoke_closed_iff tokenBody (fun _ => none) calendarOnly
    true).2 _ _ _ _ _ _ _ _ (Program.run_trace _ _) regular_grantingStandIns
    admitted⟩

/-- The resolver raises: the exception goes through, and nothing is audited. -/
theorem not_closed_listing :
    Program.Run listCalendar (listing (.error integrationSecretError))
        (listed (.error integrationSecretError)) ∧
      (∀ event ∈ listing (.error integrationSecretError),
        RegularRequest tokenBody (fun _ => none) event) ∧
      (listing (.error integrationSecretError)).any isGrant = true ∧
      listed (.error integrationSecretError) = .error integrationSecretError ∧
      ¬ Closed (listed (.error integrationSecretError))
        ((serviceEvents (listing (.error integrationSecretError))).countP
          fun event => isAudit event.call)
        ((listing (.error integrationSecretError)).countP fun event =>
          isRelease event.call) := by
  refine ⟨Program.run_trace _ _, regular_grantingStandIns, ?_, rfl, ?_⟩
  · decide +kernel
  · intro closed
    have unaudited : (serviceEvents (listing
        (.error integrationSecretError))).countP
        (fun event => isAudit event.call) = 0 := by decide +kernel
    cases unaudited.symm.trans closed.audited

end PrivateAiWorkspace.ControlPlane
