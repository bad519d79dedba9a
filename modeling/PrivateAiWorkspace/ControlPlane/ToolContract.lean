import PrivateAiWorkspace.ControlPlane.AgentEnd

/-!
# The contract of the tools

The endpoint that runs one tool starts exactly the tools whose arguments pass
`_validate_arguments` and are small enough. The agent loop starts a tool with
whatever object of arguments the model has written, so it keeps the contract only
as far as the model does.
-/

namespace PrivateAiWorkspace.ControlPlane

open Effects Python

/-! ## The contract -/

theorem toolExecutor_eq {tool : String} {spec : ToolSpec}
    (registered : toolSpec tool = some spec) :
    toolExecutor tool = spec.executor := by
  rw [toolExecutor, registered]
  rfl

/-- Arguments a tool may be started with. -/
structure ToolSpec.Accepts (spec : ToolSpec) (builtins : Builtins)
    (arguments : List (String × Json)) : Prop where
  valid : validateArguments spec arguments = none
  small : (builtins.dumps (.obj arguments)).length ≤ maxArgsBytes

/-- A registered tool on its own backend, with arguments that it may be started
with. -/
def Placement.Contracted (builtins : Builtins) (placement : Placement) : Prop :=
  ∃ spec, toolSpec placement.tool = some spec ∧
    placement.executor = spec.executor ∧
    spec.Accepts builtins placement.arguments

instance (spec : ToolSpec) (builtins : Builtins)
    (arguments : List (String × Json)) :
    Decidable (spec.Accepts builtins arguments) :=
  decidable_of_iff
    (validateArguments spec arguments = none ∧
      (builtins.dumps (.obj arguments)).length ≤ maxArgsBytes)
    ⟨fun checked => ⟨checked.1, checked.2⟩,
      fun accepts => ⟨accepts.valid, accepts.small⟩⟩

instance (builtins : Builtins) (placement : Placement) :
    Decidable (placement.Contracted builtins) :=
  match found : toolSpec placement.tool with
  | none => .isFalse fun ⟨_, registered, _⟩ => by
      cases found.symm.trans registered
  | some spec =>
      decidable_of_iff
        (placement.executor = spec.executor ∧
          spec.Accepts builtins placement.arguments)
        ⟨fun checked => ⟨spec, found, checked⟩,
          fun ⟨_, registered, checked⟩ => by
            cases found.symm.trans registered
            exact checked⟩

/-- A call that starts a tool keeps its contract. -/
def Contracts (builtins : Builtins) (request : Services.Call) : Prop :=
  ∀ placement, toolOf request = some placement → placement.Contracted builtins

theorem contracts_of_bookkeeping {builtins : Builtins} {request : Services.Call}
    (bookkeeping : Bookkeeping request) : Contracts builtins request := by
  intro placement starts
  cases request with
  | execute | executeJob => cases bookkeeping
  | _ => cases starts

theorem guarded_contracts {builtins : Builtins} {α : Type}
    {program : Service α} {past : List ServiceEvent}
    (guarded : Program.Guarded (fun _ => Bookkeeping) past program) :
    Program.Guarded (fun _ => Contracts builtins) past program :=
  guarded.mono fun _ _ => contracts_of_bookkeeping

/-! ## The endpoint -/

section Endpoint

variable {builtins : Builtins} {authorization : Option String}
  {body : Except PyException Json} {tokenVerifier : Option TokenVerifier}
  {enabled : Bool} {allowlist : Allowlist} {notificationStore jobExecutor : Bool}

theorem readToolRequest_iff {data : List (String × Json)} {tool : String}
    {arguments : List (String × Json)} :
    readToolRequest builtins data = .ok (tool, arguments) ↔
      Json.get data "tool" = .str tool ∧ tool ≠ "" ∧
        Json.getOr data "arguments" (.obj []) = .obj arguments ∧
        (builtins.dumps (.obj arguments)).length ≤ maxArgsBytes := by
  unfold readToolRequest
  constructor
  · intro read
    cases tool_eq : Json.get data "tool" with
    | str given =>
        cases arguments_eq : Json.getOr data "arguments" (.obj []) with
        | obj fields =>
            simp only [tool_eq, arguments_eq] at read
            split at read
            · cases read
            · split at read
              · cases read
              · cases read
                rename_i named room
                exact ⟨rfl, named, rfl, Nat.not_lt.mp room⟩
        | null | bool | int | float | str | arr =>
            simp only [tool_eq, arguments_eq] at read
            split at read <;> cases read
    | null | bool | int | float | arr | obj =>
        simp only [tool_eq] at read
        cases read
  · rintro ⟨tool_eq, named, arguments_eq, room⟩
    simp only [tool_eq, arguments_eq]
    rw [if_neg named, if_neg (Nat.not_lt.mpr room)]
    rfl

theorem guarded_prepareToolInvoke :
    Program.Guarded (fun _ => Bookkeeping) []
      (prepareToolInvoke builtins authorization body tokenVerifier enabled
        allowlist) := by
  unfold prepareToolInvoke
  simp only [Program.bind_eq]
  cases readRequest (gate builtins authorization tokenVerifier _) _ _ with
  | error error => trivial
  | ok outcome =>
      cases outcome with
      | error response => trivial
      | ok value =>
          dsimp only [Program.ofExcept_ok, Program.ret_bind]
          split
          · split <;> trivial
          · exact (guarded_audit _ _).bind fun _ _ _ => trivial

/-- A request that is prepared keeps the contract. -/
theorem of_prepareToolInvoke {events : List ServiceEvent} {request : ToolRequest}
    (run : Program.Run
      (prepareToolInvoke builtins authorization body tokenVerifier enabled
        allowlist) events (.ok (.ok request))) :
    ∃ spec, toolSpec request.tool = some spec ∧
      spec.Accepts builtins request.arguments := by
  unfold prepareToolInvoke at run
  simp only [Program.bind_eq] at run
  rcases Program.run_bind_iff.mp run with
    ⟨_, _, impossible⟩ | ⟨outcome, before, after, _, read, rest⟩
  · cases impossible
  · have accepted := (Program.run_ofExcept_iff.mp read).2
    cases outcome with
    | error response => cases rest
    | ok value =>
        rcases value with ⟨caller, tool, arguments⟩
        rcases (of_readRequest accepted.symm).2 with ⟨data, _, found⟩
        have small := (readToolRequest_iff.mp found).2.2.2
        dsimp only at rest
        split at rest
        next allowed registered =>
          split at rest
          next => cases rest
          next valid =>
            cases rest
            exact ⟨_, registered, valid, small⟩
        next =>
          rcases Program.run_bind_iff.mp rest with
            ⟨_, _, impossible⟩ | ⟨_, _, _, _, _, refused⟩
          · cases impossible
          · cases refused

/-- The tool of a contracted request is started on its own backend. -/
theorem guarded_runTool {request : ToolRequest} {spec : ToolSpec}
    (registered : toolSpec request.tool = some spec)
    (accepts : spec.Accepts builtins request.arguments) (runId : String) :
    Program.Guarded (fun _ => Contracts builtins) []
      (runTool jobExecutor request runId) := by
  have contracted (executor : ToolExecutor)
      (same : toolExecutor request.tool = executor) :
      Placement.Contracted builtins
        ⟨executor, request.tool, request.arguments⟩ :=
    ⟨spec, registered, same.symm.trans (toolExecutor_eq registered), accepts⟩
  unfold runTool
  split
  next job =>
    split
    · refine ⟨?_, fun answer => ?_⟩
      · rintro _ ⟨⟩
        exact contracted .job job
      · cases answer <;> trivial
    · trivial
  next subprocess =>
    refine ⟨?_, fun answer => ?_⟩
    · rintro _ ⟨⟩
      exact contracted .subprocess subprocess
    · cases answer <;> trivial

theorem guarded_answerToolInvoke (request : ToolRequest) (started : Rat)
    (outcome : SandboxOutcome) :
    Program.Guarded (fun _ => Bookkeeping) []
      (answerToolInvoke notificationStore request started outcome) := by
  unfold answerToolInvoke
  apply (guarded_latencyMs _ _).bind
  intro _ latency _
  apply (guarded_audit _ _).bind
  intro _ _ _
  apply (guarded_emit _ _ _ _ _ _).bind
  intro _ _ _
  split <;> trivial

/-- Whatever the body, the endpoint starts tools within the contract only. -/
theorem guarded_buildToolInvokeResponse :
    Program.Guarded (fun _ => Handler.BackendAllowed (Contracts builtins)) []
      (buildToolInvokeResponse builtins authorization body tokenVerifier enabled
        allowlist notificationStore jobExecutor) := by
  apply Handler.guarded_limited
  · exact guarded_contracts guarded_prepareToolInvoke
  · intro events request run
    rcases of_prepareToolInvoke run with ⟨spec, registered, accepts⟩
    refine ⟨?_, ?_, fun started => ⟨?_, fun outcome => ?_⟩⟩
    · apply guarded_contracts
      exact (guarded_audit _ _).bind fun _ _ _ => trivial
    · apply guarded_contracts
      apply Program.Guarded.callThen trivial
      intro now
      apply Program.Guarded.callThen trivial
      intro runId
      trivial
    · exact guarded_runTool registered accepts started.2
    · exact guarded_contracts (guarded_answerToolInvoke _ _ _)

end Endpoint

/-- The tool that a call of the endpoint starts. -/
def endpointPlacement : Event (Limited Services) PyException → Option Placement
  | ⟨.backend request, _⟩ => toolOf request
  | _ => none

/-- Some request to the endpoint starts the tool. -/
def DirectlyExecutable (builtins : Builtins) (placement : Placement) : Prop :=
  ∃ (authorization : Option String) (body : Except PyException Json)
      (tokenVerifier : Option TokenVerifier) (enabled : Bool)
      (allowlist : Allowlist) (notificationStore jobExecutor : Bool)
      (events : List (Event (Limited Services) PyException))
      (result : Except PyException JsonResponse),
    Program.Run
        (buildToolInvokeResponse builtins authorization body tokenVerifier
          enabled allowlist notificationStore jobExecutor) events result ∧
      placement ∈ events.filterMap endpointPlacement

theorem DirectlyExecutable.contracted {builtins : Builtins}
    {placement : Placement} (executable : DirectlyExecutable builtins placement) :
    placement.Contracted builtins := by
  rcases executable with ⟨_, _, _, _, _, _, _, events, _, run, member⟩
  rcases List.mem_filterMap.mp member with ⟨event, among, starts⟩
  rcases List.append_of_mem among with ⟨before, after, split⟩
  have allowed := guarded_buildToolInvokeResponse.of_run run split
  rcases event with ⟨call, answer⟩
  cases call with
  | backend request => exact allowed placement starts
  | time | tryAcquire | release => cases starts

section Executable

variable {builtins : Builtins} {tool : String}
  {arguments : List (String × Json)} {spec : ToolSpec}

/-- A caller without an organisation. -/
def anyone : TokenVerifier := fun _ => .ok ⟨"user", "", []⟩

/-- The body that asks for a tool. -/
def toolBody (tool : String) (arguments : List (String × Json)) : Json :=
  .obj [("tool", .str tool), ("arguments", .obj arguments)]

theorem gate_anyone (ascii : builtins.lower "bearer" = "bearer") :
    gate builtins (some "bearer token") (some anyone) (.ok ()) =
      .ok (.ok ⟨"default", "user"⟩) := by
  have token : bearerToken builtins.lower (some "bearer token") =
      some "token" := by
    have words : Str.splitWord "bearer token" = ["bearer", "token"] := by
      decide
    simp only [bearerToken, Option.getD_some, words, ascii, if_true]
    decide
  have verified : verifyAndExtract builtins.lower (some "bearer token")
      (some anyone) = .ok (.ok ⟨"user", "", []⟩) := by
    rw [verifyAndExtract, token]
    rfl
  rw [gate, verified]
  rfl

theorem prepareToolInvoke_anyone (ascii : builtins.lower "bearer" = "bearer")
    (registered : toolSpec tool = some spec)
    (accepts : spec.Accepts builtins arguments) :
    prepareToolInvoke builtins (some "bearer token")
        (.ok (toolBody tool arguments)) (some anyone) true
        (Dict.empty.insert "default" [tool]) =
      .ret (.ok ⟨⟨"default", "user"⟩, tool, arguments⟩) := by
  have named : tool ≠ "" := by
    rintro rfl
    cases registered
  have read : readToolRequest builtins
      [("tool", .str tool), ("arguments", .obj arguments)] =
        .ok (tool, arguments) :=
    readToolRequest_iff.mpr ⟨rfl, named, rfl, accepts.small⟩
  have allowed : isAllowed (Dict.empty.insert "default" [tool]) "default" tool =
      true := by
    simp [isAllowed]
  have request : readRequest
      (gate builtins (some "bearer token") (some anyone) (.ok ()))
      (loadObject (badRequest "Body is not valid JSON.")
        (badRequest "Body must be a JSON object.")
        (.ok (toolBody tool arguments)))
      (readToolRequest builtins) =
        .ok (.ok (⟨"default", "user"⟩, tool, arguments)) := by
    rw [gate_anyone ascii]
    simp only [readRequest, loadObject, toolBody, bind, Except.bind, read]
    rfl
  unfold prepareToolInvoke
  simp only [if_true, request, Program.ofExcept_ok, Program.bind_eq,
    Program.ret_bind, allowed, registered, accepts.valid]
  rfl

/-- The permit is granted, and the tool is started and fails. -/
theorem run_anyone {request : Services.Call}
    {next : Except PyException (Services.Answer request) →
      Service SandboxOutcome}
    (ascii : builtins.lower "bearer" = "bearer")
    (registered : toolSpec tool = some spec)
    (accepts : spec.Accepts builtins arguments)
    (starts : runTool true ⟨⟨"default", "user"⟩, tool, arguments⟩ "id" =
      .call request next)
    (fails : next (.error .timeoutError) = .raise .timeoutError) :
    ∃ before after, Program.Run
      (buildToolInvokeResponse builtins (some "bearer token")
        (.ok (toolBody tool arguments)) (some anyone) true
        (Dict.empty.insert "default" [tool]) false true)
      (before ++ ⟨.backend request, .error .timeoutError⟩ :: after)
      (.error .timeoutError) := by
  unfold buildToolInvokeResponse Handler.limited
  rw [prepareToolInvoke_anyone ascii registered accepts]
  refine ⟨[⟨.time, (.ok 0 : Except PyException Int)⟩,
      ⟨.tryAcquire "default" 0, (.ok true : Except PyException Bool)⟩,
      ⟨.backend ServiceCall.monotonic, (.ok 0 : Except PyException Rat)⟩,
      ⟨.backend ServiceCall.uuid4, (.ok "id" : Except PyException String)⟩],
    [⟨.release, (.ok () : Except PyException Unit)⟩], ?_⟩
  apply Program.Run.call
  apply Program.Run.call
  apply Program.Run.call
  apply Program.Run.call
  change Program.Run (((Handler.lift (runTool true _ "id")).tryFinally
    Handler.release).bind _) _ _
  rw [starts]
  apply Program.Run.call
  change Program.Run (((Handler.lift (next (.error .timeoutError))).tryFinally
    Handler.release).bind _) _ _
  rw [fails]
  apply Program.Run.call
  exact .raise _

/-- The endpoint starts every tool within the contract. -/
theorem Placement.Contracted.directlyExecutable {placement : Placement}
    (ascii : builtins.lower "bearer" = "bearer")
    (contracted : placement.Contracted builtins) :
    DirectlyExecutable builtins placement := by
  rcases placement with ⟨executor, tool, arguments⟩
  rcases contracted with ⟨spec, registered, rfl, accepts⟩
  have executor_eq := toolExecutor_eq registered
  cases executor : spec.executor with
  | subprocess =>
      have starts : runTool true ⟨⟨"default", "user"⟩, tool, arguments⟩ "id" =
          execute tool arguments := by
        rw [runTool, executor_eq, executor]
      rcases run_anyone ascii registered accepts starts rfl with
        ⟨before, after, run⟩
      exact ⟨_, _, _, _, _, _, _, _, _, run,
        List.mem_filterMap.mpr ⟨_, List.mem_append_right _ List.mem_cons_self,
          rfl⟩⟩
  | job =>
      have starts : runTool true ⟨⟨"default", "user"⟩, tool, arguments⟩ "id" =
          executeJob tool arguments "default" "id" := by
        rw [runTool, executor_eq, executor]
        rfl
      rcases run_anyone ascii registered accepts starts rfl with
        ⟨before, after, run⟩
      exact ⟨_, _, _, _, _, _, _, _, _, run,
        List.mem_filterMap.mpr ⟨_, List.mem_append_right _ List.mem_cons_self,
          rfl⟩⟩

end Executable

/-! ## The agent loop -/

namespace AgentContext

variable (context : AgentContext)

/-- A response abides by the contract: the tool that it may call, and that has a
backend, accepts the arguments. -/
def Abides (response : Json) : Prop :=
  ∀ tool arguments spec,
    context.toolCall response = some (.str tool, .obj arguments) →
    isAllowed context.allowlist context.tenantId tool = true →
    toolSpec tool = some spec →
    (spec.executor = .job → context.jobExecutor = true) →
    spec.Accepts context.builtins arguments

variable {context} {events : List ServiceEvent}

theorem authorizedTool_iff {tool : Json} {name : String} :
    context.authorizedTool tool = some name ↔
      tool = .str name ∧
        isAllowed context.allowlist context.tenantId name = true ∧
        ∃ spec, toolSpec name = some spec := by
  constructor
  · intro authorized
    cases tool with
    | str given =>
        unfold authorizedTool at authorized
        dsimp only at authorized
        split at authorized
        next passes =>
          cases authorized
          rcases Bool.and_eq_true_iff.mp passes with ⟨allowed, registered⟩
          exact ⟨rfl, allowed, Option.isSome_iff_exists.mp registered⟩
        next => cases authorized
    | null | bool | int | float | arr | obj => cases authorized
  · rintro ⟨rfl, allowed, spec, registered⟩
    simp [authorizedTool, allowed, registered]

theorem placed_iff {tool : String} {arguments : List (String × Json)}
    {spec : ToolSpec} {placement : Placement}
    (registered : toolSpec tool = some spec) :
    context.placed tool arguments = some placement ↔
      (spec.executor = .job → context.jobExecutor = true) ∧
        placement = ⟨spec.executor, tool, arguments⟩ := by
  unfold placed
  rw [toolExecutor_eq registered]
  cases executor : spec.executor with
  | subprocess =>
      constructor
      · rintro ⟨⟩
        exact ⟨(nomatch ·), rfl⟩
      · rintro ⟨_, rfl⟩
        rfl
  | job =>
      dsimp only
      cases context.jobExecutor with
      | false =>
          refine iff_of_false (nomatch ·) ?_
          rintro ⟨available, _⟩
          cases available rfl
      | true =>
          constructor
          · rintro ⟨⟩
            exact ⟨fun _ => rfl, rfl⟩
          · rintro ⟨_, rfl⟩
            rfl

/-- What a response that can be read starts. -/
theorem startedBy_iff {response : Json} {placement : Placement} :
    context.startedBy response = some placement ↔
      Digestible context.builtins response ∧
      ∃ tool arguments spec,
        context.toolCall response = some (.str tool, .obj arguments) ∧
        isAllowed context.allowlist context.tenantId tool = true ∧
        toolSpec tool = some spec ∧
        (spec.executor = .job → context.jobExecutor = true) ∧
        placement = ⟨spec.executor, tool, arguments⟩ := by
  have called : context.startedBy response = some placement ↔
      Digestible context.builtins response ∧
        (context.toolCall response).bind context.placementFor =
          some placement := by
    rw [← readable_iff]
    unfold startedBy
    cases read : context.readResponse response with
    | error error => simp
    | ok reading =>
        dsimp only
        rw [(calls_of_read read).1]
        exact (and_iff_right ⟨reading, rfl⟩).symm
  rw [called]
  refine and_congr_right fun _ => ?_
  rw [Option.bind_eq_some_iff]
  constructor
  · rintro ⟨⟨tool, arguments⟩, call, placed⟩
    unfold placementFor at placed
    dsimp only at placed
    split at placed
    next name fields authorized =>
      rcases authorizedTool_iff.mp authorized with
        ⟨rfl, allowed, spec, registered⟩
      exact ⟨name, fields, spec, call, allowed, registered,
        (placed_iff registered).mp placed⟩
    next => cases placed
  · rintro ⟨tool, arguments, spec, call, allowed, registered, somewhere⟩
    refine ⟨_, call, ?_⟩
    have authorized : context.authorizedTool (.str tool) = some tool :=
      authorizedTool_iff.mpr ⟨rfl, allowed, spec, registered⟩
    simp only [placementFor, authorized]
    exact (placed_iff registered).mpr somewhere

/-- A response that can be read starts tools within the contract only exactly
when it abides by it. -/
theorem contracted_iff_abides {response : Json}
    (digestible : Digestible context.builtins response) :
    (∀ placement, context.startedBy response = some placement →
        placement.Contracted context.builtins) ↔ context.Abides response := by
  constructor
  · intro contracted tool arguments spec call allowed registered available
    rcases contracted _ (startedBy_iff.mpr ⟨digestible, tool, arguments, spec,
      call, allowed, registered, available, rfl⟩) with
      ⟨other, found, _, accepts⟩
    cases registered.symm.trans found
    exact accepts
  · intro abides placement starts
    rcases (startedBy_iff.mp starts).2 with
      ⟨tool, arguments, spec, call, allowed, registered, available, rfl⟩
    exact ⟨spec, registered, rfl,
      abides tool arguments spec call allowed registered available⟩

theorem forall_placements {property : Placement → Prop} {task : String}
    {result : Except PyException AgentRunOutcome}
    (run : Program.Run (context.runAgentLoop task) events result)
    (undisturbed : Undisturbed events) :
    (∀ placement ∈ placements events, property placement) ↔
      ∀ response ∈ responses events, ∀ placement,
        context.startedBy response = some placement → property placement := by
  rcases turns_of_runAgentLoop run undisturbed with
    ⟨runId, opening, taken, rfl, opened, turns⟩
  rcases opened.shows with ⟨_, silent, idle, _, _⟩
  have started : placements (opening ++ taken) =
      (responses (opening ++ taken)).filterMap context.startedBy :=
    placements_append (by rw [idle, silent]; rfl) turns.placements_eq
  rw [started]
  constructor
  · intro all response member placement starts
    exact all placement (List.mem_filterMap.mpr ⟨response, member, starts⟩)
  · intro all placement member
    rcases List.mem_filterMap.mp member with ⟨response, among, starts⟩
    exact all response among placement starts

/-- The endpoint starts tools within the contract only. A run of the agent loop
does so, and starts only what the endpoint could, exactly when the responses that
can be read abide by the contract. -/
theorem tool_contract_iff {task : String}
    {result : Except PyException AgentRunOutcome}
    (ascii : context.builtins.lower "bearer" = "bearer")
    (run : Program.Run (context.runAgentLoop task) events result)
    (undisturbed : Undisturbed events) :
    (∀ placement, DirectlyExecutable context.builtins placement ↔
        placement.Contracted context.builtins) ∧
      ((∀ placement ∈ placements events,
          placement.Contracted context.builtins) ↔
        ∀ response ∈ responses events, Digestible context.builtins response →
          context.Abides response) := by
  refine ⟨fun placement => ⟨DirectlyExecutable.contracted,
    Placement.Contracted.directlyExecutable ascii⟩, ?_⟩
  rw [forall_placements run undisturbed]
  refine forall₂_congr fun response _ => ?_
  constructor
  · intro contracted digestible
    exact (contracted_iff_abides digestible).mp contracted
  · intro abides placement starts
    have digestible := (startedBy_iff.mp starts).1
    exact (contracted_iff_abides digestible).mpr (abides digestible) placement
      starts

end AgentContext

theorem tool_contract_iff_countAndFinish :
    (∀ placement ∈ placements (scriptedRun countAndFinish),
        DirectlyExecutable (wordCounter countAndFinish).builtins placement) ∧
      ∀ response ∈ responses (scriptedRun countAndFinish),
        Digestible (wordCounter countAndFinish).builtins response →
          (wordCounter countAndFinish).Abides response := by
  rcases scriptedRun_run countAndFinish with ⟨result, run⟩
  rcases AgentContext.tool_contract_iff (by decide) run (by decide +kernel) with
    ⟨direct, agent⟩
  have contracted : ∀ placement ∈ placements (scriptedRun countAndFinish),
      placement.Contracted (wordCounter countAndFinish).builtins := by
    decide +kernel
  exact ⟨fun placement member => (direct placement).mpr
    (contracted placement member), agent.mp contracted⟩

/-- The model calls a tool without its argument. -/
def callWithoutText : List (String × Json) :=
  [("\x7b\"action\": \"call_tool\", \"tool\": \"text_stats\", " ++
      "\"arguments\": \x7b\x7d\x7d",
    .obj [("action", .str "call_tool"), ("tool", .str "text_stats"),
      ("arguments", .obj [])])]

/-- The tool is started with arguments the endpoint refuses. -/
theorem callWithoutText_started :
    (∃ result, Program.Run
        ((wordCounter callWithoutText).runAgentLoop "Count the words.")
        (scriptedRun callWithoutText) result) ∧
      Undisturbed (scriptedRun callWithoutText) ∧
      ∃ placement ∈ placements (scriptedRun callWithoutText),
        ¬ placement.Contracted (wordCounter callWithoutText).builtins ∧
        ¬ DirectlyExecutable (wordCounter callWithoutText).builtins
          placement := by
  refine ⟨scriptedRun_run callWithoutText, by decide +kernel, ?_⟩
  have broken : ∃ placement ∈ placements (scriptedRun callWithoutText),
      ¬ placement.Contracted (wordCounter callWithoutText).builtins := by
    decide +kernel
  rcases broken with ⟨placement, started, refused⟩
  exact ⟨placement, started, refused,
    fun executable => refused executable.contracted⟩

end PrivateAiWorkspace.ControlPlane
