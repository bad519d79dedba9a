import PrivateAiWorkspace.Dispatcher.PodRuns
import PrivateAiWorkspace.Python.PrintedJson

/-!
# The two backends of a tool agree

The same call is run as a process and as a Job, with the same runner. The outcomes
are equal for every runner whose output fits into the log exactly when the
dispatcher accepts the call, the references in the environment leave its input as it
is and the kernel can start the runner with it. A document that does not fit into
the log comes to the same only when it is no success.
-/

namespace PrivateAiWorkspace.Dispatcher

open Effects Python K8sClient ControlPlane

/-! ## The two paths -/

/-- What the client gets of the end of a request. -/
def answerOf (builtins : Builtins) :
    Except PyException (Option JsonResponse) → Except PyException Bytes
  | .ok (some (.ok, payload)) => .ok (Utf8.encode (builtins.dumps payload))
  | .ok (some (status, _)) => .error (.httpError status.code)
  | .ok none => .error .timeoutError
  | .error _ => .error (.other "RemoteDisconnected")

/-- A request to the dispatcher, over the cluster. -/
def dispatch (builtins : Builtins) (config : DispatcherConfig) (world : PodWorld)
    (polls : Nat) (authorization : String) (body : Bytes) :
    Except PyException Bytes :=
  answerOf builtins ((postRun builtins polls (some authorization) body config).eval
    (world.respond builtins) ⟨"", 0⟩).1

/-- The call as a Job. -/
def jobPath (builtins : Builtins) (executor : DispatcherJobExecutor)
    (config : DispatcherConfig) (world : PodWorld) (polls : Nat) (tool : String)
    (arguments : List (String × Json)) (tenantId runId : String) :
    SandboxOutcome :=
  executor.execute builtins
    (fun _ authorization body =>
      dispatch builtins config world polls authorization body)
    tool arguments tenantId runId

/-- The call as a process. -/
def processPath (builtins : Builtins) (runner : String → String) (tool : String)
    (arguments : List (String × Json)) : SandboxOutcome :=
  SandboxExecutor.execute builtins
    (fun input => .ok (.exited 0 (Utf8.encode (runner (Utf8.decodeReplace input)))))
    tool arguments

/-- The client has the address and the token of the dispatcher. -/
structure Deployed (builtins : Builtins) (executor : DispatcherJobExecutor)
    (config : DispatcherConfig) (secret : String) : Prop where
  address : rstripSlash (executor.baseUrl.getD "") ≠ ""
  sent : executor.token = some secret
  expected : config.token = some secret
  presented : bearer builtins.lower (some ("Bearer " ++ secret)) = some secret
  nonempty : secret ≠ ""
  ascii : Str.isAscii secret = true

/-- The documents of a call are read as they were written. -/
structure Exchanges (builtins : Builtins) (world : PodWorld) (tool : String)
    (arguments : List (String × Json)) (tenantId runId : String) : Prop where
  request : RoundTrips builtins
    (DispatcherJobExecutor.requestBody tool arguments tenantId runId)
  response : ∀ outcome, podOutcome builtins world
      (world.received (jobPayload builtins tool arguments)) = .ok outcome →
    RoundTrips builtins (outcomePayload outcome)

/-! ## Conditions -/

/-- The dispatcher runs the call. -/
structure Accepted (builtins : Builtins) (tool : String)
    (arguments : List (String × Json)) (tenantId runId : String) : Prop where
  executor : toolExecutor tool = .job
  runId_ne : runId ≠ ""
  tenantId_ne : tenantId ≠ ""
  short : (Utf8.encode (builtins.dumps (DispatcherJobExecutor.requestBody tool
    arguments tenantId runId))).length ≤ maxBody

/-- What `json.loads` makes of the output of a process. -/
def readOutput (builtins : Builtins) (output : String) : Except PyException Json :=
  builtins.loadsBytes (orEmptyObject (Utf8.encode output))

/-- What `json.loads` makes of the log of a pod. -/
def readLog (builtins : Builtins) (output : String) : Except PyException Json :=
  builtins.loads (if podLog output = "" then "\x7b\x7d" else podLog output)

/-- A text that is the same to `json.loads` as its bytes are: it does not begin
with a byte order mark, and has no null character. -/
def PlainText (text : String) : Prop :=
  text.toList.head? ≠ some (Char.ofNat 0xfeff) ∧ Char.ofNat 0 ∉ text.toList

/-- A plain text that the log has room for. -/
structure Fits (output : String) : Prop where
  plain : PlainText output
  short : (Utf8.encode output).length ≤ limitBytes

/-- The dispatcher runs the call, and its input reaches the runner as it is. -/
structure Carried (builtins : Builtins) (world : PodWorld) (tool : String)
    (arguments : List (String × Json)) (tenantId runId : String) : Prop where
  accepted : Accepted builtins tool arguments tenantId runId
  verbatim : world.received (jobPayload builtins tool arguments) =
    jobPayload builtins tool arguments
  starts : world.Starts (jobPayload builtins tool arguments)

/-- The document of a runner reports neither a success nor an unknown tool. -/
def Unsuccessful (fields : List (String × Json)) : Prop :=
  (Json.get fields "ok").truthy = false ∧
    Json.get fields "error" ≠ .str "unknown_tool"

/-- The cluster with another runner. -/
def PodWorld.running (world : PodWorld) (runner : String → String) : PodWorld :=
  { world with runner }

section Agreement

variable {builtins : Builtins} {executor : DispatcherJobExecutor}
  {config : DispatcherConfig} {world : PodWorld} {secret tool : String}
  {arguments : List (String × Json)} {tenantId runId : String} {polls : Nat}

theorem processPath_eq (runner : String → String) :
    processPath builtins runner tool arguments =
      verdict (readOutput builtins (runner (jobPayload builtins tool arguments))) := by
  unfold processPath SandboxExecutor.execute
  dsimp only
  rw [Utf8.decodeReplace_encode]
  rfl

/-- The outcome of a Job as the client sees it. -/
def jobVerdict : Except PyException JobOutcome → SandboxOutcome
  | .ok outcome => ⟨.str outcome.resultClass.text, outcome.result, outcome.exitCode⟩
  | .error _ => .toolError

/-- A log is classified as the output of a process is. -/
theorem jobVerdict_classifyLog (log : String) :
    jobVerdict (classifyLog builtins log) =
      verdict (builtins.loads (if log = "" then "\x7b\x7d" else log)) := by
  unfold classifyLog
  generalize builtins.loads _ = loaded
  cases loaded with
  | error error => cases error <;> rfl
  | ok value =>
      cases value with
      | obj data =>
          dsimp only [verdict]
          split
          · rfl
          · generalize Json.get data "error" = error
            repeat' split
            all_goals first
              | rfl
              | exact absurd rfl ‹_›
      | _ => rfl

/-- A refused request is an error to the client. -/
theorem outcome_refused {status : HttpStatus} {payload : Json}
    (refused : status ≠ .ok) :
    DispatcherJobExecutor.outcome builtins
      (answerOf builtins (.ok (some (status, payload)))) = .toolError := by
  cases status with
  | ok => exact absurd rfl refused
  | _ => rfl

/-- The payload of an outcome is read as the outcome. -/
theorem outcome_answered {outcome : JobOutcome}
    (trips : RoundTrips builtins (outcomePayload outcome)) :
    DispatcherJobExecutor.outcome builtins
        (answerOf builtins (.ok (some (.ok, outcomePayload outcome)))) =
      jobVerdict (.ok outcome) := by
  have loaded := trips.loads ⟨_, rfl⟩
  change DispatcherJobExecutor.outcome builtins
    (.ok (Utf8.encode (builtins.dumps (outcomePayload outcome)))) = _
  unfold DispatcherJobExecutor.outcome
  dsimp only
  rw [loaded]
  rfl

/-- The checks of a request whose fields are as the client sends them. -/
theorem readRun_requestBody (registered : toolExecutor tool = .job)
    (runId_ne : runId ≠ "") (tenantId_ne : tenantId ≠ "") :
    readRun [("tenant_id", .str tenantId), ("run_id", .str runId),
        ("tool", .str tool), ("arguments", .obj arguments)] =
      .ok ⟨runId, tenantId, tool, arguments, runId_ne, tenantId_ne, registered⟩ := by
  have tool_ne : tool ≠ "" := by
    intro empty
    subst empty
    exact absurd registered (by decide)
  simp [readRun, Json.get, Json.getOr, Json.lookup, tool_ne, runId_ne, tenantId_ne,
    registered]

theorem readRun_refused
    (refused : ¬ (toolExecutor tool = .job ∧ runId ≠ "" ∧ tenantId ≠ "")) :
    ∃ response, readRun [("tenant_id", .str tenantId), ("run_id", .str runId),
        ("tool", .str tool), ("arguments", .obj arguments)] = .error response ∧
      response.1 = .badRequest := by
  simp only [readRun, Json.get, Json.getOr, Json.lookup]
  by_cases tool_eq : tool = ""
  · simp [tool_eq, badRun]
  · by_cases runId_eq : runId = ""
    · simp [tool_eq, runId_eq, badRun]
    · by_cases tenantId_eq : tenantId = ""
      · simp [tool_eq, runId_eq, tenantId_eq, badRun]
      · have unregistered : toolExecutor tool ≠ .job := fun registered =>
          refused ⟨registered, runId_eq, tenantId_eq⟩
        simp [tool_eq, runId_eq, tenantId_eq, unregistered]

/-- A request of the client passes the checks of its token. -/
theorem prepareRun_deployed (deployed : Deployed builtins executor config secret)
    (trips : RoundTrips builtins
      (DispatcherJobExecutor.requestBody tool arguments tenantId runId)) :
    prepareRun builtins (some ("Bearer " ++ secret)) (Utf8.encode (builtins.dumps
        (DispatcherJobExecutor.requestBody tool arguments tenantId runId))) config =
      .ok (readRun [("tenant_id", .str tenantId), ("run_id", .str runId),
        ("tool", .str tool), ("arguments", .obj arguments)]) := by
  have equal : compareDigest secret secret = .ok true := by
    simp [compareDigest, deployed.ascii]
  have nonempty := deployed.nonempty
  unfold prepareRun
  rw [deployed.expected]
  split
  · rename_i impossible
    cases impossible
  · rename_i empty
    exact absurd (Option.some.inj empty) nonempty
  · rename_i token _ same
    cases Option.some.inj same
    rw [deployed.presented]
    dsimp only
    rw [equal]
    dsimp only
    rw [loadRun, show builtins.loadsBytes _ = _ from trips]
    rfl

/-- The client sends a request and reads its answer. -/
theorem jobPath_eq (deployed : Deployed builtins executor config secret) :
    jobPath builtins executor config world polls tool arguments tenantId runId =
      DispatcherJobExecutor.outcome builtins (dispatch builtins config world polls
        ("Bearer " ++ secret) (Utf8.encode (builtins.dumps
          (DispatcherJobExecutor.requestBody tool arguments tenantId runId)))) := by
  have configured : executor.configured = true := by
    simp [DispatcherJobExecutor.configured, deployed.address, deployed.sent,
      deployed.nonempty]
  unfold jobPath DispatcherJobExecutor.execute
  rw [if_pos configured, deployed.sent]
  rfl

/-- A call that the dispatcher does not run is an error. -/
theorem jobPath_refused (deployed : Deployed builtins executor config secret)
    (exchanges : Exchanges builtins world tool arguments tenantId runId)
    (refused : ¬ Accepted builtins tool arguments tenantId runId) :
    jobPath builtins executor config world polls tool arguments tenantId runId =
      .toolError := by
  rw [jobPath_eq deployed]
  unfold dispatch postRun
  split
  · exact outcome_refused nofun
  · rename_i short
    have unread : ¬ (toolExecutor tool = .job ∧ runId ≠ "" ∧ tenantId ≠ "") :=
      fun facts => refused ⟨facts.1, facts.2.1, facts.2.2, Nat.le_of_not_lt short⟩
    rcases readRun_refused unread with ⟨response, read, status⟩
    unfold buildRunResponse
    rw [prepareRun_deployed deployed exchanges.request, read]
    rcases response with ⟨status, payload⟩
    cases status
    exact outcome_refused nofun

/-- A call that the dispatcher runs comes to the outcome of its pod. -/
theorem jobPath_accepted (deployed : Deployed builtins executor config secret)
    (speaks : Speaks builtins world)
    (exchanges : Exchanges builtins world tool arguments tenantId runId)
    (accepted : Accepted builtins tool arguments tenantId runId)
    (enough : world.looks < polls) :
    jobPath builtins executor config world polls tool arguments tenantId runId =
      jobVerdict (podOutcome builtins world
        (world.received (jobPayload builtins tool arguments))) := by
  rw [jobPath_eq deployed]
  unfold dispatch postRun
  rw [if_neg (Nat.not_lt.mpr accepted.short)]
  unfold buildRunResponse
  rw [prepareRun_deployed deployed exchanges.request,
    readRun_requestBody accepted.executor accepted.runId_ne accepted.tenantId_ne]
  have ahead : 0 ≤ config.jobConfig.overallTimeout :=
    (by decide : (0 : Rat) ≤ 45)
  have ran := @eval_runToolJob builtins world ⟨"", 0⟩ speaks config.jobConfig ahead
    polls enough runId tenantId tool arguments
  change DispatcherJobExecutor.outcome builtins (answerOf builtins
    (((runToolJob builtins config.jobConfig polls runId tenantId tool
      arguments).bind fun outcome => .ret (outcome.map fun outcome =>
        ((.ok, outcomePayload outcome) : JsonResponse))).eval
          (world.respond builtins) ⟨"", 0⟩).1) = _
  rw [Program.eval_bind]
  generalize (runToolJob builtins config.jobConfig polls runId tenantId tool
    arguments).eval (world.respond builtins) ⟨"", 0⟩ = ended at ran ⊢
  rcases ended with ⟨result, reached⟩
  dsimp only at ran
  rw [ran]
  have response := exchanges.response
  generalize podOutcome builtins world
    (world.received (jobPayload builtins tool arguments)) = outcome at response ⊢
  cases outcome with
  | error error => rfl
  | ok outcome => exact outcome_answered (response outcome rfl)

/-- A call that is carried comes to what its runner has left in the log. -/
theorem jobPath_carried (deployed : Deployed builtins executor config secret)
    (speaks : Speaks builtins world)
    (exchanges : Exchanges builtins world tool arguments tenantId runId)
    (carried : Carried builtins world tool arguments tenantId runId)
    (enough : world.looks < polls) :
    jobPath builtins executor config world polls tool arguments tenantId runId =
      verdict (readLog builtins
        (world.runner (jobPayload builtins tool arguments))) := by
  rw [jobPath_accepted deployed speaks exchanges carried.accepted enough,
    carried.verbatim, podOutcome, if_pos carried.starts, jobVerdict_classifyLog]
  rfl

/-- An output that fits is read off the log as it is off the process. -/
theorem readLog_of_fits
    (sameText : ∀ text, PlainText text →
      builtins.loadsBytes (Utf8.encode text) = builtins.loads text)
    {output : String} (fits : Fits output) :
    readLog builtins output = readOutput builtins output := by
  have log : podLog output = output := by
    rw [podLog, List.take_of_length_le fits.short, Utf8.decodeReplace_encode]
  unfold readLog readOutput
  rw [log]
  by_cases empty : output = ""
  · subst empty
    have brackets : PlainText "\x7b\x7d" := by
      constructor <;> decide
    exact (sameText _ brackets).symm
  · have some : (Utf8.encode output).isEmpty = false := by
      rw [List.isEmpty_eq_false_iff]
      exact fun none => empty (Utf8.encode_eq_nil_iff.mp none)
    rw [if_neg empty, orEmptyObject, some, ← sameText output fits.plain]
    rfl

/-- Printed JSON is plain text. -/
theorem plainText_dumps (prints : builtins.PrintsFloats) (value : Json) :
    PlainText (builtins.dumps value) := by
  have printable := Builtins.printable_dumps prints value
  constructor
  · intro mark
    exact absurd (printable _ (List.mem_of_mem_head? mark)) (by decide)
  · exact not_mem_of_printable printable (by decide)

theorem verdict_eq_error_iff (fields : List (String × Json)) :
    verdict (.ok (.obj fields)) = ⟨.str "tool_error", .null, .int 0⟩ ↔
      Unsuccessful fields := by
  rw [verdict, Unsuccessful]
  split
  next succeeded => simp [succeeded]
  next failed =>
    rw [Bool.not_eq_true] at failed
    split
    next unknown => simp [failed, unknown]
    next known => exact iff_of_true rfl ⟨failed, known⟩

/-! ## Runners that tell the ways apart -/

/-- What a runner puts out when it succeeds. -/
def successDocument : Json := .obj [("ok", .bool true), ("result", .int 3)]

theorem dumps_successDocument :
    builtins.dumps successDocument = "\x7b\"ok\": true, \"result\": 3\x7d" := by
  have quoted : quote "ok" = "\"ok\"" ∧ quote "result" = "\"result\"" := by decide
  simp only [successDocument, Builtins.dumps, Builtins.dumpsFields, quoted]
  decide

/-- The success is read off the output of a process. -/
theorem readOutput_success (trips : RoundTrips builtins successDocument) :
    readOutput builtins (builtins.dumps successDocument) = .ok successDocument :=
  trips.loads ⟨_, rfl⟩

theorem fits_success : Fits (builtins.dumps successDocument) := by
  rw [dumps_successDocument]
  exact ⟨⟨by decide, by decide⟩, by decide⟩

/-- A runner that succeeds on one input and says nothing to any other. -/
def succeedingOn (builtins : Builtins) (expected : String) (input : String) : String :=
  if input = expected then builtins.dumps successDocument else ""

theorem Speaks.withRunner (speaks : Speaks builtins world) (runner : String → String) :
    Speaks builtins (world.running runner) :=
  ⟨speaks.none, speaks.running, speaks.ended, speaks.pods, speaks.failedPods⟩

/-- No output is read as an empty object. -/
theorem readLog_empty
    (sameText : ∀ text, PlainText text →
      builtins.loadsBytes (Utf8.encode text) = builtins.loads text)
    (speaks : Speaks builtins world) : readLog builtins "" = .ok (.obj []) :=
  (readLog_of_fits sameText ⟨⟨by decide, by decide⟩, by decide⟩).trans speaks.none

/-- A success is not the error of a runner that was not started or said nothing. -/
theorem success_ne_error {result value : Json} {code error : Json} :
    (⟨.str "success", result, code⟩ : SandboxOutcome) ≠
      ⟨.str "tool_error", value, error⟩ := by
  intro same
  exact absurd (Json.str.inj (congrArg SandboxOutcome.resultClass same)) (by decide)

/-- A call on which the ways agree for a runner that succeeds on its input only is
carried. -/
theorem carried_of_agree
    (sameText : ∀ text, PlainText text →
      builtins.loadsBytes (Utf8.encode text) = builtins.loads text)
    (deployed : Deployed builtins executor config secret)
    (speaks : Speaks builtins world)
    (trips : RoundTrips builtins successDocument)
    {runner : String → String}
    (runs : runner = succeedingOn builtins (jobPayload builtins tool arguments))
    (exchanges : Exchanges builtins (world.running runner) tool arguments tenantId
      runId)
    (enough : world.looks < polls)
    (agree : processPath builtins runner tool arguments =
      jobPath builtins executor config (world.running runner) polls tool arguments
        tenantId runId) :
    Carried builtins world tool arguments tenantId runId := by
  have printed : runner (jobPayload builtins tool arguments) =
      builtins.dumps successDocument := by
    rw [runs, succeedingOn, if_pos rfl]
  have succeeded : processPath builtins runner tool arguments =
      ⟨.str "success", .int 3, .int 0⟩ := by
    rw [processPath_eq, printed, readOutput_success trips]
    rfl
  rw [succeeded] at agree
  by_cases accepted : Accepted builtins tool arguments tenantId runId
  · rw [jobPath_accepted deployed (speaks.withRunner runner) exchanges accepted enough,
      podOutcome] at agree
    split at agree
    next starts =>
      by_cases verbatim : world.received (jobPayload builtins tool arguments) =
          jobPayload builtins tool arguments
      · exact ⟨accepted, verbatim, verbatim ▸ starts⟩
      · -- The runner finds another input, and says nothing.
        have silent : runner (world.received (jobPayload builtins tool arguments)) =
            "" := by
          rw [runs, succeedingOn, if_neg verbatim]
        rw [jobVerdict_classifyLog] at agree
        change _ = verdict (readLog builtins
          (runner (world.received (jobPayload builtins tool arguments)))) at agree
        rw [silent, readLog_empty sameText speaks] at agree
        exact absurd agree success_ne_error
    next => exact absurd agree success_ne_error
  · rw [jobPath_refused deployed exchanges accepted] at agree
    exact absurd agree success_ne_error

section Carried

variable (deployed : Deployed builtins executor config secret)
  (speaks : Speaks builtins world) (runner : String → String)
  (exchanges : Exchanges builtins (world.running runner) tool arguments tenantId runId)
  (carried : Carried builtins world tool arguments tenantId runId)
  (enough : world.looks < polls)

include deployed speaks exchanges carried enough

theorem jobPath_running :
    jobPath builtins executor config (world.running runner) polls tool arguments
        tenantId runId =
      verdict (readLog builtins (runner (jobPayload builtins tool arguments))) :=
  jobPath_carried deployed (speaks.withRunner runner) exchanges
    ⟨carried.accepted, carried.verbatim, carried.starts⟩ enough

/-- The ways agree on an output that fits. -/
theorem agree_of_fits
    (sameText : ∀ text, PlainText text →
      builtins.loadsBytes (Utf8.encode text) = builtins.loads text)
    (fits : Fits (runner (jobPayload builtins tool arguments))) :
    processPath builtins runner tool arguments =
      jobPath builtins executor config (world.running runner) polls tool arguments
        tenantId runId := by
  rw [processPath_eq, jobPath_running deployed speaks runner exchanges carried enough,
    readLog_of_fits sameText fits]

/-- The ways agree on a printed document when it fits, and when it is cut off only
if it is no success. -/
theorem agree_iff_of_printed (prints : builtins.PrintsFloats)
    (sameText : ∀ text, PlainText text →
      builtins.loadsBytes (Utf8.encode text) = builtins.loads text)
    {fields : List (String × Json)}
    (printed : runner (jobPayload builtins tool arguments) =
      builtins.dumps (.obj fields))
    (reads : RoundTrips builtins (.obj fields))
    (cut : limitBytes < (Utf8.encode (builtins.dumps (.obj fields))).length →
      readLog builtins (builtins.dumps (.obj fields)) = .error .valueError) :
    processPath builtins runner tool arguments =
        jobPath builtins executor config (world.running runner) polls tool arguments
          tenantId runId ↔
      (Utf8.encode (builtins.dumps (.obj fields))).length ≤ limitBytes ∨
        Unsuccessful fields := by
  have output : readOutput builtins (builtins.dumps (.obj fields)) =
      .ok (.obj fields) := reads.loads ⟨_, rfl⟩
  by_cases short : (Utf8.encode (builtins.dumps (.obj fields))).length ≤ limitBytes
  · refine iff_of_true ?_ (.inl short)
    apply agree_of_fits deployed speaks runner exchanges carried enough sameText
    rw [printed]
    exact ⟨plainText_dumps prints _, short⟩
  · rw [processPath_eq, jobPath_running deployed speaks runner exchanges carried enough,
      printed, output, cut (Nat.lt_of_not_le short), or_iff_right short]
    exact verdict_eq_error_iff fields

end Carried

end Agreement

/-- The outcomes of the two backends are equal for every runner whose output fits into
the log exactly when the call is carried. A runner that prints a document on a call
that is carried has equal outcomes exactly when the document fits or is no success. -/
theorem backends_agree_iff (builtins : Builtins) (prints : builtins.PrintsFloats)
    (sameText : ∀ text, PlainText text →
      builtins.loadsBytes (Utf8.encode text) = builtins.loads text)
    (trips : RoundTrips builtins successDocument)
    (executor : DispatcherJobExecutor) (config : DispatcherConfig) (secret : String)
    (deployed : Deployed builtins executor config secret) (world : PodWorld)
    (speaks : Speaks builtins world)
    (tool : String) (arguments : List (String × Json)) (tenantId runId : String)
    (exchanges : ∀ runner, Exchanges builtins (world.running runner) tool arguments
      tenantId runId)
    (polls : Nat) (enough : world.looks < polls) :
    ((∀ runner : String → String, Fits (runner (jobPayload builtins tool arguments)) →
        processPath builtins runner tool arguments =
          jobPath builtins executor config (world.running runner) polls tool arguments
            tenantId runId) ↔
      Carried builtins world tool arguments tenantId runId) ∧
    ∀ (runner : String → String) (fields : List (String × Json)),
      Carried builtins world tool arguments tenantId runId →
      runner (jobPayload builtins tool arguments) = builtins.dumps (.obj fields) →
      RoundTrips builtins (.obj fields) →
      -- A document that is cut off is no JSON.
      (limitBytes < (Utf8.encode (builtins.dumps (.obj fields))).length →
        readLog builtins (builtins.dumps (.obj fields)) = .error .valueError) →
      (processPath builtins runner tool arguments =
          jobPath builtins executor config (world.running runner) polls tool arguments
            tenantId runId ↔
        (Utf8.encode (builtins.dumps (.obj fields))).length ≤ limitBytes ∨
          Unsuccessful fields) := by
  refine ⟨⟨fun agree => ?_, fun carried runner fits => ?_⟩, ?_⟩
  · have fits : Fits (succeedingOn builtins (jobPayload builtins tool arguments)
        (jobPayload builtins tool arguments)) := by
      rw [succeedingOn, if_pos rfl]
      exact fits_success
    exact carried_of_agree sameText deployed speaks trips rfl (exchanges _) enough
      (agree _ fits)
  · exact agree_of_fits deployed speaks runner (exchanges runner) carried enough
      sameText fits
  · intro runner fields carried printed reads cut
    exact agree_iff_of_printed deployed speaks runner (exchanges runner) carried enough
      prints sameText printed reads cut

/-! ## A call and its documents -/

/-- The documents of a call besides its body. -/
def spoken : List Json :=
  [.obj [], runningJob, endedJob true, endedJob false, endedPods 0, endedPods 128,
    outcomePayload ⟨.success, .int 3, .int 0⟩,
    outcomePayload ⟨.toolError, .null, .int 128⟩, successDocument,
    outcomePayload ⟨.toolError, .null, .int 0⟩]

/-- The same as they are written. -/
def written : List String := spoken.map (Builtins.sample []).dumps

/-- The text of a body begins with its first key. -/
def isBody (text : String) : Bool := text.toList.take 3 == ['\x7b', '"', 't']

/-- `json.loads` of the documents of a call with this body. -/
def talkLoads (body : Json) (text : String) : Except PyException Json :=
  if isBody text then .ok body
  else
    match spoken[written.idxOf text]? with
    | some document => .ok document
    | none => .error .valueError

/-- Built-in functions that read the documents of a call with this body. -/
def talk (body : Json) : Builtins :=
  { Builtins.sample [] with
    loads := talkLoads body
    loadsBytes := fun data => talkLoads body (Utf8.decodeReplace data) }

/-- A call with this text. -/
def callArguments (text : String) : List (String × Json) := [("text", .str text)]

/-- The body of the call. -/
def callBody (text : String) : Json :=
  DispatcherJobExecutor.requestBody "text_stats_job" (callArguments text) "t1" "r1"

/-- A runner that succeeds on every input, on a node that starts processes with
environment strings of up to 128 KiB, and a Job that is seen to run once. -/
def callWorld : PodWorld where
  runner _ := (Builtins.sample []).dumps successDocument
  services _ := none
  argLimit := 131072
  startError := 128
  looks := 1

/-- The client of the dispatcher. -/
def callExecutor : DispatcherJobExecutor where
  baseUrl := some "http://dispatcher:8090"
  token := some "s3cret"

/-- The dispatcher. -/
def callConfig : DispatcherConfig := { token := some "s3cret", image := "runner" }

section Call

variable (body value : Json) (text : String)

theorem loadsBytes_talk :
    (talk body).loadsBytes (Utf8.encode text) = talkLoads body text := by
  have defined : (talk body).loadsBytes =
      fun data => talkLoads body (Utf8.decodeReplace data) := rfl
  rw [defined]
  dsimp only
  rw [Utf8.decodeReplace_encode]

theorem dumps_talk : (talk body).dumps value = (Builtins.sample []).dumps value :=
  @Builtins.dumps_congr (talk body) (Builtins.sample []) rfl value

/-- The documents are told apart. -/
theorem told_apart : ∀ place < spoken.length, ∀ text ∈ written[place]?,
    isBody text = false ∧ written.idxOf text = place := by
  decide +kernel

theorem reads_spoken {value : Json} {place : Nat}
    (there : spoken[place]? = some value) :
    talkLoads body ((Builtins.sample []).dumps value) = .ok value := by
  have inside := (List.getElem?_eq_some_iff.mp there).1
  have text : written[place]? = some ((Builtins.sample []).dumps value) := by
    simp [written, there]
  have apart := told_apart place inside _ text
  rw [talkLoads, apart.1, apart.2, there]
  rfl

theorem trips_spoken {value : Json} {place : Nat}
    (there : spoken[place]? = some value) : RoundTrips (talk body) value := by
  rw [RoundTrips, loadsBytes_talk, dumps_talk]
  exact reads_spoken body there

theorem speaks_talk : Speaks (talk body) callWorld := by
  constructor
  · have brackets : Utf8.encode ((talk body).dumps (.obj [])) = [123, 125] := by
      rw [dumps_talk]
      decide
    rw [← brackets]
    exact @trips_spoken body _ 0 rfl
  · exact @trips_spoken body _ 1 rfl
  · intro succeeded
    cases succeeded with
    | true => exact @trips_spoken body _ 2 rfl
    | false => exact @trips_spoken body _ 3 rfl
  · exact @trips_spoken body _ 4 rfl
  · exact @trips_spoken body _ 5 rfl

theorem deployed_talk :
    Deployed (talk body) callExecutor callConfig "s3cret" := by
  constructor
  · decide
  · rfl
  · rfl
  · change bearer Str.asciiLower _ = _
    decide
  · decide
  · decide

/-- The names and values of a call as they are written. -/
theorem quote_call :
    quote "tenant_id" = "\"tenant_id\"" ∧ quote "t1" = "\"t1\"" ∧
      quote "run_id" = "\"run_id\"" ∧ quote "r1" = "\"r1\"" ∧
      quote "tool" = "\"tool\"" ∧ quote "text_stats_job" = "\"text_stats_job\"" ∧
      quote "arguments" = "\"arguments\"" ∧ quote "text" = "\"text\"" := by
  decide

/-- The body with its text left open. -/
theorem dumps_callBody :
    (Builtins.sample []).dumps (callBody text) =
      "\x7b" ++ ("\"tenant_id\": \"t1\", " ++ ("\"run_id\": \"r1\", " ++
        ("\"tool\": \"text_stats_job\", " ++ ("\"arguments\": " ++ ("\x7b" ++
          ("\"text\": " ++ (quote text ++ "\x7d\x7d"))))))) := by
  have quoted := quote_call
  simp [callBody, callArguments, DispatcherJobExecutor.requestBody, Builtins.dumps,
    Builtins.dumpsFields, quoted, String.append_assoc]

/-- The payload with its text left open. -/
theorem jobPayload_call :
    jobPayload (talk body) "text_stats_job" (callArguments text) =
      "\x7b" ++ ("\"tool\": \"text_stats_job\", " ++ ("\"arguments\": " ++
        ("\x7b" ++ ("\"text\": " ++ (quote text ++ "\x7d\x7d"))))) := by
  have quoted := quote_call
  simp [jobPayload, callArguments, Builtins.dumps, Builtins.dumpsFields, quoted,
    String.append_assoc]

theorem trips_callBody : RoundTrips (talk (callBody text)) (callBody text) := by
  have body : isBody ((Builtins.sample []).dumps (callBody text)) = true := by
    rw [dumps_callBody, isBody, String.toList_append, String.toList_append]
    rfl
  rw [RoundTrips, loadsBytes_talk, dumps_talk, talkLoads, if_pos body]

/-- What `json.loads` reads is the body or one of the documents. -/
theorem talkLoads_cases : talkLoads body text = .error .valueError ∨
    ∃ document ∈ body :: spoken, talkLoads body text = .ok document := by
  rw [talkLoads]
  split
  · exact .inr ⟨body, List.mem_cons_self, rfl⟩
  · split
    next document there =>
      exact .inr ⟨document, List.mem_cons_of_mem _ (List.mem_of_getElem? there), rfl⟩
    next => exact .inl rfl

/-- Whatever a runner puts out, the run comes to one of two outcomes. -/
theorem classifyLog_talk (log : String) :
    classifyLog (talk (callBody text)) log = .ok ⟨.success, .int 3, .int 0⟩ ∨
      classifyLog (talk (callBody text)) log = .ok ⟨.toolError, .null, .int 0⟩ := by
  have loads : (talk (callBody text)).loads = talkLoads (callBody text) := rfl
  rw [classifyLog, loads]
  rcases talkLoads_cases (callBody text) (if log = "" then "\x7b\x7d" else log) with
    failed | ⟨document, member, read⟩
  · rw [failed]
    exact .inr rfl
  · rw [read]
    simp only [spoken, List.mem_cons, List.not_mem_nil, or_false] at member
    rcases member with
      rfl | rfl | rfl | rfl | rfl | rfl | rfl | rfl | rfl | rfl | rfl <;>
        first
          | exact .inl rfl
          | exact .inr rfl

theorem exchanges_call (runner : String → String) :
    Exchanges (talk (callBody text)) (callWorld.running runner) "text_stats_job"
      (callArguments text) "t1" "r1" := by
  constructor
  · exact trips_callBody text
  · intro outcome ended
    rw [podOutcome] at ended
    split at ended
    · rcases classifyLog_talk text (podLog ((callWorld.running runner).runner
        ((callWorld.running runner).received (jobPayload (talk (callBody text))
          "text_stats_job" (callArguments text))))) with success | failure
      · cases success.symm.trans ended
        exact @trips_spoken _ _ 6 rfl
      · cases failure.symm.trans ended
        exact @trips_spoken _ _ 9 rfl
    · cases ended
      exact @trips_spoken _ _ 7 rfl

theorem printsFloats_talk : (talk body).PrintsFloats := by
  intro value c member
  have written : (talk body).floatRepr value = toString value.num ++ ".0" := rfl
  rw [written, String.toList_append, List.mem_append] at member
  rcases member with digits | zero
  · exact Builtins.printable_int value.num c digits
  · exact (by decide : ∀ c ∈ ".0".toList, Printable c) c zero

theorem sameText_talk (text : String) (_ : PlainText text) :
    (talk body).loadsBytes (Utf8.encode text) = (talk body).loads text :=
  loadsBytes_talk body text

/-- A call whose body is short enough is run. -/
theorem accepted_call (short : (Utf8.encode ((Builtins.sample []).dumps
      (callBody text))).length ≤ maxBody) :
    Accepted (talk (callBody text)) "text_stats_job" (callArguments text) "t1"
      "r1" := by
  constructor
  · decide
  · decide
  · decide
  · rw [dumps_talk]
    exact short

end Call

/-- A short text comes to the same outcome on both ways. -/
theorem backends_agree_abc :
    processPath (talk (callBody "abc")) callWorld.runner "text_stats_job"
        (callArguments "abc") =
      jobPath (talk (callBody "abc")) callExecutor callConfig callWorld 2
        "text_stats_job" (callArguments "abc") "t1" "r1" := by
  have agree := (backends_agree_iff (talk (callBody "abc")) (printsFloats_talk _)
    (sameText_talk _) (@trips_spoken _ _ 8 rfl) callExecutor callConfig "s3cret"
    (deployed_talk _) callWorld (speaks_talk _) "text_stats_job" (callArguments "abc")
    "t1" "r1" (exchanges_call "abc") 2 (by decide)).1.mpr
  have payload : jobPayload (talk (callBody "abc")) "text_stats_job"
      (callArguments "abc") = "\x7b\"tool\": \"text_stats_job\", \"arguments\": " ++
        "\x7b\"text\": \"abc\"\x7d\x7d" := by
    rw [jobPayload_call]
    decide +kernel
  refine agree ⟨accepted_call _ (by decide +kernel), ?_, ?_⟩ callWorld.runner ?_
  · rw [payload]
    decide +kernel
  · rw [payload]
    decide +kernel
  · exact @fits_success (Builtins.sample [])

/-- A text that is six bytes longer as JSON for each of its characters. -/
def wideText (count : Nat) : String := String.ofList (List.replicate count 'é')

theorem toList_quote_wideText (count : Nat) :
    (quote (wideText count)).toList =
      '"' :: ((List.replicate count ['\\', 'u', '0', '0', 'e', '9']).flatten ++
        ['"']) := by
  have escaped : escapeChar 'é' = ['\\', 'u', '0', '0', 'e', '9'] := by decide
  simp [quote, wideText, List.flatMap_replicate, escaped]

theorem length_quote_wideText (count : Nat) :
    (quote (wideText count)).length = count * 6 + 2 := by
  rw [← String.length_toList, toList_quote_wideText]
  simp

theorem length_encode_quote_wideText (count : Nat) :
    (Utf8.encode (quote (wideText count))).length = count * 6 + 2 := by
  have single : ∀ c ∈ ['"', '\\', 'u', '0', 'e', '9'],
      (Utf8.encodeChar c).length = 1 := by decide
  simp only [List.forall_mem_cons] at single
  rw [Utf8.encode, toList_quote_wideText]
  simp [Utf8.encodeChars, List.length_flatMap, single]
  omega

theorem length_wideText (count : Nat) : (wideText count).length = count := by
  simp [wideText]

/-- The schema of the tool admits a text that is not too long. -/
theorem validateArguments_call {text : String} (short : text.length ≤ maxText) :
    (toolSpec "text_stats_job").map (validateArguments · (callArguments text)) =
      some none := by
  simp [toolSpec, tools, List.lookup_cons, validateArguments, checkArgument,
    callArguments, Json.lookup, ArgRule.admits, ControlPlane.sizeOf,
    Nat.not_lt.mpr short]

theorem readOutput_call (body : Json) (input : String) :
    readOutput (talk body) (callWorld.runner input) = .ok successDocument := by
  have some : (Utf8.encode ((Builtins.sample []).dumps successDocument)).isEmpty =
      false := by decide
  rw [readOutput, callWorld]
  dsimp only
  rw [orEmptyObject, some]
  exact (loadsBytes_talk body _).trans (@reads_spoken body _ 8 rfl)

/-- What the runner is given on a text of two `$`. -/
def dollarPayload : String :=
  "\x7b\"tool\": \"text_stats_job\", \"arguments\": \x7b\"text\": \"$$\"\x7d\x7d"

/-- A runner that succeeds on a text of two `$` only. -/
def dollarWorld : PodWorld :=
  callWorld.running (succeedingOn (Builtins.sample []) dollarPayload)

theorem jobPayload_dollars :
    jobPayload (talk (callBody "$$")) "text_stats_job" (callArguments "$$") =
      dollarPayload := by
  rw [jobPayload_call]
  decide +kernel

/-- No reference is read in a payload without a `$`. -/
theorem received_wideText (count : Nat) :
    callWorld.received (jobPayload (talk (callBody (wideText count))) "text_stats_job"
        (callArguments (wideText count))) =
      jobPayload (talk (callBody (wideText count))) "text_stats_job"
        (callArguments (wideText count)) := by
  apply EnvExpansion.expand_of_no_dollar
  rw [jobPayload_call]
  simp only [String.toList_append, toList_quote_wideText, List.mem_append, not_or]
  refine ⟨by decide, by decide, by decide, by decide, by decide, ?_, by decide⟩
  simp

/-- Thirty thousand such characters are allowed by the schema and by the size
limits of the endpoints, but the kernel does not start a process with them. A runner
that succeeds on the text of two `$` does not find them in its environment. -/
theorem backends_disagree :
    (toolSpec "text_stats_job").map
        (validateArguments · (callArguments (wideText 30000))) = some none ∧
      ((Builtins.sample []).dumps (.obj (callArguments (wideText 30000)))).length ≤
        maxArgsBytes ∧
      processPath (talk (callBody (wideText 30000))) callWorld.runner
          "text_stats_job" (callArguments (wideText 30000)) =
        ⟨.str "success", .int 3, .int 0⟩ ∧
      jobPath (talk (callBody (wideText 30000))) callExecutor callConfig callWorld 2
          "text_stats_job" (callArguments (wideText 30000)) "t1" "r1" =
        ⟨.str "tool_error", .null, .int 128⟩ ∧
      processPath (talk (callBody "$$")) dollarWorld.runner "text_stats_job"
          (callArguments "$$") =
        ⟨.str "success", .int 3, .int 0⟩ ∧
      jobPath (talk (callBody "$$")) callExecutor callConfig dollarWorld 2
          "text_stats_job" (callArguments "$$") "t1" "r1" =
        ⟨.str "tool_error", .null, .int 0⟩ := by
  have accepted : Accepted (talk (callBody (wideText 30000))) "text_stats_job"
      (callArguments (wideText 30000)) "t1" "r1" := by
    apply accepted_call
    rw [dumps_callBody]
    simp only [Utf8.encode_append, List.length_append, length_encode_quote_wideText]
    decide
  have unstarted : ¬ callWorld.Starts (jobPayload (talk (callBody (wideText 30000)))
      "text_stats_job" (callArguments (wideText 30000))) := by
    rw [jobPayload_call, PodWorld.Starts]
    simp only [Utf8.encode_append, List.length_append, length_encode_quote_wideText]
    decide
  refine ⟨?_, ?_, ?_, ?_, ?_, ?_⟩
  · apply validateArguments_call
    rw [length_wideText]
    decide
  · have quoted := quote_call
    simp only [callArguments, Builtins.dumps, Builtins.dumpsFields, quoted,
      String.intercalate_singleton, String.length_append, length_quote_wideText]
    decide
  · rw [processPath_eq, readOutput_call]
    rfl
  · rw [jobPath_accepted (deployed_talk _) (speaks_talk _) (exchanges_call _ _) accepted
      (by decide), received_wideText, podOutcome, if_neg unstarted]
    rfl
  · rw [processPath_eq, jobPayload_dollars]
    exact congrArg verdict (readOutput_success (@trips_spoken _ _ 8 rfl))
  · have found : dollarWorld.received dollarPayload ≠ dollarPayload := by
      decide +kernel
    have starts : dollarWorld.Starts (dollarWorld.received dollarPayload) := by
      decide +kernel
    have silent : dollarWorld.runner (dollarWorld.received dollarPayload) = "" := by
      change succeedingOn (Builtins.sample []) dollarPayload
        (dollarWorld.received dollarPayload) = ""
      rw [succeedingOn, if_neg found]
    have came := jobPath_accepted (deployed_talk (callBody "$$"))
      ((speaks_talk (callBody "$$")).withRunner _)
      (exchanges_call "$$" (succeedingOn (Builtins.sample []) dollarPayload))
      (accepted_call "$$" (by decide +kernel))
      (by decide : dollarWorld.looks < 2)
    rw [jobPayload_dollars] at came
    refine came.trans ?_
    change jobVerdict (podOutcome _ dollarWorld (dollarWorld.received dollarPayload)) = _
    rw [podOutcome, if_pos starts, jobVerdict_classifyLog, silent]
    exact congrArg verdict (readLog_empty (sameText_talk (callBody "$$"))
      (speaks_talk (callBody "$$")))

end PrivateAiWorkspace.Dispatcher
