import PrivateAiWorkspace.ControlPlane.RequestBodies
import PrivateAiWorkspace.Dispatcher.BackendAgreement
import PrivateAiWorkspace.Python.PrintedJson

/-!
# The sandbox runner

`sandbox/tools.py` with what its tools compute, and `sandbox/runner.py`, which
reads a call, runs the tool and prints the result. The executors of the control
plane are followed to the runner and back, as a process and as a Job: a call comes
to what the tool itself makes of its arguments, on both ways.
-/

namespace PrivateAiWorkspace.Sandbox

open Python ControlPlane Dispatcher K8sClient

/-! ## Tools -/

/-- `_text_stats`. -/
def textStats (arguments : List (String × Json)) : Except PyException Json :=
  match Json.get arguments "text" with
  | .str text =>
      if maxText < text.length then .error .valueError
      else .ok (.obj [("characters", .int text.length),
        ("words", .int (Str.words text).length),
        ("lines", .int (text.toList.count '\n' + if text = "" then 0 else 1))])
  | _ => .error .valueError

/-- `run` of a tool. -/
abbrev ToolRun := List (String × Json) → Except PyException Json

/-- `TOOLS`, as far as the runner reads it. -/
def toolRuns : List (String × ToolRun) :=
  [("text_stats", textStats), ("text_stats_job", textStats)]

/-- `TOOLS.get(tool)`. -/
def toolRun (tool : Json) : Except PyException (Option ToolRun) :=
  if isHashable tool then
    match tool with
    | .str name => .ok (toolRuns.lookup name)
    | _ => .ok none
  else .error .typeError

/-! ## The runner -/

/-- `type(exc).__name__`. -/
def exceptionName : PyException → String
  | .valueError => "ValueError"
  | .typeError => "TypeError"
  | .keyError => "KeyError"
  | .indexError => "IndexError"
  | .attributeError => "AttributeError"
  | .overflowError => "OverflowError"
  | .osError => "OSError"
  | .gaierror => "gaierror"
  | .timeoutError => "TimeoutError"
  | .brokenPipeError => "BrokenPipeError"
  | .connectionResetError => "ConnectionResetError"
  | .httpError _ => "HTTPError"
  | .urlError => "URLError"
  | .tokenVerificationError => "TokenVerificationError"
  | .inferenceUnavailableError _ => "InferenceUnavailableError"
  | .inferenceRoutingError => "InferenceRoutingError"
  | .outboundReject _ => "OutboundReject"
  | .unknownOperation => "UnknownOperation"
  | .other name => name

/-- A result that is none. -/
def failed (error : String) : List (String × Json) :=
  [("ok", .bool false), ("error", .str error)]

/-- `run`. -/
def run (payload : List (String × Json)) :
    Except PyException (List (String × Json)) :=
  match toolRun (Json.get payload "tool") with
  | .error error => .error error
  | .ok none => .ok (failed "unknown_tool")
  | .ok (some tool) =>
      match Json.get payload "arguments" with
      | .obj args =>
          match tool args with
          | .ok result => .ok [("ok", .bool true), ("result", result)]
          | .error error =>
              .ok (failed "tool_exception" ++ [("detail", .str (exceptionName error))])
      | _ => .ok (failed "bad_arguments")

/-- `_read_request`, of the environment variable and the input. -/
def readRequest (envInput : Option String) (stdin : String) : String :=
  envInput.getD (String.ofList (Str.universalNewlines stdin.toList))

/-- `main`: what is printed, or the exception that ends the process. -/
def main (builtins : Builtins) (request : String) : Except PyException String :=
  match builtins.loads (if request = "" then "\x7b\x7d" else request) with
  | .error .valueError => .ok (builtins.dumps (.obj (failed "bad_request")))
  | .error error => .error error
  | .ok (.obj payload) =>
      match run payload with
      | .error error => .error error
      | .ok result => .ok (builtins.dumps (.obj result))
  | .ok _ => .ok (builtins.dumps (.obj (failed "bad_request")))

/-- How the process of the runner ends. -/
def runnerEnd (builtins : Builtins) (envInput : Option String) (stdin : String) :
    ProcessEnd :=
  match main builtins (readRequest envInput stdin) with
  | .ok out => .exited 0 (Utf8.encode out)
  | .error _ => .exited 1 []

/-- What the runner prints of an input in its environment. -/
def printedOf (builtins : Builtins) (input : String) : String :=
  match main builtins (readRequest (some input) "") with
  | .ok out => out
  | .error _ => ""

/-! ## What a call should come to -/

/-- The outcome of a call: what the tool makes of its arguments. -/
def toolOutcome (tool : String) (arguments : List (String × Json)) :
    SandboxOutcome :=
  match toolRuns.lookup tool with
  | none => ⟨.str "unknown_tool", .null, .int 0⟩
  | some run =>
      match run arguments with
      | .ok result => ⟨.str "success", result, .int 0⟩
      | .error _ => ⟨.str "tool_error", .null, .int 0⟩

/-- The call as the runner reads it. -/
def callFields (tool : String) (arguments : List (String × Json)) :
    List (String × Json) :=
  [("tool", .str tool), ("arguments", .obj arguments)]

/-- What the runner makes of a call. -/
def answerFields (tool : String) (arguments : List (String × Json)) :
    List (String × Json) :=
  match toolRuns.lookup tool with
  | none => failed "unknown_tool"
  | some run =>
      match run arguments with
      | .ok result => [("ok", .bool true), ("result", result)]
      | .error error =>
          failed "tool_exception" ++ [("detail", .str (exceptionName error))]

/-- The call and its answer are read as they were written. -/
structure Exchanged (builtins : Builtins) (tool : String)
    (arguments : List (String × Json)) : Prop where
  call : builtins.loads (builtins.dumps (.obj (callFields tool arguments))) =
    .ok (.obj (callFields tool arguments))
  answer : RoundTrips builtins (.obj (answerFields tool arguments))

section Calls

variable {builtins : Builtins} {tool : String} {arguments : List (String × Json)}

theorem run_callFields :
    run (callFields tool arguments) = .ok (answerFields tool arguments) := by
  have named : toolRun (Json.get (callFields tool arguments) "tool") =
      .ok (toolRuns.lookup tool) := rfl
  have given : Json.get (callFields tool arguments) "arguments" = .obj arguments := rfl
  rw [run, named, given, answerFields]
  cases toolRuns.lookup tool with
  | none => rfl
  | some run =>
      dsimp only
      cases run arguments <;> rfl

/-- The runner prints the answer of a call it can read. -/
theorem main_call (exchanged : Exchanged builtins tool arguments) :
    main builtins (builtins.dumps (.obj (callFields tool arguments))) =
      .ok (builtins.dumps (.obj (answerFields tool arguments))) := by
  have written : builtins.dumps (.obj (callFields tool arguments)) ≠ "" := by
    intro empty
    exact @encode_dumps_ne builtins (callFields tool arguments)
      (Utf8.encode_eq_nil_iff.mpr empty)
  rw [main, if_neg written, exchanged.call]
  dsimp only
  rw [run_callFields]

/-- The answer of a call is judged as the outcome of the call. -/
theorem verdict_answerFields :
    verdict (.ok (.obj (answerFields tool arguments))) = toolOutcome tool arguments := by
  rw [answerFields, toolOutcome]
  cases toolRuns.lookup tool with
  | none => rfl
  | some run =>
      dsimp only
      cases run arguments <;> rfl

/-- The outcome of a process that runs the runner. -/
theorem execute_runner (prints : builtins.PrintsFloats)
    (exchanged : Exchanged builtins tool arguments)
    {runProcess : Bytes → Except PyException ProcessEnd}
    (runs : ∀ text, runProcess (Utf8.encode text) = .ok (runnerEnd builtins none text)) :
    SandboxExecutor.execute builtins runProcess tool arguments =
      toolOutcome tool arguments := by
  have plain : Str.universalNewlines
      (builtins.dumps (.obj (callFields tool arguments))).toList =
      (builtins.dumps (.obj (callFields tool arguments))).toList :=
    Str.universalNewlines_of_no_return
      (not_mem_of_printable (Builtins.printable_dumps prints _) (by decide))
  have request : readRequest none (builtins.dumps (.obj (callFields tool arguments))) =
      builtins.dumps (.obj (callFields tool arguments)) := by
    rw [readRequest, Option.getD_none, plain, String.ofList_toList]
  have sent : SandboxExecutor.payload builtins tool arguments =
      builtins.dumps (.obj (callFields tool arguments)) := rfl
  have ended : runnerEnd builtins none (builtins.dumps (.obj (callFields tool arguments))) =
      .exited 0 (Utf8.encode (builtins.dumps (.obj (answerFields tool arguments)))) := by
    rw [runnerEnd, request, main_call exchanged]
  rw [SandboxExecutor.execute, sent, runs, ended, ← verdict_answerFields,
    ← exchanged.answer.loads ⟨_, rfl⟩]
  rfl

/-! ## The length of an answer -/

theorem length_count {number : Nat} (small : number < 1000000) :
    (toString (number : Int)).length ≤ 6 := by
  rw [← String.length_toList, JsonText.toList_toString, if_pos (Int.natCast_nonneg _),
    Int.toNat_natCast]
  exact (Nat.length_toDigits_le_iff (by decide) (by decide)).mpr small

theorem length_words_le (text : String) :
    (Str.words text).length ≤ text.length + 1 := by
  have room := @Lists.sum_length_fieldsFrom _ Str.isSpace [] text.toList
  have each : (Lists.fieldsFrom Str.isSpace [] text.toList).length ≤
      ((Lists.fieldsFrom Str.isSpace [] text.toList).map
        fun member => member.length + 1).sum := by
    induction Lists.fieldsFrom Str.isSpace [] text.toList with
    | nil => exact Nat.le_refl _
    | cons member members ih =>
        rw [List.map_cons, List.sum_cons, List.length_cons]
        omega
  rw [Str.words, List.length_map, ← String.length_toList]
  exact Nat.le_trans each (by simpa using room)

/-- The text of a success. -/
theorem length_dumps_stats {characters words lines : Nat}
    (few : characters < 1000000) (fewWords : words < 1000000)
    (fewLines : lines < 1000000) :
    (builtins.dumps (.obj [("ok", .bool true), ("result",
      .obj [("characters", .int characters), ("words", .int words),
        ("lines", .int lines)])])).length ≤ 100 := by
  have quoted : quote "ok" = "\"ok\"" ∧ quote "result" = "\"result\"" ∧
      quote "characters" = "\"characters\"" ∧ quote "words" = "\"words\"" ∧
      quote "lines" = "\"lines\"" := by decide
  have first := length_count few
  have second := length_count fewWords
  have third := length_count fewLines
  have fixed : "\"ok\"".length = 4 ∧ "\"result\"".length = 8 ∧
      "\"characters\"".length = 12 ∧ "\"words\"".length = 7 ∧ "\"lines\"".length = 7 ∧
      ": ".length = 2 ∧ ", ".length = 2 ∧ "\x7b".length = 1 ∧ "\x7d".length = 1 ∧
      "true".length = 4 := by decide
  simp only [Builtins.dumps, Builtins.dumpsFields, quoted, String.intercalate_cons_cons,
    String.intercalate_singleton, String.length_append, fixed]
  omega

/-- The text of a failure. -/
theorem length_dumps_failed :
    (builtins.dumps (.obj (failed "unknown_tool"))).length ≤ 100 ∧
      (builtins.dumps (.obj (failed "tool_exception" ++
        [("detail", .str "ValueError")]))).length ≤ 100 := by
  have quoted : quote "ok" = "\"ok\"" ∧ quote "error" = "\"error\"" ∧
      quote "unknown_tool" = "\"unknown_tool\"" ∧
      quote "tool_exception" = "\"tool_exception\"" ∧
      quote "detail" = "\"detail\"" ∧ quote "ValueError" = "\"ValueError\"" := by decide
  simp only [failed, List.cons_append, List.nil_append, Builtins.dumps,
    Builtins.dumpsFields, quoted, String.intercalate_cons_cons,
    String.intercalate_singleton]
  decide

/-- The tools have one run. -/
theorem run_eq_textStats {run : ToolRun} (registered : toolRuns.lookup tool = some run) :
    run = textStats := by
  simp only [toolRuns, List.lookup_cons, List.lookup_nil] at registered
  split at registered
  · exact (Option.some.inj registered).symm
  · split at registered
    · exact (Option.some.inj registered).symm
    · cases registered

/-- What a run makes of arguments: the counts of a text that is not too long. -/
theorem textStats_cases (arguments : List (String × Json)) :
    textStats arguments = .error .valueError ∨
      ∃ text : String, Json.get arguments "text" = .str text ∧ text.length ≤ maxText ∧
        textStats arguments = .ok (.obj [("characters", .int text.length),
          ("words", .int (Str.words text).length),
          ("lines", .int (text.toList.count '\n' + if text = "" then 0 else 1))]) := by
  rw [textStats]
  split
  next text given =>
    split
    · exact Or.inl rfl
    next fits => exact Or.inr ⟨text, given, Nat.le_of_not_lt fits, rfl⟩
  · exact Or.inl rfl

/-- The answer of a call fits into the log of a pod. -/
theorem length_dumps_answerFields :
    (builtins.dumps (.obj (answerFields tool arguments))).length ≤ 100 := by
  have failures := @length_dumps_failed builtins
  rw [answerFields]
  cases registered : toolRuns.lookup tool with
  | none => exact failures.1
  | some run =>
      rw [run_eq_textStats registered]
      dsimp only
      rcases textStats_cases arguments with refused | ⟨text, _, fits, counted⟩
      · rw [refused]
        exact failures.2
      · rw [counted]
        have feeds : text.toList.count '\n' ≤ text.length :=
          Nat.le_trans List.count_le_length (Nat.le_of_eq String.length_toList)
        have words := length_words_le text
        have limit : maxText = 100000 := rfl
        have lines : ((text.toList.count '\n' : Int) + if text = "" then 0 else 1) =
            (text.toList.count '\n' + if text = "" then 0 else 1 : Nat) := by
          split <;> rfl
        rw [lines]
        apply length_dumps_stats
        · omega
        · omega
        · split <;> omega

/-! ## As a Job -/

theorem printedOf_call (exchanged : Exchanged builtins tool arguments) :
    printedOf builtins (jobPayload builtins tool arguments) =
      builtins.dumps (.obj (answerFields tool arguments)) := by
  have request : readRequest (some (jobPayload builtins tool arguments)) "" =
      builtins.dumps (.obj (callFields tool arguments)) := rfl
  rw [printedOf, request, main_call exchanged]

/-- The answer of a call is an output that fits into the log of a pod. -/
theorem fits_answerFields (prints : builtins.PrintsFloats) :
    Fits (builtins.dumps (.obj (answerFields tool arguments))) where
  plain := plainText_dumps prints _
  short := by
    rw [length_encode_of_printable (Builtins.printable_dumps prints _),
      String.length_toList]
    exact Nat.le_trans length_dumps_answerFields (by decide)

/-- The log of a pod that runs the runner is judged as the outcome of the call. -/
theorem verdict_readLog (prints : builtins.PrintsFloats)
    (sameText : ∀ text, PlainText text →
      builtins.loadsBytes (Utf8.encode text) = builtins.loads text)
    (exchanged : Exchanged builtins tool arguments) :
    verdict (readLog builtins (printedOf builtins (jobPayload builtins tool arguments))) =
      toolOutcome tool arguments := by
  rw [printedOf_call exchanged, readLog_of_fits sameText (fits_answerFields prints),
    readOutput, exchanged.answer.loads ⟨_, rfl⟩]
  exact verdict_answerFields

/-! ## What the schema lets through -/

theorem checkArgument_text_iff :
    checkArgument arguments "text" ⟨some .string, true, some maxText⟩ = none ↔
      ∃ text : String, Json.get arguments "text" = .str text ∧ text.length ≤ maxText := by
  rw [checkArgument, Json.get]
  cases Json.lookup "text" arguments with
  | none => simp
  | some value => cases value <;> simp [ArgRule.admits, ControlPlane.sizeOf]

theorem textStats_succeeds_iff :
    (∃ stats, textStats arguments = .ok stats) ↔
      ∃ text : String, Json.get arguments "text" = .str text ∧ text.length ≤ maxText := by
  constructor
  · intro counted
    rcases counted with ⟨stats, counted⟩
    rcases textStats_cases arguments with refused | ⟨text, given, fits, _⟩
    · rw [refused] at counted
      cases counted
    · exact ⟨text, given, fits⟩
  · intro given
    rcases given with ⟨text, given, fits⟩
    rcases textStats_cases arguments with refused | ⟨_, _, _, counted⟩
    · rw [textStats, given] at refused
      dsimp only at refused
      rw [if_neg (Nat.not_lt.mpr fits)] at refused
      cases refused
    · exact ⟨_, counted⟩

/-- The runner and the control plane know the same tools. -/
theorem registered_cases (tool : String) :
    (toolRuns.lookup tool = none ∧ toolSpec tool = none) ∨
      ∃ spec, toolRuns.lookup tool = some textStats ∧ toolSpec tool = some spec ∧
        spec.schema = [("text", ⟨some .string, true, some maxText⟩)] := by
  by_cases first : tool = "text_stats"
  · subst first
    exact Or.inr ⟨_, rfl, rfl, rfl⟩
  · by_cases second : tool = "text_stats_job"
    · subst second
      exact Or.inr ⟨_, rfl, rfl, rfl⟩
    · have noFirst := beq_false_of_ne first
      have noSecond := beq_false_of_ne second
      exact Or.inl (by
        simp [toolRuns, toolSpec, tools, List.lookup_cons, noFirst, noSecond])

/-- The tools succeed exactly on the calls that their schema admits. -/
theorem success_iff :
    (toolOutcome tool arguments).resultClass = .str "success" ↔
      ∃ spec, toolSpec tool = some spec ∧ validateArguments spec arguments = none := by
  rcases registered_cases tool with
    ⟨unknown, unregistered⟩ | ⟨spec, known, registered, schema⟩
  · rw [toolOutcome, unknown, unregistered]
    constructor
    · intro success
      exact absurd (Json.str.inj success) (by decide)
    · intro admitted
      rcases admitted with ⟨_, impossible, _⟩
      cases impossible
  · have valid : validateArguments spec arguments = none ↔
        ∃ stats, textStats arguments = .ok stats := by
      rw [textStats_succeeds_iff, ← checkArgument_text_iff, validateArguments, schema]
      simp
    have success : (toolOutcome tool arguments).resultClass = .str "success" ↔
        ∃ stats, textStats arguments = .ok stats := by
      rw [toolOutcome, known]
      dsimp only
      cases textStats arguments with
      | ok stats => simp
      | error error => simp
    rw [success, ← valid]
    constructor
    · intro admits
      exact ⟨spec, registered, admits⟩
    · intro admitted
      rcases admitted with ⟨other, same, admits⟩
      rw [registered] at same
      rw [Option.some.inj same]
      exact admits

end Calls

/-- A call comes to what the tool makes of its arguments, whether the runner is a
process or the container of a Job to which the dispatcher and the environment carry
the call; and the tools succeed exactly on the calls that the control plane admits. -/
theorem calls_come_to_toolOutcome (builtins : Builtins) (prints : builtins.PrintsFloats)
    (sameText : ∀ text, PlainText text →
      builtins.loadsBytes (Utf8.encode text) = builtins.loads text)
    (tool : String) (arguments : List (String × Json))
    (exchanged : Exchanged builtins tool arguments) :
    (∀ runProcess : Bytes → Except PyException ProcessEnd,
      (∀ text, runProcess (Utf8.encode text) = .ok (runnerEnd builtins none text)) →
        SandboxExecutor.execute builtins runProcess tool arguments =
          toolOutcome tool arguments) ∧
      (∀ (executor : DispatcherJobExecutor) (config : DispatcherConfig)
        (secret : String) (world : PodWorld) (tenantId runId : String) (polls : Nat),
        Deployed builtins executor config secret → Speaks builtins world →
        world.runner = printedOf builtins → world.looks < polls →
        Exchanges builtins world tool arguments tenantId runId →
        Carried builtins world tool arguments tenantId runId →
          jobPath builtins executor config world polls tool arguments tenantId runId =
            toolOutcome tool arguments) ∧
      ((toolOutcome tool arguments).resultClass = .str "success" ↔
        ∃ spec, toolSpec tool = some spec ∧
          validateArguments spec arguments = none) := by
  refine ⟨?_, ?_, success_iff⟩
  · intro runProcess runs
    exact execute_runner prints exchanged runs
  · intro executor config secret world tenantId runId polls deployed speaks runs enough
      exchanges carried
    rw [jobPath_carried deployed speaks exchanges carried enough, runs]
    exact verdict_readLog prints sameText exchanged

/-! ## A call -/

/-- Built-in functions for the call. -/
noncomputable def reading : Builtins := JsonText.readingBytes fun _ => .nan

/-- A pod that runs the runner, on a node of Linux and next to one service. -/
noncomputable def runnerWorld : PodWorld where
  runner := printedOf reading
  services name := if name = "KUBERNETES_SERVICE_PORT" then some "443" else none
  argLimit := 131071
  startError := 128
  looks := 1

theorem trips_reading {value : Json} (isPlain : JsonText.plain value = true) :
    RoundTrips reading value :=
  (JsonText.loadsBytes_readingBytes _ _).trans (JsonText.loads_readingBytes _ isPlain)

theorem prints_reading : reading.PrintsFloats := JsonText.printsFloats_readingBytes _

theorem exchanged_reading : Exchanged reading "text_stats_job" (callArguments "a $b\nc") where
  call := JsonText.loads_readingBytes _ (by decide +kernel)
  answer := trips_reading (by decide +kernel)

theorem deployed_reading : Deployed reading callExecutor callConfig "s3cret" where
  address := by decide
  sent := rfl
  expected := rfl
  presented := by
    change bearer Str.asciiLower _ = _
    decide
  nonempty := by decide
  ascii := by decide

theorem speaks_reading : Speaks reading runnerWorld where
  none := by
    have brackets : Utf8.encode (reading.dumps (.obj [])) = [123, 125] := by
      rw [reading, JsonText.dumps_readingBytes]
      decide
    rw [← brackets]
    exact trips_reading (by decide)
  running := trips_reading (by decide)
  ended := by
    intro succeeded
    cases succeeded <;> exact trips_reading (by decide)
  pods := trips_reading (by decide)
  failedPods := trips_reading (by decide)

/-- The outcome of the call. -/
def countedCall : SandboxOutcome :=
  ⟨.str "success", .obj [("characters", .int 6), ("words", .int 3), ("lines", .int 2)],
    .int 0⟩

/-- The call as it stands in the manifest. -/
theorem jobPayload_reading :
    jobPayload reading "text_stats_job" (callArguments "a $b\nc") =
      "\x7b\"tool\": \"text_stats_job\", \"arguments\": " ++
        "\x7b\"text\": \"a $b\\nc\"\x7d\x7d" := by
  rw [jobPayload, reading, JsonText.dumps_readingBytes]
  decide +kernel

theorem carried_reading : Carried reading runnerWorld "text_stats_job"
    (callArguments "a $b\nc") "t1" "r1" where
  accepted :=
    { executor := by decide
      runId_ne := by decide
      tenantId_ne := by decide
      short := by
        rw [reading, JsonText.dumps_readingBytes]
        decide +kernel }
  verbatim := by
    rw [jobPayload_reading]
    decide +kernel
  starts := by
    rw [jobPayload_reading]
    decide +kernel

theorem toolOutcome_reading :
    toolOutcome "text_stats_job" (callArguments "a $b\nc") = countedCall := by
  rfl

theorem sameText_reading (text : String) (_ : PlainText text) :
    reading.loadsBytes (Utf8.encode text) = reading.loads text :=
  JsonText.loadsBytes_readingBytes _ text

theorem exchanges_reading : Exchanges reading runnerWorld "text_stats_job"
    (callArguments "a $b\nc") "t1" "r1" where
  request := trips_reading (by decide +kernel)
  response := by
    intro outcome ended
    have judged : jobVerdict (podOutcome reading runnerWorld
        (jobPayload reading "text_stats_job" (callArguments "a $b\nc"))) =
          countedCall := by
      rw [podOutcome, if_pos carried_reading.starts, jobVerdict_classifyLog]
      exact verdict_readLog prints_reading sameText_reading exchanged_reading
    rw [carried_reading.verbatim] at ended
    rw [ended] at judged
    have named := congrArg SandboxOutcome.resultClass judged
    have result := congrArg SandboxOutcome.result judged
    have exited := congrArg SandboxOutcome.exitCode judged
    apply trips_reading
    dsimp only [jobVerdict, countedCall] at named result exited
    rw [outcomePayload, named, result, exited]
    decide +kernel

/-- Both ways count the text. -/
theorem calls_come_to_toolOutcome_sample :
    SandboxExecutor.execute reading
        (fun input => .ok (runnerEnd reading none (Utf8.decodeReplace input)))
        "text_stats_job" (callArguments "a $b\nc") = countedCall ∧
      jobPath reading callExecutor callConfig runnerWorld 2 "text_stats_job"
        (callArguments "a $b\nc") "t1" "r1" = countedCall := by
  have come := calls_come_to_toolOutcome reading prints_reading sameText_reading
    "text_stats_job" (callArguments "a $b\nc") exchanged_reading
  rw [toolOutcome_reading] at come
  constructor
  · apply come.1
    intro text
    rw [Utf8.decodeReplace_encode]
  · exact come.2.1 _ _ "s3cret" _ _ _ _ deployed_reading speaks_reading rfl (by decide)
      exchanges_reading carried_reading

end PrivateAiWorkspace.Sandbox
