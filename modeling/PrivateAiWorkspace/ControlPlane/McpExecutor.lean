import PrivateAiWorkspace.ControlPlane.Services
import PrivateAiWorkspace.Python.Dict
import PrivateAiWorkspace.Python.Splitting
import PrivateAiWorkspace.Python.Utf8

/-!
# The MCP executor

`MCPExecutor` of `mcp.py`: it spawns a server for one exchange of JSON-RPC lines
and reads what the server prints. The process is a parameter, so that a server
may print anything.
-/

namespace PrivateAiWorkspace.ControlPlane

open Python

/-! ## Requests -/

/-- An entry of `MCP_SERVERS`, as far as the executor reads it. -/
structure McpServer where
  command : List String
  requiresSecret : Option String

/-- How a spawned server ends: with a code and what it printed, by the timeout,
or in an exception of `Popen` or `communicate`. -/
inductive McpProcessEnd where
  | exited (returncode : Int) (stdout : Bytes)
  | timeoutExpired
  | raised (error : PyException)

/-- `MCPExecutor`, with the process it spawns: command, environment and input
determine how it ends. -/
structure McpExecutor where
  servers : List (String × McpServer)
  pythonPath : String
  secretResolver :
    Option (String → String → Except PyException (List (String × String)))
  process : List String → List (String × String) → Bytes → McpProcessEnd

/-- `_MCPTimeout`. -/
def mcpTimeout : PyException := .other "_MCPTimeout"

/-- `_MCPServerError`. -/
def mcpServerError : PyException := .other "_MCPServerError"

/-- `_handshake`. -/
def mcpHandshake : List Json :=
  [.obj [("jsonrpc", .str "2.0"), ("id", .int 1), ("method", .str "initialize"),
      ("params", .obj [("protocolVersion", .str "2024-11-05"),
        ("capabilities", .obj []),
        ("clientInfo", .obj [("name", .str "private-ai-workspace"),
          ("version", .str "1")])])],
    .obj [("jsonrpc", .str "2.0"), ("method", .str "notifications/initialized")]]

/-- The requests of `list_tools`. -/
def listToolsRequests : List Json :=
  mcpHandshake ++ [.obj [("jsonrpc", .str "2.0"), ("id", .int 2),
    ("method", .str "tools/list")]]

/-- The requests of `call_tool`. -/
def callToolRequests (tool : String) (arguments : List (String × Json)) :
    List Json :=
  mcpHandshake ++ [.obj [("jsonrpc", .str "2.0"), ("id", .int 2),
    ("method", .str "tools/call"),
    ("params", .obj [("name", .str tool), ("arguments", .obj arguments)])]]

/-- The lines a server is sent. -/
def mcpPayload (builtins : Builtins) (requests : List Json) : Bytes :=
  Utf8.encode ("\n".intercalate (requests.map builtins.dumps) ++ "\n")

/-! ## Responses -/

/-- `value == number`. -/
def equalsInt (number : Int) : Json → Bool
  | .int value => value = number
  | .float (.finite value) => value = number
  | .bool value => (if value then 1 else 0) = number
  | _ => false

/-- The lines of some output that are not blank, without the white space around
them. -/
def printedLines (stdout : Bytes) : List Bytes :=
  ((Bytes.splitLines stdout).map Bytes.strip).filter (!·.isEmpty)

/-- One round of the loop of `_exchange` over the lines: what is not JSON is
skipped. -/
def loadLine (builtins : Builtins) (line : Bytes) :
    Except PyException (Option Json) :=
  match builtins.loadsBytes line with
  | .ok response => .ok (some response)
  | .error .valueError => .ok none
  | .error error => .error error

/-- The loop of `_exchange` over the lines. -/
def readResponses (builtins : Builtins) : List Bytes → Except PyException (List Json)
  | [] => .ok []
  | line :: lines => do
      let response ← loadLine builtins line
      let responses ← readResponses builtins lines
      return response.toList ++ responses

/-- `_find`: the first response with an id. Only dicts have the method `get`. -/
def findResponse (rid : Int) :
    List Json → Except PyException (Option (List (String × Json)))
  | [] => .ok none
  | .obj fields :: responses =>
      if equalsInt rid (Json.get fields "id") then .ok (some fields)
      else findResponse rid responses
  | _ :: _ => .error .attributeError

/-- The rest of `list_tools` once the response is found. -/
def listedTools (response : List (String × Json)) :
    Except PyException McpOutcome :=
  match Json.lookup "result" response with
  | none => .ok ⟨"server_error", .null⟩
  | some (.obj result) =>
      .ok ⟨"success", .obj [("tools", Json.getOr result "tools" (.arr []))]⟩
  | some _ => .error .attributeError

/-- The rest of `call_tool` once the response is found. -/
def calledTool (response : List (String × Json)) :
    Except PyException McpOutcome :=
  match Json.lookup "error" response with
  | none =>
      .ok ⟨"success", (Json.get response "result").orElse (.obj [])⟩
  | some (.obj error) =>
      .ok ⟨if equalsInt (-32601) (Json.get error "code") then "unknown_tool"
        else "server_error", .null⟩
  | some _ => .error .attributeError

namespace McpExecutor

variable (builtins : Builtins) (executor : McpExecutor)

/-- `_child_env`. -/
def childEnv (server : McpServer) (tenantId : String) :
    Except PyException (List (String × String)) := do
  let env := [("PATH", "/usr/local/bin:/usr/bin:/bin"),
    ("PYTHONPATH", executor.pythonPath), ("PYTHONHASHSEED", "0"),
    ("PYTHONDONTWRITEBYTECODE", "1"), ("LC_ALL", "C.UTF-8"),
    ("LANG", "C.UTF-8")]
  match server.requiresSecret.getD "", executor.secretResolver with
  | "", _ | _, none => return env
  | secretKey, some resolver =>
      let credentials ← resolver tenantId secretKey
      return credentials.foldl (fun env item => assign item.1 item.2 env) env

/-- `_exchange`. -/
def exchange (server : McpServer) (tenantId : String) (requests : List Json) :
    Except PyException (List Json) := do
  let env ← executor.childEnv server tenantId
  match executor.process server.command env (mcpPayload builtins requests) with
  | .timeoutExpired => throw mcpTimeout
  | .raised error => throw error
  | .exited returncode stdout =>
      if returncode ≠ 0 then throw mcpServerError
      readResponses builtins (printedLines stdout)

/-- What `list_tools` and `call_tool` do around the reading of a response. -/
def perform (server tenantId : String) (requests : List Json)
    (answer : List (String × Json) → Except PyException McpOutcome) :
    Except PyException McpOutcome :=
  match executor.servers.lookup server with
  | none => .ok ⟨"unknown_tool", .null⟩
  | some spec =>
      match executor.exchange builtins spec tenantId requests with
      | .error error =>
          if error = mcpTimeout then .ok ⟨"server_timeout", .null⟩
          else .ok ⟨"server_error", .null⟩
      | .ok responses => do
          match ← findResponse 2 responses with
          | none => return ⟨"server_error", .null⟩
          | some response => answer response

/-- `list_tools`. -/
def listTools (server tenantId : String) : Except PyException McpOutcome :=
  executor.perform builtins server tenantId listToolsRequests listedTools

/-- `call_tool`. -/
def callTool (server tool : String) (arguments : List (String × Json))
    (tenantId : String) : Except PyException McpOutcome :=
  executor.perform builtins server tenantId (callToolRequests tool arguments)
    calledTool

end McpExecutor

/-! ## What may be printed -/

/-- A call returns an outcome. -/
def Returns (result : Except PyException McpOutcome) : Prop :=
  ∃ outcome, result = .ok outcome

/-- The JSON values of the lines of some output. -/
def printedDocuments (builtins : Builtins) (stdout : Bytes) : List Json :=
  (printedLines stdout).filterMap fun line => (builtins.loadsBytes line).toOption

/-- No line makes `json.loads` fail but by not being JSON. -/
def Loadable (builtins : Builtins) (stdout : Bytes) : Prop :=
  ∀ line ∈ printedLines stdout, ∀ error,
    builtins.loadsBytes line = .error error → error = .valueError

/-- A field is absent or an object. -/
def ObjectField (field : String) (response : List (String × Json)) : Prop :=
  ∀ value, Json.lookup field response = some value → ∃ inner, value = .obj inner

/-- Up to the first response with the id, every value is an object; that
response has an object, if anything, in a field. -/
def Inspectable (rid : Int) (field : String) (responses : List Json) : Prop :=
  ∀ before response after, responses = before ++ response :: after →
    (∀ earlier ∈ before, ∃ fields, earlier = .obj fields ∧
      equalsInt rid (Json.get fields "id") = false) →
    ∃ fields, response = .obj fields ∧
      (equalsInt rid (Json.get fields "id") = true → ObjectField field fields)

/-- A server, run for some requests, exits with code zero and this output. -/
def McpExecutor.Prints (executor : McpExecutor) (builtins : Builtins)
    (server tenantId : String) (requests : List Json) (stdout : Bytes) : Prop :=
  ∃ spec env, executor.servers.lookup server = some spec ∧
    executor.childEnv spec tenantId = .ok env ∧
    executor.process spec.command env (mcpPayload builtins requests) =
      .exited 0 stdout

variable {builtins : Builtins}

/-! ### What is read -/

theorem loadLine_eq_ok_iff {line : Bytes} {response : Option Json} :
    loadLine builtins line = .ok response ↔
      (∀ error, builtins.loadsBytes line = .error error → error = .valueError) ∧
      response = (builtins.loadsBytes line).toOption := by
  rw [loadLine]
  split
  next loaded => simp [loaded, Except.toOption, eq_comm]
  next invalid => simp [invalid, Except.toOption, eq_comm]
  next error other failed =>
    refine iff_of_false nofun ?_
    intro read
    exact other (read.1 error failed)

theorem readResponses_eq_ok_iff {lines : List Bytes} {responses : List Json} :
    readResponses builtins lines = .ok responses ↔
      (∀ line ∈ lines, ∀ error, builtins.loadsBytes line = .error error →
        error = .valueError) ∧
      responses = lines.filterMap fun line =>
        (builtins.loadsBytes line).toOption := by
  induction lines generalizing responses with
  | nil => simp [readResponses, eq_comm]
  | cons line lines ih =>
      have steps : readResponses builtins (line :: lines) = .ok responses ↔
          ∃ response others, loadLine builtins line = .ok response ∧
            readResponses builtins lines = .ok others ∧
            response.toList ++ others = responses := by
        rw [readResponses]
        cases loadLine builtins line with
        | error error => exact iff_of_false nofun (by simp)
        | ok response =>
            cases readResponses builtins lines with
            | error error => exact iff_of_false nofun (by simp)
            | ok others => exact ⟨fun same => ⟨response, others, rfl, rfl,
                Except.ok.inj same⟩, by simp [bind, Except.bind, pure, Except.pure]⟩
      have kept : (builtins.loadsBytes line).toOption.toList ++
          lines.filterMap (fun line => (builtins.loadsBytes line).toOption) =
          (line :: lines).filterMap fun line =>
            (builtins.loadsBytes line).toOption := by
        rw [List.filterMap_cons]
        cases (builtins.loadsBytes line).toOption <;> rfl
      simp only [steps, loadLine_eq_ok_iff, ih, List.forall_mem_cons]
      constructor
      · intro read
        rcases read with ⟨_, _, ⟨valid, rfl⟩, ⟨others, rfl⟩, rfl⟩
        exact ⟨⟨valid, others⟩, kept⟩
      · intro read
        rcases read with ⟨⟨valid, others⟩, rfl⟩
        exact ⟨_, _, ⟨valid, rfl⟩, ⟨others, rfl⟩, kept⟩

/-- The first value decides: it is an object, and when it is the response its
field is sound, and otherwise the values after it decide. -/
theorem inspectable_cons {rid : Int} {field : String} {response : Json}
    {responses : List Json} :
    Inspectable rid field (response :: responses) ↔
      ∃ fields, response = .obj fields ∧
        if equalsInt rid (Json.get fields "id") then ObjectField field fields
        else Inspectable rid field responses := by
  constructor
  · intro inspectable
    rcases inspectable [] response responses rfl (fun _ none =>
      (List.not_mem_nil none).elim) with ⟨fields, rfl, sound⟩
    refine ⟨fields, rfl, ?_⟩
    split
    next found => exact sound found
    next other =>
      intro before later after same others
      apply inspectable (.obj fields :: before) later after (by rw [same]; rfl)
      intro earlier among
      rcases List.mem_cons.mp among with rfl | among
      · exact ⟨fields, rfl, by simpa using other⟩
      · exact others earlier among
  · intro decided before later after same others
    rcases decided with ⟨fields, rfl, decided⟩
    cases before with
    | nil =>
        rcases List.cons.inj same with ⟨rfl, rfl⟩
        refine ⟨fields, rfl, fun found => ?_⟩
        rwa [if_pos found] at decided
    | cons first before =>
        rcases List.cons.inj same with ⟨rfl, rfl⟩
        rcases others _ List.mem_cons_self with ⟨own, same_fields, other⟩
        cases same_fields
        rw [if_neg (by simp [other])] at decided
        exact decided before later after rfl fun earlier among =>
          others earlier (List.mem_cons_of_mem _ among)

/-- A response that is found and read gives an outcome exactly when it can be
inspected. -/
theorem returns_findResponse_iff {rid : Int} {field : String}
    {answer : List (String × Json) → Except PyException McpOutcome}
    (answers : ∀ response, Returns (answer response) ↔ ObjectField field response)
    (responses : List Json) :
    Returns ((findResponse rid responses).bind fun
      | none => .ok ⟨"server_error", .null⟩
      | some response => answer response) ↔
      Inspectable rid field responses := by
  induction responses with
  | nil =>
      have nothing : Inspectable rid field [] := by
        intro before response after same
        cases before <;> cases same
      exact iff_of_true ⟨_, rfl⟩ nothing
  | cons response responses ih =>
      rw [inspectable_cons]
      cases response with
      | obj fields =>
          simp only [findResponse, Json.obj.injEq, exists_eq_left']
          split
          · exact answers fields
          · exact ih
      | _ => exact iff_of_false nofun nofun

theorem returns_listedTools_iff (response : List (String × Json)) :
    Returns (listedTools response) ↔ ObjectField "result" response := by
  rw [listedTools, ObjectField]
  split
  next absent => exact iff_of_true ⟨_, rfl⟩ (by simp [absent])
  next result found => exact iff_of_true ⟨_, rfl⟩ (by simp [found])
  next other value notObject found =>
    exact iff_of_false nofun fun isObject =>
      absurd (isObject _ found).choose_spec (notObject _)

theorem returns_calledTool_iff (response : List (String × Json)) :
    Returns (calledTool response) ↔ ObjectField "error" response := by
  rw [calledTool, ObjectField]
  split
  next absent => exact iff_of_true ⟨_, rfl⟩ (by simp [absent])
  next result found => exact iff_of_true ⟨_, rfl⟩ (by simp [found])
  next other value notObject found =>
    exact iff_of_false nofun fun isObject =>
      absurd (isObject _ found).choose_spec (notObject _)

namespace McpExecutor

variable {executor : McpExecutor} {server tenantId : String}
  {requests : List Json}

/-- An exchange yields responses when the server exits with code zero and its
output can be loaded. -/
theorem exchange_eq_ok_iff {spec : McpServer} {responses : List Json} :
    executor.exchange builtins spec tenantId requests = .ok responses ↔
      ∃ env stdout, executor.childEnv spec tenantId = .ok env ∧
        executor.process spec.command env (mcpPayload builtins requests) =
          .exited 0 stdout ∧
        Loadable builtins stdout ∧
        responses = printedDocuments builtins stdout := by
  rw [exchange]
  cases executor.childEnv spec tenantId with
  | error error => exact iff_of_false nofun (by simp)
  | ok env =>
      simp only [Except.ok.injEq, exists_and_left, exists_eq_left', bind,
        Except.bind]
      cases executor.process spec.command env (mcpPayload builtins requests) with
      | timeoutExpired => exact iff_of_false nofun (by simp)
      | raised error => exact iff_of_false nofun (by simp)
      | exited returncode stdout =>
          by_cases failed : returncode = 0
          · subst failed
            simpa [pure, Except.pure, Loadable, printedDocuments] using
              readResponses_eq_ok_iff
          · simp [failed, throw, throwThe, MonadExceptOf.throw]

/-- A call of the server returns an outcome unless it exits with code zero and
prints what can be loaded but not inspected. -/
theorem returns_perform_iff {field : String}
    {answer : List (String × Json) → Except PyException McpOutcome}
    (answers : ∀ response, Returns (answer response) ↔ ObjectField field response) :
    Returns (executor.perform builtins server tenantId requests answer) ↔
      ∀ stdout, executor.Prints builtins server tenantId requests stdout →
        Loadable builtins stdout →
        Inspectable 2 field (printedDocuments builtins stdout) := by
  rw [perform]
  cases known : executor.servers.lookup server with
  | none => exact iff_of_true ⟨_, rfl⟩ (by simp [Prints, known])
  | some spec =>
      simp only [Prints, known, Option.some.injEq]
      cases exchanged : executor.exchange builtins spec tenantId requests with
      | error error =>
          refine iff_of_true ?_ ?_
          · dsimp only
            split <;> exact ⟨_, rfl⟩
          · intro stdout prints loadable
            rcases prints with ⟨_, env, rfl, built, exits⟩
            have ok := exchange_eq_ok_iff.mpr
              ⟨env, stdout, built, exits, loadable, rfl⟩
            cases exchanged.symm.trans ok
      | ok responses =>
          rcases exchange_eq_ok_iff.mp exchanged with
            ⟨env, stdout, built, exits, loadable, rfl⟩
          refine (returns_findResponse_iff answers _).trans ?_
          constructor
          · intro inspectable other prints _
            rcases prints with ⟨_, env', rfl, built', exits'⟩
            cases built.symm.trans built'
            cases exits.symm.trans exits'
            exact inspectable
          · intro inspectable
            exact inspectable stdout ⟨spec, env, rfl, built, exits⟩ loadable

end McpExecutor

/-- Both calls return an outcome, whatever the server prints and however it
ends, unless it exits with code zero and, up to the response with id 2, prints a
value that is not an object, or gives that response a result (or an error) that
is not one. -/
theorem mcpExecutor_returns_iff (builtins : Builtins) (executor : McpExecutor)
    (server tool tenantId : String) (arguments : List (String × Json)) :
    (Returns (executor.listTools builtins server tenantId) ↔
      ∀ stdout,
        executor.Prints builtins server tenantId listToolsRequests stdout →
        Loadable builtins stdout →
        Inspectable 2 "result" (printedDocuments builtins stdout)) ∧
    (Returns (executor.callTool builtins server tool arguments tenantId) ↔
      ∀ stdout,
        executor.Prints builtins server tenantId
          (callToolRequests tool arguments) stdout →
        Loadable builtins stdout →
        Inspectable 2 "error" (printedDocuments builtins stdout)) :=
  ⟨McpExecutor.returns_perform_iff returns_listedTools_iff,
    McpExecutor.returns_perform_iff returns_calledTool_iff⟩

/-- A server that prints an empty list. -/
def listPrinter : McpExecutor where
  servers := [("stub", ⟨["python"], none⟩)]
  pythonPath := "/app"
  secretResolver := none
  process _ _ _ := .exited 0 [0x5b, 0x5d, 0x0a]

/-- `json.loads` of an empty list. -/
def loadsEmptyList : Builtins :=
  { Builtins.sample [] with
    loadsBytes := fun data =>
      if data = [0x5b, 0x5d] then .ok (.arr []) else .error .valueError }

theorem listPrinter_raises :
    listPrinter.listTools loadsEmptyList "stub" "a.com" =
        .error .attributeError ∧
      listPrinter.callTool loadsEmptyList "stub" "echo" [] "a.com" =
        .error .attributeError :=
  ⟨rfl, rfl⟩

end PrivateAiWorkspace.ControlPlane
