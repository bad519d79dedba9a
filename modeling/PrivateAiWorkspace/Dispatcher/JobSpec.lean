import PrivateAiWorkspace.Python.Builtins
import PrivateAiWorkspace.Python.Pattern

/-!
# The Job of a tool call

`jobspec.py`: the names and labels derived from the identifiers of a call, and
the manifest of its Job. Only the identifiers, the tool and its arguments vary;
everything else is fixed by the dispatcher.
-/

namespace PrivateAiWorkspace.Dispatcher

open Python

/-- `JobConfig`. -/
structure JobConfig where
  image : String
  namespaceName : String
  runnerServiceAccount : String
  cpuLimit : String := "500m"
  memoryLimit : String := "256Mi"
  deadlineSeconds : Int := 30
  ttlSeconds : Int := 120
  workspaceSize : String := "64Mi"
  pollInterval : Rat := 1 / 2
  overallTimeout : Rat := 45

/-! ## Names -/

/-- `re.sub("[^...]+", "-", text)`: every longest run of characters outside of the
class becomes one dash. `inRun` says that a run has been replaced already. -/
def dashRuns (kept : List Char) (inRun : Bool) : List Char → List Char
  | [] => []
  | c :: rest =>
      if c ∈ kept then c :: dashRuns kept false rest
      else if inRun then dashRuns kept true rest
      else '-' :: dashRuns kept true rest

/-- `text.strip(chars)`. -/
def stripChars (chars text : List Char) : List Char :=
  ((text.dropWhile (· ∈ chars)).reverse.dropWhile (· ∈ chars)).reverse

/-- The characters `_SAFE` keeps. -/
def nameChars : List Char := Pattern.range 'a' 'z' ++ Pattern.range '0' '9' ++ ['-']

/-- The characters `_safe_label` keeps. -/
def labelChars : List Char := Pattern.alphanumeric ++ ['.', '_', '-']

/-- `text or default`. -/
def orText (text : List Char) (default : String) : String :=
  if text.isEmpty then default else String.ofList text

/-- `_safe_name`. -/
def safeName (builtins : Builtins) (value : String) : String :=
  let v := stripChars ['-'] (dashRuns nameChars false (builtins.lower value).toList)
  orText (stripChars ['-'] (v.take 40)) "x"

/-- `_safe_label`. -/
def safeLabel (value : String) : String :=
  let v := (dashRuns labelChars false value.toList).take 63
  orText (stripChars ['-', '.', '_'] v) "unknown"

/-- `job_name`. -/
def jobName (builtins : Builtins) (runId : String) : String :=
  "tool-" ++ safeName builtins runId

/-! ## The manifest -/

/-- The `labels` of the Job and of its pod. -/
def jobLabels (runId tenantId tool : String) : Json :=
  .obj [("app.kubernetes.io/name", .str "agent-tool-runner"),
    ("app.kubernetes.io/managed-by", .str "tool-runner-dispatcher"),
    ("agent-tools/tenant", .str (safeLabel tenantId)),
    ("agent-tools/run-id", .str (safeLabel runId)),
    ("agent-tools/tool", .str (safeLabel tool))]

/-- `payload`: what the runner reads of its environment. -/
def jobPayload (builtins : Builtins) (tool : String)
    (arguments : List (String × Json)) : String :=
  builtins.dumps (.obj [("tool", .str tool), ("arguments", .obj arguments)])

/-- An environment variable. -/
def envVar (name value : String) : Json :=
  .obj [("name", .str name), ("value", .str value)]

/-- The `container` of the pod. -/
def jobContainer (cfg : JobConfig) (payload : String) : Json :=
  .obj [("name", .str "runner"),
    ("image", .str cfg.image),
    ("command", .arr [.str "python3", .str "-m", .str "app.sandbox.runner"]),
    ("env", .arr [envVar "AGENT_TOOL_INPUT" payload,
      envVar "PYTHONDONTWRITEBYTECODE" "1",
      envVar "PYTHONHASHSEED" "0",
      envVar "HOME" "/work",
      envVar "TMPDIR" "/tmp"]),
    ("securityContext", .obj [("allowPrivilegeEscalation", .bool false),
      ("readOnlyRootFilesystem", .bool true),
      ("runAsNonRoot", .bool true),
      ("runAsUser", .int 1000),
      ("capabilities", .obj [("drop", .arr [.str "ALL"])]),
      ("seccompProfile", .obj [("type", .str "RuntimeDefault")])]),
    ("resources", .obj [
      ("requests", .obj [("cpu", .str "50m"), ("memory", .str "64Mi")]),
      ("limits", .obj [("cpu", .str cfg.cpuLimit),
        ("memory", .str cfg.memoryLimit)])]),
    ("volumeMounts", .arr [
      .obj [("name", .str "workspace"), ("mountPath", .str "/work")],
      .obj [("name", .str "tmp"), ("mountPath", .str "/tmp")]])]

/-- `build_job_manifest`. -/
def buildJobManifest (builtins : Builtins) (cfg : JobConfig)
    (runId tenantId tool : String) (arguments : List (String × Json)) : Json :=
  let labels := jobLabels runId tenantId tool
  .obj [("apiVersion", .str "batch/v1"),
    ("kind", .str "Job"),
    ("metadata", .obj [("name", .str (jobName builtins runId)),
      ("namespace", .str cfg.namespaceName),
      ("labels", labels)]),
    ("spec", .obj [("backoffLimit", .int 0),
      ("activeDeadlineSeconds", .int cfg.deadlineSeconds),
      ("ttlSecondsAfterFinished", .int cfg.ttlSeconds),
      ("template", .obj [("metadata", .obj [("labels", labels)]),
        ("spec", .obj [("restartPolicy", .str "Never"),
          ("serviceAccountName", .str cfg.runnerServiceAccount),
          ("automountServiceAccountToken", .bool false),
          ("nodeSelector", .obj [("kubernetes.io/os", .str "linux")]),
          ("securityContext", .obj [("runAsNonRoot", .bool true),
            ("runAsUser", .int 1000),
            ("fsGroup", .int 1000),
            ("seccompProfile", .obj [("type", .str "RuntimeDefault")])]),
          ("containers", .arr [jobContainer cfg
            (jobPayload builtins tool arguments)]),
          ("volumes", .arr [
            .obj [("name", .str "workspace"),
              ("emptyDir", .obj [("sizeLimit", .str cfg.workspaceSize)])],
            .obj [("name", .str "tmp"),
              ("emptyDir", .obj [("sizeLimit", .str "16Mi")])]])])])])]


end PrivateAiWorkspace.Dispatcher
