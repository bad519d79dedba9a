import PrivateAiWorkspace.Dispatcher.JobSpec
import PrivateAiWorkspace.Effects.Program
import PrivateAiWorkspace.Python.Utf8

/-!
# The client of the API server

`k8sclient.py`: the five requests the dispatcher makes. Opening a request and
reading the response is one call of the environment, which may answer with any
bytes or any exception; `_request` turns the exceptions of `urllib.error` into
`K8sError` and lets every other one through.
-/

namespace PrivateAiWorkspace.Dispatcher

open Effects Python

/-- A request to the API server. -/
inductive ApiRequest where
  | createJob (manifest : Json)
  | getJob (name : String)
  | deleteJob (name : String)
  | listPods (labelSelector : String)
  | readPodLog (podName : Json) (limitBytes : Nat)

/-- What the dispatcher calls: the API server and the clock. -/
inductive DispatcherCall where
  | urlopen (request : ApiRequest)
  | monotonic
  | sleep (seconds : Rat)

/-- The calls with their answers. -/
def DispatcherCalls : Interface where
  Call := DispatcherCall
  Answer
    | .urlopen _ => Bytes
    | .monotonic => Rat
    | .sleep _ => Unit

/-- A program of the dispatcher. -/
abbrev Dispatch (α : Type) := Program DispatcherCalls PyException α

/-- An answered call of the dispatcher. -/
abbrev DispatchEvent := Event DispatcherCalls PyException

/-- `K8sError`. -/
def k8sError : PyException := .other "K8sError"

namespace K8sClient

/-- `_request(...)` with `raw`, before the payload is decoded. -/
def request (api : ApiRequest) : Dispatch Bytes := do
  match ← (.call (.urlopen api) Program.ofExcept : Dispatch Bytes).attempt with
  | .ok payload => return payload
  | .error (.httpError _) | .error .urlError => .raise k8sError
  | .error error => .raise error

/-- `_request(...)`. -/
def requestJson (builtins : Builtins) (api : ApiRequest) : Dispatch Json := do
  let payload ← request api
  Program.ofExcept (builtins.loadsBytes (orEmptyObject payload))

/-- `create_job`. -/
def createJob (builtins : Builtins) (manifest : Json) : Dispatch Json :=
  requestJson builtins (.createJob manifest)

/-- `get_job`. -/
def getJob (builtins : Builtins) (name : String) : Dispatch Json :=
  requestJson builtins (.getJob name)

/-- `delete_job`. -/
def deleteJob (builtins : Builtins) (name : String) : Dispatch Unit := do
  let _ ← requestJson builtins (.deleteJob name)
  return

/-- `value.get(key, default)`: only dicts have the method. -/
def getAttrOr (key : String) (default : Json) : Json → Except PyException Json
  | .obj fields => .ok (Json.getOr fields key default)
  | _ => .error .attributeError

/-- `list_pods`. -/
def listPods (builtins : Builtins) (labelSelector : String) : Dispatch Json := do
  let out ← requestJson builtins (.listPods labelSelector)
  Program.ofExcept (getAttrOr "items" (.arr []) out)

/-- `limit_bytes` of `read_pod_log`. -/
def limitBytes : Nat := 65536

/-- `read_pod_log`. -/
def readPodLog (podName : Json) : Dispatch String := do
  let payload ← request (.readPodLog podName limitBytes)
  return Utf8.decodeReplace payload

end K8sClient

end PrivateAiWorkspace.Dispatcher
