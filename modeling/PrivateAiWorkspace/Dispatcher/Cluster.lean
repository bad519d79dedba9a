import PrivateAiWorkspace.Dispatcher.Server

/-!
# A cluster

What the API server keeps of the Jobs and their pods, and how it answers the
requests of a run. A Job name that exists is refused, a pod carries the labels of
the pod template, and a selector is one equality of labels. Everything else is
left open: any request may fail, a request may take effect although its answer is
lost, and a deleted Job leaves its pods behind until they are collected.
-/

namespace PrivateAiWorkspace.Dispatcher

open Effects Python K8sClient

/-! ## Objects -/

/-- The labels of an object. -/
abbrev Labels := List (String × Json)

/-- A Job, with the place of the run whose request has created it. -/
structure Job where
  name : String
  labels : Labels
  creator : Nat

/-- A pod, with the creator of its Job. -/
structure Pod where
  name : String
  labels : Labels
  status : Json
  log : Bytes
  creator : Nat

/-- The Jobs and the pods there are, and whose pod a name was ever given to: the
names of pods are generated and never used again. -/
structure Cluster where
  jobs : List Job
  pods : List Pod
  names : List (String × Nat)

/-- No objects. -/
def Cluster.empty : Cluster := ⟨[], [], []⟩

/-! ## Documents -/

/-- The dict under a key. -/
def dictAt (key : String) (fields : List (String × Json)) :
    List (String × Json) :=
  match Json.get fields key with
  | .obj found => found
  | _ => []

/-- The name in a manifest. -/
def manifestName : Json → Json
  | .obj fields => Json.get (dictAt "metadata" fields) "name"
  | _ => .null

/-- The labels of the pod template in a manifest. -/
def templateLabels : Json → Labels
  | .obj fields =>
      dictAt "labels" (dictAt "metadata" (dictAt "template" (dictAt "spec" fields)))
  | _ => []

@[simp] theorem manifestName_buildJobManifest (builtins : Builtins)
    (cfg : JobConfig) (runId tenantId tool : String)
    (arguments : List (String × Json)) :
    manifestName (buildJobManifest builtins cfg runId tenantId tool arguments) =
      .str (jobName builtins runId) := by
  simp [manifestName, dictAt, buildJobManifest, Json.get, Json.lookup]

@[simp] theorem templateLabels_buildJobManifest (builtins : Builtins)
    (cfg : JobConfig) (runId tenantId tool : String)
    (arguments : List (String × Json)) :
    Json.obj (templateLabels (buildJobManifest builtins cfg runId tenantId tool
      arguments)) = jobLabels runId tenantId tool := by
  simp [templateLabels, dictAt, buildJobManifest, jobLabels, Json.get, Json.lookup]

/-- A selector of the form `key=value` selects the labels. -/
def selects (selector : String) (labels : Labels) : Bool :=
  let key := selector.toList.takeWhile (· ≠ '=')
  let value := (selector.toList.dropWhile (· ≠ '=')).drop 1
  match Json.get labels (String.ofList key) with
  | .str found => found == String.ofList value
  | _ => false

/-- The key of an equality ends at the first `=`. -/
theorem selects_iff (key value : String) (labels : Labels)
    (plain : ∀ c ∈ key.toList, c ≠ '=') :
    selects (key ++ ("=" ++ value)) labels = true ↔
      Json.get labels key = .str value := by
  have chars : (key ++ ("=" ++ value)).toList =
      key.toList ++ '=' :: value.toList := by
    rw [String.toList_append, String.toList_append]
    rfl
  have before : (key ++ ("=" ++ value)).toList.takeWhile (· ≠ '=') = key.toList := by
    rw [chars, List.takeWhile_append_of_pos (by simpa using plain)]
    simp
  have after : ((key ++ ("=" ++ value)).toList.dropWhile (· ≠ '=')).drop 1 =
      value.toList := by
    rw [chars, List.dropWhile_append_of_pos (by simpa using plain)]
    simp
  unfold selects
  dsimp only
  rw [before, after, String.ofList_toList, String.ofList_toList]
  cases Json.get labels key <;> simp

/-- The selector of a run selects the pods with its label. -/
theorem selects_runSelector_iff (builtins : Builtins) (cfg : JobConfig)
    (selected runId tenantId tool : String) (arguments : List (String × Json)) :
    selects (runSelector selected) (templateLabels (buildJobManifest builtins cfg
        runId tenantId tool arguments)) = true ↔
      safeLabel runId = safeLabel selected := by
  have selector : runSelector selected =
      "agent-tools/run-id" ++ ("=" ++ safeLabel selected) := by
    have literal : "agent-tools/run-id=" = "agent-tools/run-id" ++ "=" := by
      decide
    unfold runSelector
    generalize safeLabel selected = label
    rw [literal, String.append_assoc]
  have labels : Json.get (templateLabels (buildJobManifest builtins cfg runId
      tenantId tool arguments)) "agent-tools/run-id" = .str (safeLabel runId) := by
    simp [templateLabels, dictAt, buildJobManifest, jobLabels, Json.get,
      Json.lookup]
  rw [selector, selects_iff _ _ _ (by decide), labels, Json.str.injEq]

/-- The document describes the pod, whatever else it says. -/
def Pod.DescribedBy (pod : Pod) (document : Json) : Prop :=
  ∃ fields metadata, document = .obj fields ∧
    Json.get fields "metadata" = .obj metadata ∧
    Json.get metadata "name" = .str pod.name ∧
    Json.get metadata "labels" = .obj pod.labels ∧
    Json.get fields "status" = pod.status

/-- The document is a list of the pods, whatever else it says. -/
def ListsPods (pods : List Pod) (document : Json) : Prop :=
  ∃ fields items, document = .obj fields ∧ Json.get fields "items" = .arr items ∧
    List.Forall₂ Pod.DescribedBy pods items

/-- The plain document of a pod. -/
def podDocument (pod : Pod) : Json :=
  .obj [("metadata", .obj [("name", .str pod.name), ("labels", .obj pod.labels)]),
    ("status", pod.status)]

/-- A plain list of pods. -/
def podList (pods : List Pod) : Json :=
  .obj [("kind", .str "PodList"), ("items", .arr (pods.map podDocument))]

theorem listsPods_podList (pods : List Pod) : ListsPods pods (podList pods) := by
  refine ⟨_, _, rfl, rfl, ?_⟩
  rw [List.forall₂_map_right_iff, List.forall₂_same]
  exact fun pod _ => ⟨_, _, rfl, rfl, rfl, rfl, rfl⟩

/-! ## Steps -/

/-- What happens in the cluster on its own: a Job starts a pod, a pod changes, and
a pod is collected. -/
inductive Cluster.Moves : Cluster → Cluster → Prop where
  | start {cluster : Cluster} {job : Job} {name : String} (status : Json)
      (log : Bytes) :
      job ∈ cluster.jobs → name ∉ cluster.names.map Prod.fst →
      Moves cluster { cluster with
        pods := ⟨name, job.labels, status, log, job.creator⟩ :: cluster.pods
        names := (name, job.creator) :: cluster.names }
  | change {cluster : Cluster} {earlier later : List Pod} {pod : Pod}
      (status : Json) (log : Bytes) :
      cluster.pods = earlier ++ pod :: later →
      Moves cluster { cluster with
        pods := earlier ++ { pod with status, log } :: later }
  | collect {cluster : Cluster} {earlier later : List Pod} {pod : Pod} :
      cluster.pods = earlier ++ pod :: later →
      Moves cluster { cluster with pods := earlier ++ later }

/-- The cluster without a Job. -/
def Cluster.without (cluster : Cluster) (name : String) : Cluster :=
  { cluster with jobs := cluster.jobs.filter (·.name ≠ name) }

/-- What an answered request shows of pods, and which Jobs it deletes. -/
structure Effect where
  shown : List Pod := []
  deleted : List Job := []

/-- How a request of a run is answered, and what it does. -/
inductive Answers (builtins : Builtins) (caller : Nat) :
    Cluster → DispatchEvent → Effect → Cluster → Prop where
  | created {cluster : Cluster} {manifest : Json} {name : String}
      (answer : Except PyException Bytes) :
      manifestName manifest = .str name → name ∉ cluster.jobs.map Job.name →
      Answers builtins caller cluster ⟨.urlopen (.createJob manifest), answer⟩ {}
        { cluster with
          jobs := ⟨name, templateLabels manifest, caller⟩ :: cluster.jobs }
  | seen {cluster : Cluster} {name : String} (answer : Except PyException Bytes) :
      Answers builtins caller cluster ⟨.urlopen (.getJob name), answer⟩ {} cluster
  | deleted {cluster : Cluster} {name : String}
      (answer : Except PyException Bytes) :
      Answers builtins caller cluster ⟨.urlopen (.deleteJob name), answer⟩
        { deleted := cluster.jobs.filter (·.name = name) } (cluster.without name)
  | listed {cluster : Cluster} {selector : String} {shown : List Pod}
      {payload : Bytes} {document : Json} :
      shown.Perm (cluster.pods.filter fun pod => selects selector pod.labels) →
      builtins.loadsBytes (orEmptyObject payload) = .ok document →
      ListsPods shown document →
      Answers builtins caller cluster ⟨.urlopen (.listPods selector), .ok payload⟩
        { shown } cluster
  | logged {cluster : Cluster} {pod : Pod} {limit : Nat} :
      pod ∈ cluster.pods →
      Answers builtins caller cluster
        ⟨.urlopen (.readPodLog (.str pod.name) limit), .ok (pod.log.take limit)⟩
        { shown := [pod] } cluster
  | failed {cluster : Cluster} {api : ApiRequest} (error : PyException) :
      Answers builtins caller cluster ⟨.urlopen api, .error error⟩ {} cluster
  | monotonic {cluster : Cluster} (answer : Except PyException Rat) :
      Answers builtins caller cluster ⟨.monotonic, answer⟩ {} cluster
  | sleep {cluster : Cluster} {seconds : Rat} (answer : Except PyException Unit) :
      Answers builtins caller cluster ⟨.sleep seconds, answer⟩ {} cluster

end PrivateAiWorkspace.Dispatcher
