import PrivateAiWorkspace.Dispatcher.JobRunner

/-!
# What the runner can read

The runner takes the bodies of the API server apart without looking at their
shape. For each reader there is a condition on the body that it passes under:
dicts where it asks for a key, and a list of them where it asks for an item.
-/

namespace PrivateAiWorkspace.Dispatcher

open Effects Python K8sClient

/-- The value is a dict. -/
def IsDict (value : Json) : Prop := ∃ fields, value = .obj fields

/-- The conditions are dicts, up to the one that says that the deadline was
exceeded. -/
def ReadableConditions : List Json → Prop
  | [] => True
  | .obj cond :: rest => isDeadline cond = true ∨ ReadableConditions rest
  | _ :: _ => False

/-- A status the loop can be guided by: when it reports neither success nor
failure nothing more is read, and after a failure the conditions are. -/
def ReadableStatus (status : List (String × Json)) : Prop :=
  (Json.get status "succeeded").truthy = true ∨
    (Json.get status "failed").truthy = false ∨
    match (Json.getOr status "conditions" (.arr [])).orElse (.arr []) with
    | .arr conditions => ReadableConditions conditions
    | _ => False

/-- A job is a dict whose status is one, and can be read. -/
def ReadableJob (job : Json) : Prop :=
  ∃ fields status, job = .obj fields ∧
    Json.getOr fields "status" (.obj []) = .obj status ∧ ReadableStatus status

/-- A list of pods the log of the first of which can be asked for. -/
def NamesPod (pods : Json) : Prop :=
  pods.truthy = false ∨ ∃ pod others, pods = .arr (.obj pod :: others) ∧
    IsDict (Json.getOr pod "metadata" (.obj []))

/-- A list of container statuses the first of which may report an exit code. -/
def ReportsState (statuses : Json) : Prop :=
  statuses.truthy = false ∨ ∃ container others state,
    statuses = .arr (.obj container :: others) ∧
    Json.getOr container "state" (.obj []) = .obj state ∧
    IsDict (Json.getOr state "terminated" (.obj []))

/-- A list of pods the exit code of the first of which can be read. -/
def ReportsExit (pods : Json) : Prop :=
  pods.truthy = false ∨ ∃ pod others status,
    pods = .arr (.obj pod :: others) ∧
    Json.getOr pod "status" (.obj []) = .obj status ∧
    ReportsState (Json.getOr status "containerStatuses" (.arr []))

/-- The answer to a request for pods, which are listed for a result when the Job
has succeeded, and for an exit code otherwise. -/
def ReadablePods (succeeded : Prop) (out : Json) : Prop :=
  ∃ fields, out = .obj fields ∧
    (succeeded → NamesPod (Json.getOr fields "items" (.arr []))) ∧
    (¬ succeeded → ReportsExit (Json.getOr fields "items" (.arr [])))

/-! ## Readers -/

/-- The reader returns. -/
def Reads {α : Type} (outcome : Except PyException α) : Prop :=
  ∃ value, outcome = .ok value

@[simp] theorem reads_ok {α : Type} (value : α) :
    Reads (.ok value : Except PyException α) := ⟨value, rfl⟩

@[simp] theorem not_reads_error {α : Type} (error : PyException) :
    ¬ Reads (.error error : Except PyException α) := by
  intro reads
  rcases reads with ⟨_, impossible⟩
  cases impossible

/-- A sequence returns when its parts do. -/
theorem reads_bind_iff {α β : Type} {first : Except PyException α}
    {second : α → Except PyException β} :
    Reads (first >>= second) ↔ ∃ value, first = .ok value ∧ Reads (second value) := by
  cases first with
  | ok value => simp [bind, Except.bind]
  | error error => simp [bind, Except.bind]

theorem getAttrOr_eq_ok_iff {key : String} {default value found : Json} :
    getAttrOr key default value = .ok found ↔
      ∃ fields, value = .obj fields ∧ found = Json.getOr fields key default := by
  cases value <;> simp [getAttrOr, eq_comm]

theorem reads_getAttr_iff {key : String} {value : Json} :
    Reads (value.getAttr key) ↔ IsDict value := by
  cases value <;> simp [Json.getAttr, IsDict]

theorem reads_deadlineAmong_iff (conditions : List Json) :
    Reads (deadlineAmong conditions) ↔ ReadableConditions conditions := by
  induction conditions with
  | nil => simp [deadlineAmong, ReadableConditions]
  | cons cond rest ih =>
      cases cond with
      | obj fields =>
          cases exceeded : isDeadline fields with
          | true => simp [deadlineAmong, ReadableConditions, exceeded]
          | false => simpa [deadlineAmong, ReadableConditions, exceeded] using ih
      | _ => simp [deadlineAmong, ReadableConditions]

/-- Texts are no conditions. -/
theorem not_reads_deadlineAmong {α : Type} {items : List α} {text : α → String}
    (nonempty : items ≠ []) :
    ¬ Reads (deadlineAmong (items.map fun item => .str (text item))) := by
  cases items with
  | nil => exact absurd rfl nonempty
  | cons item items => exact not_reads_error _

/-- What is no list cannot be iterated, or yields texts. -/
theorem reads_conditions_iff (value : Json) :
    Reads (iterate (value.orElse (.arr [])) >>= deadlineAmong) ↔
      match value.orElse (.arr []) with
      | .arr conditions => ReadableConditions conditions
      | _ => False := by
  have truthy : value.orElse (.arr []) = .arr [] ∨
      (value.orElse (.arr [])).truthy = true := by
    unfold Json.orElse
    split
    · exact Or.inr ‹_›
    · exact Or.inl rfl
  generalize value.orElse (.arr []) = conditions at truthy
  rw [reads_bind_iff]
  cases conditions with
  | arr conditions => simp [iterate, reads_deadlineAmong_iff]
  | str text =>
      have nonempty : text.toList ≠ [] := by
        rcases truthy with impossible | truthy
        · cases impossible
        · simpa [Json.truthy] using truthy
      simp [iterate, not_reads_deadlineAmong nonempty]
  | obj fields =>
      have nonempty : fields ≠ [] := by
        rcases truthy with impossible | truthy
        · cases impossible
        · simpa [Json.truthy] using truthy
      simp [iterate, not_reads_deadlineAmong nonempty]
  | null | bool | int | float => simp [iterate]

/-- The reason of a failure is read when the conditions are. -/
theorem reads_jobFailedReason_iff {fields status : List (String × Json)}
    (found : Json.getOr fields "status" (.obj []) = .obj status) :
    Reads (jobFailedReason (.obj fields)) ↔
      match (Json.getOr status "conditions" (.arr [])).orElse (.arr []) with
      | .arr conditions => ReadableConditions conditions
      | _ => False := by
  rw [← reads_conditions_iff]
  simp [jobFailedReason, getAttrOr, found, bind, Except.bind]

/-- The first item of a value that is not empty: only dicts in a list have the
method that is called on it. -/
theorem getFirst_eq_obj_iff {value : Json} {fields : List (String × Json)} :
    value.getFirst = .ok (.obj fields) ↔
      ∃ others, value = .arr (.obj fields :: others) := by
  cases value with
  | arr items => cases items <;> simp [Json.getFirst]
  | str text => cases chars : text.toList <;> simp [Json.getFirst, chars]
  | _ => simp [Json.getFirst]

/-- The pod of a result is named. -/
theorem reads_podName_iff {pods : Json} (some : pods.truthy = true) :
    Reads (podName pods) ↔ NamesPod pods := by
  simp only [podName, reads_bind_iff, reads_getAttr_iff, getAttrOr_eq_ok_iff,
    NamesPod, some, Bool.true_eq_false, false_or]
  constructor
  · intro read
    rcases read with ⟨_, first, _, ⟨pod, rfl, rfl⟩, dict⟩
    rcases getFirst_eq_obj_iff.mp first with ⟨others, rfl⟩
    exact ⟨pod, others, rfl, dict⟩
  · intro named
    rcases named with ⟨pod, others, rfl, dict⟩
    exact ⟨_, rfl, _, ⟨pod, rfl, rfl⟩, dict⟩

/-- The state of the container is read. -/
theorem reads_state_iff (statuses : Json) :
    Reads (do
        let state ←
          if statuses.truthy then do
            let first ← statuses.getFirst
            getAttrOr "state" (.obj []) first
          else .ok (.obj [])
        let term ← getAttrOr "terminated" (.obj []) state
        term.getAttr "exitCode") ↔
      ReportsState statuses := by
  cases listed : statuses.truthy with
  | false => simp [ReportsState, listed, bind, Except.bind, getAttrOr,
      Json.getOr, Json.lookup, Json.getAttr]
  | true =>
      simp only [if_true, reads_bind_iff, reads_getAttr_iff,
        getAttrOr_eq_ok_iff, ReportsState, listed, Bool.true_eq_false, false_or]
      constructor
      · intro read
        rcases read with
          ⟨_, first, _, ⟨container, rfl, rfl⟩, _, ⟨state, found, rfl⟩, dict⟩
        rcases getFirst_eq_obj_iff.mp first with ⟨others, rfl⟩
        exact ⟨container, others, state, rfl, found, dict⟩
      · intro reported
        rcases reported with ⟨container, others, state, rfl, found, dict⟩
        exact ⟨_, rfl, _, ⟨container, rfl, rfl⟩, _, ⟨state, found, rfl⟩, dict⟩

/-- The exit code of a failure is read. -/
theorem reads_exitCodeOf_iff {pods : Json} (some : pods.truthy = true) :
    Reads (exitCodeOf pods) ↔ ReportsExit pods := by
  have state := reads_state_iff
  simp only [exitCodeOf, reads_bind_iff, getAttrOr_eq_ok_iff, ReportsExit, some,
    Bool.true_eq_false, false_or]
  constructor
  · intro read
    rcases read with
      ⟨_, first, _, ⟨pod, rfl, rfl⟩, _, ⟨status, found, rfl⟩, reported⟩
    rcases getFirst_eq_obj_iff.mp first with ⟨others, rfl⟩
    exact ⟨pod, others, status, rfl, found, (state _).mp reported⟩
  · intro reported
    rcases reported with ⟨pod, others, status, rfl, found, reported⟩
    exact ⟨_, rfl, _, ⟨pod, rfl, rfl⟩, _, ⟨status, found, rfl⟩,
      (state _).mpr reported⟩

/-- The outcome is no `K8sError`. -/
def Plain {α : Type} (outcome : Except PyException α) : Prop :=
  outcome ≠ .error k8sError

theorem plain_bind {α β : Type} {first : Except PyException α}
    {second : α → Except PyException β} (plain : Plain first)
    (plains : ∀ value, Plain (second value)) : Plain (first >>= second) := by
  cases first with
  | ok value => exact plains value
  | error error => exact fun impossible => plain (by cases impossible; rfl)

theorem plain_getAttrOr (key : String) (default value : Json) :
    Plain (getAttrOr key default value) := by
  cases value <;> exact nofun

theorem plain_getAttr (key : String) (value : Json) :
    Plain (value.getAttr key) := by
  cases value <;> exact nofun

theorem plain_getFirst (value : Json) : Plain value.getFirst := by
  cases value with
  | arr items => cases items <;> exact nofun
  | str text => cases chars : text.toList <;> simp [Plain, Json.getFirst, chars, k8sError]
  | _ => exact nofun

theorem plain_podName (pods : Json) : Plain (podName pods) :=
  plain_bind (plain_getFirst _) fun _ =>
    plain_bind (plain_getAttrOr _ _ _) fun _ => plain_getAttr _ _

theorem plain_exitCodeOf (pods : Json) : Plain (exitCodeOf pods) := by
  refine plain_bind (plain_getFirst _) fun _ =>
    plain_bind (plain_getAttrOr _ _ _) fun _ =>
    plain_bind (plain_getAttrOr _ _ _) fun statuses => ?_
  split
  · exact plain_bind (plain_getFirst _) fun _ =>
      plain_bind (plain_getAttrOr _ _ _) fun _ =>
      plain_bind (plain_getAttrOr _ _ _) fun _ => plain_getAttr _ _
  · exact plain_bind nofun fun _ =>
      plain_bind (plain_getAttrOr _ _ _) fun _ => plain_getAttr _ _

end PrivateAiWorkspace.Dispatcher
