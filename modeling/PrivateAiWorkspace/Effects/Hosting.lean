import PrivateAiWorkspace.Effects.Isolation
import PrivateAiWorkspace.Effects.Pool

/-!
# Programs over a hosted object

A world may host a shared object: some of its calls are the operations of the
object, answered as the object answers them, and the others leave it alone. Then
the calls of any number of programs amount to one history of operations, and what
a program that has ended was told can be read off that history.
-/

namespace PrivateAiWorkspace.Effects

variable {interface : Interface} {ε α σ τ op ρ υ : Type}

/-- How a world hosts an object: where its state is, which calls are operations
and how an answer shows the result of one. -/
structure Hosts (world : World interface ε σ) (object : SharedObject τ op ρ υ)
    (store : σ → τ) (operation : interface.Call → Option op)
    (result : Event interface ε → Option ρ) : Prop where
  silent : ∀ source event target, world source event target →
    operation event.call = none → store target = store source
  serves : ∀ source event target one, world source event target →
    operation event.call = some one →
    store target = (object.step (store source) one).2 ∧
      result event = some (object.step (store source) one).1

/-- The operations of a run, in order. -/
def operationsOf (operation : interface.Call → Option op)
    (transitions :
      List (Transition (Pool interface ε α σ) (Action interface ε α))) : List op :=
  (Pool.sharedTransitions transitions).filterMap fun transition =>
    operation transition.label.call

section Operations

variable {operation : interface.Call → Option op}

@[simp] theorem operationsOf_nil :
    operationsOf operation
      ([] : List (Transition (Pool interface ε α σ) (Action interface ε α))) = [] := rfl

@[simp] theorem operationsOf_append
    (before after :
      List (Transition (Pool interface ε α σ) (Action interface ε α))) :
    operationsOf operation (before ++ after) =
      operationsOf operation before ++ operationsOf operation after := by
  simp [operationsOf]

@[simp] theorem operationsOf_spawn (source target : Pool interface ε α σ)
    (program : Program interface ε α) :
    operationsOf operation [⟨source, .spawn program, target⟩] = [] := rfl

@[simp] theorem operationsOf_call (source target : Pool interface ε α σ)
    (thread : Nat) (event : Event interface ε) :
    operationsOf operation [⟨source, .call thread event, target⟩] =
      (operation event.call).toList := by
  cases found : operation event.call with
  | none => simp [operationsOf, Pool.sharedTransitions, Pool.sharedTransition, found]
  | some one => simp [operationsOf, Pool.sharedTransitions, Pool.sharedTransition, found]

/-- A call splits the operations of a run. -/
theorem operationsOf_split {source target : Pool interface ε α σ}
    {before after :
      List (Transition (Pool interface ε α σ) (Action interface ε α))}
    {thread : Nat} {event : Event interface ε} {one : op}
    (found : operation event.call = some one) :
    operationsOf operation (before ++ ⟨source, .call thread event, target⟩ :: after) =
      operationsOf operation before ++ one :: operationsOf operation after := by
  rw [← List.singleton_append, operationsOf_append, operationsOf_append,
    operationsOf_call, found]
  rfl

/-- An operation of a run is a call of one of its programs. -/
theorem exists_call_of_operation
    {transitions :
      List (Transition (Pool interface ε α σ) (Action interface ε α))} {one : op}
    (member : one ∈ operationsOf operation transitions) :
    ∃ before source thread event target after,
      transitions = before ++ ⟨source, .call thread event, target⟩ :: after ∧
        operation event.call = some one := by
  rcases List.mem_filterMap.mp member with ⟨shared, inside, found⟩
  rcases List.mem_filterMap.mp inside with ⟨⟨source, act, target⟩, among, projected⟩
  rcases List.append_of_mem among with ⟨before, after, rfl⟩
  cases act with
  | spawn program => cases projected
  | call thread event =>
      cases projected
      exact ⟨before, source, thread, event, target, after, rfl, found⟩

/-- An operation of a run was called by one of its programs, on a past of it that
meets its guard. -/
theorem exists_origin_of_operation {world : World interface ε σ}
    {spawnable : Program interface ε α → Prop} {start : σ}
    {target : Pool interface ε α σ}
    {allowed : Program interface ε α → List (Event interface ε) → interface.Call → Prop}
    {transitions :
      List (Transition (Pool interface ε α σ) (Action interface ε α))} {one : op}
    (guarded : ∀ program, spawnable program →
      Program.Guarded (allowed program) [] program)
    (execution : Execution (Pool.Step world spawnable) ⟨start, []⟩ transitions target)
    (member : one ∈ operationsOf operation transitions) :
    ∃ thread origin, (Pool.origins transitions)[thread]? = some origin ∧
      spawnable origin ∧ ∃ past request, past <+: Pool.threadEvents thread transitions ∧
        operation request = some one ∧ allowed origin past request := by
  rcases exists_call_of_operation member with
    ⟨before, source, thread, event, last, after, rfl, found⟩
  rcases execution.split with ⟨first, taken, -⟩
  dsimp only at first taken
  cases taken with
  | call answer issued answered =>
      rcases (Pool.originated first).residual thread _ issued with
        ⟨origin, placed, permitted, residual⟩
      refine ⟨thread, origin, Pool.origins_grow placed _, permitted, _, _, ?_, found,
        ((guarded origin permitted).residual residual).1⟩
      rw [Pool.threadEvents_append]
      exact List.prefix_append _ _

end Operations

namespace Hosts

variable {world : World interface ε σ} {object : SharedObject τ op ρ υ} {store : σ → τ}
  {operation : interface.Call → Option op} {result : Event interface ε → Option ρ}
  {spawnable : Program interface ε α → Prop} {start : σ}
  {target final : Pool interface ε α σ}
  {transitions :
    List (Transition (Pool interface ε α σ) (Action interface ε α))}

/-- A run leaves the object as its operations do. -/
theorem store_eq (hosts : Hosts world object store operation result)
    (initial : store start = object.initial)
    (execution : Execution (Pool.Step world spawnable) ⟨start, []⟩ transitions
      target) :
    store target.shared = object.after (operationsOf operation transitions) := by
  apply execution.history_invariant fun past pool =>
    store pool.shared = object.after (operationsOf operation past)
  · exact initial
  · intro past transition _ taken before
    rcases transition with ⟨source, act, next⟩
    dsimp only at taken before ⊢
    cases taken with
    | spawn permitted => simpa using before
    | call answer issued answered =>
        rw [operationsOf_append, operationsOf_call]
        cases found : operation _ with
        | none =>
            rw [Option.toList_none, List.append_nil, ← before]
            exact hosts.silent _ _ _ answered found
        | some one =>
            rw [Option.toList_some, SharedObject.after_snoc, ← before]
            exact (hosts.serves _ _ _ one answered found).1

/-- A call is answered as the object answers it after the operations before. -/
theorem result_eq (hosts : Hosts world object store operation result)
    (initial : store start = object.initial) {source : Pool interface ε α σ}
    {before after :
      List (Transition (Pool interface ε α σ) (Action interface ε α))}
    {thread : Nat} {event : Event interface ε} {one : op}
    (execution : Execution (Pool.Step world spawnable) ⟨start, []⟩
      (before ++ ⟨source, .call thread event, target⟩ :: after) final)
    (found : operation event.call = some one) :
    result event =
      some (object.step (object.after (operationsOf operation before)) one).1 := by
  rcases execution.split with ⟨first, taken, -⟩
  have state := hosts.store_eq initial first
  dsimp only at taken state
  cases taken with
  | call answer issued answered =>
      rw [← state]
      exact (hosts.serves _ _ _ one answered found).2

/-- A call a program has issued was answered as the object answers it after the
operations before. -/
theorem answered (hosts : Hosts world object store operation result)
    (initial : store start = object.initial) {thread : Nat} {event : Event interface ε}
    {one : op}
    (execution : Execution (Pool.Step world spawnable) ⟨start, []⟩ transitions target)
    (member : event ∈ Pool.threadEvents thread transitions)
    (found : operation event.call = some one) :
    ∃ before source next after,
      transitions = before ++ ⟨source, .call thread event, next⟩ :: after ∧
      result event =
        some (object.step (object.after (operationsOf operation before)) one).1 := by
  rcases List.append_of_mem member with ⟨earlier, later, events⟩
  rcases Pool.exists_step_of_threadEvents events with
    ⟨before, source, next, after, rfl⟩
  exact ⟨before, source, next, after, rfl, hosts.result_eq initial execution found⟩

end Hosts

/-! ## Programs that have ended -/

/-- What a residual goes on to do completes a run of its origin. -/
theorem Program.Residual.run {origin rest : Program interface ε α}
    {past more : List (Event interface ε)} {result : Except ε α}
    (residual : Program.Residual origin past rest)
    (run : Program.Run rest more result) : Program.Run origin (past ++ more) result := by
  induction residual generalizing more with
  | start => exact run
  | advance answer reached ih =>
      rw [List.append_assoc]
      exact ih (.call answer run)

/-- A program of a pool has ended with a value. -/
def Returned (transitions :
      List (Transition (Pool interface ε α σ) (Action interface ε α)))
    (target : Pool interface ε α σ) (thread : Nat) (origin : Program interface ε α)
    (value : α) : Prop :=
  (Pool.origins transitions)[thread]? = some origin ∧
    target.threads[thread]? = some (.ret value)

/-- Its calls are a run of it. -/
theorem Returned.run {world : World interface ε σ}
    {spawnable : Program interface ε α → Prop} {start : σ}
    {target : Pool interface ε α σ}
    {transitions :
      List (Transition (Pool interface ε α σ) (Action interface ε α))}
    {thread : Nat} {origin : Program interface ε α} {value : α}
    (returned : Returned transitions target thread origin value)
    (execution : Execution (Pool.Step world spawnable) ⟨start, []⟩ transitions
      target) :
    Program.Run origin (Pool.threadEvents thread transitions) (.ok value) := by
  rcases (Pool.originated execution).residual thread _ returned.2 with
    ⟨same, placed, -, residual⟩
  rw [returned.1] at placed
  cases placed
  have run := residual.run (.ret value)
  rwa [List.append_nil] at run

/-! ## Programs of a schedule -/

section Schedules

variable {χ : Type}

/-- The program a move starts. -/
def Pool.Move.started : Pool.Move interface ε α χ → Option (Program interface ε α)
  | .start program => some program
  | .call _ _ => none

/-- A schedule starts the programs of its moves. -/
theorem Pool.origins_play {respond : χ → σ → (request : interface.Call) →
      Option (Except ε (interface.Answer request) × σ)}
    (moves : List (Pool.Move interface ε α χ)) (pool : Pool interface ε α σ) :
    Pool.origins (Pool.play respond moves pool).1 =
      moves.filterMap Pool.Move.started := by
  induction moves generalizing pool with
  | nil => rfl
  | cons move rest ih =>
      cases move with
      | start program => exact congrArg (program :: ·) (ih _)
      | call thread choice =>
          simp only [Pool.play]
          split
          next =>
            split
            next => exact ih _
            next => exact ih _
          next => exact ih _

/-- The program has ended with a value that passes a check. -/
def Program.returns (check : α → Bool) : Program interface ε α → Bool
  | .ret value => check value
  | _ => false

theorem Program.exists_of_returns {check : α → Bool}
    {place : Option (Program interface ε α)}
    (ended : place.any (Program.returns check) = true) :
    ∃ value, place = some (.ret value) ∧ check value = true := by
  cases place with
  | none => cases ended
  | some program =>
      cases program with
      | ret value => exact ⟨value, rfl, ended⟩
      | raise error => cases ended
      | call request next => cases ended

end Schedules

end PrivateAiWorkspace.Effects
