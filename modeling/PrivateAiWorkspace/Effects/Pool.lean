import PrivateAiWorkspace.Effects.Program
import PrivateAiWorkspace.Effects.Execution

/-!
# Concurrent programs over one shared object

A pool holds the shared state and any number of programs. A scheduling step
either starts another program or lets one program issue its next call, which
the shared object answers atomically; every interleaving of the calls of all
programs is therefore an execution of the pool.

Two rules reduce a pool to simpler things. `Pool.shared_execution` forgets the
programs: what remains is an execution of the shared object alone.
`Pool.guarded_call` keeps one program: a call is issued only after a past of
the same program that satisfies the program's guard.
-/

namespace PrivateAiWorkspace.Effects

variable {interface : Interface} {ε α σ : Type}

namespace Program

/-- `Residual origin past rest`: once the calls of `past` are answered, `rest`
is what remains of `origin`. -/
inductive Residual (origin : Program interface ε α) :
    List (Event interface ε) → Program interface ε α → Prop where
  | start : Residual origin [] origin
  | advance {past : List (Event interface ε)} {request : interface.Call}
      {next : Except ε (interface.Answer request) → Program interface ε α}
      (answer : Except ε (interface.Answer request)) :
      Residual origin past (.call request next) →
      Residual origin (past ++ [⟨request, answer⟩]) (next answer)

theorem Guarded.residual
    {allowed : List (Event interface ε) → interface.Call → Prop}
    {origin rest : Program interface ε α} {past : List (Event interface ε)}
    (guarded : Guarded allowed [] origin) (residual : Residual origin past rest) :
    Guarded allowed past rest := by
  induction residual with
  | start => exact guarded
  | advance answer _ ih => exact ih.2 answer

/-- Each call of the past of a residual was issued with its guard met. -/
theorem Guarded.of_residual
    {allowed : List (Event interface ε) → interface.Call → Prop}
    {origin rest : Program interface ε α} {past : List (Event interface ε)}
    (guarded : Guarded allowed [] origin) (residual : Residual origin past rest)
    {event : Event interface ε} (member : event ∈ past) :
    ∃ earlier, earlier <+: past ∧ allowed earlier event.call := by
  induction residual with
  | start => cases member
  | advance answer reached ih =>
      rcases List.mem_append.mp member with member | member
      · rcases ih member with ⟨earlier, shorter, permitted⟩
        exact ⟨earlier, shorter.trans (List.prefix_append _ _), permitted⟩
      · cases List.mem_singleton.mp member
        exact ⟨_, List.prefix_append _ _, (guarded.residual reached).1⟩

end Program

/-- How a shared object may answer a call and change state. -/
abbrev World (interface : Interface) (ε σ : Type) :=
  σ → Event interface ε → σ → Prop

/-- A shared state and the programs that run over it. A finished program keeps
its place, so a position names one program for ever. -/
structure Pool (interface : Interface) (ε α σ : Type) where
  shared : σ
  threads : List (Program interface ε α)

/-- What the scheduler does in one step. -/
inductive Action (interface : Interface) (ε α : Type) where
  | spawn (program : Program interface ε α)
  | call (thread : Nat) (event : Event interface ε)

namespace Pool

/-- One scheduling step. -/
inductive Step (world : World interface ε σ)
    (spawnable : Program interface ε α → Prop) :
    Pool interface ε α σ → Action interface ε α → Pool interface ε α σ →
      Prop where
  | spawn {pool : Pool interface ε α σ} {program : Program interface ε α} :
      spawnable program →
      Step world spawnable pool (.spawn program)
        { pool with threads := pool.threads ++ [program] }
  | call {pool : Pool interface ε α σ} {thread : Nat}
      {request : interface.Call}
      {next : Except ε (interface.Answer request) → Program interface ε α}
      (answer : Except ε (interface.Answer request)) {shared : σ} :
      pool.threads[thread]? = some (.call request next) →
      world pool.shared ⟨request, answer⟩ shared →
      Step world spawnable pool (.call thread ⟨request, answer⟩)
        { shared, threads := pool.threads.set thread (next answer) }

variable {world : World interface ε σ}
  {spawnable : Program interface ε α → Prop}

/-- What one step of the pool does to the shared object, if anything. -/
def sharedTransition
    (transition : Transition (Pool interface ε α σ) (Action interface ε α)) :
    Option (Transition σ (Event interface ε)) :=
  match transition.label with
  | .spawn _ => none
  | .call _ event =>
      some ⟨transition.source.shared, event, transition.target.shared⟩

/-- The run of the shared object inside a run of the pool. -/
def sharedTransitions
    (transitions :
      List (Transition (Pool interface ε α σ) (Action interface ε α))) :
    List (Transition σ (Event interface ε)) :=
  transitions.filterMap sharedTransition

@[simp] theorem sharedTransitions_append
    (before after :
      List (Transition (Pool interface ε α σ) (Action interface ε α))) :
    sharedTransitions (before ++ after) =
      sharedTransitions before ++ sharedTransitions after :=
  List.filterMap_append

@[simp] theorem sharedTransitions_spawn_cons
    (source target : Pool interface ε α σ) (program : Program interface ε α)
    (rest : List (Transition (Pool interface ε α σ) (Action interface ε α))) :
    sharedTransitions (⟨source, .spawn program, target⟩ :: rest) =
      sharedTransitions rest := rfl

@[simp] theorem sharedTransitions_call_cons
    (source target : Pool interface ε α σ) (thread : Nat)
    (event : Event interface ε)
    (rest : List (Transition (Pool interface ε α σ) (Action interface ε α))) :
    sharedTransitions (⟨source, .call thread event, target⟩ :: rest) =
      ⟨source.shared, event, target.shared⟩ :: sharedTransitions rest := rfl

/-- A step of the shared object is a call of some program. -/
theorem exists_call_of_mem_sharedTransitions
    {transitions :
      List (Transition (Pool interface ε α σ) (Action interface ε α))}
    {transition : Transition σ (Event interface ε)}
    (member : transition ∈ sharedTransitions transitions) :
    ∃ before source thread target after,
      transitions =
        before ++ ⟨source, .call thread transition.label, target⟩ :: after ∧
      source.shared = transition.source ∧
      target.shared = transition.target := by
  rcases List.mem_filterMap.mp member with ⟨⟨source, act, target⟩, taken, projected⟩
  rcases List.append_of_mem taken with ⟨before, after, rfl⟩
  cases act with
  | spawn program => cases projected
  | call thread event =>
      cases projected
      exact ⟨before, source, thread, target, after, rfl, rfl, rfl⟩

/-- Forgetting the programs leaves an execution of the shared object. -/
theorem shared_execution {source target : Pool interface ε α σ}
    {transitions :
      List (Transition (Pool interface ε α σ) (Action interface ε α))}
    (execution : Execution (Step world spawnable) source transitions target) :
    Execution world source.shared (sharedTransitions transitions)
      target.shared := by
  induction execution with
  | nil state => exact .nil state.shared
  | cons taken rest ih =>
      cases taken with
      | spawn permitted => exact ih
      | call answer issued answered => exact .cons answered ih

/-- A property kept by every step of the shared object of a run holds in every
state of the pool. -/
theorem shared_invariant {source target : Pool interface ε α σ}
    {transitions :
      List (Transition (Pool interface ε α σ) (Action interface ε α))}
    (execution : Execution (Step world spawnable) source transitions target)
    (invariant : σ → Prop) (initial : invariant source.shared)
    (preserved : ∀ transition ∈ sharedTransitions transitions,
      world transition.source transition.label transition.target →
      invariant transition.source → invariant transition.target) :
    ∀ pool ∈ Execution.states source transitions, invariant pool.shared := by
  refine execution.invariant_states (fun pool => invariant pool.shared) initial
    ?_
  rintro ⟨before, act, after⟩ member taken holds
  dsimp only at taken holds ⊢
  cases taken with
  | spawn permitted => exact holds
  | call answer issued answered =>
      exact preserved ⟨_, _, _⟩
        (List.mem_filterMap.mpr ⟨_, member, rfl⟩) answered holds

/-! ## The past of one program -/

/-- Calls of one program, in order. -/
def threadEvents (thread : Nat)
    (transitions :
      List (Transition (Pool interface ε α σ) (Action interface ε α))) :
    List (Event interface ε) :=
  transitions.filterMap fun transition =>
    match transition.label with
    | .spawn _ => none
    | .call other event => if other = thread then some event else none

@[simp] theorem threadEvents_nil (thread : Nat) :
    threadEvents thread
      ([] : List (Transition (Pool interface ε α σ) (Action interface ε α))) =
      [] := rfl

@[simp] theorem threadEvents_append (thread : Nat)
    (before after :
      List (Transition (Pool interface ε α σ) (Action interface ε α))) :
    threadEvents thread (before ++ after) =
      threadEvents thread before ++ threadEvents thread after := by
  simp [threadEvents]

@[simp] theorem threadEvents_spawn (thread : Nat)
    (source target : Pool interface ε α σ)
    (program : Program interface ε α) :
    threadEvents thread [⟨source, .spawn program, target⟩] = [] := rfl

theorem threadEvents_call (thread other : Nat)
    (source target : Pool interface ε α σ) (event : Event interface ε) :
    threadEvents thread [⟨source, .call other event, target⟩] =
      if other = thread then [event] else [] := by
  by_cases same : other = thread <;> simp [threadEvents, same]

@[simp] theorem threadEvents_call_self (thread : Nat)
    (source target : Pool interface ε α σ) (event : Event interface ε) :
    threadEvents thread [⟨source, .call thread event, target⟩] = [event] := by
  simp [threadEvents_call]

theorem mem_threadEvents_snoc_call {thread other : Nat}
    {past : List (Transition (Pool interface ε α σ) (Action interface ε α))}
    {source target : Pool interface ε α σ} {event last : Event interface ε} :
    event ∈ threadEvents thread (past ++ [⟨source, .call other last, target⟩]) ↔
      event ∈ threadEvents thread past ∨ other = thread ∧ event = last := by
  by_cases same : other = thread <;> simp [threadEvents_call, same]

/-- An event of a program's past is the call of one of its steps. -/
theorem exists_step_of_threadEvents {thread : Nat}
    {transitions :
      List (Transition (Pool interface ε α σ) (Action interface ε α))}
    {earlier later : List (Event interface ε)} {event : Event interface ε}
    (events : threadEvents thread transitions = earlier ++ event :: later) :
    ∃ before source target after,
      transitions = before ++ ⟨source, .call thread event, target⟩ :: after := by
  rcases List.filterMap_eq_append_iff.mp events with ⟨before, rest, rfl, _, taken⟩
  rcases List.filterMap_eq_cons_iff.mp taken with
    ⟨skipped, ⟨source, act, target⟩, after, rfl, _, projected, _⟩
  cases act with
  | spawn program => cases projected
  | call other act =>
      simp only at projected
      split at projected
      next same =>
        cases projected
        rw [same]
        exact ⟨before ++ skipped, source, target, after, by simp⟩
      next => cases projected

/-- Each program of the pool is what its own past has left of a program that
may be started, and no place beyond the pool has a past. -/
def Threaded (spawnable : Program interface ε α → Prop)
    (past : List (Transition (Pool interface ε α σ) (Action interface ε α)))
    (pool : Pool interface ε α σ) : Prop :=
  (∀ thread rest, pool.threads[thread]? = some rest →
    ∃ origin, spawnable origin ∧
      Program.Residual origin (threadEvents thread past) rest) ∧
  ∀ thread, pool.threads.length ≤ thread → threadEvents thread past = []

theorem Threaded.spawn {past : List (Transition (Pool interface ε α σ)
      (Action interface ε α))} {pool : Pool interface ε α σ}
    (threaded : Threaded spawnable past pool)
    {program : Program interface ε α} (permitted : spawnable program) :
    Threaded spawnable
      (past ++ [⟨pool, .spawn program,
        { pool with threads := pool.threads ++ [program] }⟩])
      { pool with threads := pool.threads ++ [program] } := by
  constructor
  · intro thread rest found
    simp only [threadEvents_append, threadEvents_spawn, List.append_nil]
    rw [List.getElem?_append] at found
    split at found
    · exact threaded.1 thread rest found
    · -- The new place starts with an empty past.
      rename_i beyond
      have empty := threaded.2 thread (Nat.le_of_not_lt beyond)
      have position : rest = program := by
        simpa using (List.mem_of_getElem? found)
      subst position
      rw [empty]
      exact ⟨rest, permitted, .start⟩
  · intro thread beyond
    simp only [List.length_append, List.length_cons, List.length_nil] at beyond
    simpa using threaded.2 thread (by omega)

theorem Threaded.call {past : List (Transition (Pool interface ε α σ)
      (Action interface ε α))} {pool : Pool interface ε α σ}
    (threaded : Threaded spawnable past pool) {thread : Nat}
    {request : interface.Call}
    {next : Except ε (interface.Answer request) → Program interface ε α}
    (answer : Except ε (interface.Answer request)) {shared : σ}
    (issued : pool.threads[thread]? = some (.call request next)) :
    Threaded spawnable
      (past ++ [⟨pool, .call thread ⟨request, answer⟩,
        { shared, threads := pool.threads.set thread (next answer) }⟩])
      { shared, threads := pool.threads.set thread (next answer) } := by
  constructor
  · intro other rest found
    rw [List.getElem?_set] at found
    split at found
    · rename_i same
      subst same
      obtain ⟨origin, permitted, residual⟩ := threaded.1 thread _ issued
      have position : rest = next answer := by
        split at found
        · exact (Option.some.inj found).symm
        · simp at found
      subst position
      exact ⟨origin, permitted, by simpa using residual.advance answer⟩
    · rename_i different
      simpa [threadEvents_call, different] using threaded.1 other rest found
  · intro other beyond
    simp only [List.length_set] at beyond
    have inside : thread < pool.threads.length :=
      (List.getElem?_eq_some_iff.mp issued).1
    have different : thread ≠ other := by omega
    simpa [threadEvents_call, different] using threaded.2 other beyond

/-- Programs of a pool that started empty are residuals of startable ones. -/
theorem threaded {start : σ} {target : Pool interface ε α σ}
    {transitions :
      List (Transition (Pool interface ε α σ) (Action interface ε α))}
    (execution : Execution (Step world spawnable) ⟨start, []⟩ transitions
      target) :
    Threaded spawnable transitions target := by
  refine execution.history_invariant (Threaded spawnable) ⟨by simp, by simp⟩ ?_
  rintro past ⟨before, act, after⟩ _ taken holds
  dsimp only at taken holds ⊢
  cases taken with
  | spawn permitted => exact holds.spawn permitted
  | call answer issued answered => exact holds.call answer issued

/-- The programs started in a run, in order; the place of a program among them is
its place in the pool. -/
def origins
    (transitions :
      List (Transition (Pool interface ε α σ) (Action interface ε α))) :
    List (Program interface ε α) :=
  transitions.filterMap fun transition =>
    match transition.label with
    | .spawn program => some program
    | .call _ _ => none

@[simp] theorem origins_append
    (before after :
      List (Transition (Pool interface ε α σ) (Action interface ε α))) :
    origins (before ++ after) = origins before ++ origins after :=
  List.filterMap_append

/-- A program keeps its place. -/
theorem origins_grow {thread : Nat} {origin : Program interface ε α}
    {before : List (Transition (Pool interface ε α σ) (Action interface ε α))}
    (placed : (origins before)[thread]? = some origin)
    (after : List (Transition (Pool interface ε α σ) (Action interface ε α))) :
    (origins (before ++ after))[thread]? = some origin := by
  rw [origins_append,
    List.getElem?_append_left (List.getElem?_eq_some_iff.mp placed).1]
  exact placed

/-- Each program of the pool is what its own past has left of the program started
in its place. -/
structure Originated (spawnable : Program interface ε α → Prop)
    (past : List (Transition (Pool interface ε α σ) (Action interface ε α)))
    (pool : Pool interface ε α σ) : Prop where
  threaded : Threaded spawnable past pool
  length : (origins past).length = pool.threads.length
  residual : ∀ thread rest, pool.threads[thread]? = some rest →
    ∃ origin, (origins past)[thread]? = some origin ∧ spawnable origin ∧
      Program.Residual origin (threadEvents thread past) rest

theorem Originated.spawn {past : List (Transition (Pool interface ε α σ)
      (Action interface ε α))} {pool : Pool interface ε α σ}
    (originated : Originated spawnable past pool)
    {program : Program interface ε α} (permitted : spawnable program) :
    Originated spawnable
      (past ++ [⟨pool, .spawn program,
        { pool with threads := pool.threads ++ [program] }⟩])
      { pool with threads := pool.threads ++ [program] } := by
  have started : origins [(⟨pool, .spawn program,
      { pool with threads := pool.threads ++ [program] }⟩ :
      Transition (Pool interface ε α σ) (Action interface ε α))] = [program] :=
    rfl
  constructor
  · exact originated.threaded.spawn permitted
  · simp [started, originated.length]
  · intro thread rest found
    rw [threadEvents_append, threadEvents_spawn, List.append_nil,
      origins_append, started]
    rw [List.getElem?_append] at found ⊢
    rw [originated.length]
    split at found
    next inside =>
      rw [if_pos inside]
      exact originated.residual thread rest found
    next beyond =>
      have silent := originated.threaded.2 thread (Nat.le_of_not_lt beyond)
      rw [if_neg beyond, silent]
      have same : rest = program := by
        simpa using List.mem_of_getElem? found
      subst same
      exact ⟨rest, found, permitted, .start⟩

theorem Originated.call {past : List (Transition (Pool interface ε α σ)
      (Action interface ε α))} {pool : Pool interface ε α σ}
    (originated : Originated spawnable past pool) {thread : Nat}
    {request : interface.Call}
    {next : Except ε (interface.Answer request) → Program interface ε α}
    (answer : Except ε (interface.Answer request)) {shared : σ}
    (issued : pool.threads[thread]? = some (.call request next)) :
    Originated spawnable
      (past ++ [⟨pool, .call thread ⟨request, answer⟩,
        { shared, threads := pool.threads.set thread (next answer) }⟩])
      { shared, threads := pool.threads.set thread (next answer) } := by
  have started : origins [(⟨pool, .call thread ⟨request, answer⟩,
      { shared, threads := pool.threads.set thread (next answer) }⟩ :
      Transition (Pool interface ε α σ) (Action interface ε α))] = [] := rfl
  constructor
  · exact originated.threaded.call answer issued
  · simpa [started] using originated.length
  · intro other rest found
    rw [origins_append, threadEvents_append, threadEvents_call, started,
      List.append_nil]
    rw [List.getElem?_set] at found
    split at found
    next same =>
      subst same
      rcases originated.residual thread _ issued with
        ⟨origin, listed, permitted, residual⟩
      have position : rest = next answer := by
        split at found
        · exact (Option.some.inj found).symm
        · simp at found
      subst position
      rw [if_pos rfl]
      exact ⟨origin, listed, permitted, residual.advance answer⟩
    next different =>
      rw [if_neg different, List.append_nil]
      exact originated.residual other rest found

/-- Programs of a pool that started empty are residuals of those started in their
places. -/
theorem originated {start : σ} {target : Pool interface ε α σ}
    {transitions :
      List (Transition (Pool interface ε α σ) (Action interface ε α))}
    (execution : Execution (Step world spawnable) ⟨start, []⟩ transitions
      target) :
    Originated spawnable transitions target := by
  refine execution.history_invariant (Originated spawnable)
    ⟨⟨by simp, by simp⟩, rfl, by simp⟩ ?_
  rintro past ⟨before, act, after⟩ _ taken holds
  dsimp only at taken holds ⊢
  cases taken with
  | spawn permitted => exact holds.spawn permitted
  | call answer issued answered => exact holds.call answer issued

/-- A call of a pool is the next one of what its program's past has left. -/
theorem residual_call {start : σ} {source target final : Pool interface ε α σ}
    {before after :
      List (Transition (Pool interface ε α σ) (Action interface ε α))}
    {thread : Nat} {event : Event interface ε} {origin : Program interface ε α}
    (execution : Execution (Step world spawnable) ⟨start, []⟩
      (before ++ ⟨source, .call thread event, target⟩ :: after) final)
    (placed : (origins before)[thread]? = some origin) :
    ∃ next, Program.Residual origin (threadEvents thread before)
      (.call event.call next) := by
  rcases execution.split with ⟨first, taken, _⟩
  dsimp only at first taken
  cases taken with
  | call answer issued answered =>
      rcases (originated first).residual thread _ issued with
        ⟨same, listed, _, residual⟩
      rw [placed] at listed
      cases listed
      exact ⟨_, residual⟩

/-- Each call a program of a pool has issued had the program's guard met. -/
theorem guarded_past
    {allowed : List (Event interface ε) → interface.Call → Prop}
    {origin : Program interface ε α}
    (guarded : Program.Guarded allowed [] origin) {start : σ}
    {target : Pool interface ε α σ}
    {transitions :
      List (Transition (Pool interface ε α σ) (Action interface ε α))}
    {thread : Nat} {event : Event interface ε}
    (execution : Execution (Step world spawnable) ⟨start, []⟩ transitions
      target)
    (placed : (origins transitions)[thread]? = some origin)
    (member : event ∈ threadEvents thread transitions) :
    ∃ earlier, earlier <+: threadEvents thread transitions ∧
      allowed earlier event.call := by
  have present := originated execution
  have inside : thread < target.threads.length :=
    present.length ▸ (List.getElem?_eq_some_iff.mp placed).1
  rcases present.residual thread _ (List.getElem?_eq_getElem inside) with
    ⟨same, listed, _, residual⟩
  rw [placed] at listed
  cases listed
  exact guarded.of_residual residual member

/-- A call of a pool is issued with the guard of its program met, on the past
of that program alone. -/
theorem guarded_call
    {allowed : List (Event interface ε) → interface.Call → Prop}
    (guarded : ∀ program, spawnable program →
      Program.Guarded allowed [] program)
    {start : σ} {source target final : Pool interface ε α σ}
    {before after :
      List (Transition (Pool interface ε α σ) (Action interface ε α))}
    {thread : Nat} {event : Event interface ε}
    (execution : Execution (Step world spawnable) ⟨start, []⟩
      (before ++ ⟨source, .call thread event, target⟩ :: after) final) :
    allowed (threadEvents thread before) event.call := by
  obtain ⟨first, taken, _⟩ := execution.split
  dsimp only at first taken
  cases taken with
  | call answer issued answered =>
      obtain ⟨origin, permitted, residual⟩ := (threaded first).1 thread _ issued
      exact ((guarded origin permitted).residual residual).1

/-- A property of the steps taken so far and the shared state holds at the end
of every run of a pool that starts empty when starting a program keeps it and
every call issued with its program's guard met keeps it. -/
theorem guarded_invariant
    {allowed : List (Event interface ε) → interface.Call → Prop}
    (guarded : ∀ program, spawnable program →
      Program.Guarded allowed [] program)
    {start : σ} {target : Pool interface ε α σ}
    {transitions :
      List (Transition (Pool interface ε α σ) (Action interface ε α))}
    (execution : Execution (Step world spawnable) ⟨start, []⟩ transitions
      target)
    (invariant : List (Transition (Pool interface ε α σ)
      (Action interface ε α)) → σ → Prop)
    (initial : invariant [] start)
    (spawned : ∀ past source program target, invariant past source.shared →
      target.shared = source.shared →
      invariant (past ++ [⟨source, .spawn program, target⟩]) target.shared)
    (called : ∀ past source thread event target,
      invariant past source.shared →
      allowed (threadEvents thread past) event.call →
      world source.shared event target.shared →
      invariant (past ++ [⟨source, .call thread event, target⟩])
        target.shared) :
    invariant transitions target.shared := by
  -- The pool's programs join the invariant, so that their guards are at hand.
  suffices strengthened : Threaded spawnable transitions target ∧
      invariant transitions target.shared from strengthened.2
  refine execution.history_invariant
    (fun past pool => Threaded spawnable past pool ∧ invariant past pool.shared)
    ⟨⟨by simp, by simp⟩, initial⟩ ?_
  rintro past ⟨before, act, after⟩ _ taken ⟨threaded, holds⟩
  dsimp only at taken threaded holds ⊢
  cases taken with
  | spawn permitted =>
      exact ⟨threaded.spawn permitted, spawned _ _ _ _ holds rfl⟩
  | call answer issued answered =>
      rcases threaded.1 _ _ issued with ⟨origin, permitted, residual⟩
      have permit := ((guarded origin permitted).residual residual).1
      exact ⟨threaded.call answer issued,
        called past before _ _ ⟨_, _⟩ holds permit answered⟩

/-! ## Playing a schedule -/

/-- One decision of a scheduler: start a program, or let a program issue its
next call, which the environment answers as the choice says. -/
inductive Move (interface : Interface) (ε α χ : Type) where
  | start (program : Program interface ε α)
  | call (thread : Nat) (choice : χ)

variable {χ : Type}
  {respond : χ → σ → (request : interface.Call) →
    Option (Except ε (interface.Answer request) × σ)}

/-- Play a schedule. A move that is not possible, because the program has ended
or the choice does not apply, is skipped. -/
def play (respond : χ → σ → (request : interface.Call) →
      Option (Except ε (interface.Answer request) × σ)) :
    List (Move interface ε α χ) → Pool interface ε α σ →
      List (Transition (Pool interface ε α σ) (Action interface ε α)) ×
        Pool interface ε α σ
  | [], pool => ([], pool)
  | .start program :: moves, pool =>
      let next := { pool with threads := pool.threads ++ [program] }
      let rest := play respond moves next
      (⟨pool, .spawn program, next⟩ :: rest.1, rest.2)
  | .call thread choice :: moves, pool =>
      match pool.threads[thread]? with
      | some (.call request next) =>
          match respond choice pool.shared request with
          | some (answer, shared) =>
              let after :=
                { shared, threads := pool.threads.set thread (next answer) }
              let rest := play respond moves after
              (⟨pool, .call thread ⟨request, answer⟩, after⟩ :: rest.1, rest.2)
          | none => play respond moves pool
      | _ => play respond moves pool

/-- A played schedule is an execution of the pool. -/
theorem play_execution
    (sound : ∀ choice state request answer next,
      respond choice state request = some (answer, next) →
      world state ⟨request, answer⟩ next)
    {moves : List (Move interface ε α χ)}
    (startable : ∀ program, .start program ∈ moves → spawnable program)
    (pool : Pool interface ε α σ) :
    Execution (Step world spawnable) pool (play respond moves pool).1
      (play respond moves pool).2 := by
  induction moves generalizing pool with
  | nil => exact .nil pool
  | cons move moves ih =>
      have later := ih fun program member =>
        startable program (List.mem_cons_of_mem _ member)
      cases move with
      | start program =>
          exact .cons (.spawn (startable program List.mem_cons_self)) (later _)
      | call thread choice =>
          simp only [play]
          split
          next request next issued =>
            split
            next answer shared answered =>
              exact .cons
                (.call answer issued (sound _ _ _ _ _ answered)) (later _)
            next => exact later pool
          next => exact later pool

end Pool

end PrivateAiWorkspace.Effects
