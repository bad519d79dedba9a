import PrivateAiWorkspace.Effects.Embedding
import PrivateAiWorkspace.Effects.Pool

/-!
# Programs that follow a discipline

A discipline is a typestate: it says which calls may be issued in a phase, how an
answered call changes the phase, and which answers to reckon with. A program
follows it to a postcondition when every call it can issue is allowed in the
phase reached and every way it can end meets the postcondition there.

The rules are those of a program logic. `Pool.follows` carries a discipline of
single programs to every interleaving of them: a program of the pool is always
in the phase its own past has led to.
-/

namespace PrivateAiWorkspace.Effects

variable {interface : Interface} {ε α β σ φ : Type}

/-- Which calls a phase allows, what they do to it, and the answers expected. -/
structure Discipline (interface : Interface) (ε φ : Type) where
  expected : Event interface ε → Prop
  allowed : φ → interface.Call → Prop
  advance : φ → Event interface ε → φ

/-- The phase some answered calls lead to. -/
def Discipline.after (discipline : Discipline interface ε φ) (phase : φ)
    (events : List (Event interface ε)) : φ :=
  events.foldl discipline.advance phase

@[simp] theorem Discipline.after_nil (discipline : Discipline interface ε φ)
    (phase : φ) : discipline.after phase [] = phase := rfl

@[simp] theorem Discipline.after_cons (discipline : Discipline interface ε φ)
    (phase : φ) (event : Event interface ε) (events : List (Event interface ε)) :
    discipline.after phase (event :: events) =
      discipline.after (discipline.advance phase event) events := rfl

@[simp] theorem Discipline.after_append
    (discipline : Discipline interface ε φ) (phase : φ)
    (before after : List (Event interface ε)) :
    discipline.after phase (before ++ after) =
      discipline.after (discipline.after phase before) after :=
  List.foldl_append

namespace Program

/-- Every call is allowed in its phase, and every end meets the
postcondition. -/
def Follows (discipline : Discipline interface ε φ)
    (post : φ → Except ε α → Prop) : φ → Program interface ε α → Prop
  | phase, .ret value => post phase (.ok value)
  | phase, .raise error => post phase (.error error)
  | phase, .call request next =>
      discipline.allowed phase request ∧
        ∀ answer, discipline.expected ⟨request, answer⟩ →
          Follows discipline post (discipline.advance phase ⟨request, answer⟩)
            (next answer)

section Follows

variable {discipline : Discipline interface ε φ} {phase : φ}
  {post : φ → Except ε α → Prop}

@[simp] theorem follows_ret {value : α} :
    Follows discipline post phase (.ret value) ↔ post phase (.ok value) :=
  Iff.rfl

@[simp] theorem follows_raise {error : ε} :
    Follows discipline post phase (.raise error : Program interface ε α) ↔
      post phase (.error error) :=
  Iff.rfl

/-- A program that has ended meets the postcondition in some way. -/
theorem Follows.of_ended {program : Program interface ε α}
    (follows : Follows discipline post phase program) (ended : program.Ended) :
    ∃ result, post phase result := by
  cases program with
  | ret value => exact ⟨.ok value, follows⟩
  | raise error => exact ⟨.error error, follows⟩
  | call request next => exact ended.elim

theorem Follows.mono {weaker : φ → Except ε α → Prop}
    {program : Program interface ε α}
    (follows : Follows discipline post phase program)
    (implies : ∀ phase result, post phase result → weaker phase result) :
    Follows discipline weaker phase program := by
  induction program generalizing phase with
  | ret value => exact implies _ _ follows
  | raise error => exact implies _ _ follows
  | call request next ih =>
      exact ⟨follows.1,
        fun answer expected => ih answer (follows.2 answer expected)⟩

/-- What the first part can end in, the second goes on from. -/
theorem Follows.bind {program : Program interface ε α}
    {continuation : α → Program interface ε β} {final : φ → Except ε β → Prop}
    (first : Follows discipline post phase program)
    (second : ∀ phase value, post phase (.ok value) →
      Follows discipline final phase (continuation value))
    (raised : ∀ phase error, post phase (.error error) →
      final phase (.error error)) :
    Follows discipline final phase (program.bind continuation) := by
  induction program generalizing phase with
  | ret value => exact second _ _ first
  | raise error => exact raised _ _ first
  | call request next ih =>
      exact ⟨first.1, fun answer expected => ih answer (first.2 answer expected)⟩

theorem Follows.attempt {program : Program interface ε α}
    {caught : φ → Except ε (Except ε α) → Prop}
    (follows : Follows discipline post phase program)
    (implies : ∀ phase result, post phase result → caught phase (.ok result)) :
    Follows discipline caught phase program.attempt := by
  induction program generalizing phase with
  | ret value => exact implies _ _ follows
  | raise error => exact implies _ _ follows
  | call request next ih =>
      exact ⟨follows.1,
        fun answer expected => ih answer (follows.2 answer expected)⟩

/-- A call whose exceptions are not caught. -/
theorem Follows.callThen {request : interface.Call}
    {rest : interface.Answer request → Program interface ε α}
    (allowed : discipline.allowed phase request)
    (answered : ∀ value, discipline.expected ⟨request, .ok value⟩ →
      Follows discipline post (discipline.advance phase ⟨request, .ok value⟩)
        (rest value))
    (raised : ∀ error, discipline.expected ⟨request, .error error⟩ →
      post (discipline.advance phase ⟨request, .error error⟩) (.error error)) :
    Follows discipline post phase
      (.call request fun answer => (ofExcept answer).bind rest) := by
  refine ⟨allowed, fun answer expected => ?_⟩
  cases answer with
  | ok value => exact answered value expected
  | error error => exact raised error expected

/-- A call whose exceptions are caught. -/
theorem Follows.attemptThen {request : interface.Call}
    {rest : Except ε (interface.Answer request) → Program interface ε α}
    (allowed : discipline.allowed phase request)
    (answered : ∀ answer, discipline.expected ⟨request, answer⟩ →
      Follows discipline post (discipline.advance phase ⟨request, answer⟩)
        (rest answer)) :
    Follows discipline post phase
      (.call request fun answer =>
        (ofExcept answer : Program interface ε _).attempt.bind rest) := by
  refine ⟨allowed, fun answer expected => ?_⟩
  cases answer with
  | ok value => exact answered _ expected
  | error error => exact answered _ expected

/-- An outcome at hand is not a call. -/
theorem Follows.ofExceptThen {outcome : Except ε α}
    {rest : α → Program interface ε β} {final : φ → Except ε β → Prop}
    (returned : ∀ value, outcome = .ok value →
      Follows discipline final phase (rest value))
    (raised : ∀ error, outcome = .error error → final phase (.error error)) :
    Follows discipline final phase
      ((ofExcept outcome : Program interface ε α).bind rest) := by
  cases outcome with
  | ok value => exact returned value rfl
  | error error => exact raised error rfl

/-- A complete run of a disciplined program ends in its postcondition. -/
theorem Follows.of_run {program : Program interface ε α}
    {events : List (Event interface ε)} {result : Except ε α}
    (follows : Follows discipline post phase program)
    (run : Run program events result)
    (expected : ∀ event ∈ events, discipline.expected event) :
    post (discipline.after phase events) result := by
  induction run generalizing phase with
  | ret value => exact follows
  | raise error => exact follows
  | call answer _ ih =>
      apply ih (follows.2 answer (expected _ List.mem_cons_self))
      intro event member
      exact expected event (List.mem_cons_of_mem _ member)

/-- Every call of a run is allowed in the phase the calls before it lead to. -/
theorem Follows.allowed_of_run {program : Program interface ε α}
    {events before after : List (Event interface ε)} {event : Event interface ε}
    {result : Except ε α}
    (follows : Follows discipline post phase program)
    (run : Run program events result)
    (expected : ∀ event ∈ events, discipline.expected event)
    (split : events = before ++ event :: after) :
    discipline.allowed (discipline.after phase before) event.call := by
  induction run generalizing phase before with
  | ret | raise => simp at split
  | call answer _ ih =>
      cases before with
      | nil =>
          simp only [List.nil_append, List.cons.injEq] at split
          rw [← split.1]
          exact follows.1
      | cons head before =>
          simp only [List.cons_append, List.cons.injEq] at split
          obtain ⟨rfl, split⟩ := split
          have later := follows.2 answer (expected _ List.mem_cons_self)
          apply ih later
          · intro event member
            exact expected event (List.mem_cons_of_mem _ member)
          · exact split

/-- A handler of exceptions goes on from every phase the body can raise in. -/
theorem Follows.tryCatch {program : Program interface ε α}
    {handler : ε → Program interface ε α} {final : φ → Except ε α → Prop}
    (body : Follows discipline post phase program)
    (returned : ∀ phase value, post phase (.ok value) → final phase (.ok value))
    (caught : ∀ phase error, post phase (.error error) →
      Follows discipline final phase (handler error)) :
    Follows discipline final phase (program.tryCatch handler) := by
  induction program generalizing phase with
  | ret value => exact returned _ _ body
  | raise error => exact caught _ _ body
  | call request next ih =>
      exact ⟨body.1, fun answer expected => ih answer (body.2 answer expected)⟩

/-- A clean-up starts from every phase the work can end in. -/
theorem Follows.tryFinally {program : Program interface ε α}
    {cleanup : Program interface ε Unit} {final : φ → Except ε α → Prop}
    (work : Follows discipline post phase program)
    (cleaned : ∀ phase result, post phase result →
      Follows discipline
        (fun phase outcome => match outcome with
          | .ok () => final phase result
          | .error error => final phase (.error error))
        phase cleanup) :
    Follows discipline final phase (program.tryFinally cleanup) := by
  induction program generalizing phase with
  | ret value =>
      exact (cleaned _ _ work).bind (fun _ _ ended => ended)
        fun _ _ ended => ended
  | raise error =>
      exact (cleaned _ _ work).bind (fun _ _ ended => ended)
        fun _ _ ended => ended
  | call request next ih =>
      exact ⟨work.1, fun answer expected => ih answer (work.2 answer expected)⟩

/-- A program follows over a larger interface what it follows over its own, when
the larger discipline agrees with the smaller one on the embedded calls. -/
theorem Follows.embed {small : Interface} {embedding : Embedding small interface}
    {inner : Discipline small ε φ} {program : Program small ε α}
    (follows : Follows inner post phase program)
    (allowed : ∀ phase request, inner.allowed phase request →
      discipline.allowed phase (embedding.call request))
    (expected : ∀ request answer,
      discipline.expected ⟨embedding.call request, answer⟩ →
      inner.expected ⟨request, answer.map (embedding.answer request)⟩)
    (advance : ∀ phase request answer,
      discipline.expected ⟨embedding.call request, answer⟩ →
      discipline.advance phase ⟨embedding.call request, answer⟩ =
        inner.advance phase ⟨request, answer.map (embedding.answer request)⟩) :
    Follows discipline post phase (program.embed embedding) := by
  induction program generalizing phase with
  | ret value => exact follows
  | raise error => exact follows
  | call request next ih =>
      constructor
      · exact allowed phase request follows.1
      · intro answer answered
        rw [advance phase request answer answered]
        exact ih _ (follows.2 _ (expected request answer answered))

/-- What is left of a disciplined program follows on from the phase its past has
led to. -/
theorem Follows.residual {origin rest : Program interface ε α}
    {past : List (Event interface ε)}
    (follows : Follows discipline post phase origin)
    (residual : Residual origin past rest)
    (expected : ∀ event ∈ past, discipline.expected event) :
    Follows discipline post (discipline.after phase past) rest := by
  induction residual with
  | start => exact follows
  | advance answer _ ih =>
      have reached := ih fun event member =>
        expected event (List.mem_append_left _ member)
      rw [Discipline.after_append]
      exact reached.2 answer (expected _ (by simp))

end Follows

end Program

/-! ## Pools -/

namespace Pool

variable {world : World interface ε σ}
  {spawnable : Program interface ε α → Prop}
  {discipline : Discipline interface ε φ} {initial : φ}
  {post : φ → Except ε α → Prop}

/-- The phase a program of a run is in. -/
def phaseOf (discipline : Discipline interface ε φ) (initial : φ) (thread : Nat)
    (transitions :
      List (Transition (Pool interface ε α σ) (Action interface ε α))) : φ :=
  discipline.after initial (threadEvents thread transitions)

theorem phaseOf_snoc_spawn (thread : Nat)
    (past : List (Transition (Pool interface ε α σ) (Action interface ε α)))
    (source target : Pool interface ε α σ) (program : Program interface ε α) :
    phaseOf discipline initial thread
        (past ++ [⟨source, .spawn program, target⟩]) =
      phaseOf discipline initial thread past := by
  simp [phaseOf]

/-- A call moves the phase of its own program and of no other. -/
theorem phaseOf_snoc_call (thread other : Nat)
    (past : List (Transition (Pool interface ε α σ) (Action interface ε α)))
    (source target : Pool interface ε α σ) (event : Event interface ε) :
    phaseOf discipline initial thread
        (past ++ [⟨source, .call other event, target⟩]) =
      if other = thread then
        discipline.advance (phaseOf discipline initial thread past) event
      else phaseOf discipline initial thread past := by
  by_cases same : other = thread <;>
    simp [phaseOf, threadEvents_call, same]

/-- The answers a world gives are expected. -/
def Expects (world : World interface ε σ)
    (discipline : Discipline interface ε φ) : Prop :=
  ∀ source event target, world source event target → discipline.expected event

theorem expected_of_threadEvents (expects : Expects world discipline)
    {source target : Pool interface ε α σ} {thread : Nat}
    {transitions :
      List (Transition (Pool interface ε α σ) (Action interface ε α))}
    (execution : Execution (Step world spawnable) source transitions target) :
    ∀ event ∈ threadEvents thread transitions, discipline.expected event := by
  intro event member
  rcases List.append_of_mem member with ⟨earlier, later, split⟩
  rcases exists_step_of_threadEvents split with
    ⟨before, _, _, after, transitions_eq⟩
  subst transitions_eq
  have taken := execution.split.2.1
  dsimp only at taken
  cases taken with
  | call answer _ answered => exact expects _ _ _ answered

/-- Every program of a pool that started empty follows on from the phase it is
in. -/
theorem follows (expects : Expects world discipline)
    (disciplined : ∀ program, spawnable program →
      Program.Follows discipline post initial program)
    {start : σ} {target : Pool interface ε α σ}
    {transitions :
      List (Transition (Pool interface ε α σ) (Action interface ε α))}
    (execution : Execution (Step world spawnable) ⟨start, []⟩ transitions
      target)
    {thread : Nat} {rest : Program interface ε α}
    (found : target.threads[thread]? = some rest) :
    Program.Follows discipline post (phaseOf discipline initial thread
      transitions) rest := by
  rcases (threaded execution).1 thread rest found with
    ⟨origin, permitted, residual⟩
  exact (disciplined origin permitted).residual residual
    (expected_of_threadEvents expects execution)

/-- A property of the steps taken so far and the shared state holds at the end
of every run of a pool that starts empty when starting a program keeps it and
every answered call that the phase of its program allows keeps it. -/
theorem disciplined_invariant (expects : Expects world discipline)
    (disciplined : ∀ program, spawnable program →
      Program.Follows discipline post initial program)
    {start : σ} {target : Pool interface ε α σ}
    {transitions :
      List (Transition (Pool interface ε α σ) (Action interface ε α))}
    (execution : Execution (Step world spawnable) ⟨start, []⟩ transitions
      target)
    (invariant : List (Transition (Pool interface ε α σ)
      (Action interface ε α)) → σ → Prop)
    (started : invariant [] start)
    (spawned : ∀ past source program target, invariant past source.shared →
      target.shared = source.shared →
      invariant (past ++ [⟨source, .spawn program, target⟩]) target.shared)
    (called : ∀ past source thread event target,
      invariant past source.shared →
      discipline.allowed (phaseOf discipline initial thread past) event.call →
      world source.shared event target.shared →
      invariant (past ++ [⟨source, .call thread event, target⟩])
        target.shared) :
    invariant transitions target.shared := by
  -- The past has to be a run, so that its programs are in known phases.
  suffices strengthened :
      Execution (Step world spawnable) ⟨start, []⟩ transitions target ∧
        invariant transitions target.shared from strengthened.2
  refine execution.history_invariant
    (fun past pool =>
      Execution (Step world spawnable) ⟨start, []⟩ past pool ∧
        invariant past pool.shared)
    ⟨.nil _, started⟩ ?_
  rintro past ⟨before, act, after⟩ _ taken ⟨reached, holds⟩
  dsimp only at taken reached holds ⊢
  refine ⟨reached.snoc taken, ?_⟩
  cases taken with
  | spawn permitted => exact spawned _ _ _ _ holds rfl
  | call answer issued answered =>
      have allowed := (follows expects disciplined reached issued).1
      exact called past before _ ⟨_, _⟩ _ holds allowed answered

end Pool

end PrivateAiWorkspace.Effects
