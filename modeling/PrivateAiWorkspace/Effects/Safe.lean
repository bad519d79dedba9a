import PrivateAiWorkspace.Effects.Answered

/-!
# Programs served by a world

`Safe world allowed post state program`: as long as the world answers, the
program issues only calls that are allowed in the state they are issued in, and
what it ends in meets the postcondition. It is a weakest precondition: the rules
follow the ways of putting programs together, and `Safe.of_execution` reads it
back on runs.
-/

namespace PrivateAiWorkspace.Effects.Program

variable {interface : Interface} {ε α β σ : Type}

/-- Every call is allowed where it is issued, and every end meets the
postcondition. -/
def Safe (world : World interface ε σ) (allowed : σ → interface.Call → Prop)
    (post : σ → Except ε α → Prop) : σ → Program interface ε α → Prop
  | state, .ret value => post state (.ok value)
  | state, .raise error => post state (.error error)
  | state, .call request next =>
      allowed state request ∧
        ∀ answer target, world state ⟨request, answer⟩ target →
          Safe world allowed post target (next answer)

section Safe

variable {world : World interface ε σ} {allowed : σ → interface.Call → Prop}
  {post : σ → Except ε α → Prop} {state : σ}

@[simp] theorem safe_ret {value : α} :
    Safe world allowed post state (.ret value) ↔ post state (.ok value) :=
  Iff.rfl

@[simp] theorem safe_raise {error : ε} :
    Safe world allowed post state (.raise error : Program interface ε α) ↔
      post state (.error error) :=
  Iff.rfl

theorem Safe.mono {weaker : σ → Except ε α → Prop}
    {program : Program interface ε α}
    (safe : Safe world allowed post state program)
    (implies : ∀ state result, post state result → weaker state result) :
    Safe world allowed weaker state program := by
  induction program generalizing state with
  | ret value => exact implies _ _ safe
  | raise error => exact implies _ _ safe
  | call request next ih =>
      exact ⟨safe.1, fun answer target answered =>
        ih answer (safe.2 answer target answered)⟩

/-- Nothing is asked for. -/
theorem Safe.anything (program : Program interface ε α) (state : σ) :
    Safe world (fun _ _ => True) (fun _ _ => True) state program := by
  induction program generalizing state with
  | ret value => trivial
  | raise error => trivial
  | call request next ih => exact ⟨trivial, fun answer target _ => ih answer target⟩

/-- What the first part can end in, the second goes on from. -/
theorem Safe.bind {program : Program interface ε α}
    {continuation : α → Program interface ε β} {final : σ → Except ε β → Prop}
    (first : Safe world allowed post state program)
    (second : ∀ state value, post state (.ok value) →
      Safe world allowed final state (continuation value))
    (raised : ∀ state error, post state (.error error) →
      final state (.error error)) :
    Safe world allowed final state (program.bind continuation) := by
  induction program generalizing state with
  | ret value => exact second _ _ first
  | raise error => exact raised _ _ first
  | call request next ih =>
      exact ⟨first.1, fun answer target answered =>
        ih answer (first.2 answer target answered)⟩

theorem Safe.attempt {program : Program interface ε α}
    {caught : σ → Except ε (Except ε α) → Prop}
    (safe : Safe world allowed post state program)
    (implies : ∀ state result, post state result → caught state (.ok result)) :
    Safe world allowed caught state program.attempt := by
  induction program generalizing state with
  | ret value => exact implies _ _ safe
  | raise error => exact implies _ _ safe
  | call request next ih =>
      exact ⟨safe.1, fun answer target answered =>
        ih answer (safe.2 answer target answered)⟩

/-- A call whose exceptions are not caught. -/
theorem Safe.callThen {request : interface.Call}
    {rest : interface.Answer request → Program interface ε α}
    (permitted : allowed state request)
    (answered : ∀ value target, world state ⟨request, .ok value⟩ target →
      Safe world allowed post target (rest value))
    (raised : ∀ error target, world state ⟨request, .error error⟩ target →
      post target (.error error)) :
    Safe world allowed post state
      (.call request fun answer => (ofExcept answer).bind rest) := by
  refine ⟨permitted, fun answer target stepped => ?_⟩
  cases answer with
  | ok value => exact answered value target stepped
  | error error => exact raised error target stepped

/-- A call whose exceptions are caught. -/
theorem Safe.attemptThen {request : interface.Call}
    {rest : Except ε (interface.Answer request) → Program interface ε α}
    (permitted : allowed state request)
    (answered : ∀ answer target, world state ⟨request, answer⟩ target →
      Safe world allowed post target (rest answer)) :
    Safe world allowed post state
      (.call request fun answer =>
        (ofExcept answer : Program interface ε _).attempt.bind rest) := by
  refine ⟨permitted, fun answer target stepped => ?_⟩
  cases answer with
  | ok value => exact answered _ target stepped
  | error error => exact answered _ target stepped

/-- A program whose calls keep an invariant, and are allowed under it, ends in
it. -/
theorem Safe.of_guarded {calls : interface.Call → Prop} {invariant : σ → Prop}
    {program : Program interface ε α} {past : List (Event interface ε)}
    (guarded : Guarded (fun _ => calls) past program)
    (kept : ∀ source event target, calls event.call →
      world source event target → invariant source → invariant target)
    (permitted : ∀ state request, calls request → invariant state →
      allowed state request)
    (holds : invariant state) :
    Safe world allowed (fun state _ => invariant state) state program := by
  induction program generalizing state past with
  | ret value => exact holds
  | raise error => exact holds
  | call request next ih =>
      refine ⟨permitted _ _ guarded.1 holds, fun answer target answered => ?_⟩
      exact ih answer (guarded.2 answer)
        (kept _ _ _ guarded.1 answered holds)

/-- A program that is served ends in its postcondition. -/
theorem Safe.of_served {program : Program interface ε α} {target : σ}
    {events : List (Event interface ε)} {result : Except ε α}
    (safe : Safe world allowed post state program)
    (served : Served world program state events result target) : post target result := by
  rcases served with ⟨run, answered⟩
  induction run generalizing state with
  | ret value =>
      cases answered
      exact safe
  | raise error =>
      cases answered
      exact safe
  | call answer _ ih =>
      rcases answered with ⟨middle, first, rest⟩
      exact ih (safe.2 answer middle first) rest

/-- Whatever answers: a world without a state answers every run. -/
theorem Safe.of_run {program : Program interface ε α}
    {allowed : Unit → interface.Call → Prop} {post : Unit → Except ε α → Prop}
    {events : List (Event interface ε)} {result : Except ε α}
    (safe : Safe (fun _ _ _ => True) allowed post () program)
    (run : Run program events result) : post () result := by
  induction run with
  | ret value => exact safe
  | raise error => exact safe
  | call answer _ ih => exact ih (safe.2 answer () trivial)

/-- In a run the world answers every call is allowed where it is issued, and the
outcome meets the postcondition. -/
theorem Safe.of_execution {program : Program interface ε α} {target : σ}
    {calls : List (Transition σ (Event interface ε))} {result : Except ε α}
    (safe : Safe world allowed post state program)
    (execution : Execution world state calls target)
    (run : Run program (calls.map Transition.label) result) :
    (∀ call ∈ calls, allowed call.source call.label.call) ∧
      post target result := by
  induction execution generalizing program with
  | nil state =>
      cases run with
      | ret value => exact ⟨by simp, safe⟩
      | raise error => exact ⟨by simp, safe⟩
  | cons stepped rest ih =>
      cases run with
      | call answer later =>
          have continued := ih (safe.2 answer _ stepped) later
          refine ⟨?_, continued.2⟩
          intro call member
          rcases List.mem_cons.mp member with rfl | member
          · exact safe.1
          · exact continued.1 call member

end Safe

/-! ## Runs of an environment that may not answer -/

/-- Serve a program, unless the environment has no answer at some point. -/
def serve (respond : σ → (request : interface.Call) →
      Option (Except ε (interface.Answer request) × σ)) :
    Program interface ε α → σ →
      Option (List (Transition σ (Event interface ε)) × Except ε α × σ)
  | .ret value, state => some ([], .ok value, state)
  | .raise error, state => some ([], .error error, state)
  | .call request next, state => do
      let (answer, middle) ← respond state request
      let (calls, result, target) ← serve respond (next answer) middle
      return (⟨state, ⟨request, answer⟩, middle⟩ :: calls, result, target)

/-- What is served is a run that the world answers. -/
theorem of_serve {world : World interface ε σ}
    {respond : σ → (request : interface.Call) →
      Option (Except ε (interface.Answer request) × σ)}
    (sound : ∀ state request answer next,
      respond state request = some (answer, next) →
      world state ⟨request, answer⟩ next)
    {program : Program interface ε α} {state target : σ}
    {calls : List (Transition σ (Event interface ε))} {result : Except ε α}
    (served : program.serve respond state = some (calls, result, target)) :
    Execution world state calls target ∧
      Run program (calls.map Transition.label) result := by
  induction program generalizing state calls with
  | ret value =>
      cases served
      exact ⟨.nil _, .ret value⟩
  | raise error =>
      cases served
      exact ⟨.nil _, .raise error⟩
  | call request next ih =>
      simp only [serve, Option.bind_eq_bind, Option.bind_eq_some_iff,
        Option.pure_def, Option.some.injEq, Prod.mk.injEq] at served
      rcases served with
        ⟨⟨answer, middle⟩, answered, ⟨rest, last, final⟩, later, rfl, rfl, rfl⟩
      have continued := ih answer later
      exact ⟨.cons (sound _ _ _ _ answered) continued.1,
        .call answer continued.2⟩

end PrivateAiWorkspace.Effects.Program
