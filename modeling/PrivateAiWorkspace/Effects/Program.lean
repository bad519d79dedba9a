import Mathlib.Data.List.Basic

/-!
# Programs that call their environment

A program either ends, with a value or by raising, or issues one call and goes
on with whatever the environment answers; every answer may be an exception. A
run lists the answered calls of one complete execution, so a statement about
every run is a statement about every behaviour of the environment.

Two rules carry facts from a program to its runs: `run_callThen_iff` splits a
run at a call, and `Guarded` states, by recursion over the program, what has been
answered before each call is issued.
-/

namespace PrivateAiWorkspace.Effects

/-- The calls a program may issue and the type of the answer to each. -/
structure Interface where
  Call : Type
  Answer : Call → Type

variable {interface : Interface} {ε α β σ : Type}

/-- A program over an interface. The answer to a call is a value of the call's
answer type or an exception raised by the callee. -/
inductive Program (interface : Interface) (ε α : Type) where
  | ret (value : α)
  | raise (error : ε)
  | call (request : interface.Call)
      (next : Except ε (interface.Answer request) → Program interface ε α)

/-- A call together with its answer. -/
structure Event (interface : Interface) (ε : Type) where
  call : interface.Call
  answer : Except ε (interface.Answer call)

namespace Program

/-- Sequencing: an exception of the first program ends the whole. -/
def bind : Program interface ε α → (α → Program interface ε β) →
    Program interface ε β
  | .ret value, continuation => continuation value
  | .raise error, _ => .raise error
  | .call request next, continuation =>
      .call request fun answer => (next answer).bind continuation

/-- Run a handler where the program raises. -/
def tryCatch : Program interface ε α → (ε → Program interface ε α) →
    Program interface ε α
  | .ret value, _ => .ret value
  | .raise error, handler => handler error
  | .call request next, handler =>
      .call request fun answer => (next answer).tryCatch handler

/-- Run a clean-up on every way out of the program. The program's own outcome
is kept unless the clean-up raises. -/
def tryFinally : Program interface ε α → Program interface ε Unit →
    Program interface ε α
  | .ret value, cleanup => cleanup.bind fun _ => .ret value
  | .raise error, cleanup => cleanup.bind fun _ => .raise error
  | .call request next, cleanup =>
      .call request fun answer => (next answer).tryFinally cleanup

/-- Run the program with its exceptions caught: the outcome becomes the value. -/
def attempt : Program interface ε α → Program interface ε (Except ε α)
  | .ret value => .ret (.ok value)
  | .raise error => .ret (.error error)
  | .call request next => .call request fun answer => (next answer).attempt

/-- End with a value or an exception already at hand. -/
def ofExcept : Except ε α → Program interface ε α
  | .ok value => .ret value
  | .error error => .raise error

/-- How a program has ended, if it has. -/
def outcome? : Program interface ε α → Option (Except ε α)
  | .ret value => some (.ok value)
  | .raise error => some (.error error)
  | .call _ _ => none

/-- Issue one call and end with its answer. -/
def perform (request : interface.Call) :
    Program interface ε (interface.Answer request) :=
  .call request ofExcept

instance : Monad (Program interface ε) where
  pure := .ret
  bind := bind

@[simp] theorem pure_eq_ret (value : α) :
    (pure value : Program interface ε α) = .ret value := rfl

@[simp] theorem bind_eq (program : Program interface ε α)
    (continuation : α → Program interface ε β) :
    program >>= continuation = program.bind continuation := rfl

@[simp] theorem ret_bind (value : α)
    (continuation : α → Program interface ε β) :
    (ret value : Program interface ε α).bind continuation =
      continuation value := rfl

@[simp] theorem raise_bind (error : ε)
    (continuation : α → Program interface ε β) :
    (raise error : Program interface ε α).bind continuation =
      .raise error := rfl

@[simp] theorem call_bind (request : interface.Call)
    (next : Except ε (interface.Answer request) → Program interface ε α)
    (continuation : α → Program interface ε β) :
    (call request next).bind continuation =
      .call request fun answer => (next answer).bind continuation := rfl

/-- Sequencing is associative. -/
theorem bind_assoc {γ : Type} (program : Program interface ε α)
    (first : α → Program interface ε β) (second : β → Program interface ε γ) :
    (program.bind first).bind second =
      program.bind fun value => (first value).bind second := by
  induction program with
  | ret value => rfl
  | raise error => rfl
  | call request next ih =>
      simp only [call_bind]
      congr 1
      funext answer
      exact ih answer

@[simp] theorem perform_bind (request : interface.Call)
    (continuation : interface.Answer request → Program interface ε β) :
    (perform request).bind continuation =
      .call request fun answer => (ofExcept answer).bind continuation := rfl

@[simp] theorem ofExcept_ok (value : α) :
    (ofExcept (.ok value) : Program interface ε α) = .ret value := rfl

@[simp] theorem ofExcept_error (error : ε) :
    (ofExcept (.error error) : Program interface ε α) = .raise error := rfl

@[simp] theorem tryCatch_ret (value : α)
    (handler : ε → Program interface ε α) :
    (ret value).tryCatch handler = .ret value := rfl

@[simp] theorem tryCatch_raise (error : ε)
    (handler : ε → Program interface ε α) :
    (raise error).tryCatch handler = handler error := rfl

@[simp] theorem tryCatch_call (request : interface.Call)
    (next : Except ε (interface.Answer request) → Program interface ε α)
    (handler : ε → Program interface ε α) :
    (call request next).tryCatch handler =
      .call request fun answer => (next answer).tryCatch handler := rfl

@[simp] theorem attempt_ret (value : α) :
    (ret value : Program interface ε α).attempt = .ret (.ok value) := rfl

@[simp] theorem attempt_raise (error : ε) :
    (raise error : Program interface ε α).attempt = .ret (.error error) := rfl

@[simp] theorem attempt_call (request : interface.Call)
    (next : Except ε (interface.Answer request) → Program interface ε α) :
    (call request next).attempt =
      .call request fun answer => (next answer).attempt := rfl

@[simp] theorem attempt_ofExcept (outcome : Except ε α) :
    (ofExcept outcome : Program interface ε α).attempt = .ret outcome := by
  cases outcome <;> rfl

@[simp] theorem tryFinally_ret (value : α)
    (cleanup : Program interface ε Unit) :
    (ret value : Program interface ε α).tryFinally cleanup =
      cleanup.bind fun _ => .ret value := rfl

@[simp] theorem tryFinally_raise (error : ε)
    (cleanup : Program interface ε Unit) :
    (raise error : Program interface ε α).tryFinally cleanup =
      cleanup.bind fun _ => .raise error := rfl

@[simp] theorem tryFinally_call (request : interface.Call)
    (next : Except ε (interface.Answer request) → Program interface ε α)
    (cleanup : Program interface ε Unit) :
    (call request next).tryFinally cleanup =
      .call request fun answer => (next answer).tryFinally cleanup := rfl

/-! ## Runs -/

/-- One complete execution: the answered calls in order, and the outcome. -/
inductive Run : Program interface ε α → List (Event interface ε) →
    Except ε α → Prop where
  | ret (value : α) : Run (.ret value) [] (.ok value)
  | raise (error : ε) : Run (.raise error) [] (.error error)
  | call {request : interface.Call}
      {next : Except ε (interface.Answer request) → Program interface ε α}
      (answer : Except ε (interface.Answer request))
      {events : List (Event interface ε)} {result : Except ε α} :
      Run (next answer) events result →
      Run (.call request next) (⟨request, answer⟩ :: events) result

@[simp] theorem run_ret_iff {value : α} {events : List (Event interface ε)}
    {result : Except ε α} :
    Run (.ret value) events result ↔ events = [] ∧ result = .ok value := by
  constructor
  · intro run
    cases run
    exact ⟨rfl, rfl⟩
  · rintro ⟨rfl, rfl⟩
    exact .ret value

@[simp] theorem run_raise_iff {error : ε} {events : List (Event interface ε)}
    {result : Except ε α} :
    Run (.raise error) events result ↔
      events = [] ∧ result = .error error := by
  constructor
  · intro run
    cases run
    exact ⟨rfl, rfl⟩
  · rintro ⟨rfl, rfl⟩
    exact .raise error

@[simp] theorem run_call_iff {request : interface.Call}
    {next : Except ε (interface.Answer request) → Program interface ε α}
    {events : List (Event interface ε)} {result : Except ε α} :
    Run (.call request next) events result ↔
      ∃ answer rest, events = ⟨request, answer⟩ :: rest ∧
        Run (next answer) rest result := by
  constructor
  · intro run
    cases run with
    | call answer run => exact ⟨answer, _, rfl, run⟩
  · rintro ⟨answer, rest, rfl, run⟩
    exact .call answer run

/-- A run of a call whose exceptions are not caught. -/
theorem run_callThen_iff {request : interface.Call}
    {rest : interface.Answer request → Program interface ε α}
    {events : List (Event interface ε)} {result : Except ε α} :
    Run (.call request fun answer => (ofExcept answer).bind rest) events
        result ↔
      (∃ error, events = [⟨request, .error error⟩] ∧ result = .error error) ∨
      ∃ value more, events = ⟨request, .ok value⟩ :: more ∧
        Run (rest value) more result := by
  rw [run_call_iff]
  constructor
  · intro run
    rcases run with ⟨answer, more, split, run⟩
    cases answer with
    | error error =>
        rcases run_raise_iff.mp run with ⟨ended, raised⟩
        rw [ended] at split
        exact Or.inl ⟨error, split, raised⟩
    | ok value => exact Or.inr ⟨value, more, split, run⟩
  · intro cases
    rcases cases with ⟨error, split, raised⟩ | ⟨value, more, split, run⟩
    · exact ⟨.error error, [], split, run_raise_iff.mpr ⟨rfl, raised⟩⟩
    · exact ⟨.ok value, more, split, run⟩

/-- A run of a call whose exceptions are caught. -/
theorem run_attemptThen_iff {request : interface.Call}
    {rest : Except ε (interface.Answer request) → Program interface ε α}
    {events : List (Event interface ε)} {result : Except ε α} :
    Run (.call request fun answer =>
        (ofExcept answer : Program interface ε _).attempt.bind rest) events
        result ↔
      ∃ answer more, events = ⟨request, answer⟩ :: more ∧
        Run (rest answer) more result := by
  simp only [attempt_ofExcept, ret_bind, run_call_iff]

/-- A run of two programs in sequence: the first raises, or the second goes on
from its value. -/
theorem run_bind_iff {program : Program interface ε α}
    {continuation : α → Program interface ε β}
    {events : List (Event interface ε)} {result : Except ε β} :
    Run (program.bind continuation) events result ↔
      (∃ error, Run program events (.error error) ∧ result = .error error) ∨
      ∃ value before after, events = before ++ after ∧
        Run program before (.ok value) ∧
        Run (continuation value) after result := by
  constructor
  · intro run
    induction program generalizing events with
    | ret value => exact Or.inr ⟨value, [], events, rfl, .ret value, run⟩
    | raise error =>
        rcases run_raise_iff.mp run with ⟨rfl, rfl⟩
        exact Or.inl ⟨error, .raise error, rfl⟩
    | call request next ih =>
        rcases run_call_iff.mp run with ⟨answer, rest, rfl, later⟩
        rcases ih answer later with
          ⟨error, raised, rfl⟩ | ⟨value, before, after, rfl, first, second⟩
        · exact Or.inl ⟨error, .call answer raised, rfl⟩
        · exact Or.inr
            ⟨value, ⟨request, answer⟩ :: before, after, rfl, .call answer first,
              second⟩
  · intro cases
    rcases cases with
      ⟨error, raised, rfl⟩ | ⟨value, before, after, rfl, first, second⟩
    · generalize outcome : (Except.error error : Except ε α) = result at raised
      induction raised with
      | ret => cases outcome
      | raise =>
          cases outcome
          exact .raise _
      | call answer _ ih => exact .call answer (ih outcome)
    · generalize outcome : (Except.ok value : Except ε α) = result at first
      induction first with
      | ret =>
          cases outcome
          exact second
      | raise => cases outcome
      | call answer _ ih => exact .call answer (ih outcome)

@[simp] theorem run_ofExcept_iff {outcome : Except ε α}
    {events : List (Event interface ε)} {result : Except ε α} :
    Run (ofExcept outcome) events result ↔ events = [] ∧ result = outcome := by
  cases outcome with
  | ok value => exact run_ret_iff
  | error error => exact run_raise_iff

/-- A run of a program whose exceptions are caught is a run of it, whose outcome is
returned. -/
theorem run_attempt_iff {program : Program interface ε α}
    {events : List (Event interface ε)} {result : Except ε (Except ε α)} :
    Run program.attempt events result ↔
      ∃ outcome, result = .ok outcome ∧ Run program events outcome := by
  induction program generalizing events with
  | ret value => simp [and_comm]
  | raise error => simp [and_comm]
  | call request next ih =>
      rw [attempt_call, run_call_iff]
      simp only [ih, run_call_iff]
      constructor
      · intro ⟨answer, rest, split, outcome, returned, run⟩
        exact ⟨outcome, returned, answer, rest, split, run⟩
      · intro ⟨outcome, returned, answer, rest, split, run⟩
        exact ⟨answer, rest, split, outcome, returned, run⟩

/-- The answers determine how a run ends. -/
theorem Run.result_unique {program : Program interface ε α}
    {events : List (Event interface ε)} {result other : Except ε α}
    (run : Run program events result) (also : Run program events other) :
    result = other := by
  induction run with
  | ret value => exact (run_ret_iff.mp also).2.symm
  | raise error => exact (run_raise_iff.mp also).2.symm
  | call answer _ ih =>
      cases also with
      | call _ later => exact ih later

/-- The program has come to its end. -/
def Ended : Program interface ε α → Prop
  | .ret _ => True
  | .raise _ => True
  | .call _ _ => False

instance (program : Program interface ε α) : Decidable program.Ended :=
  match program with
  | .ret _ => .isTrue trivial
  | .raise _ => .isTrue trivial
  | .call _ _ => .isFalse id

/-! ## What precedes each call -/

/-- Every call the program can issue after `past` satisfies `allowed`, applied
to what has been answered by then and the call. -/
def Guarded (allowed : List (Event interface ε) → interface.Call → Prop)
    (past : List (Event interface ε)) : Program interface ε α → Prop
  | .ret _ => True
  | .raise _ => True
  | .call request next =>
      allowed past request ∧
        ∀ answer, Guarded allowed (past ++ [⟨request, answer⟩]) (next answer)

section Guarded

variable {allowed : List (Event interface ε) → interface.Call → Prop}
  {past : List (Event interface ε)}

@[simp] theorem guarded_ret (value : α) :
    Guarded allowed past (.ret value : Program interface ε α) := trivial

@[simp] theorem guarded_raise (error : ε) :
    Guarded allowed past (.raise error : Program interface ε α) := trivial

@[simp] theorem guarded_call {request : interface.Call}
    {next : Except ε (interface.Answer request) → Program interface ε α} :
    Guarded allowed past (.call request next) ↔
      allowed past request ∧
        ∀ answer, Guarded allowed (past ++ [⟨request, answer⟩])
          (next answer) := Iff.rfl

/-- A stronger guard is met where a weaker one is asked for. -/
theorem Guarded.mono
    {weaker : List (Event interface ε) → interface.Call → Prop}
    {program : Program interface ε α} (guarded : Guarded allowed past program)
    (implies : ∀ past request, allowed past request → weaker past request) :
    Guarded weaker past program := by
  induction program generalizing past with
  | ret value => trivial
  | raise error => trivial
  | call request next ih =>
      constructor
      · exact implies past request guarded.1
      · intro answer
        exact ih answer (guarded.2 answer)

/-- A call whose exceptions are not caught: only its answers have a rest. -/
theorem Guarded.callThen {request : interface.Call}
    {rest : interface.Answer request → Program interface ε α}
    (permitted : allowed past request)
    (answered : ∀ value, Guarded allowed (past ++ [⟨request, .ok value⟩])
      (rest value)) :
    Guarded allowed past
      (.call request fun answer => (ofExcept answer).bind rest) := by
  constructor
  · exact permitted
  · intro answer
    cases answer with
    | ok value => exact answered value
    | error error => trivial

/-- A call whose exceptions are caught: every answer has a rest. -/
theorem Guarded.attemptThen {request : interface.Call}
    {rest : Except ε (interface.Answer request) → Program interface ε α}
    (permitted : allowed past request)
    (answered : ∀ answer, Guarded allowed (past ++ [⟨request, answer⟩])
      (rest answer)) :
    Guarded allowed past (.call request fun answer =>
      (ofExcept answer : Program interface ε _).attempt.bind rest) := by
  constructor
  · exact permitted
  · intro answer
    cases answer with
    | ok value => exact answered (.ok value)
    | error error => exact answered (.error error)

/-- A guard carries over sequencing: the second part starts after a run of the
first. -/
theorem Guarded.bind {program : Program interface ε α}
    {continuation : α → Program interface ε β}
    (first : Guarded allowed past program)
    (second : ∀ more value, Run program more (.ok value) →
      Guarded allowed (past ++ more) (continuation value)) :
    Guarded allowed past (program.bind continuation) := by
  induction program generalizing past with
  | ret value => simpa using second [] value (.ret value)
  | raise error => trivial
  | call request next ih =>
      constructor
      · exact first.1
      · intro answer
        apply ih answer (first.2 answer)
        intro more value run
        simpa using second (⟨request, answer⟩ :: more) value (.call answer run)

theorem Guarded.tryCatch {program : Program interface ε α}
    {handler : ε → Program interface ε α}
    (body : Guarded allowed past program)
    (rescue : ∀ more error, Run program more (.error error) →
      Guarded allowed (past ++ more) (handler error)) :
    Guarded allowed past (program.tryCatch handler) := by
  induction program generalizing past with
  | ret value => trivial
  | raise error => simpa using rescue [] error (.raise error)
  | call request next ih =>
      constructor
      · exact body.1
      · intro answer
        apply ih answer (body.2 answer)
        intro more error run
        simpa using rescue (⟨request, answer⟩ :: more) error (.call answer run)

theorem Guarded.attempt {program : Program interface ε α}
    (guarded : Guarded allowed past program) :
    Guarded allowed past program.attempt := by
  induction program generalizing past with
  | ret value => trivial
  | raise error => trivial
  | call request next ih =>
      exact ⟨guarded.1, fun answer => ih answer (guarded.2 answer)⟩

theorem Guarded.tryFinally {program : Program interface ε α}
    {cleanup : Program interface ε Unit}
    (body : Guarded allowed past program)
    (final : ∀ more, Guarded allowed (past ++ more) cleanup) :
    Guarded allowed past (program.tryFinally cleanup) := by
  induction program generalizing past with
  | ret value =>
      have cleaned : Guarded allowed past cleanup := by simpa using final []
      exact cleaned.bind fun _ _ _ => trivial
  | raise error =>
      have cleaned : Guarded allowed past cleanup := by simpa using final []
      exact cleaned.bind fun _ _ _ => trivial
  | call request next ih =>
      constructor
      · exact body.1
      · intro answer
        apply ih answer (body.2 answer)
        intro more
        simpa using final (⟨request, answer⟩ :: more)

/-- In a run of a guarded program every call is issued with its guard met. -/
theorem Guarded.of_run {program : Program interface ε α}
    (guarded : Guarded allowed past program)
    {events : List (Event interface ε)} {result : Except ε α}
    (run : Run program events result) {before after : List (Event interface ε)}
    {event : Event interface ε} (split : events = before ++ event :: after) :
    allowed (past ++ before) event.call := by
  induction run generalizing past before with
  | ret | raise => simp at split
  | call answer run ih =>
      cases before with
      | nil =>
          simp only [List.nil_append, List.cons.injEq] at split
          rw [← split.1, List.append_nil]
          exact guarded.1
      | cons head before =>
          simp only [List.cons_append, List.cons.injEq] at split
          obtain ⟨rfl, split⟩ := split
          simpa using ih (guarded.2 answer) split

end Guarded

/-! ## Evaluation against a deterministic environment -/

/-- Run a program against an environment that answers from a state. -/
def eval (respond : σ → (request : interface.Call) →
      Except ε (interface.Answer request) × σ) :
    Program interface ε α → σ → Except ε α × σ
  | .ret value, state => (.ok value, state)
  | .raise error, state => (.error error, state)
  | .call request next, state =>
      (next (respond state request).1).eval respond (respond state request).2

/-- The answered calls of a program against such an environment. -/
def trace (respond : σ → (request : interface.Call) →
      Except ε (interface.Answer request) × σ) :
    Program interface ε α → σ → List (Event interface ε)
  | .ret _, _ => []
  | .raise _, _ => []
  | .call request next, state =>
      ⟨request, (respond state request).1⟩ ::
        (next (respond state request).1).trace respond
          (respond state request).2

section Eval

variable {respond : σ → (request : interface.Call) →
  Except ε (interface.Answer request) × σ}

@[simp] theorem eval_ret (value : α) (state : σ) :
    (ret value : Program interface ε α).eval respond state =
      (.ok value, state) := rfl

@[simp] theorem eval_raise (error : ε) (state : σ) :
    (raise error : Program interface ε α).eval respond state =
      (.error error, state) := rfl

@[simp] theorem eval_call (request : interface.Call)
    (next : Except ε (interface.Answer request) → Program interface ε α)
    (state : σ) :
    (call request next).eval respond state =
      (next (respond state request).1).eval respond
        (respond state request).2 := rfl

/-- A single call is answered by the environment. -/
@[simp] theorem eval_perform (request : interface.Call) (state : σ) :
    (call request ofExcept :
        Program interface ε (interface.Answer request)).eval respond state =
      respond state request := by
  rw [eval_call]
  rcases respond state request with ⟨answer, next⟩
  cases answer <;> rfl

@[simp] theorem trace_ret (value : α) (state : σ) :
    (ret value : Program interface ε α).trace respond state = [] := rfl

@[simp] theorem trace_raise (error : ε) (state : σ) :
    (raise error : Program interface ε α).trace respond state = [] := rfl

@[simp] theorem trace_call (request : interface.Call)
    (next : Except ε (interface.Answer request) → Program interface ε α)
    (state : σ) :
    (call request next).trace respond state =
      ⟨request, (respond state request).1⟩ ::
        (next (respond state request).1).trace respond
          (respond state request).2 := rfl

theorem eval_bind (program : Program interface ε α)
    (continuation : α → Program interface ε β) (state : σ) :
    (program.bind continuation).eval respond state =
      match program.eval respond state with
      | (.ok value, reached) => (continuation value).eval respond reached
      | (.error error, reached) => (.error error, reached) := by
  induction program generalizing state with
  | ret value => rfl
  | raise error => rfl
  | call request next ih => exact ih _ _

/-- A clean-up is evaluated where the work has ended, and its exception is the
one that counts. -/
theorem eval_tryFinally (program : Program interface ε α)
    (cleanup : Program interface ε Unit) (state : σ) :
    (program.tryFinally cleanup).eval respond state =
      match cleanup.eval respond (program.eval respond state).2 with
      | (.ok _, reached) => ((program.eval respond state).1, reached)
      | (.error error, reached) => (.error error, reached) := by
  induction program generalizing state with
  | ret value =>
      rw [tryFinally_ret, eval_bind, eval_ret]
      rcases cleanup.eval respond state with ⟨outcome, reached⟩
      cases outcome <;> rfl
  | raise error =>
      rw [tryFinally_raise, eval_bind, eval_raise]
      rcases cleanup.eval respond state with ⟨outcome, reached⟩
      cases outcome <;> rfl
  | call request next ih => exact ih _ _

/-- Evaluation is a run. -/
theorem run_trace (program : Program interface ε α) (state : σ) :
    Run program (program.trace respond state) (program.eval respond state).1 := by
  induction program generalizing state with
  | ret value => exact .ret value
  | raise error => exact .raise error
  | call request next ih => exact .call _ (ih _ _)

/-- Every call of an evaluation has been answered by the environment. -/
theorem answered_of_trace {program : Program interface ε α} {state : σ}
    {event : Event interface ε} (member : event ∈ program.trace respond state) :
    ∃ reached, event.answer = (respond reached event.call).1 := by
  induction program generalizing state with
  | ret value => cases member
  | raise error => cases member
  | call request next ih =>
      rcases List.mem_cons.mp member with rfl | later
      · exact ⟨state, rfl⟩
      · exact ih _ later

end Eval

/-! ## Implementing an interface over another -/

section Interpret

variable {upper : Interface}

/-- Replace every call by a program over another interface. -/
def interpret
    (implement : (request : upper.Call) →
      Program interface ε (upper.Answer request)) :
    Program upper ε α → Program interface ε α
  | .ret value => .ret value
  | .raise error => .raise error
  | .call request next =>
      (implement request).attempt.bind fun answer =>
        (next answer).interpret implement

variable {implement : (request : upper.Call) →
    Program interface ε (upper.Answer request)}
  {respond : σ → (request : interface.Call) →
    Except ε (interface.Answer request) × σ}

theorem eval_attempt_bind (program : Program interface ε α)
    (continuation : Except ε α → Program interface ε β) (state : σ) :
    (program.attempt.bind continuation).eval respond state =
      (continuation (program.eval respond state).1).eval respond
        (program.eval respond state).2 := by
  induction program generalizing state with
  | ret value => rfl
  | raise error => rfl
  | call request next ih => exact ih _ _

@[simp] theorem interpret_ofExcept (outcome : Except ε α) :
    (ofExcept outcome : Program upper ε α).interpret implement =
      ofExcept outcome := by
  cases outcome <;> rfl

/-- To catch an outcome and end with it is to do nothing. -/
@[simp] theorem attempt_bind_ofExcept (program : Program interface ε α) :
    program.attempt.bind ofExcept = program := by
  induction program with
  | ret value => rfl
  | raise error => rfl
  | call request next ih =>
      simp only [attempt_call, call_bind]
      congr 1
      funext answer
      exact ih answer

/-- A single call becomes its implementation. -/
@[simp] theorem interpret_perform (request : upper.Call) :
    (call request ofExcept :
        Program upper ε (upper.Answer request)).interpret implement =
      implement request := by
  simp only [interpret, interpret_ofExcept]
  exact attempt_bind_ofExcept _

theorem interpret_bind (program : Program upper ε α)
    (continuation : α → Program upper ε β) :
    (program.bind continuation).interpret implement =
      (program.interpret implement).bind fun value =>
        (continuation value).interpret implement := by
  induction program with
  | ret value => rfl
  | raise error => rfl
  | call request next ih =>
      simp only [call_bind, interpret, bind_assoc]
      congr 1
      funext answer
      exact ih answer

/-- A caught program passes a clean-up on to what follows it. -/
theorem tryFinally_attempt_bind (program : Program interface ε α)
    (continuation : Except ε α → Program interface ε β)
    (cleanup : Program interface ε Unit) :
    (program.attempt.bind continuation).tryFinally cleanup =
      program.attempt.bind fun outcome =>
        (continuation outcome).tryFinally cleanup := by
  induction program with
  | ret value => rfl
  | raise error => rfl
  | call request next ih =>
      simp only [attempt_call, call_bind, tryFinally_call]
      congr 1
      funext answer
      exact ih answer

theorem interpret_tryFinally (program : Program upper ε α)
    (cleanup : Program upper ε Unit) :
    (program.tryFinally cleanup).interpret implement =
      (program.interpret implement).tryFinally (cleanup.interpret implement) := by
  induction program with
  | ret value => exact interpret_bind cleanup _
  | raise error => exact interpret_bind cleanup _
  | call request next ih =>
      simp only [tryFinally_call, interpret, tryFinally_attempt_bind]
      congr 1
      funext answer
      exact ih answer

/-- An implemented program behaves as the program itself does in the
environment its implementations make up. -/
theorem eval_interpret (program : Program upper ε α) (state : σ) :
    (program.interpret implement).eval respond state =
      program.eval (fun state request => (implement request).eval respond state)
        state := by
  induction program generalizing state with
  | ret value => rfl
  | raise error => rfl
  | call request next ih =>
      rw [interpret, eval_attempt_bind, ih, eval_call]

end Interpret

end Program

end PrivateAiWorkspace.Effects
