import PrivateAiWorkspace.ControlPlane.RateWindow
import PrivateAiWorkspace.ControlPlane.Services
import PrivateAiWorkspace.Effects.Discipline

/-!
# Permits of a limiter

A handler asks for a permit at most once and, when it is granted one, releases it
once on every way out. That is the discipline `permits`; `limited` and
`withPermit`, the two shapes of handlers, follow it whatever their backend
answers. For any pool of disciplined handlers the permits that are out make up,
with the value of the semaphore, the bound the limiter started with.
-/

namespace PrivateAiWorkspace.ControlPlane

open Effects Python

variable {backend : Interface} {α β γ π ρ τ : Type}

/-- How far a handler has got with its permit. -/
inductive PermitPhase where
  | unasked
  | refused
  | held
  | returned
  deriving DecidableEq, Repr

/-- The call is a release. -/
def isRelease : LimitedCall backend.Call → Bool
  | .release => true
  | _ => false

/-- The event grants a permit. -/
def isGrant (event : Event (Limited backend) PyException) : Bool :=
  (granted event).isSome

/-- The phase after an answered call. -/
def PermitPhase.advance (phase : PermitPhase) :
    Event (Limited backend) PyException → PermitPhase
  | ⟨.tryAcquire _ _, answer⟩ =>
      match (answer : Except PyException Bool) with
      | .ok true => .held
      | _ => .refused
  | ⟨.release, _⟩ => .returned
  | _ => phase

/-- Ask once, and release what was granted. The clock and the limiter answer, and
so does the backend on its steady calls. -/
def permits (steady : backend.Call → Prop) :
    Discipline (Limited backend) PyException PermitPhase where
  expected
    | ⟨.backend request, answer⟩ => steady request → answer.isOk
    | ⟨_, answer⟩ => answer.isOk
  allowed phase
    | .tryAcquire _ _ => phase = .unasked
    | .release => phase = .held
    | _ => True
  advance := PermitPhase.advance

/-! ## Handlers -/

namespace Handler

variable {steady : backend.Call → Prop}

/-- A program over the backend does not change the phase. -/
theorem follows_lift (phase : PermitPhase)
    (program : Program backend PyException α) :
    Program.Follows (permits steady) (fun reached _ => reached = phase) phase
      (lift program) := by
  induction program with
  | ret value => rfl
  | raise error => rfl
  | call request next ih =>
      constructor
      · trivial
      · intro answer expected
        exact ih (answer.map id)

/-- All calls of the program are steady, and it does not raise by itself. -/
def Calm (steady : backend.Call → Prop) :
    Program backend PyException α → Prop
  | .ret _ => True
  | .raise _ => False
  | .call request next =>
      steady request ∧ ∀ answer, Calm steady (next (.ok answer))

/-- A calm program ends with a value. -/
theorem follows_lift_calm (phase : PermitPhase)
    {program : Program backend PyException α}
    (calm : Calm steady program) :
    Program.Follows (permits steady)
      (fun reached result => reached = phase ∧ result.isOk) phase
      (lift program) := by
  induction program with
  | ret value => exact ⟨rfl, rfl⟩
  | raise error => exact calm.elim
  | call request next ih =>
      constructor
      · trivial
      · intro answer expected
        cases answer with
        | ok value => exact ih (.ok value) (calm.2 value)
        | error error => exact absurd (expected calm.1) (by simp [Except.isOk,
            Except.toBool])

/-- Asking leads to the work with a permit or to the refusal without one. -/
theorem follows_ask {post : PermitPhase → Except PyException ρ → Prop}
    {tenant : String} {after : Bool → Handler backend ρ}
    (admitted : Program.Follows (permits steady) post .held (after true))
    (refused : Program.Follows (permits steady) post .refused (after false)) :
    Program.Follows (permits steady) post .unasked
      (time.bind fun now => (tryAcquire tenant now).bind after) := by
  constructor
  · trivial
  · intro clock clockExpected
    cases clock with
    | error error => cases clockExpected
    | ok now =>
        constructor
        · rfl
        · intro answer answerExpected
          cases answer with
          | error error => cases answerExpected
          | ok granted =>
              cases granted with
              | true => exact admitted
              | false => exact refused

/-- Work that keeps its permit gives it back on every way out. -/
theorem follows_release {work : Handler backend α}
    (keeps : Program.Follows (permits steady) (fun reached _ => reached = .held)
      .held work) :
    Program.Follows (permits steady) (fun reached _ => reached = .returned) .held
      (work.tryFinally release) := by
  apply keeps.tryFinally
  intro reached result holding
  subst holding
  constructor
  · rfl
  · intro answer expected
    cases answer with
    | error error => cases expected
    | ok value => rfl

/-- A handler that works with a permit ends without it. -/
theorem follows_withPermit {tenant : String} {refused work : Handler backend α}
    (turnedAway : Program.Follows (permits steady)
      (fun reached _ => reached = .refused) .refused refused)
    (keeps : Program.Follows (permits steady) (fun reached _ => reached = .held)
      .held work) :
    Program.Follows (permits steady) (fun reached _ => reached ≠ .held) .unasked
      (withPermit tenant refused work) := by
  apply follows_ask
  · apply (follows_release keeps).mono
    rintro _ _ rfl
    decide
  · apply turnedAway.mono
    rintro _ _ rfl
    decide

/-- A limited handler ends without a permit, when nothing fails between the
grant and the `try` that releases it. -/
theorem follows_limited
    {prepare : Program backend PyException (Except ρ π)} {tenant : π → String}
    {refused : π → Program backend PyException ρ}
    {between : Program backend PyException γ}
    {work : π → γ → Program backend PyException β}
    {answer : π → γ → β → Program backend PyException ρ}
    (calm : Calm steady between) :
    Program.Follows (permits steady) (fun reached _ => reached ≠ .held) .unasked
      (limited prepare tenant refused between work answer) := by
  apply (follows_lift .unasked prepare).bind
  · intro reached prepared keeps
    subst keeps
    cases prepared with
    | error response => exact PermitPhase.noConfusion
    | ok request =>
        apply follows_ask
        · apply (follows_lift_calm .held calm).bind
          · rintro _ started ⟨rfl, _⟩
            apply (follows_release
              (follows_lift .held (work request started))).bind
            · rintro _ outcome rfl
              apply (follows_lift .returned
                (answer request started outcome)).mono
              rintro _ _ rfl
              decide
            · rintro _ error rfl
              decide
          · rintro _ error ⟨_, impossible⟩
            cases impossible
        · apply (follows_lift .refused (refused request)).mono
          rintro _ _ rfl
          decide
  · rintro _ error rfl
    decide

end Handler

/-! ## Pools -/

/-- Permits granted and permits released in some events. -/
def permitCounts (events : List (Event (Limited backend) PyException)) :
    Nat × Nat :=
  (events.countP isGrant, events.countP fun event => isRelease event.call)

/-- What a handler in some phase has been granted and has released. -/
def PermitPhase.counts : PermitPhase → Nat × Nat
  | .unasked => (0, 0)
  | .refused => (0, 0)
  | .held => (1, 0)
  | .returned => (1, 1)

theorem permitCounts_snoc
    (events : List (Event (Limited backend) PyException))
    (event : Event (Limited backend) PyException) :
    permitCounts (events ++ [event]) =
      ((permitCounts events).1 + (if isGrant event then 1 else 0),
        (permitCounts events).2 + (if isRelease event.call then 1 else 0)) := by
  simp [permitCounts, List.countP_append, List.countP_singleton]

/-- A run of some handlers. -/
abbrev PermitHistory (backend : Interface) (α τ : Type) :=
  List (Transition (Pool (Limited backend) PyException α (Shared τ))
    (Action (Limited backend) PyException α))

/-- The calls of all handlers of a run. -/
def callEvents (history : PermitHistory backend α τ) :
    List (Event (Limited backend) PyException) :=
  (Pool.sharedTransitions history).map Transition.label

/-- Permits granted in a run and not released yet. -/
def outstanding (history : PermitHistory backend α τ) : Int :=
  (permitCounts (callEvents history)).1 - (permitCounts (callEvents history)).2

/-- The phase of one handler of a run. -/
def permitPhase (thread : Nat) (history : PermitHistory backend α τ) :
    PermitPhase :=
  Pool.phaseOf (permits fun _ => False) .unasked thread history

/-- The semaphore and the handlers that hold a permit make up the bound, and
every handler has been granted and has released what its phase says. -/
structure Balanced (bound : Nat) (history : PermitHistory backend α τ)
    (state : Shared τ) (holding : List Nat) : Prop where
  bound_eq : state.limiter.sema.bound = bound
  value : state.limiter.sema.value + holding.length = bound
  nodup : holding.Nodup
  mem_iff : ∀ thread, thread ∈ holding ↔ permitPhase thread history = .held
  counts : ∀ thread, permitCounts (Pool.threadEvents thread history) =
    (permitPhase thread history).counts
  total : (permitCounts (callEvents history)).1 =
    (permitCounts (callEvents history)).2 + holding.length

namespace Balanced

variable {bound : Nat} {history : PermitHistory backend α τ}
  {state : Shared τ} {holding : List Nat}

/-- A limiter no handler has used yet. -/
theorem init (perMinute maxConcurrency : Int) (store : τ) :
    Balanced (max 1 maxConcurrency).toNat ([] : PermitHistory backend α τ)
      ⟨.init perMinute maxConcurrency, store⟩ [] := by
  constructor
  · rfl
  · rfl
  · exact List.nodup_nil
  · intro thread
    simp [permitPhase, Pool.phaseOf]
  · intro thread
    rfl
  · rfl

theorem spawn (balanced : Balanced bound history state holding)
    {source target : Pool (Limited backend) PyException α (Shared τ)}
    (program : Handler backend α) :
    Balanced bound (history ++ [⟨source, .spawn program, target⟩]) state
      holding := by
  have phases : ∀ thread,
      permitPhase thread (history ++ [⟨source, .spawn program, target⟩]) =
        permitPhase thread history := fun thread =>
    Pool.phaseOf_snoc_spawn thread history source target program
  have events : callEvents (history ++ [⟨source, .spawn program, target⟩]) =
      callEvents history := by
    simp [callEvents, Pool.sharedTransitions, Pool.sharedTransition]
  constructor
  · exact balanced.bound_eq
  · exact balanced.value
  · exact balanced.nodup
  · simpa only [phases] using balanced.mem_iff
  · intro thread
    simpa only [phases, Pool.threadEvents_append, Pool.threadEvents_spawn,
      List.append_nil] using balanced.counts thread
  · simpa only [events] using balanced.total

/-- A call keeps the balance when the permits counted, the phase of its handler
and the semaphore move together. -/
theorem call (balanced : Balanced bound history state holding)
    (holds : List Nat)
    {source target : Pool (Limited backend) PyException α (Shared τ)}
    {thread : Nat} {event : Event (Limited backend) PyException}
    {next : Shared τ}
    (bound_eq : next.limiter.sema.bound = bound)
    (value : next.limiter.sema.value + holds.length = bound)
    (nodup : holds.Nodup)
    (others : ∀ other, other ≠ thread → (other ∈ holds ↔ other ∈ holding))
    (own : thread ∈ holds ↔
      (permitPhase thread history).advance event = .held)
    (counted : ((permitPhase thread history).advance event).counts =
      ((permitPhase thread history).counts.1 + (if isGrant event then 1 else 0),
        (permitPhase thread history).counts.2 +
          (if isRelease event.call then 1 else 0)))
    (length : (if isGrant event then 1 else 0) + holding.length =
      (if isRelease event.call then 1 else 0) + holds.length) :
    Balanced bound (history ++ [⟨source, .call thread event, target⟩]) next
      holds := by
  have phases : ∀ other,
      permitPhase other (history ++ [⟨source, .call thread event, target⟩]) =
        if thread = other then (permitPhase other history).advance event
        else permitPhase other history := fun other =>
    Pool.phaseOf_snoc_call other thread history source target event
  constructor
  · exact bound_eq
  · exact value
  · exact nodup
  · intro other
    rw [phases]
    by_cases same : thread = other
    · subst same
      simpa using own
    · rw [if_neg same, others other (Ne.symm same)]
      exact balanced.mem_iff other
  · intro other
    rw [phases, Pool.threadEvents_append, Pool.threadEvents_call]
    by_cases same : thread = other
    · subst same
      rw [if_pos rfl, if_pos rfl, permitCounts_snoc, balanced.counts]
      exact counted.symm
    · rw [if_neg same, if_neg same, List.append_nil]
      exact balanced.counts other
  · have events :
        callEvents (history ++ [⟨source, .call thread event, target⟩]) =
          callEvents history ++ [event] := by
      simp [callEvents, Pool.sharedTransitions, Pool.sharedTransition]
    have before := balanced.total
    rw [events, permitCounts_snoc]
    dsimp only
    omega

/-- A call that neither grants nor releases. -/
theorem neutral (balanced : Balanced bound history state holding)
    {source target : Pool (Limited backend) PyException α (Shared τ)}
    {thread : Nat} {event : Event (Limited backend) PyException}
    {next : Shared τ} (notGranted : isGrant event = false)
    (notReleased : isRelease event.call = false)
    (sema : next.limiter.sema = state.limiter.sema)
    (counts : ((permitPhase thread history).advance event).counts =
      (permitPhase thread history).counts) :
    Balanced bound (history ++ [⟨source, .call thread event, target⟩]) next
      holding := by
  have held_iff : ∀ left right : PermitPhase, left.counts = right.counts →
      (left = .held ↔ right = .held) := by
    intro left right
    cases left <;> cases right <;> simp [PermitPhase.counts]
  apply balanced.call holding
  · rw [sema]
    exact balanced.bound_eq
  · rw [sema]
    exact balanced.value
  · exact balanced.nodup
  · intro other different
    rfl
  · rw [balanced.mem_iff, held_iff _ _ counts]
  · simpa [notGranted, notReleased] using counts
  · simp [notGranted, notReleased]

/-- A grant: the handler, which had not asked before, joins the holders. -/
theorem grant (balanced : Balanced bound history state holding)
    {source target : Pool (Limited backend) PyException α (Shared τ)}
    {thread : Nat} {tenant : String} {now : Int} {next : Shared τ}
    (phase : permitPhase thread history = .unasked)
    (bound_eq : next.limiter.sema.bound = state.limiter.sema.bound)
    (taken : next.limiter.sema.value + 1 = state.limiter.sema.value) :
    Balanced bound
      (history ++ [⟨source,
        .call thread ⟨LimitedCall.tryAcquire tenant now,
          (.ok true : Except PyException Bool)⟩, target⟩])
      next (thread :: holding) := by
  have outside : thread ∉ holding := by
    rw [balanced.mem_iff, phase]
    decide
  apply balanced.call (thread :: holding)
  · exact bound_eq.trans balanced.bound_eq
  · have before := balanced.value
    simp only [List.length_cons]
    omega
  · exact List.nodup_cons.mpr ⟨outside, balanced.nodup⟩
  · intro other different
    simp [different]
  · simp [PermitPhase.advance]
  · rw [phase]
    rfl
  · simp [isGrant, granted, isRelease]
    omega

/-- A release: the handler, which held a permit, leaves the holders. -/
theorem release (balanced : Balanced bound history state holding)
    {source target : Pool (Limited backend) PyException α (Shared τ)}
    {thread : Nat} {next : Shared τ}
    {answer : Except PyException Unit}
    (phase : permitPhase thread history = .held)
    (bound_eq : next.limiter.sema.bound = state.limiter.sema.bound)
    (given : next.limiter.sema.value = state.limiter.sema.value + 1) :
    Balanced bound
      (history ++ [⟨source, .call thread ⟨LimitedCall.release, answer⟩,
        target⟩])
      next (holding.erase thread) := by
  have inside := (balanced.mem_iff thread).mpr phase
  have fewer := List.length_erase_of_mem inside
  have some := List.length_pos_of_mem inside
  apply balanced.call (holding.erase thread)
  · exact bound_eq.trans balanced.bound_eq
  · have before := balanced.value
    omega
  · exact balanced.nodup.erase thread
  · intro other different
    exact List.mem_erase_of_ne different
  · simp [PermitPhase.advance, balanced.nodup.mem_erase_iff]
  · rw [phase]
    rfl
  · simp [isGrant, granted, isRelease]
    omega

/-- One step of the limiter, for a handler that keeps to the discipline. -/
theorem step {world : World backend PyException τ} {steady : backend.Call → Prop}
    (balanced : Balanced bound history state holding)
    {source target : Pool (Limited backend) PyException α (Shared τ)}
    {thread : Nat} {event : Event (Limited backend) PyException}
    {next : Shared τ}
    (allowed : (permits steady).allowed (permitPhase thread history) event.call)
    (taken : LimitedWorld world state event next) :
    ∃ holds, Balanced bound
      (history ++ [⟨source, .call thread event, target⟩]) next holds := by
  cases taken with
  | time now => exact ⟨holding, balanced.neutral rfl rfl rfl rfl⟩
  | backend request answer store _ =>
      exact ⟨holding, balanced.neutral rfl rfl rfl rfl⟩
  | release =>
      have phase : permitPhase thread history = .held := allowed
      have inside := (balanced.mem_iff thread).mpr phase
      have some := List.length_pos_of_mem inside
      have room : state.limiter.sema.value < state.limiter.sema.bound := by
        have value := balanced.value
        have bound_eq := balanced.bound_eq
        omega
      have released : state.limiter.release.sema =
          ⟨state.limiter.sema.bound, state.limiter.sema.value + 1, room⟩ := by
        simp only [RateLimiter.release, BoundedSemaphore.release, dif_pos room]
      have bound_same : state.limiter.release.sema.bound =
          state.limiter.sema.bound := by rw [released]
      have value_next : state.limiter.release.sema.value =
          state.limiter.sema.value + 1 := by rw [released]
      exact ⟨_, balanced.release phase bound_same value_next⟩
  | tryAcquire tenant now =>
      have phase : permitPhase thread history = .unasked := allowed
      have refusal : ∀ granted next, granted = false →
          next.limiter.sema = state.limiter.sema →
          Balanced bound
            (history ++ [⟨source, .call thread ⟨LimitedCall.tryAcquire tenant now,
              (.ok granted : Except PyException Bool)⟩, target⟩])
            next holding := by
        intro granted next refused sema
        subst refused
        exact balanced.neutral rfl rfl sema (by rw [phase]; rfl)
      rcases state.limiter.tryAcquire_cases tenant now with
        ⟨_, full⟩ | ⟨_, charged⟩
      · rw [full]
        exact ⟨holding, refusal _ _ rfl rfl⟩
      · rw [charged]
        unfold BoundedSemaphore.acquire
        split
        next free =>
          exact ⟨_, balanced.grant phase rfl (Nat.sub_add_cancel free)⟩
        next busy => exact ⟨holding, refusal _ _ rfl rfl⟩

end Balanced

/-! ## Conservation -/

section Conservation

variable {world : World backend PyException τ} {steady : backend.Call → Prop}
  {spawnable : Handler backend α → Prop}

/-- The limiter answers every call, and a backend that answers its steady calls
does what is expected. -/
theorem permits_expected
    (calm : ∀ source request answer target,
      world source ⟨request, answer⟩ target → steady request → answer.isOk) :
    Pool.Expects (LimitedWorld world) (permits steady) := by
  intro source event target taken
  cases taken with
  | time now => rfl
  | tryAcquire tenant now => rfl
  | release => rfl
  | backend request answer next answered =>
      exact calm _ request answer next answered

/-- Every run of disciplined handlers over a fresh limiter is balanced. -/
theorem balanced_of_execution
    (calm : ∀ source request answer target,
      world source ⟨request, answer⟩ target → steady request → answer.isOk)
    (disciplined : ∀ handler, spawnable handler →
      Program.Follows (permits steady) (fun reached _ => reached ≠ .held)
        .unasked handler)
    {perMinute maxConcurrency : Int} {store : τ}
    {history : PermitHistory backend α τ}
    {target : Pool (Limited backend) PyException α (Shared τ)}
    (execution : Execution (Pool.Step (LimitedWorld world) spawnable)
      ⟨⟨.init perMinute maxConcurrency, store⟩, []⟩ history target) :
    ∃ holding, Balanced (max 1 maxConcurrency).toNat history target.shared
      holding := by
  refine Pool.disciplined_invariant (permits_expected calm) disciplined execution
    (fun history state => ∃ holding,
      Balanced (max 1 maxConcurrency).toNat history state holding)
    ⟨[], .init perMinute maxConcurrency store⟩ ?_ ?_
  · rintro past source program next ⟨holding, balanced⟩ unchanged
    rw [unchanged]
    exact ⟨holding, balanced.spawn program⟩
  · rintro past source thread event next ⟨holding, balanced⟩ allowed taken
    exact balanced.step allowed taken

/-- A handler that has ended holds no permit. -/
theorem permitPhase_ne_held
    (calm : ∀ source request answer target,
      world source ⟨request, answer⟩ target → steady request → answer.isOk)
    (disciplined : ∀ handler, spawnable handler →
      Program.Follows (permits steady) (fun reached _ => reached ≠ .held)
        .unasked handler)
    {start : Shared τ} {history : PermitHistory backend α τ}
    {target : Pool (Limited backend) PyException α (Shared τ)}
    (execution : Execution (Pool.Step (LimitedWorld world) spawnable)
      ⟨start, []⟩ history target) {thread : Nat}
    (ended : ∀ handler, target.threads[thread]? = some handler →
      handler.Ended) :
    permitPhase thread history ≠ .held := by
  cases found : target.threads[thread]? with
  | none =>
      have beyond := List.getElem?_eq_none_iff.mp found
      have silent := (Pool.threaded execution).2 thread beyond
      simp [permitPhase, Pool.phaseOf, silent]
  | some handler =>
      have follows := Pool.follows (permits_expected calm) disciplined execution
        found
      rcases follows.of_ended (ended handler found) with ⟨_, released⟩
      exact released

end Conservation

end PrivateAiWorkspace.ControlPlane
