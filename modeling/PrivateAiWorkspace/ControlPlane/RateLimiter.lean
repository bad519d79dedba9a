import PrivateAiWorkspace.Effects.Pool
import PrivateAiWorkspace.Python.Basic
import PrivateAiWorkspace.Python.Dict

/-!
# The rate limiter of the control plane

`RateLimiter` from `agent_tools.py`: a fixed window of one minute for each
tenant and a semaphore shared by all of them. Handlers reach it through the
interface `Limited`, which adds the clock and the limiter to whatever a handler
calls besides, so that one pool of handlers of any kind shares one limiter.

The limiter keeps a single window for a tenant. The bound on the grants of a
window therefore needs that no request enters with a window earlier than the
one stored, which the lock alone does not give: the clock is read before it.
-/

namespace PrivateAiWorkspace.ControlPlane

open Effects Python

/-- `threading.BoundedSemaphore`. -/
structure BoundedSemaphore where
  bound : Nat
  value : Nat
  value_le : value ≤ bound

namespace BoundedSemaphore

/-- `BoundedSemaphore(bound)`. -/
def init (bound : Nat) : BoundedSemaphore := ⟨bound, bound, Nat.le_refl bound⟩

/-- `acquire(blocking=False)`. -/
def acquire (sema : BoundedSemaphore) : Bool × BoundedSemaphore :=
  if 0 < sema.value then
    (true, ⟨sema.bound, sema.value - 1,
      Nat.le_trans (Nat.sub_le _ _) sema.value_le⟩)
  else
    (false, sema)

/-- `release()`, which refuses to go past the bound. -/
def release (sema : BoundedSemaphore) :
    Except PyException BoundedSemaphore :=
  if room : sema.value < sema.bound then
    .ok ⟨sema.bound, sema.value + 1, room⟩
  else
    .error .valueError

end BoundedSemaphore

/-- `RateLimiter`: for each tenant its last window and the grants in it. -/
structure RateLimiter where
  perMinute : Int
  windows : Dict String (Int × Int)
  sema : BoundedSemaphore

namespace RateLimiter

/-- `RateLimiter(per_minute=..., max_concurrency=...)`. -/
def init (perMinute maxConcurrency : Int) : RateLimiter where
  perMinute
  windows := .empty
  sema := .init (max 1 maxConcurrency).toNat

/-- `try_acquire(tenant, now=now)`, with the state it leaves. -/
def tryAcquire (limiter : RateLimiter) (tenant : String) (now : Int) :
    Bool × RateLimiter :=
  let window := now / 60
  let stored := (limiter.windows.get? tenant).getD (window, 0)
  let current := if stored.1 ≠ window then (window, 0) else stored
  if current.2 ≥ limiter.perMinute then
    (false, limiter)
  else
    -- The window is charged before the semaphore is tried, and stays charged
    -- when the semaphore refuses.
    let permit := limiter.sema.acquire
    (permit.1,
      { limiter with
        windows := limiter.windows.insert tenant (current.1, current.2 + 1)
        sema := permit.2 })

/-- `release()`: the error of a release without a grant is swallowed. -/
def release (limiter : RateLimiter) : RateLimiter :=
  match limiter.sema.release with
  | .ok sema => { limiter with sema }
  | .error _ => limiter

/-- Charges the limiter has on record for a tenant in a window. -/
def used (limiter : RateLimiter) (tenant : String) (window : Int) : Int :=
  match limiter.windows.get? tenant with
  | some (stored, count) => if stored = window then count else 0
  | none => 0

/-- A request is refused with the window full, or charged to its window and
left to the semaphore. -/
theorem tryAcquire_cases (limiter : RateLimiter) (tenant : String)
    (now : Int) :
    (limiter.perMinute ≤ limiter.used tenant (now / 60) ∧
      limiter.tryAcquire tenant now = (false, limiter)) ∨
    (limiter.used tenant (now / 60) < limiter.perMinute ∧
      limiter.tryAcquire tenant now =
        (limiter.sema.acquire.1,
          { limiter with
            windows := limiter.windows.insert tenant
              (now / 60, limiter.used tenant (now / 60) + 1)
            sema := limiter.sema.acquire.2 })) := by
  have current :
      (if ((limiter.windows.get? tenant).getD (now / 60, 0)).1 ≠ now / 60
        then (now / 60, 0)
        else (limiter.windows.get? tenant).getD (now / 60, 0)) =
      (now / 60, limiter.used tenant (now / 60)) := by
    cases found : limiter.windows.get? tenant with
    | none => simp [used, found]
    | some entry =>
        obtain ⟨stored, count⟩ := entry
        by_cases same : stored = now / 60 <;> simp [used, found, same]
  simp only [tryAcquire, current]
  by_cases full : limiter.used tenant (now / 60) ≥ limiter.perMinute
  · exact Or.inl ⟨full, if_pos full⟩
  · exact Or.inr ⟨Int.not_le.mp full, if_neg full⟩

@[simp] theorem release_windows (limiter : RateLimiter) :
    limiter.release.windows = limiter.windows := by
  simp only [release]
  split <;> rfl

@[simp] theorem release_perMinute (limiter : RateLimiter) :
    limiter.release.perMinute = limiter.perMinute := by
  simp only [release]
  split <;> rfl

@[simp] theorem tryAcquire_perMinute (limiter : RateLimiter)
    (tenant : String) (now : Int) :
    (limiter.tryAcquire tenant now).2.perMinute = limiter.perMinute := by
  rcases limiter.tryAcquire_cases tenant now with ⟨_, equal⟩ | ⟨_, equal⟩ <;>
    rw [equal]

end RateLimiter

/-! ## Handlers that use a limiter -/

/-- Calls of a handler: the clock, the limiter, and its own backend. -/
inductive LimitedCall (Backend : Type) where
  /-- `int(time.time())`. -/
  | time
  | tryAcquire (tenant : String) (now : Int)
  | release
  | backend (request : Backend)
  deriving DecidableEq

/-- The clock and the limiter added to the interface of a backend. -/
def Limited (backend : Interface) : Interface where
  Call := LimitedCall backend.Call
  Answer
    | .time => Int
    | .tryAcquire _ _ => Bool
    | .release => Unit
    | .backend request => backend.Answer request

/-- A handler over some backend. -/
abbrev Handler (backend : Interface) (α : Type) :=
  Program (Limited backend) PyException α

namespace Handler

variable {backend : Interface} {α : Type}

/-- `int(time.time())`. -/
def time : Handler backend Int := .call LimitedCall.time Program.ofExcept

/-- `rate_limiter.try_acquire(tenant, now=now)`. -/
def tryAcquire (tenant : String) (now : Int) : Handler backend Bool :=
  .call (.tryAcquire tenant now) Program.ofExcept

/-- `rate_limiter.release()`. -/
def release : Handler backend Unit := .call LimitedCall.release Program.ofExcept

/-- The shape in which handlers use the limiter: read the clock, ask for a
permit, and release it on every way out of the work it admits. -/
def withPermit (tenant : String) (refused work : Handler backend α) :
    Handler backend α := do
  let now ← time
  let granted ← tryAcquire tenant now
  if granted then work.tryFinally release else refused

end Handler

variable {backend : Interface} {α τ : Type}

/-- State shared by the handlers: the limiter and the backend. -/
structure Shared (τ : Type) where
  limiter : RateLimiter
  backend : τ

/-- Each limiter call is one atomic step; the clock may show any time. -/
inductive LimitedWorld (world : World backend PyException τ) :
    World (Limited backend) PyException (Shared τ) where
  | time {state : Shared τ} (now : Int) :
      LimitedWorld world state ⟨.time, .ok now⟩ state
  | tryAcquire {state : Shared τ} (tenant : String) (now : Int) :
      LimitedWorld world state
        ⟨.tryAcquire tenant now,
          .ok (state.limiter.tryAcquire tenant now).1⟩
        { state with limiter := (state.limiter.tryAcquire tenant now).2 }
  | release {state : Shared τ} :
      LimitedWorld world state ⟨.release, .ok ()⟩
        { state with limiter := state.limiter.release }
  | backend {state : Shared τ} (request : backend.Call)
      (answer : Except PyException (backend.Answer request)) (next : τ) :
      world state.backend ⟨request, answer⟩ next →
      LimitedWorld world state ⟨.backend request, answer⟩
        { state with backend := next }

/-- Answer a call given the time the clock shows and how the backend answers. -/
def respond {χ : Type}
    (backendRespond : χ → τ → (request : backend.Call) →
      Option (Except PyException (backend.Answer request) × τ))
    (choice : Int × χ) (state : Shared τ) :
    (request : (Limited backend).Call) →
      Option (Except PyException ((Limited backend).Answer request) × Shared τ)
  | .time => some (.ok choice.1, state)
  | .tryAcquire tenant now =>
      let outcome := state.limiter.tryAcquire tenant now
      some (.ok outcome.1, { state with limiter := outcome.2 })
  | .release => some (.ok (), { state with limiter := state.limiter.release })
  | .backend request =>
      match backendRespond choice.2 state.backend request with
      | some (answer, next) => some (answer, { state with backend := next })
      | none => none

theorem respond_sound {χ : Type} {world : World backend PyException τ}
    {backendRespond : χ → τ → (request : backend.Call) →
      Option (Except PyException (backend.Answer request) × τ)}
    (sound : ∀ choice state request answer next,
      backendRespond choice state request = some (answer, next) →
      world state ⟨request, answer⟩ next)
    (choice : Int × χ) (state : Shared τ) (request : (Limited backend).Call)
    (answer : Except PyException ((Limited backend).Answer request))
    (next : Shared τ)
    (answered : respond backendRespond choice state request =
      some (answer, next)) :
    LimitedWorld world state ⟨request, answer⟩ next := by
  cases request with
  | time =>
      cases answered
      exact .time _
  | tryAcquire tenant now =>
      cases answered
      exact .tryAcquire tenant now
  | release =>
      cases answered
      exact .release
  | backend request =>
      simp only [respond] at answered
      split at answered
      next backendAnswer after found =>
        cases answered
        exact .backend request _ after (sound _ _ _ _ _ found)
      next => cases answered

end PrivateAiWorkspace.ControlPlane
