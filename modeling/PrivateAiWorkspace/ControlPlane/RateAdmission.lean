import PrivateAiWorkspace.ControlPlane.RateLimiter

/-!
# Exact admission

What a limiter decides over any history of requests and releases that enter it
in the order of their times. A request that finds no slot has been charged to
its window like one that is granted, so the window counts requests, not grants.
-/

namespace PrivateAiWorkspace.ControlPlane

open Python

/-- A call of a limiter, with what it returned. -/
inductive LimiterEvent where
  | tryAcquire (tenant : String) (now : Int) (granted : Bool)
  | release
  deriving DecidableEq, Repr

/-- The event is a request of a tenant in a window. -/
def LimiterEvent.requests (tenant : String) (window : Int) :
    LimiterEvent → Bool
  | .tryAcquire other now _ => other = tenant && now / 60 = window
  | .release => false

/-- The event is a granted request of a tenant in a window. -/
def LimiterEvent.grants (tenant : String) (window : Int) :
    LimiterEvent → Bool
  | .tryAcquire other now granted =>
      other = tenant && now / 60 = window && granted
  | .release => false

/-- Grants that have not been released, after some events, the last of them
first. -/
def heldPermits : List LimiterEvent → Nat
  | [] => 0
  | .tryAcquire _ _ true :: past => heldPermits past + 1
  | .tryAcquire _ _ false :: past => heldPermits past
  | .release :: past => heldPermits past - 1

/-- No request has a later time. -/
def UpTo (now : Int) (past : List LimiterEvent) : Prop :=
  ∀ tenant earlier granted, .tryAcquire tenant earlier granted ∈ past →
    earlier ≤ now

/-- The events of a fresh limiter, the last of them first, and what it has become.
Requests come in the order of their times, and a release follows a grant that has
not been released. -/
inductive AdmissionRun (perMinute maxConcurrency : Int) :
    List LimiterEvent → RateLimiter → Prop where
  | start : AdmissionRun perMinute maxConcurrency []
      (.init perMinute maxConcurrency)
  | tryAcquire {past : List LimiterEvent} {limiter : RateLimiter}
      (tenant : String) (now : Int) :
      AdmissionRun perMinute maxConcurrency past limiter → UpTo now past →
      AdmissionRun perMinute maxConcurrency
        (.tryAcquire tenant now (limiter.tryAcquire tenant now).1 :: past)
        (limiter.tryAcquire tenant now).2
  | release {past : List LimiterEvent} {limiter : RateLimiter} :
      AdmissionRun perMinute maxConcurrency past limiter → 0 < heldPermits past →
      AdmissionRun perMinute maxConcurrency (.release :: past) limiter.release

/-- Requests of a tenant in a window. -/
def requestCount (tenant : String) (window : Int) (past : List LimiterEvent) :
    Nat :=
  past.countP (·.requests tenant window)

/-- Granted requests of a tenant in a window. -/
def grantCount (tenant : String) (window : Int) (past : List LimiterEvent) :
    Nat :=
  past.countP (·.grants tenant window)

/-! ## What the limiter knows -/

/-- The windows from some time on are charged with their requests, up to the
limit, and the semaphore counts the free slots. -/
structure Charged (perMinute maxConcurrency now : Int)
    (past : List LimiterEvent) (limiter : RateLimiter) : Prop where
  perMinute_eq : limiter.perMinute = perMinute
  used_eq : ∀ tenant window, now / 60 ≤ window →
    limiter.used tenant window =
      min (max perMinute 0) (requestCount tenant window past)
  bound_eq : limiter.sema.bound = (max 1 maxConcurrency).toNat
  slots : limiter.sema.value + heldPermits past = limiter.sema.bound

theorem requestCount_of_upTo {now window : Int} {past : List LimiterEvent}
    (upTo : UpTo now past) (later : now / 60 < window) (tenant : String) :
    requestCount tenant window past = 0 := by
  rw [requestCount, List.countP_eq_zero]
  intro event member
  cases event with
  | release => simp [LimiterEvent.requests]
  | tryAcquire other earlier granted =>
      have before := upTo other earlier granted member
      simp only [LimiterEvent.requests, Bool.and_eq_true, decide_eq_true_eq, not_and]
      intro _ same
      omega

namespace Charged

variable {perMinute maxConcurrency now : Int} {past : List LimiterEvent}
  {limiter : RateLimiter}

/-- What is known of a time is known of later ones. -/
theorem later (charged : Charged perMinute maxConcurrency now past limiter)
    {next : Int} (order : now ≤ next) :
    Charged perMinute maxConcurrency next past limiter where
  perMinute_eq := charged.perMinute_eq
  used_eq := by
    intro tenant window reached
    exact charged.used_eq tenant window (by omega)
  bound_eq := charged.bound_eq
  slots := charged.slots

/-- The semaphore grants while a slot is free. -/
theorem acquire_iff (charged : Charged perMinute maxConcurrency now past limiter) :
    limiter.sema.acquire.1 = true ↔
      (heldPermits past : Int) < max 1 maxConcurrency := by
  have slots := charged.slots
  have bound := charged.bound_eq
  rw [BoundedSemaphore.acquire]
  split
  · simp only [true_iff]
    omega
  · simp only [Bool.false_eq_true, false_iff]
    omega

/-- A request is granted exactly when fewer than the limit have been made in its
window and a slot is free. -/
theorem tryAcquire_iff
    (charged : Charged perMinute maxConcurrency now past limiter)
    (tenant : String) :
    (limiter.tryAcquire tenant now).1 = true ↔
      (requestCount tenant (now / 60) past : Int) < perMinute ∧
        (heldPermits past : Int) < max 1 maxConcurrency := by
  have used := charged.used_eq tenant (now / 60) (Int.le_refl _)
  have limit := charged.perMinute_eq
  rcases limiter.tryAcquire_cases tenant now with ⟨full, same⟩ | ⟨room, same⟩
  · rw [same]
    simp only [Bool.false_eq_true, false_iff, not_and]
    omega
  · rw [same]
    have within : (requestCount tenant (now / 60) past : Int) < perMinute := by
      omega
    simp only [within, true_and]
    exact charged.acquire_iff

/-- A refused request with its window full leaves no trace. -/
theorem tryAcquire_full
    (charged : Charged perMinute maxConcurrency now past limiter)
    {tenant : String}
    (full : perMinute ≤ requestCount tenant (now / 60) past) :
    limiter.tryAcquire tenant now = (false, limiter) := by
  have used := charged.used_eq tenant (now / 60) (Int.le_refl _)
  have limit := charged.perMinute_eq
  rcases limiter.tryAcquire_cases tenant now with ⟨_, same⟩ | ⟨room, _⟩
  · exact same
  · omega

/-- One more request in its window. -/
theorem requestCount_cons (tenant other : String) (window time : Int)
    (granted : Bool) :
    requestCount other window (.tryAcquire tenant time granted :: past) =
      requestCount other window past +
        if tenant = other ∧ time / 60 = window then 1 else 0 := by
  rw [requestCount, List.countP_cons]
  simp [LimiterEvent.requests, requestCount]

theorem start : Charged perMinute maxConcurrency now []
    (.init perMinute maxConcurrency) where
  perMinute_eq := rfl
  used_eq := by
    intro tenant window _
    change (0 : Int) = min (max perMinute 0) 0
    omega
  bound_eq := rfl
  slots := rfl

/-- What is on record after a window is written. -/
theorem used_insert (limiter : RateLimiter) (sema : BoundedSemaphore)
    (tenant other : String) (written window count : Int) :
    RateLimiter.used
        { limiter with
          windows := limiter.windows.insert tenant (written, count)
          sema }
        other window =
      if other = tenant then if written = window then count else 0
      else limiter.used other window := by
  by_cases own : other = tenant <;>
    simp [RateLimiter.used, Dict.get?_insert, own]

/-- A request that is charged to its window, with what the semaphore says. -/
theorem charge (charged : Charged perMinute maxConcurrency now past limiter)
    (upTo : UpTo now past) {tenant : String}
    (room : (requestCount tenant (now / 60) past : Int) < perMinute) :
    Charged perMinute maxConcurrency now
      (.tryAcquire tenant now limiter.sema.acquire.1 :: past)
      { limiter with
        windows := limiter.windows.insert tenant
          (now / 60, limiter.used tenant (now / 60) + 1)
        sema := limiter.sema.acquire.2 } where
  perMinute_eq := charged.perMinute_eq
  used_eq := by
    intro other window reached
    have before := charged.used_eq other window reached
    rw [requestCount_cons]
    rw [used_insert]
    by_cases own : other = tenant
    · subst own
      have here := charged.used_eq other (now / 60) (Int.le_refl _)
      by_cases same : now / 60 = window
      · subst same
        simp only [if_true, and_self]
        omega
      · have fresh := requestCount_of_upTo upTo (by omega : now / 60 < window) other
        simp only [same, if_true, if_false, and_false, fresh]
        omega
    · rw [if_neg own, if_neg fun same => own same.1.symm, before]
      rfl
  bound_eq := by
    rw [BoundedSemaphore.acquire]
    split <;> exact charged.bound_eq
  slots := by
    have slots := charged.slots
    rw [BoundedSemaphore.acquire]
    split
    · simp only [heldPermits]
      omega
    · exact slots

/-- A request keeps what is known, whatever comes of it. -/
theorem tryAcquire (charged : Charged perMinute maxConcurrency now past limiter)
    (upTo : UpTo now past) (tenant : String) :
    Charged perMinute maxConcurrency now
      (.tryAcquire tenant now (limiter.tryAcquire tenant now).1 :: past)
      (limiter.tryAcquire tenant now).2 := by
  have used := charged.used_eq tenant (now / 60) (Int.le_refl _)
  have limit := charged.perMinute_eq
  rcases limiter.tryAcquire_cases tenant now with ⟨full, same⟩ | ⟨room, same⟩
  · rw [same]
    refine ⟨limit, fun other window reached => ?_, charged.bound_eq, charged.slots⟩
    have before := charged.used_eq other window reached
    rw [before, requestCount_cons]
    split
    next own =>
      rcases own with ⟨rfl, rfl⟩
      omega
    next => rfl
  · rw [same]
    apply charged.charge upTo
    omega

theorem release (charged : Charged perMinute maxConcurrency now past limiter)
    (some : 0 < heldPermits past) :
    Charged perMinute maxConcurrency now (.release :: past) limiter.release := by
  have slots := charged.slots
  have room : limiter.sema.value < limiter.sema.bound := by omega
  have released : limiter.release =
      { limiter with
        sema := ⟨limiter.sema.bound, limiter.sema.value + 1, room⟩ } := by
    rw [RateLimiter.release, BoundedSemaphore.release, dif_pos room]
  have unchanged : ∀ tenant window,
      requestCount tenant window (.release :: past) =
        requestCount tenant window past := by
    intro tenant window
    simp [requestCount, LimiterEvent.requests]
  rw [released]
  refine ⟨charged.perMinute_eq, ?_, charged.bound_eq, ?_⟩
  · intro tenant window reached
    rw [unchanged]
    exact charged.used_eq tenant window reached
  · simp only [heldPermits]
    omega

end Charged

/-- Times no request is later than. -/
theorem UpTo.tail {now : Int} {event : LimiterEvent} {past : List LimiterEvent}
    (upTo : UpTo now (event :: past)) : UpTo now past :=
  fun tenant earlier granted member =>
    upTo tenant earlier granted (List.mem_cons_of_mem _ member)

/-- A limiter knows its history. -/
theorem AdmissionRun.charged {perMinute maxConcurrency now : Int}
    {past : List LimiterEvent} {limiter : RateLimiter}
    (run : AdmissionRun perMinute maxConcurrency past limiter)
    (upTo : UpTo now past) :
    Charged perMinute maxConcurrency now past limiter := by
  induction run generalizing now with
  | start => exact .start
  | tryAcquire tenant time _ before ih =>
      have order := upTo tenant time _ List.mem_cons_self
      exact ((ih before).tryAcquire before tenant).later order
  | release _ some ih => exact (ih upTo.tail).release some

/-! ## Admission -/

/-- After every history of a limiter, a request whose time is not earlier than
any before is granted exactly when fewer than `per_minute` requests of its tenant
have been made in its window and a slot is free. One that comes when its window
is full leaves no trace. -/
theorem granted_iff {perMinute maxConcurrency now : Int}
    {past : List LimiterEvent} {limiter : RateLimiter}
    (run : AdmissionRun perMinute maxConcurrency past limiter)
    (upTo : UpTo now past) (tenant : String) :
    ((limiter.tryAcquire tenant now).1 = true ↔
        (requestCount tenant (now / 60) past : Int) < perMinute ∧
          (heldPermits past : Int) < max 1 maxConcurrency) ∧
      (perMinute ≤ requestCount tenant (now / 60) past →
        (limiter.tryAcquire tenant now).2 = limiter) := by
  have charged := run.charged upTo
  refine ⟨charged.tryAcquire_iff tenant, fun full => ?_⟩
  rw [charged.tryAcquire_full full]

/-- One request a minute and one slot: a tenant takes it, another is refused, and
the first gives it back. -/
def crowded : List LimiterEvent :=
  [.release, .tryAcquire "b.com" 0 false, .tryAcquire "a.com" 0 true]

/-- The limiter after it. -/
def crowdedLimiter : RateLimiter :=
  (((RateLimiter.init 1 1).tryAcquire "a.com" 0).2.tryAcquire "b.com" 0).2.release

theorem crowded_run : AdmissionRun 1 1 crowded crowdedLimiter := by
  have first : AdmissionRun 1 1 [.tryAcquire "a.com" 0 true]
      ((RateLimiter.init 1 1).tryAcquire "a.com" 0).2 :=
    .tryAcquire "a.com" 0 .start fun _ _ _ member => by cases member
  have second : AdmissionRun 1 1
      [.tryAcquire "b.com" 0 false, .tryAcquire "a.com" 0 true]
      (((RateLimiter.init 1 1).tryAcquire "a.com" 0).2.tryAcquire "b.com" 0).2 :=
    .tryAcquire "b.com" 0 first fun _ _ _ member => by
      rcases List.mem_singleton.mp member with ⟨rfl, rfl, rfl⟩
      decide
  exact .release second (by decide)

theorem upTo_crowded : UpTo 0 crowded := by
  intro tenant earlier granted member
  simp only [crowded, List.mem_cons, reduceCtorEq, LimiterEvent.tryAcquire.injEq,
    List.not_mem_nil, or_false, false_or] at member
  omega

theorem granted_iff_crowded :
    ((crowdedLimiter.tryAcquire "b.com" 0).1 = true ↔
        (requestCount "b.com" 0 crowded : Int) < 1 ∧
          (heldPermits crowded : Int) < max 1 1) ∧
      (1 ≤ (requestCount "b.com" 0 crowded : Int) →
        (crowdedLimiter.tryAcquire "b.com" 0).2 = crowdedLimiter) :=
  granted_iff crowded_run upTo_crowded "b.com"

/-- The second tenant has no grant and the slot is free, and yet its next request
is refused: the one that found no slot has used up its minute. -/
theorem not_granted_iff_grants :
    AdmissionRun 1 1 crowded crowdedLimiter ∧ UpTo 0 crowded ∧
      grantCount "b.com" 0 crowded = 0 ∧ heldPermits crowded = 0 ∧
      ¬ ((crowdedLimiter.tryAcquire "b.com" 0).1 = true ↔
        (grantCount "b.com" (0 / 60) crowded : Int) < 1 ∧
          (heldPermits crowded : Int) < max 1 1) := by
  refine ⟨crowded_run, upTo_crowded, by decide, by decide, ?_⟩
  have refused : (crowdedLimiter.tryAcquire "b.com" 0).1 = false := by
    decide +kernel
  rw [refused]
  decide

end PrivateAiWorkspace.ControlPlane
