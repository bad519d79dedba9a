import PrivateAiWorkspace.ControlPlane.RateLimiter

/-!
# Grants of a rate window

How many requests of one tenant a limiter grants in one window, over every
interleaving of the handlers that share it. A request stamped in an earlier
window than the one stored makes the limiter forget the later window, whose
count then starts again; without such a request no window is granted more than
`per_minute` times.
-/

namespace PrivateAiWorkspace.ControlPlane

open Effects Python

variable {backend : Interface} {α τ : Type}

/-- Tenant and window of a granted request. -/
def granted : Event (Limited backend) PyException → Option (String × Int)
  | ⟨.tryAcquire tenant now, answer⟩ =>
      match (answer : Except PyException Bool) with
      | .ok true => some (tenant, now / 60)
      | _ => none
  | _ => none

/-- Granted requests of a tenant whose time lies in a window. -/
def grants (tenant : String) (window : Int)
    (transitions :
      List (Transition (Shared τ) (Event (Limited backend) PyException))) :
    Nat :=
  transitions.countP fun transition =>
    granted transition.label = some (tenant, window)

/-- The request, if the step is one, is not stamped before the window the
limiter has stored for its tenant. -/
def InOrder
    (transition :
      Transition (Shared τ) (Event (Limited backend) PyException)) : Prop :=
  ∀ tenant now stored count,
    transition.label.call = .tryAcquire tenant now →
    transition.source.limiter.windows.get? tenant = some (stored, count) →
    stored ≤ now / 60

instance (transition :
      Transition (Shared τ) (Event (Limited backend) PyException)) :
    Decidable (InOrder transition) :=
  decidable_of_iff
    ((match transition.label.call with
      | .tryAcquire tenant now =>
          (transition.source.limiter.windows.get? tenant).all fun entry =>
            entry.1 ≤ now / 60
      | _ => true) = true)
    (by
      constructor
      · intro holds tenant now stored count issued found
        rw [issued] at holds
        simpa [found] using holds
      · intro inOrder
        split
        next tenant now issued =>
          cases found : transition.source.limiter.windows.get? tenant with
          | none => rfl
          | some entry =>
              simpa using inOrder tenant now entry.1 entry.2 issued found
        next => rfl)

@[simp] theorem grants_nil (tenant : String) (window : Int) :
    grants tenant window
      ([] : List (Transition (Shared τ)
        (Event (Limited backend) PyException))) = 0 := rfl

theorem grants_snoc (tenant : String) (window : Int)
    (past : List (Transition (Shared τ)
      (Event (Limited backend) PyException)))
    (last : Transition (Shared τ) (Event (Limited backend) PyException)) :
    grants tenant window (past ++ [last]) =
      grants tenant window past +
        if granted last.label = some (tenant, window) then 1 else 0 := by
  simp [grants, List.countP_append, List.countP_singleton]

/-- What the limiter's records say about the grants so far: the stored window
has been granted no more than its count, and no later one at all. -/
structure Recorded (perMinute : Int)
    (past : List (Transition (Shared τ)
      (Event (Limited backend) PyException)))
    (state : Shared τ) : Prop where
  perMinute_eq : state.limiter.perMinute = perMinute
  unseen : ∀ tenant, state.limiter.windows.get? tenant = none →
    ∀ window, grants tenant window past = 0
  stored : ∀ tenant window count,
    state.limiter.windows.get? tenant = some (window, count) →
    (grants tenant window past : Int) ≤ count
  later : ∀ tenant window count,
    state.limiter.windows.get? tenant = some (window, count) →
    ∀ other, window < other → grants tenant other past = 0
  bounded : ∀ tenant window,
    (grants tenant window past : Int) ≤ perMinute

namespace Recorded

variable {perMinute : Int} {state : Shared τ}
  {past : List (Transition (Shared τ) (Event (Limited backend) PyException))}

/-- A step that grants nothing and leaves the windows alone keeps the record. -/
theorem of_not_granted (recorded : Recorded perMinute past state)
    {event : Event (Limited backend) PyException} {next : Shared τ}
    (refused : granted event = none)
    (windows_eq : next.limiter.windows = state.limiter.windows)
    (perMinute_eq : next.limiter.perMinute = state.limiter.perMinute) :
    Recorded perMinute (past ++ [⟨state, event, next⟩]) next := by
  have unchanged : ∀ tenant window,
      grants tenant window (past ++ [⟨state, event, next⟩]) =
        grants tenant window past := by
    intro tenant window
    simp [grants_snoc, refused]
  constructor
  · exact perMinute_eq.trans recorded.perMinute_eq
  · simpa only [unchanged, windows_eq] using recorded.unseen
  · simpa only [unchanged, windows_eq] using recorded.stored
  · simpa only [unchanged, windows_eq] using recorded.later
  · simpa only [unchanged] using recorded.bounded

/-- The limiter has charged the window of a request in order with every grant
made in it so far. -/
theorem grants_le_used (recorded : Recorded perMinute past state)
    {tenant : String} {now : Int}
    (inOrder : ∀ stored count,
      state.limiter.windows.get? tenant = some (stored, count) →
      stored ≤ now / 60) :
    (grants tenant (now / 60) past : Int) ≤
      state.limiter.used tenant (now / 60) := by
  cases found : state.limiter.windows.get? tenant with
  | none => simp [RateLimiter.used, found, recorded.unseen tenant found]
  | some entry =>
      obtain ⟨stored, count⟩ := entry
      simp only [RateLimiter.used, found]
      split
      next same => exact same ▸ recorded.stored tenant stored count found
      next different =>
        have before : stored < now / 60 := by
          have := inOrder stored count found
          omega
        simp [recorded.later tenant stored count found _ before]

/-- Nothing has been granted after the window of a request in order. -/
theorem grants_later (recorded : Recorded perMinute past state)
    {tenant : String} {now : Int}
    (inOrder : ∀ stored count,
      state.limiter.windows.get? tenant = some (stored, count) →
      stored ≤ now / 60) {other : Int} (after : now / 60 < other) :
    grants tenant other past = 0 := by
  cases found : state.limiter.windows.get? tenant with
  | none => exact recorded.unseen tenant found other
  | some entry =>
      obtain ⟨stored, count⟩ := entry
      exact recorded.later tenant stored count found other
        (Int.lt_of_le_of_lt (inOrder stored count found) after)

/-- A charged request grants at most once more, to its tenant in its window. -/
theorem grants_charged {tenant : String} {now : Int} (permit : Bool)
    (next : Shared τ) (other : String) (window : Int) :
    grants other window
        (past ++ [⟨state, ⟨.tryAcquire tenant now, .ok permit⟩, next⟩]) =
      grants other window past +
        if permit = true ∧ tenant = other ∧ now / 60 = window then 1 else 0 := by
  rw [grants_snoc]
  cases permit with
  | false => simp [granted]
  | true => simp [granted]

/-- A request in order that is charged keeps the record. -/
theorem of_charged (recorded : Recorded perMinute past state)
    {tenant : String} {now : Int} {permit : Bool} {next : Shared τ}
    (inOrder : ∀ stored count,
      state.limiter.windows.get? tenant = some (stored, count) →
      stored ≤ now / 60)
    (room : state.limiter.used tenant (now / 60) < perMinute)
    (windows_eq : next.limiter.windows =
      state.limiter.windows.insert tenant
        (now / 60, state.limiter.used tenant (now / 60) + 1))
    (perMinute_eq : next.limiter.perMinute = state.limiter.perMinute) :
    Recorded perMinute
      (past ++ [⟨state, ⟨.tryAcquire tenant now, .ok permit⟩, next⟩]) next := by
  have used := recorded.grants_le_used inOrder
  have unaffected : ∀ other window, tenant ≠ other →
      grants other window
          (past ++ [⟨state, ⟨.tryAcquire tenant now, .ok permit⟩, next⟩]) =
        grants other window past := by
    intro other window different
    rw [grants_charged, if_neg (fun grant => different grant.2.1)]
    exact Nat.add_zero _
  have elsewhere : ∀ window, now / 60 ≠ window →
      grants tenant window
          (past ++ [⟨state, ⟨.tryAcquire tenant now, .ok permit⟩, next⟩]) =
        grants tenant window past := by
    intro window different
    rw [grants_charged, if_neg (fun grant => different grant.2.2)]
    exact Nat.add_zero _
  have here : (grants tenant (now / 60)
      (past ++ [⟨state, ⟨.tryAcquire tenant now, .ok permit⟩, next⟩]) : Int) ≤
        state.limiter.used tenant (now / 60) + 1 := by
    rw [grants_charged]
    split <;> omega
  constructor
  · exact perMinute_eq.trans recorded.perMinute_eq
  · intro other missing window
    rw [windows_eq, Dict.get?_insert] at missing
    split at missing
    · cases missing
    · next different =>
        rw [unaffected other window (Ne.symm different)]
        exact recorded.unseen other missing window
  · intro other window count found
    rw [windows_eq, Dict.get?_insert] at found
    split at found
    · next same =>
        cases found
        rw [same]
        exact here
    · next different =>
        rw [unaffected other window (Ne.symm different)]
        exact recorded.stored other window count found
  · intro other window count found later after
    rw [windows_eq, Dict.get?_insert] at found
    split at found
    · next same =>
        cases found
        rw [same, elsewhere later (Int.ne_of_lt after)]
        exact recorded.grants_later inOrder after
    · next different =>
        rw [unaffected other later (Ne.symm different)]
        exact recorded.later other window count found later after
  · intro other window
    by_cases same : tenant = other
    · rw [← same]
      by_cases current : now / 60 = window
      · rw [← current]
        omega
      · rw [elsewhere _ current]
        exact recorded.bounded _ window
    · rw [unaffected other window same]
      exact recorded.bounded other window

/-- A request in order keeps the record. -/
theorem tryAcquire (recorded : Recorded perMinute past state)
    {tenant : String} {now : Int}
    (inOrder : ∀ stored count,
      state.limiter.windows.get? tenant = some (stored, count) →
      stored ≤ now / 60) :
    Recorded perMinute
      (past ++ [⟨state,
        ⟨.tryAcquire tenant now,
          .ok (state.limiter.tryAcquire tenant now).1⟩,
        { state with
          limiter := (state.limiter.tryAcquire tenant now).2 }⟩])
      { state with limiter := (state.limiter.tryAcquire tenant now).2 } := by
  rcases state.limiter.tryAcquire_cases tenant now with
    ⟨_, refused⟩ | ⟨room, charged⟩
  · rw [refused]
    exact recorded.of_not_granted rfl rfl rfl
  · rw [charged]
    exact recorded.of_charged inOrder (recorded.perMinute_eq ▸ room) rfl rfl

/-- Any step in order keeps the record. -/
theorem step {world : World backend PyException τ}
    (recorded : Recorded perMinute past state)
    {event : Event (Limited backend) PyException} {next : Shared τ}
    (taken : LimitedWorld world state event next)
    (inOrder : InOrder ⟨state, event, next⟩) :
    Recorded perMinute (past ++ [⟨state, event, next⟩]) next := by
  cases taken with
  | time now => exact recorded.of_not_granted rfl rfl rfl
  | tryAcquire tenant now =>
      exact recorded.tryAcquire fun stored count found =>
        inOrder tenant now stored count rfl found
  | release =>
      exact recorded.of_not_granted rfl state.limiter.release_windows
        state.limiter.release_perMinute
  | backend request answer next answered =>
      exact recorded.of_not_granted rfl rfl rfl

/-- Nothing has been granted by a fresh limiter. -/
theorem start {maxConcurrency : Int} {initial : τ} (nonneg : 0 ≤ perMinute) :
    Recorded perMinute
      ([] : List (Transition (Shared τ) (Event (Limited backend) PyException)))
      ⟨.init perMinute maxConcurrency, initial⟩ := by
  constructor
  · rfl
  · intro tenant _ window
    rfl
  · intro tenant window count found
    cases found
  · intro tenant window count found
    cases found
  · intro tenant window
    exact nonneg

end Recorded

/-- In every run of every pool of handlers that share a fresh limiter, whatever they
do besides, no tenant is granted more than `per_minute` requests of one window,
provided that no request enters the limiter stamped before the window stored for its
tenant. -/
theorem grants_le_perMinute {world : World backend PyException τ}
    {spawnable : Handler backend α → Prop} {perMinute maxConcurrency : Int}
    {initial : τ} {target : Pool (Limited backend) PyException α (Shared τ)}
    {transitions : List (Transition
      (Pool (Limited backend) PyException α (Shared τ))
      (Action (Limited backend) PyException α))}
    (nonneg : 0 ≤ perMinute)
    (execution : Execution (Pool.Step (LimitedWorld world) spawnable)
      ⟨⟨.init perMinute maxConcurrency, initial⟩, []⟩ transitions target)
    (inOrder : ∀ transition ∈ Pool.sharedTransitions transitions,
      InOrder transition)
    (tenant : String) (window : Int) :
    (grants tenant window (Pool.sharedTransitions transitions) : Int) ≤
      perMinute := by
  have recorded := (Pool.shared_execution execution).history_invariant
    (Recorded perMinute) (.start nonneg)
    fun past transition member taken holds =>
      holds.step taken (inOrder transition member)
  exact recorded.bounded tenant window

/-! ## Requests that overtake each other -/

/-- A backend without calls. -/
def noBackend : Interface := ⟨Empty, fun _ => Unit⟩

/-- A request that does nothing once it is admitted. -/
def bareRequest : Handler noBackend Bool :=
  .withPermit "acme.com" (.ret false) (.ret true)

/-- The only world of a backend without calls. -/
def noWorld : World noBackend PyException Unit := fun _ _ _ => True

/-- Run a schedule of bare requests over a limiter of one request a minute. -/
def playBare
    (moves : List (Pool.Move (Limited noBackend) PyException Bool (Int × Unit))) :=
  Pool.play
    (respond fun (_ _ : Unit) (request : noBackend.Call) => nomatch request)
    moves ⟨⟨.init 1 4, ()⟩, []⟩

theorem playBare_execution
    (moves : List (Pool.Move (Limited noBackend) PyException Bool (Int × Unit))) :
    Execution (Pool.Step (LimitedWorld noWorld) fun _ => True)
      ⟨⟨.init 1 4, ()⟩, []⟩ (playBare moves).1 (playBare moves).2 :=
  Pool.play_execution
    (respond_sound fun _ _ (request : Empty) => request.elim)
    (fun _ _ => trivial) _

/-- The requests read 59, 60 and 61 from the clock and enter the limiter in the
order 60, 59, 61. -/
def overtaking :
    List (Pool.Move (Limited noBackend) PyException Bool (Int × Unit)) :=
  [.start bareRequest, .start bareRequest, .start bareRequest,
    .call 0 (59, ()), .call 1 (60, ()), .call 2 (61, ()),
    .call 1 (61, ()), .call 1 (61, ()),
    .call 0 (61, ()), .call 0 (61, ()),
    .call 2 (61, ())]

/-- Both requests of the later minute are granted where one a minute is
allowed. -/
theorem overtaking_exceeds :
    ¬ ∀ (transitions : List (Transition
          (Pool (Limited noBackend) PyException Bool (Shared Unit))
          (Action (Limited noBackend) PyException Bool)))
        (target : Pool (Limited noBackend) PyException Bool (Shared Unit)),
      Execution (Pool.Step (LimitedWorld noWorld) fun _ => True)
        ⟨⟨.init 1 4, ()⟩, []⟩ transitions target →
      ∀ tenant window,
        (grants tenant window (Pool.sharedTransitions transitions) : Int) ≤
          1 := by
  intro bounded
  have exceeded : grants "acme.com" 1
      (Pool.sharedTransitions (playBare overtaking).1) = 2 := by decide
  have bound := bounded _ _ (playBare_execution overtaking) "acme.com" 1
  rw [exceeded] at bound
  exact absurd bound (by decide)

/-- Two requests of the earlier minute and one of the later, none of which is
overtaken. -/
theorem grants_le_perMinute_in_order :
    (grants "acme.com" 0
      (Pool.sharedTransitions
        (playBare
          [.start bareRequest, .start bareRequest, .start bareRequest,
            .call 0 (58, ()), .call 0 (58, ()),
            .call 1 (59, ()), .call 1 (59, ()),
            .call 2 (60, ()), .call 2 (60, ())]).1) : Int) ≤ 1 :=
  grants_le_perMinute (by decide) (playBare_execution _) (by decide)
    "acme.com" 0

end PrivateAiWorkspace.ControlPlane
