import Mathlib.Data.List.Destutter

/-!
# Executions of a labelled transition system

An execution records the state before and after every step, so that a statement
about a run can mention the state a step was taken in. Invariants are
established here once: a state invariant, and an invariant that may also read
the steps taken so far.
-/

namespace PrivateAiWorkspace.Effects

variable {σ τ label : Type}

/-- One step with the states around it. -/
structure Transition (σ label : Type) where
  source : σ
  label : label
  target : σ

/-- A finite run of the system between two states. -/
inductive Execution (step : σ → label → σ → Prop) :
    σ → List (Transition σ label) → σ → Prop where
  | nil (state : σ) : Execution step state [] state
  | cons {source middle target : σ} {act : label}
      {rest : List (Transition σ label)} :
      step source act middle → Execution step middle rest target →
      Execution step source (⟨source, act, middle⟩ :: rest) target

namespace Execution

variable {step : σ → label → σ → Prop}

/-- States of a run: its first one and the one after each step. -/
def states (start : σ) (transitions : List (Transition σ label)) : List σ :=
  start :: transitions.map Transition.target

theorem append {source middle target : σ}
    {before after : List (Transition σ label)}
    (first : Execution step source before middle)
    (second : Execution step middle after target) :
    Execution step source (before ++ after) target := by
  induction first with
  | nil => exact second
  | cons taken _ ih => exact .cons taken (ih second)

/-- Extend a run by one step at its end. -/
theorem snoc {source middle target : σ} {act : label}
    {before : List (Transition σ label)}
    (first : Execution step source before middle)
    (taken : step middle act target) :
    Execution step source (before ++ [⟨middle, act, target⟩]) target :=
  first.append (.cons taken (.nil target))

/-- A run can be cut at any of its steps. -/
theorem split {source target : σ} {before after : List (Transition σ label)}
    {transition : Transition σ label}
    (execution : Execution step source (before ++ transition :: after) target) :
    Execution step source before transition.source ∧
      step transition.source transition.label transition.target ∧
      Execution step transition.target after target := by
  induction before generalizing source with
  | nil =>
      cases execution with
      | cons taken rest => exact ⟨.nil _, taken, rest⟩
  | cons head before ih =>
      cases execution with
      | cons taken rest =>
          obtain ⟨first, middle, last⟩ := ih rest
          exact ⟨.cons taken first, middle, last⟩

theorem step_of_mem {source target : σ}
    {transitions : List (Transition σ label)}
    (execution : Execution step source transitions target)
    {transition : Transition σ label} (member : transition ∈ transitions) :
    step transition.source transition.label transition.target := by
  obtain ⟨before, after, rfl⟩ := List.append_of_mem member
  exact execution.split.2.1

/-- What is known of every step of a run may be made part of the steps. -/
theorem strengthen {source target : σ}
    {transitions : List (Transition σ label)}
    (execution : Execution step source transitions target)
    {known : σ → label → σ → Prop}
    (knows : ∀ transition ∈ transitions,
      known transition.source transition.label transition.target) :
    Execution (fun source act target =>
      step source act target ∧ known source act target) source transitions
      target := by
  induction execution with
  | nil => exact .nil _
  | cons taken _ ih =>
      exact .cons ⟨taken, knows _ List.mem_cons_self⟩
        (ih fun transition member =>
          knows transition (List.mem_cons_of_mem _ member))

/-- A property of the steps taken so far and the present state holds at the end
of a run when it holds at the start and every step of the run preserves it. -/
theorem history_invariant {source target : σ}
    {transitions : List (Transition σ label)}
    (execution : Execution step source transitions target)
    (invariant : List (Transition σ label) → σ → Prop)
    (initial : invariant [] source)
    (preserved : ∀ past transition, transition ∈ transitions →
      step transition.source transition.label transition.target →
      invariant past transition.source →
      invariant (past ++ [transition]) transition.target) :
    invariant transitions target := by
  -- The run is consumed from the left, so the statement is generalised to the
  -- steps already taken.
  suffices general : ∀ past, invariant past source →
      invariant (past ++ transitions) target by
    simpa using general [] initial
  clear initial
  induction execution with
  | nil => simp
  | cons taken rest ih =>
      intro past holds
      have next := preserved past _ List.mem_cons_self taken holds
      have final := ih (fun past transition member =>
        preserved past transition (List.mem_cons_of_mem _ member)) _ next
      simpa using final

/-- A state invariant holds in every state of a run. -/
theorem invariant_states {source target : σ}
    {transitions : List (Transition σ label)}
    (execution : Execution step source transitions target)
    (invariant : σ → Prop) (initial : invariant source)
    (preserved : ∀ transition ∈ transitions,
      step transition.source transition.label transition.target →
      invariant transition.source → invariant transition.target) :
    ∀ state ∈ states source transitions, invariant state := by
  induction execution with
  | nil => simpa [states] using initial
  | cons taken rest ih =>
      have next := preserved _ List.mem_cons_self taken initial
      have later := ih next fun transition member =>
        preserved transition (List.mem_cons_of_mem _ member)
      intro state member
      simp only [states, List.map_cons, List.mem_cons] at member later
      rcases member with rfl | rfl | member
      · exact initial
      · exact next
      · exact later state (Or.inr member)

/-- A state invariant holds at the end of a run. -/
theorem invariant_target {source target : σ}
    {transitions : List (Transition σ label)}
    (execution : Execution step source transitions target)
    (invariant : σ → Prop) (initial : invariant source)
    (preserved : ∀ transition ∈ transitions,
      step transition.source transition.label transition.target →
      invariant transition.source → invariant transition.target) :
    invariant target :=
  execution.history_invariant (fun _ => invariant) initial
    fun _ transition member => preserved transition member

theorem source_mem_states {source target : σ}
    {transitions : List (Transition σ label)}
    (execution : Execution step source transitions target)
    {transition : Transition σ label} (member : transition ∈ transitions) :
    transition.source ∈ states source transitions := by
  induction execution with
  | nil => simp at member
  | cons taken rest ih =>
      simp only [states, List.map_cons, List.mem_cons] at member ih ⊢
      rcases member with rfl | member
      · exact Or.inl rfl
      · exact Or.inr (ih member)

/-- A run ends in the last of its states. -/
theorem end_mem_states {source target : σ}
    {transitions : List (Transition σ label)}
    (execution : Execution step source transitions target) :
    target ∈ states source transitions := by
  induction execution with
  | nil => exact List.mem_cons_self
  | cons _ _ ih => exact List.mem_cons_of_mem _ ih

/-- What a step spends for good, and what is refused once it is spent, happens in
at most one step of a run. -/
theorem once {source target : σ} {transitions : List (Transition σ label)}
    (execution : Execution step source transitions target)
    (happens : label → Prop) (spent : σ → Prop)
    (spends : ∀ source act target, step source act target → happens act →
      spent target)
    (kept : ∀ source act target, step source act target → spent source →
      spent target)
    (refused : ∀ source act target, step source act target → spent source →
      ¬ happens act) :
    transitions.Pairwise fun earlier later =>
      ¬ (happens earlier.label ∧ happens later.label) := by
  induction execution with
  | nil => exact .nil
  | cons taken rest ih =>
      refine .cons ?_ ih
      intro later member both
      have spentLater := rest.invariant_states spent
        (spends _ _ _ taken both.1)
        (fun transition _ => kept transition.source _ transition.target)
        later.source (rest.source_mem_states member)
      exact refused _ _ _ (rest.step_of_mem member) spentLater both.2

/-! ## Observations -/

variable {β : Type} [DecidableEq β]

/-- The distinct values of an observation along a run, in order. -/
def observed (observe : σ → β) (start : σ)
    (transitions : List (Transition σ label)) : List β :=
  ((states start transitions).map observe).destutter (· ≠ ·)

/-- When every step of a run keeps an observation or moves it along a relation,
the distinct values of the observation are a path of the relation. -/
theorem observed_isChain {source target : σ}
    {transitions : List (Transition σ label)}
    (execution : Execution step source transitions target) (observe : σ → β)
    (edge : β → β → Prop)
    (moves : ∀ transition ∈ transitions,
      observe transition.source = observe transition.target ∨
        edge (observe transition.source) (observe transition.target)) :
    (observed observe source transitions).IsChain edge := by
  suffices general : ∃ later,
      observed observe source transitions = observe source :: later ∧
        (observe source :: later).IsChain edge by
    rcases general with ⟨later, path, chain⟩
    rw [path]
    exact chain
  induction execution with
  | nil => exact ⟨[], rfl, List.isChain_singleton _⟩
  | @cons source middle target act rest taken _ ih =>
      rcases ih fun transition member =>
        moves transition (List.mem_cons_of_mem _ member) with
        ⟨later, path, chain⟩
      simp only [observed, states, List.map_cons, List.destutter_cons'] at path ⊢
      cases decEq (observe source) (observe middle) with
      | isTrue same =>
          rw [List.destutter'_cons_neg _ (not_not.mpr same), same]
          exact ⟨later, path, chain⟩
      | isFalse different =>
          rw [List.destutter'_cons_pos _ different, path]
          rcases moves _ List.mem_cons_self with same | moved
          · exact absurd same different
          · exact ⟨observe middle :: later, rfl, .cons_cons moved chain⟩

end Execution

end PrivateAiWorkspace.Effects
