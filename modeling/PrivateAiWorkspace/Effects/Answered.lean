import Mathlib.Logic.Relation
import PrivateAiWorkspace.Effects.Pool

/-!
# Events answered by a world

`Answered world source events target`: the world answers the events one after
another and moves from one state to the other. A program served by a world is a
run of the program whose events the world answers; what a program can do and
what a world can answer are thereby analysed apart.
-/

namespace PrivateAiWorkspace.Effects

variable {interface : Interface} {ε α σ : Type}

/-- The world answers the events in order. -/
def Answered (world : World interface ε σ) :
    σ → List (Event interface ε) → σ → Prop
  | source, [], target => source = target
  | source, event :: events, target =>
      ∃ middle, world source event middle ∧ Answered world middle events target

section Answered

variable {world : World interface ε σ} {source target : σ}

@[simp] theorem answered_nil :
    Answered world source [] target ↔ source = target := Iff.rfl

@[simp] theorem answered_cons {event : Event interface ε}
    {events : List (Event interface ε)} :
    Answered world source (event :: events) target ↔
      ∃ middle, world source event middle ∧
        Answered world middle events target := Iff.rfl

theorem answered_append {before after : List (Event interface ε)} :
    Answered world source (before ++ after) target ↔
      ∃ middle, Answered world source before middle ∧
        Answered world middle after target := by
  induction before generalizing source with
  | nil => simp
  | cons event before ih =>
      simp only [List.cons_append, answered_cons, ih]
      constructor
      · intro split
        rcases split with ⟨first, answered, middle, before, after⟩
        exact ⟨middle, ⟨first, answered, before⟩, after⟩
      · intro split
        rcases split with ⟨middle, ⟨first, answered, before⟩, after⟩
        exact ⟨first, answered, middle, before, after⟩

/-- What every answer keeps, the whole list of events keeps. -/
theorem Answered.invariant {events : List (Event interface ε)}
    (answered : Answered world source events target) (invariant : σ → Prop)
    (initial : invariant source)
    (preserved : ∀ event ∈ events, ∀ source target,
      world source event target → invariant source → invariant target) :
    invariant target := by
  induction events generalizing source with
  | nil => exact answered_nil.mp answered ▸ initial
  | cons event events ih =>
      rcases answered_cons.mp answered with ⟨middle, first, rest⟩
      apply ih rest
      · exact preserved event List.mem_cons_self _ _ first initial
      · intro later member
        exact preserved later (List.mem_cons_of_mem _ member)

/-- A list of events answered by one world is answered by another that answers
each of them between the images of the states. -/
theorem Answered.map {τ : Type} {other : World interface ε τ}
    {events : List (Event interface ε)}
    (answered : Answered world source events target) (observe : σ → τ)
    (translated : ∀ source event target, world source event target →
      other (observe source) event (observe target)) :
    Answered other (observe source) events (observe target) := by
  induction events generalizing source with
  | nil => exact congrArg observe answered
  | cons event events ih =>
      rcases answered with ⟨middle, first, rest⟩
      exact ⟨observe middle, translated _ _ _ first, ih rest⟩

end Answered

/-- A complete run of a program against a world. -/
def Served (world : World interface ε σ) (program : Program interface ε α)
    (source : σ) (events : List (Event interface ε)) (result : Except ε α)
    (target : σ) : Prop :=
  Program.Run program events result ∧ Answered world source events target

/-! ## Deterministic environments -/

/-- The world of an environment that answers from its state. -/
def World.ofRespond (respond : σ → (request : interface.Call) →
      Except ε (interface.Answer request) × σ) : World interface ε σ :=
  fun source event target => respond source event.call = (event.answer, target)

/-- Evaluating a program serves it. -/
theorem served_eval (respond : σ → (request : interface.Call) →
      Except ε (interface.Answer request) × σ)
    (program : Program interface ε α) (state : σ) :
    Served (World.ofRespond respond) program state
      (program.trace respond state) (program.eval respond state).1
      (program.eval respond state).2 := by
  constructor
  · exact program.run_trace state
  · induction program generalizing state with
    | ret value => rfl
    | raise error => rfl
    | call request next ih => exact ⟨_, rfl, ih _ _⟩

/-! ## Interference -/

/-- A world whose state the surroundings may change before and after each
answer. -/
def World.disturbed (interference : σ → σ → Prop)
    (world : World interface ε σ) : World interface ε σ :=
  fun source event target =>
    ∃ before after, Relation.ReflTransGen interference source before ∧
      world before event after ∧
      Relation.ReflTransGen interference after target

/-- What the surroundings keep, any number of their steps keep. -/
theorem kept_of_reflTransGen {interference : σ → σ → Prop}
    {invariant : σ → Prop}
    (kept : ∀ source target, interference source target → invariant source →
      invariant target)
    {source target : σ}
    (steps : Relation.ReflTransGen interference source target)
    (holds : invariant source) : invariant target := by
  induction steps with
  | refl => exact holds
  | tail _ step ih => exact kept _ _ step ih

/-- What the surroundings and every answer keep, the whole list of events
keeps. -/
theorem Answered.kept {interference : σ → σ → Prop}
    {world : World interface ε σ} {source target : σ}
    {events : List (Event interface ε)}
    (answered : Answered (World.disturbed interference world) source events
      target)
    (invariant : σ → Prop)
    (undisturbed : ∀ source target, interference source target →
      invariant source → invariant target)
    (preserved : ∀ event ∈ events, ∀ source target,
      world source event target → invariant source → invariant target)
    (initial : invariant source) : invariant target := by
  apply answered.invariant invariant initial
  intro event member first last step holds
  rcases step with ⟨before, after, earlier, answer, later⟩
  have holds := kept_of_reflTransGen undisturbed earlier holds
  have holds := preserved event member before after answer holds
  exact kept_of_reflTransGen undisturbed later holds

end PrivateAiWorkspace.Effects
