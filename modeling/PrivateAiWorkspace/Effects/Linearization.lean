import PrivateAiWorkspace.Effects.Agreement
import PrivateAiWorkspace.Effects.Execution

/-!
# Systems that serve operations one after another

A system of many parties may take any number of steps for one operation of a shared
object. It still serves the operations one after another if each of its steps either
changes nothing that the object has, or answers one operation as the object does in
the state before the step. The order of these answers is the serial order that a run
amounts to.
-/

namespace PrivateAiWorkspace.Effects

namespace SharedObject

variable {σ τ op ρ υ ι label : Type}

theorem answersFrom_append (object : SharedObject τ op ρ υ) (state : τ)
    (past rest : List op) :
    object.answersFrom state (past ++ rest) =
      object.answersFrom state past ++ object.answersFrom
        (past.foldl (fun state operation => (object.step state operation).2) state)
          rest := by
  induction past generalizing state with
  | nil => rfl
  | cons operation past ih =>
      simp only [List.cons_append, answersFrom, List.foldl_cons, ih]

/-- The last operation is answered in the state the others lead to. -/
theorem answers_snoc (object : SharedObject τ op ρ υ) (history : List op)
    (operation : op) :
    object.answers (history ++ [operation]) =
      object.answers history ++ [(object.step (object.after history) operation).1] :=
  object.answersFrom_append object.initial history [operation]

/-- Operations served in some order lead to a state and answers. -/
structure ServedInOrder (object : SharedObject τ op ρ υ) (operations : ι → op)
    (order : List ι) (state : τ) (answers : ι → Option ρ) : Prop where
  nodup : order.Nodup
  mem_iff : ∀ one, one ∈ order ↔ (answers one).isSome
  state_eq : state = object.after (order.map operations)
  answers_eq : order.map answers = (object.answers (order.map operations)).map some

section Steps

variable (object : SharedObject τ op ρ υ) (operations : ι → op) (shared : σ → τ)
  (decided : σ → ι → Option ρ)

/-- What a step may do to the state of the object and to the answers. -/
inductive LinearStep (source target : σ) : Prop where
  | silent : shared target = shared source →
      (∀ one, decided target one = decided source one) → LinearStep source target
  | serves (one : ι) : decided source one = none →
      shared target = (object.step (shared source) (operations one)).2 →
      decided target one =
        some (object.step (shared source) (operations one)).1 →
      (∀ other, other ≠ one → decided target other = decided source other) →
      LinearStep source target

variable {object operations shared decided}

/-- One more operation is served after the others. -/
theorem ServedInOrder.snoc {source target : σ} {order : List ι}
    (served : ServedInOrder object operations order (shared source) (decided source))
    {one : ι} (undecided : decided source one = none)
    (moved : shared target = (object.step (shared source) (operations one)).2)
    (answered : decided target one =
      some (object.step (shared source) (operations one)).1)
    (others : ∀ other, other ≠ one → decided target other = decided source other) :
    ServedInOrder object operations (order ++ [one]) (shared target)
      (decided target) := by
  have absent : one ∉ order := fun member => by
    have decidedOne := (served.mem_iff one).mp member
    rw [undecided] at decidedOne
    cases decidedOne
  have kept : order.map (decided target) = order.map (decided source) :=
    List.map_congr_left fun other member =>
      others other fun same => absent (same ▸ member)
  constructor
  · exact List.nodup_append.mpr ⟨served.nodup, List.nodup_singleton _, by
      intro other member last inLast same
      exact absent (List.mem_singleton.mp inLast ▸ same ▸ member)⟩
  · intro other
    rw [List.mem_append, List.mem_singleton]
    by_cases same : other = one
    · rw [same, answered]
      exact iff_of_true (Or.inr rfl) rfl
    · rw [others other same, ← served.mem_iff]
      exact or_iff_left same
  · rw [List.map_append, List.map_singleton, after_snoc, ← served.state_eq, moved]
  · rw [List.map_append, List.map_append, List.map_singleton, List.map_singleton,
      answers_snoc, List.map_append, List.map_singleton, kept, served.answers_eq,
      ← served.state_eq, answered]

/-- A run whose steps are all linear serves operations in some order. -/
theorem exists_servedInOrder {step : σ → label → σ → Prop} {source target : σ}
    {transitions : List (Transition σ label)}
    (execution : Execution step source transitions target)
    (initial : shared source = object.initial)
    (undecided : ∀ one, decided source one = none)
    (linear : ∀ transition ∈ transitions,
      LinearStep object operations shared decided transition.source
        transition.target) :
    ∃ order, ServedInOrder object operations order (shared target)
      (decided target) := by
  apply execution.invariant_target fun state =>
    ∃ order, ServedInOrder object operations order (shared state) (decided state)
  · exact ⟨[], List.nodup_nil, fun one => by simp [undecided one], initial, rfl⟩
  · intro transition member _ before
    rcases before with ⟨order, served⟩
    cases linear transition member with
    | silent kept answers =>
        have same : decided transition.target = decided transition.source :=
          funext answers
        rw [kept, same]
        exact ⟨order, served⟩
    | serves one undecidedOne moved answered others =>
        exact ⟨_, served.snoc undecidedOne moved answered others⟩

end Steps

end SharedObject

end PrivateAiWorkspace.Effects
