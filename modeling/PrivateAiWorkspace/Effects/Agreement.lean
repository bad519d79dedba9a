import PrivateAiWorkspace.Effects.Isolation

/-!
# Two shared objects that answer alike

Two objects that take the same operations agree on a history when they answer
every operation of it alike. `Agreement` says of single steps when they do: in
related states a step that meets a condition is answered alike and leads to
related states, and any other step is told apart by its answer. By induction a
history is answered alike exactly if each of its steps meets the condition in the
states before it.
-/

namespace PrivateAiWorkspace.Effects

namespace SharedObject

variable {σ τ op ρ ρ' υ : Type}

/-- The answers to some operations from a state on. -/
def answersFrom (object : SharedObject σ op ρ υ) : σ → List op → List ρ
  | _, [] => []
  | state, operation :: rest =>
      let stepped := object.step state operation
      stepped.1 :: object.answersFrom stepped.2 rest

/-- The answers to a history. -/
def answers (object : SharedObject σ op ρ υ) (history : List op) : List ρ :=
  object.answersFrom object.initial history

/-- Each operation of a history meets a condition in the states of both objects
before it. -/
def EachMeets (first : SharedObject σ op ρ υ) (second : SharedObject τ op ρ' υ)
    (meets : σ → τ → op → Prop) (history : List op) : Prop :=
  ∀ past operation rest, history = past ++ operation :: rest →
    meets (first.after past) (second.after past) operation

theorem forall_split_nil {property : List op → op → Prop} :
    ∀ past operation rest, ([] : List op) = past ++ operation :: rest →
      property past operation := by
  intro past operation rest split
  simp at split

/-- What holds wherever a history is split holds of its first operation and wherever
the rest is split. -/
theorem forall_split_cons {property : List op → op → Prop} {first : op}
    {history : List op} :
    (∀ past operation rest, first :: history = past ++ operation :: rest →
        property past operation) ↔
      property [] first ∧
        ∀ past operation rest, history = past ++ operation :: rest →
          property (first :: past) operation := by
  constructor
  · intro each
    refine ⟨each [] first history rfl, fun past operation rest split => ?_⟩
    exact each (first :: past) operation rest (congrArg (List.cons first) split)
  · intro both past operation rest split
    cases past with
    | nil =>
        cases split
        exact both.1
    | cons head past =>
        cases split
        exact both.2 past operation rest rfl

/-- A condition that does not look at the states is met by each operation. -/
theorem eachMeets_const {first : SharedObject σ op ρ υ}
    {second : SharedObject τ op ρ' υ} {meets : op → Prop} {history : List op} :
    EachMeets first second (fun _ _ => meets) history ↔
      ∀ operation ∈ history, meets operation := by
  constructor
  · intro each operation member
    rcases List.append_of_mem member with ⟨past, rest, split⟩
    exact each past operation rest split
  · intro all past operation rest split
    exact all operation (by simp [split])

/-- When single steps of two objects are answered alike, after histories of a kind
that may be cut short. -/
structure Agreement (first : SharedObject σ op ρ υ)
    (second : SharedObject τ op ρ' υ) (admissible : List op → Prop)
    (alike : ρ → ρ' → Prop) (meets : σ → τ → op → Prop)
    (related : List op → σ → τ → Prop) : Prop where
  shortens : ∀ {past rest}, admissible (past ++ rest) → admissible past
  initial : related [] first.initial second.initial
  agrees : ∀ {past state state' operation}, admissible (past ++ [operation]) →
    related past state state' → meets state state' operation →
    alike (first.step state operation).1 (second.step state' operation).1 ∧
      related (past ++ [operation]) (first.step state operation).2
        (second.step state' operation).2
  differs : ∀ {past state state' operation}, admissible (past ++ [operation]) →
    related past state state' → ¬ meets state state' operation →
    ¬ alike (first.step state operation).1 (second.step state' operation).1

namespace Agreement

variable {first : SharedObject σ op ρ υ} {second : SharedObject τ op ρ' υ}
  {admissible : List op → Prop} {alike : ρ → ρ' → Prop}
  {meets : σ → τ → op → Prop} {related : List op → σ → τ → Prop}

/-- From related states on, a history is answered alike exactly if each step meets
the condition, and then leads to related states. -/
private theorem answersFrom_iff
    (agreement : Agreement first second admissible alike meets related)
    (past rest : List op) (fits : admissible (past ++ rest))
    (before : related past (first.after past) (second.after past)) :
    (List.Forall₂ alike (first.answersFrom (first.after past) rest)
        (second.answersFrom (second.after past) rest) ↔
      ∀ one operation two, rest = one ++ operation :: two →
        meets (first.after (past ++ one)) (second.after (past ++ one)) operation) ∧
    ((∀ one operation two, rest = one ++ operation :: two →
        meets (first.after (past ++ one)) (second.after (past ++ one)) operation) →
      related (past ++ rest) (first.after (past ++ rest))
        (second.after (past ++ rest))) := by
  induction rest generalizing past with
  | nil =>
      rw [List.append_nil]
      exact ⟨⟨fun _ one operation two split => by simp at split,
        fun _ => .nil⟩, fun _ => before⟩
  | cons operation rest ih =>
      have joined : past ++ operation :: rest = (past ++ [operation]) ++ rest :=
        (List.append_assoc past [operation] rest).symm
      have fits' : admissible (past ++ [operation]) :=
        agreement.shortens (joined ▸ fits)
      -- What holds of all steps holds of the first one and of the rest.
      have steps : (∀ one operation' two,
          operation :: rest = one ++ operation' :: two →
          meets (first.after (past ++ one)) (second.after (past ++ one))
            operation') ↔
          meets (first.after past) (second.after past) operation ∧
          ∀ one operation' two, rest = one ++ operation' :: two →
            meets (first.after (past ++ [operation] ++ one))
              (second.after (past ++ [operation] ++ one)) operation' := by
        have split := @forall_split_cons op (fun one operation' =>
          meets (first.after (past ++ one)) (second.after (past ++ one)) operation')
          operation rest
        simpa only [List.append_nil, List.append_assoc, List.singleton_append] using split
      rw [steps]
      by_cases met : meets (first.after past) (second.after past) operation
      · have stepped := agreement.agrees fits' before met
        rw [← after_snoc, ← after_snoc] at stepped
        have rest_iff := ih _ (joined ▸ fits) stepped.2
        refine ⟨?_, ?_⟩
        · rw [answersFrom, answersFrom, List.forall₂_cons, ← after_snoc, ← after_snoc,
            rest_iff.1]
          exact and_congr (iff_of_true stepped.1 met) Iff.rfl
        · intro both
          rw [joined]
          exact rest_iff.2 both.2
      · have apart := agreement.differs fits' before met
        refine ⟨?_, fun both => absurd both.1 met⟩
        rw [answersFrom, answersFrom, List.forall₂_cons]
        exact iff_of_false (fun both => apart both.1) (fun both => met both.1)

/-- A history is answered alike exactly if each step meets the condition. -/
theorem answers_iff
    (agreement : Agreement first second admissible alike meets related)
    {history : List op} (fits : admissible history) :
    List.Forall₂ alike (first.answers history) (second.answers history) ↔
      EachMeets first second meets history :=
  (agreement.answersFrom_iff [] history fits agreement.initial).1

/-- If each step meets the condition, the states at the end are related. -/
theorem related_of_eachMeets
    (agreement : Agreement first second admissible alike meets related)
    {history : List op} (fits : admissible history)
    (each : EachMeets first second meets history) :
    related history (first.after history) (second.after history) :=
  (agreement.answersFrom_iff [] history fits agreement.initial).2 each

end Agreement

end SharedObject

end PrivateAiWorkspace.Effects
