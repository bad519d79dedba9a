import Mathlib.Data.List.Infix

/-!
# Users of a shared object who do not notice each other

A shared object answers one operation after another, each issued by some user.
Its users are isolated when what a user is answered depends on the user's own
operations only, and nobody else's operation changes what the object holds for
the user.

`Unwinding` says so of single steps: a step of a user is determined by what the
object holds for the user, and a step of another user keeps it. By induction on
the history, a history answers a user as its operations of that user alone do.
-/

namespace PrivateAiWorkspace.Effects

/-- An object that answers one operation at a time. -/
structure SharedObject (σ op ρ υ : Type) where
  initial : σ
  step : σ → op → ρ × σ
  issuer : op → υ

namespace SharedObject

variable {σ op ρ υ ι : Type}

/-- The state some operations lead to. -/
def after (object : SharedObject σ op ρ υ) (history : List op) : σ :=
  history.foldl (fun state operation => (object.step state operation).2)
    object.initial

@[simp] theorem after_nil (object : SharedObject σ op ρ υ) :
    object.after [] = object.initial := rfl

@[simp] theorem after_snoc (object : SharedObject σ op ρ υ)
    (history : List op) (operation : op) :
    object.after (history ++ [operation]) =
      (object.step (object.after history) operation).2 := by
  simp [after]

variable [DecidableEq υ]

/-- The operations a user has issued. -/
def issuedBy (object : SharedObject σ op ρ υ) (user : υ) (history : List op) :
    List op :=
  history.filter fun operation => object.issuer operation = user

/-- The results returned to a user from a state on. -/
def returnedFrom (object : SharedObject σ op ρ υ) (user : υ) :
    σ → List op → List ρ
  | _, [] => []
  | state, operation :: rest =>
      let stepped := object.step state operation
      if object.issuer operation = user then
        stepped.1 :: object.returnedFrom user stepped.2 rest
      else object.returnedFrom user stepped.2 rest

/-- The results returned to a user. -/
def returned (object : SharedObject σ op ρ υ) (user : υ) (history : List op) :
    List ρ :=
  object.returnedFrom user object.initial history

/-- No user notices the others in histories of some kind. -/
structure Isolated (object : SharedObject σ op ρ υ)
    (admissible : List op → Prop) (holds : υ → σ → ι) : Prop where
  returned_eq : ∀ user first second, admissible first → admissible second →
    object.issuedBy user first = object.issuedBy user second →
    object.returned user first = object.returned user second
  kept : ∀ user history operation, admissible (history ++ [operation]) →
    object.issuer operation ≠ user →
    holds user (object.after (history ++ [operation])) =
      holds user (object.after history)

/-- A step of a user is determined by what the object holds for the user, and a
step of another user keeps it, after histories of a kind that may be thinned
out. -/
structure Unwinding (object : SharedObject σ op ρ υ)
    (admissible : List op → Prop) (holds : υ → σ → ι) : Prop where
  shrinks : ∀ {short long : List op}, short.Sublist long →
    admissible long → admissible short
  foreign : ∀ {user history operation}, admissible (history ++ [operation]) →
    object.issuer operation ≠ user →
    holds user (object.step (object.after history) operation).2 =
      holds user (object.after history)
  own : ∀ {first second operation}, admissible (first ++ [operation]) →
    admissible (second ++ [operation]) →
    holds (object.issuer operation) (object.after first) =
      holds (object.issuer operation) (object.after second) →
    (object.step (object.after first) operation).1 =
        (object.step (object.after second) operation).1 ∧
      holds (object.issuer operation)
          (object.step (object.after first) operation).2 =
        holds (object.issuer operation)
          (object.step (object.after second) operation).2

section Steps

variable {object : SharedObject σ op ρ υ}

theorem returnedFrom_append (user : υ) (state : σ) (first second : List op) :
    object.returnedFrom user state (first ++ second) =
      object.returnedFrom user state first ++
        object.returnedFrom user
          (first.foldl (fun state operation => (object.step state operation).2)
            state) second := by
  induction first generalizing state with
  | nil => rfl
  | cons operation rest ih =>
      simp only [List.cons_append, returnedFrom, List.foldl_cons]
      split
      · rw [ih, List.cons_append]
      · exact ih _

theorem returned_snoc_own {user : υ} {operation : op}
    (own : object.issuer operation = user) (history : List op) :
    object.returned user (history ++ [operation]) =
      object.returned user history ++
        [(object.step (object.after history) operation).1] := by
  simp [returned, returnedFrom_append, returnedFrom, own, after]

theorem returned_snoc_foreign {user : υ} {operation : op}
    (foreign : object.issuer operation ≠ user) (history : List op) :
    object.returned user (history ++ [operation]) =
      object.returned user history := by
  simp [returned, returnedFrom_append, returnedFrom, foreign]

variable {admissible : List op → Prop} {holds : υ → σ → ι}

/-- A history answers a user, and leaves to hold for the user, what the user's
operations alone do. -/
theorem Unwinding.returned_issuedBy
    (unwinding : object.Unwinding admissible holds) {user : υ}
    {history : List op} (permitted : admissible history) :
    object.returned user history =
        object.returned user (object.issuedBy user history) ∧
      holds user (object.after history) =
        holds user (object.after (object.issuedBy user history)) := by
  induction history using List.reverseRecOn with
  | nil => exact ⟨rfl, rfl⟩
  | append_singleton history operation ih =>
      have before :=
        ih (unwinding.shrinks (List.sublist_append_left _ _) permitted)
      by_cases mine : object.issuer operation = user
      · have purged : object.issuedBy user (history ++ [operation]) =
            object.issuedBy user history ++ [operation] := by
          simp [issuedBy, mine]
        have shorter : admissible (object.issuedBy user history ++
            [operation]) := by
          rw [← purged]
          exact unwinding.shrinks List.filter_sublist permitted
        subst mine
        have step := unwinding.own permitted shorter before.2
        rw [purged, returned_snoc_own rfl, returned_snoc_own rfl, after_snoc,
          after_snoc, before.1, step.1]
        exact ⟨rfl, step.2⟩
      · have purged : object.issuedBy user (history ++ [operation]) =
            object.issuedBy user history := by
          simp [issuedBy, mine]
        rw [purged, returned_snoc_foreign mine, after_snoc,
          unwinding.foreign permitted mine]
        exact before

/-- Steps that respect what is held isolate the users. -/
theorem Unwinding.isolated (unwinding : object.Unwinding admissible holds) :
    object.Isolated admissible holds := by
  constructor
  · intro user first second permitted permitted' same
    rw [(unwinding.returned_issuedBy permitted).1,
      (unwinding.returned_issuedBy permitted').1, same]
  · intro user history operation permitted others
    rw [after_snoc]
    exact unwinding.foreign permitted others

/-- The same when the steps respect what is held in any state. -/
theorem isolated_of_steps
    (foreign : ∀ user state operation, object.issuer operation ≠ user →
      holds user (object.step state operation).2 = holds user state)
    (own : ∀ first second operation,
      holds (object.issuer operation) first =
        holds (object.issuer operation) second →
      (object.step first operation).1 = (object.step second operation).1 ∧
        holds (object.issuer operation) (object.step first operation).2 =
          holds (object.issuer operation) (object.step second operation).2) :
    object.Isolated (fun _ => True) holds :=
  Unwinding.isolated
    { shrinks := fun _ _ => trivial
      foreign := fun _ others => foreign _ _ _ others
      own := fun _ _ same => own _ _ _ same }

end Steps

end SharedObject

end PrivateAiWorkspace.Effects
