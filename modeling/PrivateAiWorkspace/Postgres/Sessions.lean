import Mathlib.Data.Fintype.Basic
import Mathlib.Logic.Function.Basic
import PrivateAiWorkspace.Effects.Execution
import PrivateAiWorkspace.Effects.Program
import PrivateAiWorkspace.Postgres.Statements

/-!
# Concurrent transactions

Sessions of one server under `READ COMMITTED`. A statement sees the committed tables
with what its own transaction has written. It locks the rows it writes or refers to
until its transaction ends, and it waits as long as another transaction has a
conflicting lock. What a transaction has written is committed in one step; the
transaction of a failed statement is rolled back.
-/

namespace PrivateAiWorkspace.Postgres

open Effects

/-- Locks on a row: of a row that refers to its key, of an update of other columns,
of a deletion. -/
inductive RowLock where
  | keyShare
  | noKeyUpdate
  | update
  deriving DecidableEq

/-- Two transactions cannot have both locks on one row. -/
def RowLock.conflicts : RowLock → RowLock → Bool
  | .keyShare, .keyShare => false
  | .keyShare, .noKeyUpdate => false
  | .noKeyUpdate, .keyShare => false
  | _, _ => true

theorem RowLock.conflicts_comm (one other : RowLock) :
    one.conflicts other = other.conflicts one := by
  cases one <;> cases other <;> rfl

section Sessions

variable {interface : Interface} {ι κ τ α : Type}

/-- What the server does for a statement in the tables the statement sees: the rows
it locks, and its answer with what it writes. -/
structure StatementSemantics (interface : Interface) (κ τ : Type) where
  locks : interface.Call → τ → List (κ × RowLock)
  execute : (statement : interface.Call) → τ →
    Except DatabaseError (interface.Answer statement × (τ → τ))

/-- Calls of a connection. -/
inductive ConnectionCall (interface : Interface) where
  | execute (statement : interface.Call)
  | commit

/-- A connection for the statements of an interface. -/
def connection (interface : Interface) : Interface where
  Call := ConnectionCall interface
  Answer
    | .execute statement => interface.Answer statement
    | .commit => Unit

/-- `conn.execute`. -/
def execute (statement : interface.Call) :
    Program (connection interface) DatabaseError (interface.Answer statement) :=
  @Program.perform (connection interface) DatabaseError (.execute statement)

/-- `conn.commit`. -/
def commit : Program (connection interface) DatabaseError Unit :=
  @Program.perform (connection interface) DatabaseError .commit

/-- What a transaction has locked and written. -/
structure Transaction (κ τ : Type) where
  locks : List (κ × RowLock)
  writes : τ → τ

/-- A transaction without statements. -/
def Transaction.begun : Transaction κ τ := ⟨[], id⟩

/-- The committed tables, and the transaction and the program of each session. -/
structure Sessions (interface : Interface) (ι κ τ α : Type) where
  committed : τ
  transactions : ι → Transaction κ τ
  programs : ι → Program (connection interface) DatabaseError α

namespace Sessions

/-- Each program in front of its first statement. -/
def start (tables : τ) (programs : ι → Program (connection interface) DatabaseError α) :
    Sessions interface ι κ τ α :=
  ⟨tables, fun _ => .begun, programs⟩

/-- What the statements of a session see. -/
def visible (sessions : Sessions interface ι κ τ α) (session : ι) : τ :=
  (sessions.transactions session).writes sessions.committed

/-- Another transaction has a lock in the way of some locks. -/
def Blocked (sessions : Sessions interface ι κ τ α) (session : ι)
    (locks : List (κ × RowLock)) : Prop :=
  ∃ other, other ≠ session ∧ ∃ held ∈ (sessions.transactions other).locks,
    ∃ lock ∈ locks, held.1 = lock.1 ∧ held.2.conflicts lock.2 = true

instance [Fintype ι] [DecidableEq ι] [DecidableEq κ]
    (sessions : Sessions interface ι κ τ α) (session : ι)
    (locks : List (κ × RowLock)) : Decidable (sessions.Blocked session locks) :=
  inferInstanceAs (Decidable (∃ other, other ≠ session ∧
    ∃ held ∈ (sessions.transactions other).locks,
      ∃ lock ∈ locks, held.1 = lock.1 ∧ held.2.conflicts lock.2 = true))

/-- Each program has ended. -/
def Complete (sessions : Sessions interface ι κ τ α) : Prop :=
  ∀ session, (sessions.programs session).outcome?.isSome

instance [Fintype ι] (sessions : Sessions interface ι κ τ α) :
    Decidable sessions.Complete :=
  inferInstanceAs (Decidable (∀ session,
    (sessions.programs session).outcome?.isSome = true))

variable [DecidableEq ι]

/-- A session goes on with another transaction and program. -/
def resume (sessions : Sessions interface ι κ τ α) (session : ι)
    (transaction : Transaction κ τ)
    (program : Program (connection interface) DatabaseError α) :
    Sessions interface ι κ τ α :=
  { sessions with
    transactions := Function.update sessions.transactions session transaction
    programs := Function.update sessions.programs session program }

/-- The server answers the call of one session. -/
inductive Step (semantics : StatementSemantics interface κ τ) :
    Sessions interface ι κ τ α → ι → Sessions interface ι κ τ α → Prop where
  | executed {sessions : Sessions interface ι κ τ α} {session : ι}
      {statement : interface.Call}
      {next : Except DatabaseError (interface.Answer statement) →
        Program (connection interface) DatabaseError α}
      {answer : interface.Answer statement} {write : τ → τ} :
      sessions.programs session = .call (.execute statement) next →
      ¬ sessions.Blocked session
        (semantics.locks statement (sessions.visible session)) →
      semantics.execute statement (sessions.visible session) = .ok (answer, write) →
      Step semantics sessions session
        (sessions.resume session
          ⟨semantics.locks statement (sessions.visible session) ++
            (sessions.transactions session).locks,
            write ∘ (sessions.transactions session).writes⟩
          (next (.ok answer)))
  | failed {sessions : Sessions interface ι κ τ α} {session : ι}
      {statement : interface.Call}
      {next : Except DatabaseError (interface.Answer statement) →
        Program (connection interface) DatabaseError α}
      {error : DatabaseError} :
      sessions.programs session = .call (.execute statement) next →
      ¬ sessions.Blocked session
        (semantics.locks statement (sessions.visible session)) →
      semantics.execute statement (sessions.visible session) = .error error →
      Step semantics sessions session
        (sessions.resume session .begun (next (.error error)))
  | committed {sessions : Sessions interface ι κ τ α} {session : ι}
      {next : Except DatabaseError Unit →
        Program (connection interface) DatabaseError α} :
      sessions.programs session = .call .commit next →
      Step semantics sessions session
        { sessions.resume session .begun (next (.ok ())) with
          committed := sessions.visible session }

/-! ## What a step does -/

variable {semantics : StatementSemantics interface κ τ}
  {source target : Sessions interface ι κ τ α} {session : ι}

/-- A step of a session in front of a statement. -/
theorem Step.of_execute (step : Step semantics source session target)
    {statement : interface.Call}
    {next : Except DatabaseError (interface.Answer statement) →
      Program (connection interface) DatabaseError α}
    (issued : source.programs session = .call (.execute statement) next) :
    (∃ answer write,
      semantics.execute statement (source.visible session) = .ok (answer, write) ∧
      target = source.resume session
        ⟨semantics.locks statement (source.visible session) ++
          (source.transactions session).locks,
          write ∘ (source.transactions session).writes⟩ (next (.ok answer))) ∨
    ∃ error,
      semantics.execute statement (source.visible session) = .error error ∧
      target = source.resume session .begun (next (.error error)) := by
  cases step with
  | executed issued' free done =>
      cases issued.symm.trans issued'
      exact Or.inl ⟨_, _, done, rfl⟩
  | failed issued' free failed =>
      cases issued.symm.trans issued'
      exact Or.inr ⟨_, failed, rfl⟩
  | committed issued' => cases issued.symm.trans issued'

/-- A step of a session in front of a commit. -/
theorem Step.of_commit (step : Step semantics source session target)
    {next : Except DatabaseError Unit →
      Program (connection interface) DatabaseError α}
    (issued : source.programs session = .call .commit next) :
    target = { source.resume session .begun (next (.ok ())) with
      committed := source.visible session } := by
  cases step with
  | executed issued' => cases issued.symm.trans issued'
  | failed issued' => cases issued.symm.trans issued'
  | committed issued' =>
      cases issued.symm.trans issued'
      rfl

/-- An ended program takes no step. -/
theorem Step.not_ended (step : Step semantics source session target) :
    (source.programs session).outcome? = none := by
  cases step with
  | executed issued => rw [issued]; rfl
  | failed issued => rw [issued]; rfl
  | committed issued => rw [issued]; rfl

/-- A step leaves the other transactions and programs. -/
theorem Step.others (step : Step semantics source session target) {other : ι}
    (different : other ≠ session) :
    target.transactions other = source.transactions other ∧
      target.programs other = source.programs other := by
  cases step with
  | executed =>
      exact ⟨Function.update_of_ne different _ _, Function.update_of_ne different _ _⟩
  | failed =>
      exact ⟨Function.update_of_ne different _ _, Function.update_of_ne different _ _⟩
  | committed =>
      exact ⟨Function.update_of_ne different _ _, Function.update_of_ne different _ _⟩

/-- No two transactions have conflicting locks. -/
def Compatible (transactions : ι → Transaction κ τ) : Prop :=
  ∀ one other, one ≠ other →
    ∀ held ∈ (transactions one).locks, ∀ lock ∈ (transactions other).locks,
      held.1 = lock.1 → held.2.conflicts lock.2 = false

omit [DecidableEq ι] in
theorem compatible_begun : Compatible fun _ : ι => (.begun : Transaction κ τ) :=
  fun _ _ _ _ member => nomatch member

/-- Locks may be let go, and others acquired that nothing is in the way of. -/
theorem Compatible.update (compatible : Compatible source.transactions)
    {transaction : Transaction κ τ}
    (acquired : ∀ lock ∈ transaction.locks,
      lock ∈ (source.transactions session).locks ∨
        ¬ source.Blocked session [lock]) :
    Compatible (Function.update source.transactions session transaction) := by
  -- It is enough to compare what the session has now with what another one has.
  have beside : ∀ other, other ≠ session →
      ∀ held ∈ (source.transactions other).locks, ∀ lock ∈ transaction.locks,
        held.1 = lock.1 → held.2.conflicts lock.2 = false := by
    intro other different held inHeld lock inLocks same
    rcases acquired lock inLocks with before | free
    · exact compatible other session different held inHeld lock before same
    · by_contra conflict
      exact free ⟨other, different, held, inHeld, lock, List.mem_singleton_self _,
        same, Bool.eq_true_of_not_eq_false conflict⟩
  intro one other different held inHeld lock inLocks same
  by_cases first : one = session
  · subst first
    rw [Function.update_self] at inHeld
    rw [Function.update_of_ne (Ne.symm different)] at inLocks
    rw [RowLock.conflicts_comm]
    exact beside other (Ne.symm different) lock inLocks held inHeld same.symm
  · rw [Function.update_of_ne first] at inHeld
    by_cases second : other = session
    · subst second
      rw [Function.update_self] at inLocks
      exact beside one first held inHeld lock inLocks same
    · rw [Function.update_of_ne second] at inLocks
      exact compatible one other different held inHeld lock inLocks same

/-- A step leaves no conflicting locks. -/
theorem Step.compatible (step : Step semantics source session target)
    (before : Compatible source.transactions) : Compatible target.transactions := by
  cases step with
  | executed _ free _ =>
      apply before.update
      intro lock member
      rcases List.mem_append.mp member with acquired | held
      · refine Or.inr fun blocked => free ?_
        rcases blocked with ⟨other, different, held, inHeld, one, same, conflict⟩
        cases List.mem_singleton.mp same
        exact ⟨other, different, held, inHeld, lock, acquired, conflict⟩
      · exact Or.inl held
  | failed => exact before.update nofun
  | committed => exact before.update nofun

/-! ## Schedules -/

variable [Fintype ι] [DecidableEq κ]

/-- The answer of the server to a session, if nothing is in its way. -/
def serve (semantics : StatementSemantics interface κ τ)
    (sessions : Sessions interface ι κ τ α) (session : ι) :
    Option (Sessions interface ι κ τ α) :=
  match sessions.programs session with
  | .call (.execute statement) next =>
      let locks := semantics.locks statement (sessions.visible session)
      if sessions.Blocked session locks then none
      else match semantics.execute statement (sessions.visible session) with
        | .ok (answer, write) =>
            some (sessions.resume session
              ⟨locks ++ (sessions.transactions session).locks,
                write ∘ (sessions.transactions session).writes⟩ (next (.ok answer)))
        | .error error =>
            some (sessions.resume session .begun (next (.error error)))
  | .call .commit next =>
      some { sessions.resume session .begun (next (.ok ())) with
        committed := sessions.visible session }
  | _ => none

theorem step_of_serve (served : serve semantics source session = some target) :
    Step semantics source session target := by
  rw [serve] at served
  split at served
  next statement next issued =>
    dsimp only at served
    split at served
    next => cases served
    next free =>
      split at served
      next answer write done =>
        cases served
        exact .executed issued free done
      next error failed =>
        cases served
        exact .failed issued free failed
  next next issued =>
    cases served
    exact .committed issued
  next => cases served

/-- Serve sessions in the order of a schedule; a session that has to wait is passed
by. -/
def play (semantics : StatementSemantics interface κ τ) :
    List ι → Sessions interface ι κ τ α →
      List (Transition (Sessions interface ι κ τ α) ι) × Sessions interface ι κ τ α
  | [], sessions => ([], sessions)
  | session :: schedule, sessions =>
      match serve semantics sessions session with
      | none => play semantics schedule sessions
      | some next =>
          let rest := play semantics schedule next
          (⟨sessions, session, next⟩ :: rest.1, rest.2)

/-- A played schedule is an execution. -/
theorem play_execution (schedule : List ι) (sessions : Sessions interface ι κ τ α) :
    Execution (Step semantics) sessions (play semantics schedule sessions).1
      (play semantics schedule sessions).2 := by
  induction schedule generalizing sessions with
  | nil => exact .nil sessions
  | cons session schedule ih =>
      rw [play]
      split
      next => exact ih sessions
      next next served => exact .cons (step_of_serve served) (ih next)

end Sessions

end Sessions

end PrivateAiWorkspace.Postgres
