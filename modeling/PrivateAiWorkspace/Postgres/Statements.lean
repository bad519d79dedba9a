import Mathlib.Data.List.Nodup
import PrivateAiWorkspace.Postgres.Uuid

/-!
# Statements

Tables are lists of rows in the order of insertion. Parameters are checked as the
driver sends them and the server reads them: a text has no U+0000, a `uuid` can be
read, and the type of each is known. A statement that fails leaves the tables as
they are.
-/

namespace PrivateAiWorkspace.Postgres

/-- Why a statement fails. -/
inductive DatabaseError where
  | dataError
  | invalidTextRepresentation
  | indeterminateDatatype
  | numericValueOutOfRange
  | invalidRowCountInLimitClause
  | uniqueViolation
  | foreignKeyViolation
  deriving DecidableEq, Repr

/-! ## Parameters -/

/-- A text without U+0000. -/
def Storable (value : String) : Prop := Char.ofNat 0 ∉ value.toList

instance (value : String) : Decidable (Storable value) :=
  inferInstanceAs (Decidable (Char.ofNat 0 ∉ value.toList))

/-- A parameter of type `text`. -/
def textParameter (value : String) : Except DatabaseError String :=
  if Storable value then .ok value else .error .dataError

/-- A parameter of type `text` that may be `NULL`. -/
def textOrNull : Option String → Except DatabaseError (Option String)
  | none => .ok none
  | some value => (textParameter value).map some

/-- A parameter of type `uuid`, sent as a text. -/
def uuidParameter (value : String) : Except DatabaseError Uuid :=
  match Uuid.ofText? value with
  | some uuid => .ok uuid
  | none =>
      .error (if Storable value then .invalidTextRepresentation else .dataError)

/-- A row count of a `LIMIT`, which is a `bigint`. -/
def limitParameter (count : Int) : Except DatabaseError Nat :=
  if count < -9223372036854775808 ∨ 9223372036854775808 ≤ count then
    .error .numericValueOutOfRange
  else if count < 0 then .error .invalidRowCountInLimitClause
  else .ok count.toNat

/-- Which parameters a driver sends with their types; the server infers the types
of the others from where they stand. -/
structure Driver where
  declaresType : Option String → Bool

/-- The driver `psycopg` sends neither `str` nor `None` with a type. -/
def Driver.psycopg : Driver := ⟨fun _ => false⟩

/-- A driver that sends each text with its type. -/
def Driver.typed : Driver := ⟨fun _ => true⟩

/-- `%s IS NULL`: from where it stands a parameter can have any type. -/
def parameterIsNull (driver : Driver) (parameter : Option String) :
    Except DatabaseError Bool :=
  if driver.declaresType parameter then .ok parameter.isNone
  else .error .indeterminateDatatype

/-- A sequence succeeds if both its parts do. -/
theorem bind_eq_ok_iff {α β : Type} {first : Except DatabaseError α}
    {next : α → Except DatabaseError β} {result : β} :
    (first >>= next) = .ok result ↔
      ∃ value, first = .ok value ∧ next value = .ok result := by
  cases first with
  | ok value => exact ⟨fun done => ⟨value, rfl, done⟩, fun ⟨_, rfl, done⟩ => done⟩
  | error error => exact iff_of_false nofun fun ⟨_, failed, _⟩ => nomatch failed

/-- A sequence fails if one of its parts does. -/
theorem bind_eq_error_iff {α β : Type} {first : Except DatabaseError α}
    {next : α → Except DatabaseError β} {error : DatabaseError} :
    (first >>= next) = .error error ↔
      first = .error error ∨ ∃ value, first = .ok value ∧ next value = .error error := by
  cases first with
  | ok value =>
      constructor
      · intro failed
        exact Or.inr ⟨value, rfl, failed⟩
      · intro either
        rcases either with failed | ⟨_, same, failed⟩
        · cases failed
        · cases same
          exact failed
  | error other =>
      constructor
      · intro failed
        cases failed
        exact Or.inl rfl
      · intro either
        rcases either with failed | ⟨_, same, _⟩
        · cases failed
          rfl
        · cases same

theorem textParameter_eq_ok_iff {value result : String} :
    textParameter value = .ok result ↔ Storable value ∧ value = result := by
  rw [textParameter]
  split
  next storable => simp [storable]
  next unstorable => simp [unstorable]

theorem textOrNull_eq_ok_iff {value result : Option String} :
    textOrNull value = .ok result ↔
      (∀ text ∈ value, Storable text) ∧ value = result := by
  cases value with
  | none => simp [textOrNull]
  | some text =>
      by_cases storable : Storable text
      · simp [textOrNull, textParameter, storable, Except.map]
      · simp [textOrNull, textParameter, storable, Except.map]

theorem uuidParameter_eq_ok_iff {value : String} {uuid : Uuid} :
    uuidParameter value = .ok uuid ↔ Uuid.ofText? value = some uuid := by
  rw [uuidParameter]
  cases Uuid.ofText? value <;> simp

theorem limitParameter_eq_ok_iff {count : Int} {result : Nat} :
    limitParameter count = .ok result ↔
      0 ≤ count ∧ count < 9223372036854775808 ∧ count.toNat = result := by
  rw [limitParameter]
  split
  next outside => exact iff_of_false nofun (by omega)
  next inside =>
    split
    next negative => exact iff_of_false nofun (by omega)
    next =>
      rw [Except.ok.injEq]
      exact ⟨fun same => ⟨by omega, by omega, same⟩, fun fits => fits.2.2⟩

theorem parameterIsNull_eq_ok_iff {driver : Driver} {parameter : Option String}
    {result : Bool} :
    parameterIsNull driver parameter = .ok result ↔
      driver.declaresType parameter = true ∧ parameter.isNone = result := by
  rw [parameterIsNull]
  split
  next declared => simp [declared]
  next undeclared => simp [undeclared]

/-! ## Tables -/

section Tables

variable {α : Type}

/-- `INSERT … ON CONFLICT (id) DO NOTHING`. -/
def insertNew (key : α → Uuid) (row : α) (rows : List α) : List α :=
  if rows.any fun other => key other = key row then rows else rows ++ [row]

/-- `INSERT` into a table with a primary key. -/
def insertUnique (key : α → Uuid) (row : α) (rows : List α) :
    Except DatabaseError (List α) :=
  if rows.any fun other => key other = key row then .error .uniqueViolation
  else .ok (rows ++ [row])

/-- A foreign key refers to a row. -/
def checkReference (key : α → Uuid) (reference : Uuid) (rows : List α) :
    Except DatabaseError Unit :=
  if rows.any fun row => key row = reference then .ok ()
  else .error .foreignKeyViolation

/-- `UPDATE … RETURNING`: the updated rows and the table. -/
def updateWhere (meant : α → Bool) (edit : α → α) (rows : List α) :
    List α × List α :=
  ((rows.filter meant).map edit,
    rows.map fun row => if meant row then edit row else row)

/-- `DELETE`: the number of rows deleted and the table. -/
def deleteWhere (meant : α → Bool) (rows : List α) : Nat × List α :=
  (rows.countP meant, rows.filter fun row => !meant row)

/-- `SELECT … ORDER BY … DESC`. -/
def selectLatest (meant : α → Bool) (key : α → Nat) (rows : List α) : List α :=
  (rows.filter meant).mergeSort fun left right => key right ≤ key left

/-- `SELECT … ORDER BY … ASC`. -/
def selectEarliest (meant : α → Bool) (key : α → Nat) (rows : List α) : List α :=
  (rows.filter meant).mergeSort fun left right => key left ≤ key right

/-- A transaction that fails is rolled back; one that succeeds is committed and
its result passed on. -/
def transact {β σ : Type} (state : σ) (pass : α → β)
    (outcome : Except DatabaseError (α × σ)) : Except DatabaseError β × σ :=
  match outcome with
  | .ok (result, state) => (.ok (pass result), state)
  | .error error => (.error error, state)

/-- A transaction that only reads. -/
def readOnly {β σ : Type} (state : σ) (pass : α → β)
    (outcome : Except DatabaseError α) : Except DatabaseError β × σ :=
  (outcome.map pass, state)

theorem transact_eq_ok_iff {β σ : Type} {state : σ} {pass : α → β}
    {outcome : Except DatabaseError (α × σ)} {result : β} :
    (transact state pass outcome).1 = .ok result ↔
      ∃ value next, outcome = .ok (value, next) ∧ pass value = result := by
  cases outcome with
  | ok done =>
      rcases done with ⟨value, next⟩
      simp [transact]
  | error error => simp [transact]

theorem readOnly_eq_ok_iff {β σ : Type} {state : σ} {pass : α → β}
    {outcome : Except DatabaseError α} {result : β} :
    (readOnly state pass outcome).1 = .ok result ↔
      ∃ value, outcome = .ok value ∧ pass value = result := by
  cases outcome with
  | ok value => simp [readOnly, Except.map]
  | error error => simp [readOnly, Except.map]

theorem insertNew_of_fresh {key : α → Uuid} {row : α} {rows : List α}
    (fresh : ∀ other ∈ rows, key other ≠ key row) :
    insertNew key row rows = rows ++ [row] := by
  rw [insertNew, if_neg]
  simpa using fresh

theorem insertUnique_eq_ok_iff {key : α → Uuid} {row : α} {rows result : List α} :
    insertUnique key row rows = .ok result ↔
      (∀ other ∈ rows, key other ≠ key row) ∧ rows ++ [row] = result := by
  rw [insertUnique]
  split
  next taken =>
    refine iff_of_false nofun fun free => ?_
    rcases List.any_eq_true.mp taken with ⟨other, member, same⟩
    exact free.1 other member (of_decide_eq_true same)
  next free =>
    rw [Except.ok.injEq]
    refine (and_iff_right fun other member same => free ?_).symm
    exact List.any_eq_true.mpr ⟨other, member, decide_eq_true same⟩

theorem checkReference_eq_ok_iff {key : α → Uuid} {reference : Uuid} {rows : List α}
    {result : Unit} :
    checkReference key reference rows = .ok result ↔
      ∃ row ∈ rows, key row = reference := by
  rw [checkReference]
  split
  next present => simpa using present
  next absent => simpa using absent

/-- Rows with increasing keys have one order in which the keys decrease. -/
theorem selectLatest_of_increasing {meant : α → Bool} {key : α → Nat}
    {rows : List α} (increasing : rows.Pairwise fun left right => key left < key right) :
    selectLatest meant key rows = (rows.filter meant).reverse := by
  have selected : (rows.filter meant).Pairwise fun left right =>
      key left < key right := increasing.sublist List.filter_sublist
  have distinct : ((rows.filter meant).map key).Nodup :=
    (List.pairwise_map.mpr selected).imp Nat.ne_of_lt
  refine @List.Perm.eq_of_pairwise _
    (fun left right => decide (key right ≤ key left) = true) _ _ ?_ ?_ ?_ ?_
  · intro left right mem mem' one other
    apply List.inj_on_of_nodup_map distinct (List.mem_mergeSort.mp mem)
      (List.mem_reverse.mp mem')
    exact Nat.le_antisymm (of_decide_eq_true other) (of_decide_eq_true one)
  · apply List.pairwise_mergeSort
    · intro first second third one two
      simp only [decide_eq_true_eq] at one two ⊢
      exact Nat.le_trans two one
    · intro left right
      simp only [Bool.or_eq_true, decide_eq_true_eq]
      exact Nat.le_total _ _
  · rw [List.pairwise_reverse]
    exact selected.imp fun less => decide_eq_true (Nat.le_of_lt less)
  · exact (List.mergeSort_perm _ _).trans (List.reverse_perm _).symm

/-- Rows with increasing keys are in order. -/
theorem selectEarliest_of_increasing {meant : α → Bool} {key : α → Nat}
    {rows : List α} (increasing : rows.Pairwise fun left right => key left < key right) :
    selectEarliest meant key rows = rows.filter meant := by
  apply List.mergeSort_of_pairwise
  exact (increasing.sublist List.filter_sublist).imp
    fun less => decide_eq_true (Nat.le_of_lt less)

end Tables

end PrivateAiWorkspace.Postgres
