import Mathlib.Algebra.GroupWithZero.Nat
import Mathlib.Data.List.Basic

/-!
# Values of the type `uuid`

A `uuid` has 16 octets. It is written in lower case with four hyphens, and read
more freely: in either case, with or without braces, and with a hyphen after any
two octets.
-/

namespace PrivateAiWorkspace.Postgres

/-- An octet by its two hexadecimal digits. -/
abbrev Octet := Fin 16 × Fin 16

/-- Digits of an octet are written as numerals. -/
instance neZero_sixteen : NeZero 16 := ⟨by decide⟩

/-- A `uuid`. -/
structure Uuid where
  octets : List Octet
  length_eq : octets.length = 16
  deriving DecidableEq, Repr

namespace Uuid

/-- A `uuid` of equal octets. -/
def repeated (octet : Octet) : Uuid := ⟨List.replicate 16 octet, rfl⟩

/-! ## Writing -/

/-- A hexadecimal digit in lower case. -/
def hexDigit (digit : Fin 16) : Char := Nat.digitChar digit

/-- A hyphen stands where 12, 10, 8 or 6 octets are left to write. -/
def hyphenated (left : Nat) : Bool :=
  left = 12 || left = 10 || left = 8 || left = 6

/-- The characters of some octets, of which the last is the last of a `uuid`. -/
def spell : List Octet → List Char
  | [] => []
  | (high, low) :: rest =>
      hexDigit high :: hexDigit low ::
        if hyphenated rest.length then '-' :: spell rest else spell rest

/-- The text of a `uuid`. -/
def text (uuid : Uuid) : String := String.ofList (spell uuid.octets)

/-! ## Reading -/

/-- The value of a hexadecimal digit of either case. -/
def hexValue (c : Char) : Option (Fin 16) :=
  if '0' ≤ c ∧ c ≤ '9' then some (Fin.ofNat 16 (c.toNat - 48))
  else if 'a' ≤ c ∧ c ≤ 'f' then some (Fin.ofNat 16 (c.toNat - 87))
  else if 'A' ≤ c ∧ c ≤ 'F' then some (Fin.ofNat 16 (c.toNat - 55))
  else none

/-- After an even number of octets, but not after the last, a hyphen is skipped. -/
def skipHyphen (left : Nat) : List Char → List Char
  | '-' :: rest => if left % 2 = 0 ∧ 0 < left then rest else '-' :: rest
  | rest => rest

/-- Read some octets; what follows them is left. -/
def scan : Nat → List Char → Option (List Octet × List Char)
  | 0, rest => some ([], rest)
  | left + 1, high :: low :: rest => do
      let high ← hexValue high
      let low ← hexValue low
      let (octets, rest) ← scan left (skipHyphen left rest)
      return ((high, low) :: octets, rest)
  | _ + 1, _ => none

/-- Read 16 octets, in braces or without. -/
def scanBraced : List Char → Option (List Octet × List Char)
  | '\x7b' :: braced =>
      match scan 16 braced with
      | some (octets, '\x7d' :: rest) => some (octets, rest)
      | _ => none
  | plain => scan 16 plain

/-- `uuid_in`. -/
def ofText? (text : String) : Option Uuid :=
  match scanBraced text.toList with
  | some (octets, []) =>
      if length_eq : octets.length = 16 then some ⟨octets, length_eq⟩ else none
  | _ => none

/-- A text as a `uuid` is written. -/
def IsCanonical (text : String) : Prop := ∃ uuid : Uuid, text = uuid.text

/-! ## What is written is read -/

theorem hexValue_hexDigit : ∀ digit, hexValue (hexDigit digit) = some digit := by
  decide

theorem hexDigit_ne_hyphen : ∀ digit, hexDigit digit ≠ '-' := by
  decide

theorem hexDigit_ne_brace : ∀ digit, hexDigit digit ≠ '\x7b' := by
  decide

theorem skipHyphen_hexDigit (left : Nat) (digit : Fin 16) (rest : List Char) :
    skipHyphen left (hexDigit digit :: rest) = hexDigit digit :: rest := by
  rw [skipHyphen]
  intro _ hyphen
  exact hexDigit_ne_hyphen digit (List.cons.inj hyphen).1

/-- Hyphens are only written where they are skipped. -/
theorem skipHyphen_spell (octets : List Octet) (rest : List Char) :
    skipHyphen octets.length
        ((if hyphenated octets.length then '-' :: spell octets else spell octets) ++
          rest) =
      if octets = [] then skipHyphen 0 rest else spell octets ++ rest := by
  cases octets with
  | nil => rfl
  | cons octet octets =>
      rw [if_neg (List.cons_ne_nil octet octets)]
      split
      next hyphen =>
        have even : (octet :: octets).length % 2 = 0 ∧ 0 < (octet :: octets).length := by
          simp only [hyphenated, Bool.or_eq_true, decide_eq_true_eq] at hyphen
          omega
        rw [List.cons_append, skipHyphen, if_pos even]
      · exact skipHyphen_hexDigit _ _ _

theorem skipHyphen_zero (rest : List Char) : skipHyphen 0 rest = rest := by
  rw [skipHyphen.eq_def]
  split
  · rw [if_neg (by decide)]
  · rfl

theorem scan_spell (octets : List Octet) (rest : List Char) :
    scan octets.length (spell octets ++ rest) = some (octets, rest) := by
  induction octets with
  | nil => rfl
  | cons octet octets ih =>
      have skipped := skipHyphen_spell octets rest
      have read : scan octets.length (skipHyphen octets.length
          ((if hyphenated octets.length then '-' :: spell octets
            else spell octets) ++ rest)) = some (octets, rest) := by
        rw [skipped]
        split
        next none => rw [none, skipHyphen_zero, List.length_nil, scan]
        · exact ih
      simp only [List.length_cons, spell, List.cons_append, scan, hexValue_hexDigit,
        Option.bind_eq_bind, Option.bind_some, read]
      rfl

/-- A `uuid` is read back from its text. -/
@[simp] theorem ofText?_text (uuid : Uuid) : ofText? uuid.text = some uuid := by
  rcases uuid with ⟨octets, length_eq⟩
  have scanned : scan 16 (spell octets) = some (octets, []) := by
    have whole := scan_spell octets []
    rwa [List.append_nil, length_eq] at whole
  have plain : scanBraced (spell octets) = scan 16 (spell octets) := by
    cases octets with
    | nil => rfl
    | cons octet octets =>
        rw [spell, scanBraced]
        intro _ brace
        exact hexDigit_ne_brace _ (List.cons.inj brace).1
  simp [ofText?, text, plain, scanned, length_eq]

theorem text_injective {left right : Uuid} (same : left.text = right.text) :
    left = right := by
  have read := congrArg ofText? same
  rwa [ofText?_text, ofText?_text, Option.some.injEq] at read

theorem isCanonical_text (uuid : Uuid) : IsCanonical uuid.text := ⟨uuid, rfl⟩

instance (text : String) : Decidable (IsCanonical text) :=
  match read : ofText? text with
  | none => .isFalse (by
      intro canonical
      rcases canonical with ⟨uuid, rfl⟩
      rw [ofText?_text] at read
      cases read)
  | some uuid =>
      if same : text = uuid.text then .isTrue ⟨uuid, same⟩
      else .isFalse (by
        intro canonical
        rcases canonical with ⟨other, rfl⟩
        rw [ofText?_text] at read
        exact same (congrArg Uuid.text (Option.some.inj read)))

end Uuid

end PrivateAiWorkspace.Postgres
