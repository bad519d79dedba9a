import PrivateAiWorkspace.ControlPlane.Integrations

/-!
# Token responses

`GoogleOAuthRefresh.parse_token` of `integrations_google.py`: what the executor
gets out of a response of the token endpoint, and on which bodies it, or the
expiry computed from what it returns, raises.
-/

namespace PrivateAiWorkspace.ControlPlane

open Effects Python

/-- `int(value)` of a JSON value. `intOf` is `int` of a text, with nothing where
that raises `ValueError`. -/
def intOfJson (intOf : String → Option Int) : Json → Except PyException Int
  | .bool value => .ok (if value then 1 else 0)
  | .int value => .ok value
  | .float value => value.toInt
  | .str text =>
      match intOf text with
      | some value => .ok value
      | none => .error .valueError
  | .null | .arr _ | .obj _ => .error .typeError

namespace GoogleOAuthRefresh

/-- `token if isinstance(token, str) and token else None`. -/
def tokenOf : Json → Option String
  | .str token => if token = "" then none else some token
  | _ => none

/-- `parse_token`. -/
def parseToken (builtins : Builtins) (intOf : String → Option Int) (status : Int)
    (body : Bytes) : Except PyException (Option String × Int) :=
  if status ≠ 200 then .ok (none, 0)
  else
    match builtins.loadsBytes body with
    | .error .valueError => .ok (none, 0)
    | .error error => .error error
    | .ok (.obj data) =>
        let token := Json.get data "access_token"
        match intOfJson intOf (Json.getOr data "expires_in" (.int 0)) with
        | .ok lifetime => .ok (tokenOf token, lifetime)
        | .error .typeError | .error .valueError => .ok (tokenOf token, 0)
        | .error error => .error error
    | .ok _ => .error .attributeError

variable {builtins : Builtins} {intOf : String → Option Int} {status : Int}
  {body : Bytes}

/-- Bodies of a token response with status 200 that are not digested: reading
them raises something else than `ValueError`, they are no object, or the lifetime
of the token is no `int` or does not fit a `float`. -/
inductive Indigestible (builtins : Builtins) (intOf : String → Option Int)
    (body : Bytes) : Prop where
  | unreadable {error : PyException} :
      builtins.loadsBytes body = .error error → error ≠ .valueError →
      Indigestible builtins intOf body
  | noObject {document : Json} :
      builtins.loadsBytes body = .ok document →
      (∀ data, document ≠ .obj data) → Indigestible builtins intOf body
  | endless {data : List (String × Json)} {negative : Bool} :
      builtins.loadsBytes body = .ok (.obj data) →
      Json.getOr data "expires_in" (.int 0) = .float (.infinity negative) →
      Indigestible builtins intOf body
  | tooLong {data : List (String × Json)} {token : String} {lifetime : Int} :
      builtins.loadsBytes body = .ok (.obj data) →
      Json.get data "access_token" = .str token → token ≠ "" →
      intOfJson intOf (Json.getOr data "expires_in" (.int 0)) = .ok lifetime →
      floatOverflow ≤ lifetime - tokenMarginS → Indigestible builtins intOf body

/-- What `int` raises. -/
theorem intOfJson_error {value : Json} {error : PyException}
    (raised : intOfJson intOf value = .error error) :
    error = .typeError ∨ error = .valueError ∨
      error = .overflowError ∧ ∃ negative, value = .float (.infinity negative) := by
  cases value with
  | null | arr | obj =>
      cases raised
      exact Or.inl rfl
  | bool | int => cases raised
  | float value =>
      cases value with
      | finite value => cases raised
      | infinity negative =>
          cases raised
          exact Or.inr (Or.inr ⟨rfl, negative, rfl⟩)
      | nan =>
          cases raised
          exact Or.inr (Or.inl rfl)
  | str text =>
      cases read : intOf text with
      | some value => simp [intOfJson, read] at raised
      | none =>
          simp only [intOfJson, read] at raised
          cases raised
          exact Or.inr (Or.inl rfl)

/-- There is a reading, and the expiry of a token in it can be computed. -/
def Digested : Except PyException (Option String × Int) → Prop
  | .ok (some _, lifetime) => lifetime - tokenMarginS < floatOverflow
  | .ok (none, _) => True
  | .error _ => False

theorem tokenOf_eq_some {value : Json} {token : String}
    (found : tokenOf value = some token) : value = .str token ∧ token ≠ "" := by
  cases value with
  | str text =>
      simp only [tokenOf] at found
      split at found
      · cases found
      · rename_i nonempty
        cases found
        exact ⟨rfl, nonempty⟩
  | null | bool | int | float | arr | obj => cases found

/-- An object with a lifetime. -/
theorem digested_iff_of_lifetime {data : List (String × Json)} {lifetime : Int}
    (loaded : builtins.loadsBytes body = .ok (.obj data))
    (read : intOfJson intOf (Json.getOr data "expires_in" (.int 0)) =
      .ok lifetime) :
    Digested (.ok (tokenOf (Json.get data "access_token"), lifetime)) ↔
      ¬ Indigestible builtins intOf body := by
  cases found : tokenOf (Json.get data "access_token") with
  | none =>
      refine iff_of_true trivial fun indigestible => ?_
      cases indigestible with
      | unreadable failed => cases loaded.symm.trans failed
      | noObject document other =>
          cases loaded.symm.trans document
          exact other data rfl
      | endless document infinite =>
          cases loaded.symm.trans document
          rw [infinite] at read
          cases read
      | tooLong document token nonempty =>
          cases loaded.symm.trans document
          simp [token, tokenOf, nonempty] at found
  | some token =>
      rcases tokenOf_eq_some found with ⟨text, nonempty⟩
      constructor
      · intro near indigestible
        cases indigestible with
        | unreadable failed => cases loaded.symm.trans failed
        | noObject document other =>
            cases loaded.symm.trans document
            exact other data rfl
        | endless document infinite =>
            cases loaded.symm.trans document
            rw [infinite] at read
            cases read
        | tooLong document _ _ same far =>
            cases loaded.symm.trans document
            cases read.symm.trans same
            exact absurd near (Int.not_lt.mpr far)
      · intro digestible
        exact Int.not_le.mp fun far =>
          digestible (.tooLong loaded text nonempty read far)

/-- An object without a lifetime: no token lives for zero seconds too long. -/
theorem digested_iff_of_error {data : List (String × Json)} {error : PyException}
    (loaded : builtins.loadsBytes body = .ok (.obj data))
    (raised : intOfJson intOf (Json.getOr data "expires_in" (.int 0)) =
      .error error) :
    error ≠ .overflowError ↔ ¬ Indigestible builtins intOf body := by
  constructor
  · intro other indigestible
    cases indigestible with
    | unreadable failed => cases loaded.symm.trans failed
    | noObject document different =>
        cases loaded.symm.trans document
        exact different data rfl
    | endless document infinite =>
        cases loaded.symm.trans document
        rw [infinite] at raised
        cases raised
        exact other rfl
    | tooLong document _ _ read =>
        cases loaded.symm.trans document
        cases raised.symm.trans read
  · intro digestible overflow
    rcases intOfJson_error raised with same | same | ⟨_, negative, infinite⟩
    · cases overflow.symm.trans same
    · cases overflow.symm.trans same
    · exact digestible (.endless loaded infinite)

theorem digested_zero (token : Option String) : Digested (.ok (token, 0)) := by
  cases token with
  | none => trivial
  | some token =>
      have positive : 0 < floatOverflow := by decide +kernel
      have margin : tokenMarginS = 60 := rfl
      change (0 : Int) - tokenMarginS < floatOverflow
      omega

/-- What is digested. -/
theorem digested_iff (builtins : Builtins) (intOf : String → Option Int)
    (status : Int) (body : Bytes) :
    Digested (parseToken builtins intOf status body) ↔
      ¬ (status = 200 ∧ Indigestible builtins intOf body) := by
  by_cases success : status = 200
  · subst success
    simp only [parseToken, ne_eq, not_true_eq_false, if_false, true_and]
    cases loaded : builtins.loadsBytes body with
    | error error =>
        by_cases rejected : error = .valueError
        · subst rejected
          refine iff_of_true trivial fun indigestible => ?_
          cases indigestible with
          | unreadable failed other =>
              cases loaded.symm.trans failed
              exact other rfl
          | noObject document => cases loaded.symm.trans document
          | endless document => cases loaded.symm.trans document
          | tooLong document => cases loaded.symm.trans document
        · refine iff_of_false ?_ fun digestible =>
            digestible (.unreadable loaded rejected)
          cases error <;> first | exact id | exact absurd rfl rejected
    | ok document =>
        cases document with
        | null | bool | int | float | str | arr =>
            refine iff_of_false id fun digestible =>
              digestible (.noObject loaded nofun)
        | obj data =>
            dsimp only
            cases read : intOfJson intOf
                (Json.getOr data "expires_in" (.int 0)) with
            | ok lifetime => exact digested_iff_of_lifetime loaded read
            | error error =>
                have judged := digested_iff_of_error loaded read
                rcases intOfJson_error read with rfl | rfl | ⟨rfl, _⟩
                · exact iff_of_true (digested_zero _) (judged.mp nofun)
                · exact iff_of_true (digested_zero _) (judged.mp nofun)
                · exact iff_of_false id fun digestible =>
                    judged.mpr digestible rfl
  · simp only [parseToken, ne_eq, success, not_false_eq_true, if_true, false_and]
    exact iff_of_true trivial trivial

/-- A token in a reading is not empty. -/
theorem parseToken_nonempty {token : String} {lifetime : Int}
    (parsed : parseToken builtins intOf status body =
      .ok (some token, lifetime)) : token ≠ "" := by
  simp only [parseToken] at parsed
  split at parsed
  · cases parsed
  split at parsed
  · cases parsed
  · cases parsed
  · split at parsed
    all_goals
      simp only [Except.ok.injEq, Prod.mk.injEq, reduceCtorEq] at parsed
    all_goals exact (tokenOf_eq_some parsed.1).2
  · cases parsed

end GoogleOAuthRefresh

/-- The expiry of a token is computed unless its lifetime is too long. -/
theorem addSeconds_margin (now : Rat) (lifetime : Int) :
    (∃ expiry, addSeconds now (max 0 (lifetime - tokenMarginS)) = .ok expiry) ∧
        lifetime - tokenMarginS < floatOverflow ∨
      (∃ error, addSeconds now (max 0 (lifetime - tokenMarginS)) =
        .error error) ∧ floatOverflow ≤ lifetime - tokenMarginS := by
  have positive : 0 < floatOverflow := by decide +kernel
  generalize lifetime - tokenMarginS = seconds
  have fits : max 0 seconds < floatOverflow ↔ seconds < floatOverflow := by omega
  have above : -floatOverflow < max 0 seconds := by omega
  by_cases near : seconds < floatOverflow
  · refine Or.inl ⟨⟨now + (max 0 seconds : Int), ?_⟩, near⟩
    simp [addSeconds, fits, above, near]
  · refine Or.inr ⟨⟨.overflowError, ?_⟩, Int.not_lt.mp near⟩
    simp [addSeconds, fits, near]

end PrivateAiWorkspace.ControlPlane
