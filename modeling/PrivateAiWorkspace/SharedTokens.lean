import PrivateAiWorkspace.ControlPlane.ModelRequests.Handlers
import PrivateAiWorkspace.Dispatcher.Server
import PrivateAiWorkspace.Python.Splitting

/-!
# Gates with a shared token

The dispatcher and the endpoints of the reconciler each read a credential from the
`Authorization` header and compare it with a token of their configuration. The
header is a scheme and a credential with white space around and between them. The
comparison refuses text outside ASCII by an error, which only one of the two gates
catches.
-/

namespace PrivateAiWorkspace

open ControlPlane ControlPlane.ModelRequests Dispatcher Effects Python
open PrivateAiWorkspace.Lists

/-- A token as it is configured: ASCII text without white space around it. -/
structure SharedToken where
  text : String
  nonempty : text ≠ ""
  ascii : Str.isAscii text = true
  trimmed : Trimmed Str.isSpace text.toList

/-- A header bears a credential: the scheme is a word that is `bearer` up to its
case, and the credential is the rest without the white space around it. -/
structure Bears (lower : String → String) (header : Option String)
    (credential : String) : Prop where
  nonempty : credential ≠ ""
  trimmed : Trimmed Str.isSpace credential.toList
  parts : ∃ (text scheme : String) (before gap after : List Char),
    header = some text ∧ Str.IsWord scheme ∧ lower scheme = "bearer" ∧
      (∀ c ∈ before, Str.isSpace c = true) ∧ (∀ c ∈ gap, Str.isSpace c = true) ∧
      (∀ c ∈ after, Str.isSpace c = true) ∧ gap ≠ [] ∧
      text.toList = before ++ scheme.toList ++ gap ++ credential.toList ++ after

section Header

variable {lower : String → String} {header : Option String} {credential : String}

theorem bearerToken_eq_some :
    bearerToken lower header = some credential ↔
      ∃ text scheme rest, header = some text ∧
        Str.splitWord text = [scheme, rest] ∧ lower scheme = "bearer" ∧
        Str.strip rest = credential := by
  have cutEmpty : Str.splitWord "" = [] := by decide
  constructor
  · intro found
    rw [bearerToken] at found
    split at found
    next scheme rest cut =>
      split at found
      next isBearer =>
        cases header with
        | none =>
            rw [Option.getD_none, cutEmpty] at cut
            cases cut
        | some text => exact ⟨text, scheme, rest, rfl, cut, isBearer, Option.some.inj found⟩
      next => cases found
    · cases found
  · intro ⟨text, scheme, rest, headerEq, cut, isBearer, stripped⟩
    rw [bearerToken, headerEq, Option.getD_some, cut]
    dsimp only
    rw [if_pos isBearer, stripped]

/-- The token that is read from a header is the credential it bears. -/
theorem bearerToken_eq_some_iff :
    bearerToken lower header = some credential ↔ Bears lower header credential := by
  rw [bearerToken_eq_some]
  constructor
  · intro ⟨text, scheme, rest, headerEq, cut, isBearer, stripped⟩
    rcases Str.splitWord_eq_pair_iff.mp cut with
      ⟨isWord, rest_ne, starts, before, gap, blanks, between, gap_ne, split⟩
    have core : credential.toList = trim Str.isSpace rest.toList := by
      rw [← stripped, Str.toList_strip]
    rcases exists_trim Str.isSpace rest.toList with
      ⟨lead, after, leading, trailing, whole⟩
    -- Nothing is cut in front: the rest begins with no blank.
    have noLead : lead = [] := by
      cases lead with
      | nil => rfl
      | cons first others =>
          have letter := starts first (by rw [whole]; rfl)
          rw [leading first List.mem_cons_self] at letter
          cases letter
    have begun : rest.toList ≠ [] := by simpa using rest_ne
    refine ⟨?_, core ▸ trimmed_trim _ rest.toList, text, scheme, before, gap, after,
      headerEq, isWord, isBearer, blanks, between, trailing, gap_ne, ?_⟩
    · intro empty
      rcases List.exists_cons_of_ne_nil begun with ⟨first, others, shape⟩
      have letter := starts first (by rw [shape]; rfl)
      have among : first ∈ rest.toList := by rw [shape]; exact List.mem_cons_self
      apply trim_ne_nil among letter
      rw [← core, empty]
      rfl
    · rw [split, core, List.append_assoc _ (trim Str.isSpace rest.toList) after]
      conv_lhs => rw [whole, noLead, List.nil_append]
  · intro bears
    rcases bears.parts with ⟨text, scheme, before, gap, after, headerEq, isWord,
      isBearer, blanks, between, trailing, gap_ne, split⟩
    have begun : credential.toList ≠ [] := by simpa using bears.nonempty
    refine ⟨text, scheme, String.ofList (credential.toList ++ after), headerEq,
      Str.splitWord_eq_pair_iff.mpr ⟨isWord, ?_, ?_, before, gap, blanks, between,
        gap_ne, ?_⟩, isBearer, ?_⟩
    · intro empty
      have none := String.ofList_eq_empty_iff.mp empty
      exact begun (List.append_eq_nil_iff.mp none).1
    · intro first found
      rw [String.toList_ofList, List.head?_append_of_ne_nil _ begun] at found
      exact bears.trimmed.head first found
    · rw [split, String.toList_ofList, List.append_assoc _ credential.toList]
    · rw [← String.toList_inj, Str.toList_strip, String.toList_ofList]
      exact @trim_append_of_trimmed _ Str.isSpace [] _ _ (fun _ none => nomatch none)
        trailing begun bears.trimmed

/-- A header bears at most one credential. -/
theorem Bears.unique {other : String} (bears : Bears lower header credential)
    (also : Bears lower header other) : credential = other := by
  have first := bearerToken_eq_some_iff.mpr bears
  rw [bearerToken_eq_some_iff.mpr also] at first
  exact (Option.some.inj first).symm

end Header

/-! ## The gate of the dispatcher -/

/-- `build_run_response` behind its gate. -/
def acceptedRun (builtins : Builtins) (polls : Nat) (body : Bytes)
    (config : DispatcherConfig) : Dispatch (Option JsonResponse) := do
  match ← Program.ofExcept (loadRun builtins body) with
  | .error response => return some response
  | .ok run =>
      let outcome ← runRequest builtins config polls run
      return outcome.map fun outcome => (.ok, outcomePayload outcome)

/-- The answer of the dispatcher to a caller without the shared token. -/
def refusedRun : Dispatch (Option JsonResponse) :=
  .ret (some (.unauthorized, refusal "unauthorized"))

section Dispatcher

variable {builtins : Builtins} {polls : Nat} {header : Option String} {body : Bytes}
  {config : DispatcherConfig} {token : SharedToken}

theorem bearer_of_bears {credential : String}
    (bears : Bears builtins.lower header credential) :
    bearer builtins.lower header = some credential := by
  rw [bearer, bearerToken_eq_some_iff.mpr bears]
  split
  next empty => exact absurd (Option.some.inj empty) bears.nonempty
  next => rfl

theorem bearer_eq_none (bare : ∀ credential, ¬ Bears builtins.lower header credential) :
    bearer builtins.lower header = none := by
  cases read : bearerToken builtins.lower header with
  | none => rw [bearer, read]
  | some credential => exact absurd (bearerToken_eq_some_iff.mp read) (bare credential)

/-- With a token configured, the gate goes by the credential that is presented. -/
theorem prepareRun_of_token :
    prepareRun builtins header body { config with token := some token.text } =
      match bearer builtins.lower header with
      | none => .ok (.error (.unauthorized, refusal "unauthorized"))
      | some presented =>
          match compareDigest presented token.text with
          | .error error => .error error
          | .ok false => .ok (.error (.unauthorized, refusal "unauthorized"))
          | .ok true => loadRun builtins body := by
  rw [prepareRun]
  split
  next none => cases none
  next empty => exact absurd (Option.some.inj empty) token.nonempty
  next same =>
    cases Option.some.inj same
    rfl

theorem buildRunResponse_of_error {error : PyException}
    (raised : prepareRun builtins header body config = .error error) :
    buildRunResponse builtins polls header body config = .raise error := by
  rw [buildRunResponse, raised]
  rfl

theorem buildRunResponse_of_refused
    (refused : prepareRun builtins header body config =
      .ok (.error (.unauthorized, refusal "unauthorized"))) :
    buildRunResponse builtins polls header body config = refusedRun := by
  rw [buildRunResponse, refused]
  rfl

theorem compareDigest_ascii {presented : String}
    (ascii : Str.isAscii presented = true) :
    compareDigest presented token.text = .ok (presented == token.text) := by
  simp [compareDigest, ascii, token.ascii]

theorem buildRunResponse_accepted (bears : Bears builtins.lower header token.text) :
    buildRunResponse builtins polls header body
        { config with token := some token.text } =
      acceptedRun builtins polls body config := by
  have passed : prepareRun builtins header body
      { config with token := some token.text } = loadRun builtins body := by
    rw [prepareRun_of_token, bearer_of_bears bears]
    dsimp only
    rw [compareDigest_ascii token.ascii, beq_self_eq_true]
  rw [buildRunResponse, passed]
  rfl

theorem buildRunResponse_refused (bare : ¬ Bears builtins.lower header token.text)
    (ascii : ∀ credential, Bears builtins.lower header credential →
      Str.isAscii credential = true) :
    buildRunResponse builtins polls header body
        { config with token := some token.text } = refusedRun := by
  apply buildRunResponse_of_refused
  rw [prepareRun_of_token]
  by_cases some : ∃ credential, Bears builtins.lower header credential
  · rcases some with ⟨credential, bears⟩
    have different : (credential == token.text) = false := by
      rw [beq_eq_false_iff_ne]
      intro same
      exact bare (same ▸ bears)
    rw [bearer_of_bears bears]
    dsimp only
    rw [compareDigest_ascii (ascii credential bears), different]
  · rw [bearer_eq_none fun credential bears => some ⟨credential, bears⟩]

/-- A credential outside ASCII is not refused: the comparison raises. -/
theorem buildRunResponse_raises {credential : String}
    (bears : Bears builtins.lower header credential)
    (foreign : Str.isAscii credential = false) :
    buildRunResponse builtins polls header body
        { config with token := some token.text } = .raise .typeError := by
  apply buildRunResponse_of_error
  rw [prepareRun_of_token, bearer_of_bears bears]
  dsimp only
  have refuses : compareDigest credential token.text = .error .typeError := by
    simp [compareDigest, foreign]
  rw [refuses]

end Dispatcher

/-! ## The gate of the control plane -/

/-- `hmac.compare_digest(presented, expected)` with its `TypeError` caught. -/
def comparesEqual (presented expected : String) : Bool :=
  match compareDigest presented expected with
  | .ok same => same
  | .error _ => false

section ControlPlane

variable {lower : String → String} {header : Option String}
  {config : ModelInstallConfig} {token : SharedToken}

/-- The gate of the reconciler compares like the dispatcher, and catches the
error. -/
theorem verifyReconcilerToken_of_token :
    verifyReconcilerToken lower header
        { config with modelInstallerToken := some token.text } =
      match bearerToken lower header with
      | none => false
      | some presented => comparesEqual presented token.text := by
  rw [verifyReconcilerToken]
  cases bearerToken lower header with
  | none => rfl
  | some presented =>
      have nonempty : (token.text != "") = true := bne_iff_ne.mpr token.nonempty
      dsimp only
      rw [nonempty, comparesEqual, compareDigest]
      cases ascii : Str.isAscii presented with
      | false => rfl
      | true =>
          rw [token.ascii]
          rfl

theorem verifyReconcilerToken_iff :
    verifyReconcilerToken lower header
        { config with modelInstallerToken := some token.text } = true ↔
      Bears lower header token.text := by
  rw [verifyReconcilerToken_of_token]
  cases read : bearerToken lower header with
  | none =>
      refine ⟨(fun accepted => nomatch accepted), fun bears => ?_⟩
      rw [bearerToken_eq_some_iff.mpr bears] at read
      cases read
  | some presented =>
      have bears := bearerToken_eq_some_iff.mp read
      dsimp only
      rw [comparesEqual, compareDigest, token.ascii, Bool.and_true]
      cases ascii : Str.isAscii presented with
      | false =>
          refine ⟨(fun accepted => nomatch accepted), fun also => ?_⟩
          rw [bears.unique also, token.ascii] at ascii
          cases ascii
      | true =>
          rw [if_pos rfl]
          dsimp only
          rw [beq_iff_eq]
          exact ⟨fun same => same ▸ bears, fun also => bears.unique also⟩

end ControlPlane

/-! ## Both gates -/

/-- The two gates are exact for a header: behind each comes a caller who bears the
token, and everyone else gets its refusal. -/
structure GatesExact (builtins : Builtins) (token : SharedToken)
    (header : Option String) : Prop where
  runAccepts : Bears builtins.lower header token.text →
    ∀ (polls : Nat) (body : Bytes) (config : DispatcherConfig),
    buildRunResponse builtins polls header body
        { config with token := some token.text } =
      acceptedRun builtins polls body config
  runRefuses : ¬ Bears builtins.lower header token.text →
    ∀ (polls : Nat) (body : Bytes) (config : DispatcherConfig),
    buildRunResponse builtins polls header body
        { config with token := some token.text } = refusedRun
  reconciler : ∀ config : ModelInstallConfig,
    verifyReconcilerToken builtins.lower header
        { config with modelInstallerToken := some token.text } = true ↔
      Bears builtins.lower header token.text

/-- The gates are exact for the headers that bear no credential outside ASCII: for
the others the dispatcher raises. -/
theorem shared_token_gates_exact_iff (builtins : Builtins) (token : SharedToken)
    (header : Option String) :
    GatesExact builtins token header ↔
      ∀ credential, Bears builtins.lower header credential →
        Str.isAscii credential = true := by
  constructor
  · intro exact credential bears
    by_contra foreign
    have outside := Bool.eq_false_iff.mpr foreign
    have bare : ¬ Bears builtins.lower header token.text := by
      intro also
      rw [bears.unique also, token.ascii] at outside
      cases outside
    have refused := exact.runRefuses bare 0 [] ⟨none, "", "", "", "", "", 0, 0⟩
    rw [buildRunResponse_raises bears outside] at refused
    cases refused
  · intro ascii
    exact {
      runAccepts := fun bears _ _ _ => buildRunResponse_accepted bears
      runRefuses := fun bare _ _ _ => buildRunResponse_refused bare ascii
      reconciler := fun _ => verifyReconcilerToken_iff }

/-- A token of six letters. -/
def secretToken : SharedToken where
  text := "secret"
  nonempty := by decide
  ascii := by decide
  trimmed := by
    constructor
    · intro first found
      cases found
      decide
    · intro final found
      cases found
      decide

/-- The header `Bearer é` is latin-1 text, and the dispatcher raises on it instead
of refusing. -/
theorem latin_credential_raises :
    Str.isLatin1 "Bearer é" = true ∧
      ¬ GatesExact (Builtins.sample []) secretToken (some "Bearer é") := by
  refine ⟨by decide, fun exact => ?_⟩
  have read : bearerToken Str.asciiLower (some "Bearer é") = some "é" := by
    decide +kernel
  have bears : Bears Str.asciiLower (some "Bearer é") "é" :=
    bearerToken_eq_some_iff.mp read
  have bare : ¬ Bears Str.asciiLower (some "Bearer é") secretToken.text := by
    intro also
    have same := bears.unique also
    revert same
    decide
  have refused := exact.runRefuses bare 0 [] ⟨none, "", "", "", "", "", 0, 0⟩
  rw [buildRunResponse_raises bears (by decide)] at refused
  cases refused

end PrivateAiWorkspace
