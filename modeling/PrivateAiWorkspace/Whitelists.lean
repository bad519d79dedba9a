import PrivateAiWorkspace.ControlPlane.IntegrationSecrets
import PrivateAiWorkspace.ControlPlane.Media
import PrivateAiWorkspace.ControlPlane.ModelRequests.Handlers

/-!
# Identifiers that are checked against a pattern

Components of secret ids, ids of artifacts, revisions and repository ids are each
checked by `re.match` with a pattern that ends in `$`, which also lets a line feed
pass at the end of the text. Nothing removes the line feed before.
-/

namespace PrivateAiWorkspace

open ControlPlane ControlPlane.ModelRequests Python

/-- The checks by a pattern: `_SAFE_COMPONENT`, `_SAFE_ARTIFACT_ID`, `_REVISION_RE`
and the `_HF_REPO_RE` of the reconciler. -/
inductive Whitelist where
  | component
  | artifactId
  | revision
  | repo

namespace Whitelist

/-- The pattern, without a bound on its repetitions. -/
def pattern : Whitelist → RegularExpression Char
  | .component => safeComponent
  | .artifactId =>
      Pattern.run Pattern.alphanumeric (Pattern.alphanumeric ++ ['.', '_', '-'])
  | .revision => revisionRe
  | .repo => hfRepoRe

/-- The bound on the length that the pattern spells. -/
def bound : Whitelist → Option Nat
  | .artifactId => some 128
  | _ => none

/-- The characters that the pattern lists. -/
def characters : Whitelist → List Char
  | .component => componentChars
  | .artifactId => Pattern.alphanumeric ++ ['.', '_', '-']
  | .revision => Pattern.alphanumeric ++ ['.', '_', '/', '-']
  | .repo => Pattern.alphanumeric ++ ['.', '_', '-'] ++ ['/']

/-- The code takes a text. An empty revision is not checked. -/
def Accepts : Whitelist → String → Prop
  | .component, text => checkComponent text = .ok text
  | .artifactId, text => safeArtifactId text = true
  | .revision, text => text ≠ "" ∧ readRevision (.str text) = .ok text
  | .repo, text => matchesRepo text = true

/-- A text has the shape that the pattern spells. -/
structure Spells (whitelist : Whitelist) (text : String) : Prop where
  listed : ∀ c ∈ text.toList, c ∈ whitelist.characters
  shape : whitelist.pattern.rmatch text.toList = true
  short : ∀ most ∈ whitelist.bound, text.length ≤ most

/-- What the code checks next to the pattern. -/
def Admits : Whitelist → String → Prop
  | .revision, text =>
      text.length ≤ maxRevisionChars ∧ Str.contains text ".." = false
  | _, _ => True

/-- The characters listed are printable, and none is a blank. -/
theorem printable_of_listed (whitelist : Whitelist) :
    ∀ c ∈ whitelist.characters, 0x21 ≤ c.toNat ∧ c.toNat ≤ 0x7e := by
  cases whitelist <;> decide

theorem lineFeed_not_listed (whitelist : Whitelist) :
    '\n' ∉ whitelist.characters := by
  intro listed
  exact absurd (whitelist.printable_of_listed _ listed) (by decide)

/-- A text of the pattern has the characters that the pattern lists. -/
theorem listed_of_shape {whitelist : Whitelist} {text : List Char}
    (shape : whitelist.pattern.rmatch text = true) :
    ∀ c ∈ text, c ∈ whitelist.characters := by
  have ofRun : ∀ {rest text : List Char},
      (Pattern.run Pattern.alphanumeric (Pattern.alphanumeric ++ rest)).rmatch text =
        true → ∀ c ∈ text, c ∈ Pattern.alphanumeric ++ rest := by
    intro rest text matched c member
    rcases Pattern.rmatch_run_iff.mp matched with ⟨first, more, rfl, starts, goes⟩
    rcases List.mem_cons.mp member with rfl | later
    · exact List.mem_append_left _ starts
    · exact goes c later
  cases whitelist with
  | component => exact ofRun shape
  | artifactId => exact ofRun shape
  | revision => exact ofRun shape
  | repo =>
      intro c member
      rcases Pattern.rmatch_comp_iff.mp shape with ⟨org, tail, rfl, orgOk, tailOk⟩
      rcases Pattern.rmatch_comp_iff.mp tailOk with ⟨slash, model, rfl, is, modelOk⟩
      rcases List.mem_append.mp member with inOrg | inTail
      · exact List.mem_append_left _ (ofRun orgOk c inOrg)
      · rcases List.mem_append.mp inTail with inSlash | inModel
        · rw [Pattern.rmatch_char_iff.mp is] at inSlash
          exact List.mem_append_right _ inSlash
        · exact List.mem_append_left _ (ofRun modelOk c inModel)

/-- A text of the pattern, or one followed by a line feed. -/
theorem matchesWhole_iff {whitelist : Whitelist} {text : String}
    (unbounded : whitelist.bound = none) :
    Pattern.matchesWhole whitelist.pattern text = true ↔
      whitelist.Spells text ∨
        ∃ initial, text = initial ++ "\n" ∧ whitelist.Spells initial := by
  have short : ∀ (text : String), ∀ most ∈ whitelist.bound, text.length ≤ most := by
    rw [unbounded]
    exact nofun
  rw [Pattern.matchesWhole_iff]
  apply or_congr
  · exact ⟨fun shape => ⟨listed_of_shape shape, shape, short text⟩, Spells.shape⟩
  · constructor
    · intro broken
      rcases broken with ⟨initial, text_eq, shape⟩
      refine ⟨String.ofList initial, ?_, ?_⟩
      · rw [← String.toList_inj, text_eq, String.toList_append, String.toList_ofList]
        rfl
      · rw [← String.toList_ofList (l := initial)] at shape
        exact ⟨listed_of_shape shape, shape, short _⟩
    · intro broken
      rcases broken with ⟨initial, rfl, spells⟩
      exact ⟨initial.toList, String.toList_append, spells.shape⟩

/-- No pattern takes the empty text. -/
theorem ne_empty_of_matchesWhole {whitelist : Whitelist} {text : String}
    (matched : Pattern.matchesWhole whitelist.pattern text = true) : text ≠ "" := by
  intro empty
  rw [empty] at matched
  revert matched
  cases whitelist <;> decide

theorem component_accepts_iff {text : String} :
    Accepts .component text ↔
      Pattern.matchesWhole (pattern .component) text = true := by
  rw [Accepts, checkComponent]
  split
  next refused =>
    rw [Bool.or_eq_true, decide_eq_true_eq, Bool.not_eq_true'] at refused
    apply iff_of_false
    · intro same
      cases same
    · intro matched
      rcases refused with empty | unmatched
      · exact ne_empty_of_matchesWhole matched empty
      · exact absurd matched (Bool.eq_false_iff.mp unmatched)
  next kept =>
    rw [Bool.or_eq_true, not_or, Bool.not_eq_true', Bool.not_eq_false] at kept
    exact iff_of_true rfl kept.2

theorem revision_accepts_iff {text : String} :
    Accepts .revision text ↔ Admits .revision text ∧
      Pattern.matchesWhole (pattern .revision) text = true := by
  rw [Accepts, Admits]
  by_cases empty : text = ""
  · exact iff_of_false (fun both => both.1 empty)
      fun both => ne_empty_of_matchesWhole both.2 empty
  · have truthy : (Json.str text).truthy = true := by simp [Json.truthy, empty]
    rw [and_iff_right empty, readRevision, truthy]
    simp [pattern, and_assoc]

/-- The last character of a text of the shape is no line feed. -/
theorem Spells.getLast?_ne {whitelist : Whitelist} {text : String}
    (spells : whitelist.Spells text) : text.toList.getLast? ≠ some '\n' := by
  intro last
  exact whitelist.lineFeed_not_listed (spells.listed _ (List.mem_of_getLast? last))

theorem artifactId_accepts_iff {text : String} :
    Accepts .artifactId text ↔ Spells .artifactId text ∨
      ∃ initial, text = initial ++ "\n" ∧ Spells .artifactId initial := by
  have spells : ∀ {text : String}, (pattern .artifactId).rmatch text.toList = true →
      text.length ≤ 128 → Spells .artifactId text := by
    intro text shape short
    refine ⟨listed_of_shape shape, shape, fun most bound => ?_⟩
    cases bound
    exact short
  have broken : ∀ initial : String, (initial ++ "\n").toList.getLast? = some '\n' := by
    intro initial
    rw [String.toList_append]
    exact List.getLast?_concat
  have longer : ∀ initial : String, (initial ++ "\n").length = initial.length + 1 :=
    fun initial => String.length_append initial "\n"
  rw [Accepts, safeArtifactId, Bool.and_eq_true, Pattern.matchesWhole_iff]
  constructor
  · intro both
    rcases both with ⟨shape | ⟨initial, text_eq, shape⟩, short⟩
    · left
      have last : text.toList.getLast? ≠ some '\n' := fun last =>
        lineFeed_not_listed .artifactId
          (@listed_of_shape .artifactId _ shape _ (List.mem_of_getLast? last))
      simp only [beq_iff_eq, last, if_false, decide_eq_true_eq] at short
      exact spells shape short
    · right
      have text_eq' : text = String.ofList initial ++ "\n" := by
        rw [← String.toList_inj, text_eq, String.toList_append, String.toList_ofList]
        rfl
      refine ⟨String.ofList initial, text_eq', ?_⟩
      rw [text_eq'] at short
      simp only [broken, BEq.rfl, if_true, decide_eq_true_eq, longer] at short
      rw [← String.toList_ofList (l := initial)] at shape
      exact spells shape (by omega)
  · intro either
    rcases either with spelled | ⟨initial, rfl, spelled⟩
    · refine ⟨Or.inl spelled.shape, ?_⟩
      simp only [beq_iff_eq, spelled.getLast?_ne, if_false, decide_eq_true_eq]
      exact spelled.short 128 rfl
    · refine ⟨Or.inr ⟨initial.toList, String.toList_append, spelled.shape⟩, ?_⟩
      simp only [broken, BEq.rfl, if_true, decide_eq_true_eq, longer]
      have short := spelled.short 128 rfl
      omega

/-- A text that the code takes has the shape, up to a line feed at its end. -/
theorem accepts_iff {whitelist : Whitelist} {text : String} :
    whitelist.Accepts text ↔ whitelist.Admits text ∧ (whitelist.Spells text ∨
      ∃ initial, text = initial ++ "\n" ∧ whitelist.Spells initial) := by
  cases whitelist with
  | component =>
      rw [← matchesWhole_iff rfl, component_accepts_iff]
      exact (and_iff_right trivial).symm
  | artifactId =>
      rw [artifactId_accepts_iff]
      exact (and_iff_right trivial).symm
  | revision => rw [← matchesWhole_iff rfl, revision_accepts_iff]
  | repo =>
      rw [← matchesWhole_iff rfl]
      exact (and_iff_right trivial).symm

/-- The characters listed are printable, and a check takes the texts of its shape
only, unless the text is one of the shape with a line feed after it. -/
theorem accepts_spelled_iff (whitelist : Whitelist) (text : String) :
    (∀ c ∈ whitelist.characters, 0x21 ≤ c.toNat ∧ c.toNat ≤ 0x7e) ∧
      ((whitelist.Accepts text → whitelist.Spells text) ↔
        ¬ ∃ initial, text = initial ++ "\n" ∧ whitelist.Spells initial ∧
          whitelist.Admits text) := by
  refine ⟨whitelist.printable_of_listed, ?_⟩
  rw [accepts_iff]
  constructor
  · intro only broken
    rcases broken with ⟨initial, text_eq, spells, admits⟩
    have spelled := only ⟨admits, Or.inr ⟨initial, text_eq, spells⟩⟩
    apply whitelist.lineFeed_not_listed
    apply spelled.listed
    rw [text_eq, String.toList_append]
    exact List.mem_append_right _ List.mem_cons_self
  · intro unbroken accepted
    rcases accepted.2 with spells | ⟨initial, text_eq, spells⟩
    · exact spells
    · exact absurd ⟨initial, text_eq, spells, accepted.1⟩ unbroken

/-- Each check takes some text with a line feed at its end. -/
theorem line_feed_accepted :
    (Accepts .component "acme.com\n" ∧ ¬ Spells .component "acme.com\n") ∧
    (Accepts .artifactId "a1\n" ∧ ¬ Spells .artifactId "a1\n") ∧
    (Accepts .revision "main\n" ∧ ¬ Spells .revision "main\n") ∧
    (Accepts .repo "org/model\n" ∧ ¬ Spells .repo "org/model\n") := by
  have misspelled : ∀ (whitelist : Whitelist) (initial : String),
      ¬ whitelist.Spells (initial ++ "\n") := by
    intro whitelist initial spells
    apply spells.getLast?_ne
    rw [String.toList_append]
    exact List.getLast?_concat
  refine ⟨⟨?_, misspelled _ "acme.com"⟩, ⟨?_, misspelled _ "a1"⟩,
    ⟨?_, misspelled _ "main"⟩, ?_, misspelled _ "org/model"⟩
  · exact component_accepts_iff.mpr (by decide +kernel)
  · exact show safeArtifactId "a1\n" = true by decide +kernel
  · exact revision_accepts_iff.mpr ⟨⟨by decide, by decide +kernel⟩, by decide +kernel⟩
  · exact show matchesRepo "org/model\n" = true by decide +kernel

end Whitelist

end PrivateAiWorkspace
