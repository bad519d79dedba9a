import Mathlib.Computability.RegularExpressions

/-!
# Anchored regular expressions

`re.match` with a pattern of the form `^...$`. Python's `$` matches at the end
of the text and also just before a line feed that ends it.
-/

namespace PrivateAiWorkspace.Python.Pattern

/-- The characters from one to another, as `a-z` denotes them in a class. -/
def range (first last : Char) : List Char :=
  (List.range (last.toNat + 1 - first.toNat)).map fun offset =>
    Char.ofNat (first.toNat + offset)

/-- `[A-Za-z0-9]`. -/
def alphanumeric : List Char :=
  range 'A' 'Z' ++ range 'a' 'z' ++ range '0' '9'

/-- A character class. -/
def oneOf (chars : List Char) : RegularExpression Char :=
  chars.foldr (fun c rest => .plus (.char c) rest) .zero

/-- One character of a class followed by any number of characters of another. -/
def run (first rest : List Char) : RegularExpression Char :=
  .comp (oneOf first) (.star (oneOf rest))

theorem matches'_oneOf {chars text : List Char} :
    text ∈ (oneOf chars).matches' ↔ ∃ c ∈ chars, text = [c] := by
  induction chars with
  | nil => exact ⟨False.elim, by simp⟩
  | cons c rest ih =>
      have split : text ∈ (oneOf (c :: rest)).matches' ↔
          text = [c] ∨ text ∈ (oneOf rest).matches' := Iff.rfl
      rw [split, ih]
      simp

/-- What a run matches: one character of its first class and characters of the
other. -/
theorem rmatch_run_iff {first rest text : List Char} :
    (run first rest).rmatch text = true ↔
      ∃ c more, text = c :: more ∧ c ∈ first ∧ ∀ x ∈ more, x ∈ rest := by
  rw [RegularExpression.rmatch_iff_matches']
  have split : text ∈ (run first rest).matches' ↔
      ∃ initial ∈ (oneOf first).matches', ∃ final ∈ KStar.kstar (oneOf rest).matches',
        initial ++ final = text := Iff.rfl
  rw [split]
  constructor
  · rintro ⟨initial, starts, final, ends, rfl⟩
    rcases matches'_oneOf.mp starts with ⟨c, member, rfl⟩
    rcases Language.mem_kstar.mp ends with ⟨parts, rfl, each⟩
    refine ⟨c, parts.flatten, rfl, member, ?_⟩
    intro x inside
    rcases List.mem_flatten.mp inside with ⟨part, listed, there⟩
    rcases matches'_oneOf.mp (each part listed) with ⟨d, allowed, rfl⟩
    rw [List.mem_singleton.mp there]
    exact allowed
  · rintro ⟨c, more, rfl, member, allowed⟩
    refine ⟨[c], matches'_oneOf.mpr ⟨c, member, rfl⟩, more, ?_, rfl⟩
    refine Language.mem_kstar.mpr ⟨more.map fun x => [x], ?_, ?_⟩
    · clear allowed split
      induction more with
      | nil => rfl
      | cons x more ih => simpa using ih
    · intro part listed
      rcases List.mem_map.mp listed with ⟨x, inside, rfl⟩
      exact matches'_oneOf.mpr ⟨x, allowed x inside, rfl⟩

theorem rmatch_comp_iff {first second : RegularExpression Char} {text : List Char} :
    (first.comp second).rmatch text = true ↔
      ∃ initial final, text = initial ++ final ∧ first.rmatch initial = true ∧
        second.rmatch final = true := by
  simp only [RegularExpression.rmatch_iff_matches']
  have split : text ∈ (first.comp second).matches' ↔
      ∃ initial ∈ first.matches', ∃ final ∈ second.matches', initial ++ final = text :=
    Iff.rfl
  rw [split]
  constructor
  · intro parts
    rcases parts with ⟨initial, begins, final, ends, rfl⟩
    exact ⟨initial, final, rfl, begins, ends⟩
  · intro parts
    rcases parts with ⟨initial, final, rfl, begins, ends⟩
    exact ⟨initial, begins, final, ends, rfl⟩

theorem rmatch_char_iff {c : Char} {text : List Char} :
    (RegularExpression.char c).rmatch text = true ↔ text = [c] := by
  rw [RegularExpression.rmatch_iff_matches']
  rfl

/-- `re.match("^pattern$", text)` succeeds. -/
def matchesWhole (pattern : RegularExpression Char) (text : String) : Bool :=
  pattern.rmatch text.toList ||
    (text.toList.getLast? == some '\n' && pattern.rmatch text.toList.dropLast)

/-- What is accepted: a text of the pattern, or one followed by a line feed. -/
theorem matchesWhole_iff {pattern : RegularExpression Char} {text : String} :
    matchesWhole pattern text = true ↔
      pattern.rmatch text.toList = true ∨
        ∃ initial, text.toList = initial ++ ['\n'] ∧ pattern.rmatch initial = true := by
  rw [matchesWhole, Bool.or_eq_true, Bool.and_eq_true, beq_iff_eq]
  apply or_congr_right
  constructor
  · intro both
    rcases List.getLast?_eq_some_iff.mp both.1 with ⟨initial, text_eq⟩
    refine ⟨initial, text_eq, ?_⟩
    rw [← both.2, text_eq, List.dropLast_concat]
  · intro broken
    rcases broken with ⟨initial, text_eq, matched⟩
    rw [text_eq, List.getLast?_concat, List.dropLast_concat]
    exact ⟨rfl, matched⟩

end PrivateAiWorkspace.Python.Pattern
