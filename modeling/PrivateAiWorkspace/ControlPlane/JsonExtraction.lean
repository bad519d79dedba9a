import PrivateAiWorkspace.ControlPlane.AgentLoop
import PrivateAiWorkspace.Python.JsonRoundTrip

/-!
# The object an answer holds

`_extract_json_object` counts braces outside strings. The scan agrees with the
grammar of JSON: it goes past a value without seeing its end in a brace of the
value or of a string in it, so the candidate at the first brace of an object is
that object, and a brace where none begins hides no later one.
-/

namespace PrivateAiWorkspace.ControlPlane

open Python JsonText

/-- An object is written in a text after some part of it. -/
def ObjectAfter (lexemes : Lexemes) (text before : List Char)
    (fields : List (String × Json)) : Prop :=
  ∃ document after, text = before ++ (document ++ after) ∧
    document.head? = some '\x7b' ∧ JsonText.Document lexemes document (.obj fields)

/-- And none is written after a shorter part. -/
structure LeftmostObject (lexemes : Lexemes) (text before : List Char)
    (fields : List (String × Json)) : Prop where
  here : ObjectAfter lexemes text before fields
  leftmost : ∀ earlier other, ObjectAfter lexemes text earlier other →
    before.length ≤ earlier.length

section Scan

variable {lexemes : Lexemes} {text : List Char}

/-- The scan goes past a text inside of braces. -/
def Passed (text : List Char) : Prop :=
  ∀ depth rest, balanced (depth + 1) false false (text ++ rest) =
    (balanced (depth + 1) false false rest).map (text ++ ·)

theorem passed_nil : Passed [] := by
  intro depth rest
  simp

theorem Passed.append {more : List Char} (passed : Passed text) (others : Passed more) :
    Passed (text ++ more) := by
  intro depth rest
  rw [List.append_assoc, passed, others, Option.map_map]
  simp [Function.comp_def]

/-- A character that neither opens nor closes anything. -/
theorem passed_plain {c : Char} (plain : c ∉ ['"', '\x7b', '\x7d']) : Passed [c] := by
  intro depth rest
  simp only [List.mem_cons, List.not_mem_nil, or_false, not_or] at plain
  simp [balanced, plain]

theorem passed_of_plain (plain : ∀ c ∈ text, c ∉ ['"', '\x7b', '\x7d']) :
    Passed text := by
  induction text with
  | nil => exact passed_nil
  | cons c text ih =>
      exact (passed_plain (plain c List.mem_cons_self)).append
        (ih fun d member => plain d (List.mem_cons_of_mem c member))

theorem passed_of_isBlank (isBlank : IsBlank text) : Passed text := by
  apply passed_of_plain
  intro c member
  have marks : ∀ d ∈ ['"', '\x7b', '\x7d'], blank d = false := by decide
  intro mark
  simpa [isBlank c member] using marks c mark

theorem scan_hex {digits rest : List Char} {depth : Nat}
    (hex : ∀ c ∈ digits, hexDigit c) :
    balanced depth true false (digits ++ rest) =
      (balanced depth true false rest).map (digits ++ ·) := by
  induction digits with
  | nil => simp
  | cons c digits ih =>
      have plain := plain_of_hexDigit (hex c List.mem_cons_self)
      have others := ih fun d member => hex d (List.mem_cons_of_mem c member)
      have unquoted : (c != '"') = true := bne_iff_ne.mpr plain.1
      simp [balanced, unquoted, plain.2, others, Function.comp_def]

/-- Inside of quotes the scan goes on to the closing quote. -/
theorem scan_quoted (quoted : Quoted text) (depth : Nat) (rest : List Char) :
    balanced depth true false (text ++ '"' :: rest) =
      (balanced depth false false rest).map (text ++ '"' :: ·) := by
  induction quoted with
  | nil => simp [balanced]
  | plain printable noQuote noBackslash more ih =>
      have unquoted : (_ != '"') = true := bne_iff_ne.mpr noQuote
      simp [balanced, unquoted, noBackslash, ih, Function.comp_def]
  | escape simple more ih => simp [balanced, ih, Function.comp_def]
  | unicode four hex more ih =>
      simp [balanced, List.append_assoc, scan_hex hex, ih, Function.comp_def]

theorem passed_string (quoted : Quoted text) : Passed ('"' :: (text ++ ['"'])) := by
  intro depth rest
  have scanned := scan_quoted quoted (depth + 1) rest
  simp [balanced, scanned, Function.comp_def]

theorem passed_braces (passed : Passed text) :
    Passed ('\x7b' :: (text ++ ['\x7d'])) := by
  intro depth rest
  have scanned := passed (depth + 1) ('\x7d' :: rest)
  simp [balanced, scanned, Function.comp_def]

theorem passed_brackets (passed : Passed text) : Passed ('[' :: (text ++ [']'])) :=
  (passed_plain (by decide)).append (passed.append (passed_plain (by decide)))

theorem passed_intercalate {parts : List (List Char)}
    (passed : ∀ part ∈ parts, Passed part) : Passed ([','].intercalate parts) := by
  induction parts with
  | nil => exact passed_nil
  | cons part parts ih =>
      have others := ih fun other member => passed other (List.mem_cons_of_mem part member)
      have first := passed part List.mem_cons_self
      cases parts with
      | nil =>
          rw [List.intercalate_singleton]
          exact first
      | cons next parts =>
          rw [List.intercalate_cons_cons]
          exact (first.append (passed_plain (by decide))).append others

theorem IsToken.passed (token : IsToken text) : Passed text := by
  apply passed_of_plain
  intro c member
  have clean := token.clean c member
  intro mark
  simp only [List.mem_cons, List.not_mem_nil, or_false] at mark clean
  rcases mark with rfl | rfl | rfl
  · exact clean.2 (Or.inl rfl)
  · exact clean.2 (Or.inr (Or.inr (Or.inl rfl)))
  · exact absurd clean.1 (by decide)

theorem passed_item {item : Item} (spaced : item.Spaced) (passed : Passed item.text) :
    Passed item.written :=
  (passed_of_isBlank spaced.before).append
    (passed.append (passed_of_isBlank spaced.after))

theorem passed_member {member : Member} (spaced : member.Spaced)
    (passed : Passed member.item.text) : Passed member.written := by
  have colon : Passed [':'] := passed_plain (by decide)
  have tail := (passed_of_isBlank spaced.colon).append
    (colon.append (passed_item spaced.item passed))
  have whole := (passed_of_isBlank spaced.before).append
    ((passed_string spaced.key).append tail)
  simpa [Member.written] using whole

/-- The scan goes past a value. -/
theorem passed_value {value : Json} (isValue : Value lexemes text value) :
    Passed text := by
  induction isValue with
  | scalar scalar =>
      cases scalar with
      | word listed => exact IsToken.passed (isToken_of_word _ listed)
      | number isNumber => exact IsToken.passed isNumber.isToken
      | string quoted => exact passed_string quoted
  | emptyArray isBlank => exact passed_brackets (passed_of_isBlank isBlank)
  | array nonempty spaced values ih =>
      apply passed_brackets
      apply passed_intercalate
      simp only [List.forall_mem_map]
      exact fun item member => passed_item (spaced item member) (ih item member)
  | emptyObject isBlank => exact passed_braces (passed_of_isBlank isBlank)
  | object nonempty spaced values ih =>
      apply passed_braces
      apply passed_intercalate
      simp only [List.forall_mem_map]
      exact fun member listed => passed_member (spaced member listed) (ih member listed)

/-- A value in braces is an object, and the candidate of the scan at its first
brace. -/
theorem object_of_brace {value : Json} (isValue : Value lexemes text value)
    (brace : text.head? = some '\x7b') (rest : List Char) :
    (∃ fields, value = .obj fields) ∧
      balanced 0 false false (text ++ rest) = some text := by
  have closes {inner : List Char} (passed : Passed inner) :
      balanced 0 false false ('\x7b' :: (inner ++ ['\x7d']) ++ rest) =
        some ('\x7b' :: (inner ++ ['\x7d'])) := by
    have scanned := passed 0 ('\x7d' :: rest)
    simp [balanced, scanned]
  cases isValue with
  | scalar scalar =>
      rcases scalar.starts with ⟨first, more, rfl, -, other⟩
      exact absurd (Option.some.inj brace) (by intro here; simp [here] at other)
  | emptyArray | array => exact absurd (Option.some.inj brace) (by decide)
  | emptyObject isBlank => exact ⟨⟨_, rfl⟩, closes (passed_of_isBlank isBlank)⟩
  | object nonempty spaced values =>
      refine ⟨⟨_, rfl⟩, closes (passed_intercalate ?_)⟩
      simp only [List.forall_mem_map]
      exact fun member listed =>
        passed_member (spaced member listed) (passed_value (values member listed))

/-- A document that begins with a brace begins with its value. -/
theorem value_of_brace {value : Json} (document : JsonText.Document lexemes text value)
    (brace : text.head? = some '\x7b') :
    ∃ object space, text = object ++ space ∧ object.head? = some '\x7b' ∧
      IsBlank space ∧ Value lexemes object value := by
  rcases document with ⟨item, rfl, rfl, spaced, isValue⟩
  rcases isValue.starts with ⟨first, more, begins, starts⟩
  have noSpace : item.before = [] := by
    cases before : item.before with
    | nil => rfl
    | cons c before' =>
        have isBlank := spaced.before c (by simp [before])
        rw [Item.written, before] at brace
        rw [Option.some.inj brace] at isBlank
        exact absurd isBlank (by decide)
  refine ⟨item.text, item.after, by simp [Item.written, noSpace], ?_, spaced.after,
    isValue⟩
  simpa [Item.written, noSpace, begins] using brace

/-- The candidate of the scan is where it started. -/
theorem candidate_initial {depth : Nat} {inStr esc : Bool} {candidate : List Char}
    (found : balanced depth inStr esc text = some candidate) :
    candidate <+: text ∧ candidate.head? = text.head? := by
  induction text generalizing depth inStr esc candidate with
  | nil => cases found
  | cons c text ih =>
      have grows {depth : Nat} {inStr esc : Bool}
          (found : (balanced depth inStr esc text).map (c :: ·) = some candidate) :
          candidate <+: c :: text ∧ candidate.head? = (c :: text).head? := by
        rcases Option.map_eq_some_iff.mp found with ⟨shorter, scanned, rfl⟩
        exact ⟨List.cons_prefix_cons.mpr ⟨rfl, (ih scanned).1⟩, rfl⟩
      rw [balanced] at found
      split_ifs at found
      all_goals first
        | exact grows found
        | cases found
          exact ⟨List.cons_prefix_cons.mpr ⟨rfl, List.nil_prefix⟩, rfl⟩

end Scan

section Extract

variable {builtins : Builtins} {lexemes : Lexemes}

/-- An object is written at the start of a text if and only if the candidate
there is a document. -/
theorem objectAfter_nil_iff (reads : Loads lexemes builtins.loads) {rest : List Char}
    {fields : List (String × Json)} :
    ObjectAfter lexemes ('\x7b' :: rest) [] fields ↔
      ∃ candidate, balanced 0 false false ('\x7b' :: rest) = some candidate ∧
        builtins.loads (String.ofList candidate) = .ok (.obj fields) := by
  constructor
  · intro written
    rcases written with ⟨document, after, text, brace, isDocument⟩
    rcases value_of_brace isDocument brace with
      ⟨object, space, rfl, begins, isBlank, isValue⟩
    have scanned := (object_of_brace isValue begins (space ++ after)).2
    rw [← List.append_assoc, ← List.nil_append (object ++ space ++ after), ← text] at scanned
    refine ⟨object, scanned, ?_⟩
    rw [reads.returns, String.toList_ofList]
    exact ⟨⟨[], object, .obj fields, []⟩, by simp [Item.written], rfl,
      ⟨by simp [IsBlank], by simp [IsBlank]⟩, isValue⟩
  · intro found
    rcases found with ⟨candidate, scanned, loaded⟩
    rcases candidate_initial scanned with ⟨⟨after, text⟩, begins⟩
    rw [reads.returns, String.toList_ofList] at loaded
    exact ⟨candidate, after, text.symm, begins, loaded⟩

theorem objectAfter_cons_iff {c d : Char} {rest before : List Char}
    {fields : List (String × Json)} :
    ObjectAfter lexemes (c :: rest) (d :: before) fields ↔
      c = d ∧ ObjectAfter lexemes rest before fields := by
  constructor
  · intro written
    rcases written with ⟨document, after, text, brace, isDocument⟩
    exact ⟨(List.cons.inj text).1, document, after, (List.cons.inj text).2, brace,
      isDocument⟩
  · intro written
    rcases written with ⟨rfl, document, after, text, brace, isDocument⟩
    exact ⟨document, after, by rw [text, List.cons_append], brace, isDocument⟩

/-- What is loaded from a candidate is an object. -/
theorem object_of_loads (reads : Loads lexemes builtins.loads) {candidate : List Char}
    {value : Json} (brace : candidate.head? = some '\x7b')
    (loaded : builtins.loads (String.ofList candidate) = .ok value) :
    ∃ fields, value = .obj fields := by
  rw [reads.returns, String.toList_ofList] at loaded
  rcases value_of_brace loaded brace with ⟨object, space, -, begins, -, isValue⟩
  exact (object_of_brace isValue begins []).1

/-- What the search returns: the leftmost object, or nothing where there is none. -/
theorem extractFrom_cases (reads : Loads lexemes builtins.loads) (text : List Char) :
    (∃ before fields, LeftmostObject lexemes text before fields ∧
      extractFrom builtins text = .ok (some fields)) ∨
    ((∀ before fields, ¬ObjectAfter lexemes text before fields) ∧
      extractFrom builtins text = .ok none) := by
  induction text with
  | nil =>
      right
      constructor
      · intro before fields written
        rcases written with ⟨document, after, text, brace, -⟩
        rcases List.append_eq_nil_iff.mp text.symm with ⟨-, nothing⟩
        rw [(List.append_eq_nil_iff.mp nothing).1] at brace
        cases brace
      · rfl
  | cons c rest ih =>
      -- Nothing is written here: the answer is that for the rest of the text.
      have later (nothing : ∀ fields, ¬ObjectAfter lexemes (c :: rest) [] fields)
          (same : extractFrom builtins (c :: rest) = extractFrom builtins rest) :
          (∃ before fields, LeftmostObject lexemes (c :: rest) before fields ∧
            extractFrom builtins (c :: rest) = .ok (some fields)) ∨
          ((∀ before fields, ¬ObjectAfter lexemes (c :: rest) before fields) ∧
            extractFrom builtins (c :: rest) = .ok none) := by
        rw [same]
        rcases ih with ⟨before, fields, found, extracted⟩ | ⟨none, extracted⟩
        · left
          refine ⟨c :: before, fields, ⟨?_, ?_⟩, extracted⟩
          · exact objectAfter_cons_iff.mpr ⟨rfl, found.here⟩
          · intro earlier other written
            cases earlier with
            | nil => exact absurd written (nothing other)
            | cons d earlier =>
                have there := (objectAfter_cons_iff.mp written).2
                exact Nat.succ_le_succ (found.leftmost earlier other there)
        · right
          refine ⟨?_, extracted⟩
          intro before fields written
          cases before with
          | nil => exact nothing fields written
          | cons d before => exact none before fields (objectAfter_cons_iff.mp written).2
      by_cases brace : c = '\x7b'
      · subst brace
        cases scanned : balanced 0 false false ('\x7b' :: rest) with
        | none =>
            apply later
            · intro fields written
              rcases (objectAfter_nil_iff reads).mp written with ⟨candidate, found, -⟩
              rw [scanned] at found
              cases found
            · simp [extractFrom, scanned]
        | some candidate =>
            have begins := (candidate_initial scanned).2
            cases loaded : builtins.loads (String.ofList candidate) with
            | ok value =>
                rcases object_of_loads reads begins loaded with ⟨fields, rfl⟩
                left
                refine ⟨[], fields, ⟨?_, by simp⟩, by simp [extractFrom, scanned, loaded]⟩
                exact (objectAfter_nil_iff reads).mpr ⟨candidate, scanned, loaded⟩
            | error error =>
                have refused := reads.refuses _ _ loaded
                subst refused
                apply later
                · intro fields written
                  rcases (objectAfter_nil_iff reads).mp written with
                    ⟨other, found, loadedObject⟩
                  rw [scanned] at found
                  rw [← Option.some.inj found, loaded] at loadedObject
                  cases loadedObject
                · simp [extractFrom, scanned, loaded]
      · apply later
        · intro fields written
          rcases written with ⟨document, after, text, begins, -⟩
          cases document with
          | nil => cases begins
          | cons d document =>
              rw [Option.some.inj begins] at text
              exact brace (List.cons.inj text).1
        · simp [extractFrom, brace]

/-- Objects written at one place are the same. -/
theorem objectAfter_unique {text before : List Char} {fields fields' : List (String × Json)}
    (written : ObjectAfter lexemes text before fields)
    (written' : ObjectAfter lexemes text before fields') : fields = fields' := by
  induction before generalizing text with
  | nil =>
      rcases written with ⟨document, after, rfl, brace, isDocument⟩
      rcases written' with ⟨document', after', same, brace', isDocument'⟩
      rcases value_of_brace isDocument brace with
        ⟨object, space, rfl, begins, -, isValue⟩
      rcases value_of_brace isDocument' brace' with
        ⟨object', space', rfl, begins', -, isValue'⟩
      have scanned := (object_of_brace isValue begins (space ++ after)).2
      have scanned' := (object_of_brace isValue' begins' (space' ++ after')).2
      simp only [List.nil_append, List.append_assoc] at same
      rw [same, scanned'] at scanned
      have texts := Option.some.inj scanned
      subst texts
      have values := (isValue.readOnce _ _ [] [] isValue' (by simp [Ends])
        (by simp [Ends]) rfl).2
      exact Json.obj.inj values
  | cons c before ih =>
      cases text with
      | nil =>
          rcases written with ⟨document, after, text, -⟩
          cases text
      | cons d text =>
          exact ih (objectAfter_cons_iff.mp written).2 (objectAfter_cons_iff.mp written').2

theorem head_of_objectAfter {text before : List Char} {fields : List (String × Json)}
    (written : ObjectAfter lexemes text before fields) :
    before ++ ['\x7b'] <+: text := by
  rcases written with ⟨document, after, rfl, brace, -⟩
  cases document with
  | nil => cases brace
  | cons c document =>
      rw [Option.some.inj brace]
      exact ⟨document ++ after, by simp⟩

/-- Where no brace comes before an object, none of the earlier ones is one. -/
theorem leftmost_of_no_brace {text before : List Char} {fields : List (String × Json)}
    (noBrace : '\x7b' ∉ before) (written : ObjectAfter lexemes text before fields) :
    LeftmostObject lexemes text before fields := by
  refine ⟨written, ?_⟩
  intro earlier other there
  by_contra shorter
  have within : before <+: text := by
    rcases head_of_objectAfter written with ⟨after, rfl⟩
    exact ⟨'\x7b' :: after, by simp⟩
  have inside : earlier ++ ['\x7b'] <+: before := by
    apply List.prefix_of_prefix_length_le (head_of_objectAfter there) within
    simp only [List.length_append, List.length_cons, List.length_nil]
    omega
  rcases inside with ⟨after, rfl⟩
  simp at noBrace

theorem head_of_object {text : List Char} {fields : List (String × Json)}
    (isValue : Value lexemes text (.obj fields)) : text.head? = some '\x7b' := by
  cases isValue with
  | scalar scalar =>
      generalize same : Json.obj fields = value at scalar
      cases scalar with
      | word listed =>
          subst same
          simp [words] at listed
      | number isNumber =>
          rw [Lexemes.number] at same
          split at same <;> cases same
      | string quoted => cases same
  | emptyObject | object => rfl

/-- `_extract_json_object` is exact. -/
theorem extractJsonObject_exact (reads : Loads lexemes builtins.loads) (text : String) :
    (∃ result, extractJsonObject builtins text = .ok result) ∧
      (∀ before fields, LeftmostObject lexemes text.toList before fields →
        extractJsonObject builtins text = .ok (some fields)) ∧
      (∀ before fields fields', ObjectAfter lexemes text.toList before fields →
        ObjectAfter lexemes text.toList before fields' → fields = fields') ∧
      (extractJsonObject builtins text = .ok none ↔
        ¬∃ before fields, ObjectAfter lexemes text.toList before fields) ∧
      ∀ prose json suffix fields, '\x7b' ∉ prose →
        JsonText.Document lexemes json (.obj fields) →
        text.toList = prose ++ json ++ suffix →
        extractJsonObject builtins text = .ok (some fields) := by
  have leftmost : ∀ before fields, LeftmostObject lexemes text.toList before fields →
      extractJsonObject builtins text = .ok (some fields) := by
    intro before fields found
    rcases extractFrom_cases reads text.toList with
      ⟨before', fields', found', extracted⟩ | ⟨none, -⟩
    · have shorter := found.leftmost _ _ found'.here
      have longer := found'.leftmost _ _ found.here
      have initial : before <+: text.toList :=
        (List.prefix_append _ _).trans (head_of_objectAfter found.here)
      have initial' : before' <+: text.toList :=
        (List.prefix_append _ _).trans (head_of_objectAfter found'.here)
      have same : before = before' :=
        (List.prefix_of_prefix_length_le initial initial' shorter).eq_of_length
          (Nat.le_antisymm shorter longer)
      subst same
      rw [objectAfter_unique found.here found'.here]
      exact extracted
    · exact absurd found.here (none before fields)
  refine ⟨?_, leftmost, fun before fields fields' => objectAfter_unique, ?_, ?_⟩
  · rcases extractFrom_cases reads text.toList with
      ⟨before, fields, -, extracted⟩ | ⟨-, extracted⟩
    · exact ⟨some fields, extracted⟩
    · exact ⟨none, extracted⟩
  · rcases extractFrom_cases reads text.toList with
      ⟨before, fields, found, extracted⟩ | ⟨none, extracted⟩
    · constructor
      · intro nothing
        rw [extractJsonObject, extracted] at nothing
        cases nothing
      · intro nothing
        exact absurd ⟨before, fields, found.here⟩ nothing
    · constructor
      · intro _ written
        rcases written with ⟨before, fields, written⟩
        exact none before fields written
      · intro _
        exact extracted
  · intro prose json suffix fields noBrace document whole
    rcases document with ⟨item, rfl, value, spaced, isValue⟩
    rw [value] at isValue
    apply leftmost (prose ++ item.before) fields
    apply leftmost_of_no_brace
    · intro member
      rcases List.mem_append.mp member with inProse | inSpace
      · exact noBrace inProse
      · exact absurd (spaced.before _ inSpace) (by decide)
    · refine ⟨item.text, item.after ++ suffix, by simp [whole, Item.written],
        head_of_object isValue, ?_⟩
      exact ⟨⟨[], item.text, .obj fields, []⟩, by simp [Item.written], rfl,
        ⟨by simp [IsBlank], by simp [IsBlank]⟩, isValue⟩

/-- An object between prose, with braces and a quote in a string of it. -/
theorem extractJsonObject_exact_braces :
    extractJsonObject (grammatical fun _ => .nan)
        "Sure: \x7b\"answer\": \"\x7d\\\"\x7b\"\x7d and \x7b so on." =
      .ok (some [("answer", .str "\x7d\"\x7b")]) := by
  have proper : Proper (grammatical fun _ => .nan) (fun _ => .nan)
      (.obj [("answer", .str "\x7d\"\x7b")]) := by
    apply Proper.obj
    · decide
    · simp only [List.forall_mem_cons, List.not_mem_nil, false_implies, implies_true,
        and_true]
      exact .str _
  have document := document_dumps proper
  have text : (Builtins.dumps (grammatical fun _ => .nan)
      (.obj [("answer", .str "\x7d\"\x7b")])).toList =
      "\x7b\"answer\": \"\x7d\\\"\x7b\"\x7d".toList := by
    rw [dumps_grammatical]
    decide +kernel
  rw [text] at document
  exact (extractJsonObject_exact (loads_grammatical _) _).2.2.2.2 "Sure: ".toList _
    " and \x7b so on.".toList _ (by decide) document (by decide +kernel)

end Extract

end PrivateAiWorkspace.ControlPlane
