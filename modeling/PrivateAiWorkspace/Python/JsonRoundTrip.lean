import PrivateAiWorkspace.Python.JsonText
import PrivateAiWorkspace.Python.Utf8

/-!
# What is written is read

What `json.dumps` writes is a document of the value it was given, so
`json.loads` returns that value. This needs a value whose dicts have each key
once, as any `dict` has, and floats whose `repr` reads as the same float.
-/

namespace PrivateAiWorkspace.Python.JsonText

/-! ## The text of a string -/

/-- The number a hexadecimal digit stands for. -/
def hexOf (c : Char) : Nat :=
  if digit c then c.toNat - 0x30
  else if c.toNat ≤ 0x46 then c.toNat - 0x37
  else c.toNat - 0x57

/-- The number hexadecimal digits stand for. -/
def hexNumber (digits : List Char) : Nat :=
  digits.foldl (fun number c => 16 * number + hexOf c) 0

/-- The character after a backslash, but for `u`. -/
def simpleEscape (c : Char) : Nat :=
  if c = 'b' then 0x08
  else if c = 'f' then 0x0c
  else if c = 'n' then 0x0a
  else if c = 'r' then 0x0d
  else if c = 't' then 0x09
  else c.toNat

/-- The code points and surrogates the text between two quotes stands for. -/
def units : List Char → List Nat
  | [] => []
  | c :: rest =>
      if c = '\\' then
        match rest with
        | [] => []
        | e :: rest =>
            if e = 'u' then
              match rest with
              | h₁ :: h₂ :: h₃ :: h₄ :: rest =>
                  hexNumber [h₁, h₂, h₃, h₄] :: units rest
              | _ => []
            else simpleEscape e :: units rest
      else c.toNat :: units rest

/-- A code point as a character. A surrogate is none: the replacement character
stands for it. -/
def charOf (unit : Nat) : Char :=
  if unit < 0xd800 ∨ 0xdfff < unit ∧ unit < 0x110000 then Char.ofNat unit
  else Char.ofNat 0xfffd

/-- The characters of code points, with surrogate pairs joined. -/
def joinSurrogates : List Nat → List Char
  | [] => []
  | unit :: rest =>
      match rest with
      | [] => [charOf unit]
      | next :: others =>
          if 0xd800 ≤ unit && unit < 0xdc00 && 0xdc00 ≤ next && next < 0xe000 then
            charOf (0x10000 + (unit - 0xd800) * 0x400 + (next - 0xdc00)) ::
              joinSurrogates others
          else charOf unit :: joinSurrogates (next :: others)

/-- Strings as `json.loads` reads them, with a way to read floats. -/
def standard (float : List Char → PyFloat) : Lexemes where
  string text := String.ofList (joinSurrogates (units text))
  float

theorem units_plain {c : Char} (plain : c ≠ '\\') (rest : List Char) :
    units (c :: rest) = c.toNat :: units rest := by
  rw [units.eq_def]
  simp [plain]

theorem units_escape {e : Char} (simple : e ≠ 'u') (rest : List Char) :
    units ('\\' :: e :: rest) = simpleEscape e :: units rest := by
  rw [units.eq_def]
  simp [simple]

theorem hexOf_digitChar : ∀ digit < 16, hexOf (Nat.digitChar digit) = digit := by
  decide

theorem hexDigit_digitChar : ∀ digit < 16, hexDigit (Nat.digitChar digit) := by
  decide

theorem hexNumber_append (first second : List Char) :
    hexNumber (first ++ second) =
      second.foldl (fun number c => 16 * number + hexOf c) (hexNumber first) := by
  rw [hexNumber, List.foldl_append, hexNumber]

theorem hexNumber_toDigits (code : Nat) : hexNumber (Nat.toDigits 16 code) = code := by
  induction code using Nat.strong_induction_on with
  | _ code ih =>
      rw [Nat.toDigits_eq_if (by decide)]
      split
      next small => simp [hexNumber, hexOf_digitChar code small]
      next large =>
          have shorter : code / 16 < code := Nat.div_lt_self (by omega) (by decide)
          rw [hexNumber_append, ih _ shorter]
          simp only [List.foldl_cons, List.foldl_nil,
            hexOf_digitChar _ (Nat.mod_lt code (by decide : 0 < 16))]
          exact Nat.div_add_mod code 16

theorem hexNumber_replicate (count : Nat) (digits : List Char) :
    hexNumber (List.replicate count '0' ++ digits) = hexNumber digits := by
  have zeros : hexNumber (List.replicate count '0') = 0 := by
    induction count with
    | zero => rfl
    | succ count ih =>
        rw [List.replicate_succ', hexNumber_append, ih]
        rfl
  rw [hexNumber_append, zeros, hexNumber]

theorem hexNumber_hex4 (code : Nat) : hexNumber (hex4 code) = code := by
  rw [hex4, hexNumber_replicate, hexNumber_toDigits]

theorem length_hex4 {code : Nat} (small : code < 0x10000) : (hex4 code).length = 4 := by
  have short : (Nat.toDigits 16 code).length ≤ 4 :=
    (Nat.length_toDigits_le_iff (by decide) (by decide)).mpr (by omega)
  simp only [hex4, List.length_append, List.length_replicate]
  omega

theorem hexDigit_toDigits (code : Nat) : ∀ c ∈ Nat.toDigits 16 code, hexDigit c := by
  induction code using Nat.strong_induction_on with
  | _ code ih =>
      intro c member
      rw [Nat.toDigits_eq_if (by decide)] at member
      split at member
      next small =>
        rw [List.mem_singleton.mp member]
        exact hexDigit_digitChar code small
      next large =>
        rcases List.mem_append.mp member with earlier | last
        · exact ih _ (Nat.div_lt_self (by omega) (by decide)) c earlier
        · rw [List.mem_singleton.mp last]
          exact hexDigit_digitChar _ (Nat.mod_lt _ (by decide))

theorem hexDigit_hex4 (code : Nat) : ∀ c ∈ hex4 code, hexDigit c := by
  intro c member
  rcases List.mem_append.mp member with padding | digits
  · rw [List.eq_of_mem_replicate padding]
    decide
  · exact hexDigit_toDigits code c digits

/-- Text may follow an escape. -/
theorem quoted_hex4 {code : Nat} (small : code < 0x10000) {rest : List Char}
    (quoted : Quoted rest) : Quoted ('\\' :: 'u' :: (hex4 code ++ rest)) :=
  .unicode (length_hex4 small) (hexDigit_hex4 code) quoted

theorem units_hex4 {code : Nat} (small : code < 0x10000) (rest : List Char) :
    units ('\\' :: 'u' :: (hex4 code ++ rest)) = code :: units rest := by
  have length := length_hex4 small
  have number := hexNumber_hex4 code
  rcases digits : hex4 code with _ | ⟨h₁, _ | ⟨h₂, _ | ⟨h₃, _ | ⟨h₄, more⟩⟩⟩⟩
  all_goals rw [digits] at length number
  all_goals simp only [List.length_cons, List.length_nil] at length
  all_goals try omega
  have nothing : more = [] := List.length_eq_zero_iff.mp (by omega)
  subst nothing
  simp [units, number]

/-- The code point of a character, or its surrogates. -/
def charUnits (c : Char) : List Nat :=
  if c.toNat < 0x10000 then [c.toNat]
  else [0xd800 + (c.toNat - 0x10000) / 0x400, 0xdc00 + (c.toNat - 0x10000) % 0x400]

theorem charOf_toNat (c : Char) : charOf c.toNat = c := by
  rw [charOf, if_pos (Utf8.valid_cases c), Char.ofNat_toNat]

/-- A pair of escapes. The units are variables: their arithmetic is left alone. -/
theorem unicodeEscape_pair {code high low : Nat} (large : ¬code < 0x10000)
    (isHigh : 0xd800 + (code - 0x10000) / 0x400 = high)
    (isLow : 0xdc00 + (code - 0x10000) % 0x400 = low) :
    unicodeEscape code = '\\' :: 'u' :: hex4 high ++ '\\' :: 'u' :: hex4 low := by
  rw [← isHigh, ← isLow]
  exact if_neg large

theorem unicodeEscape_spec (c : Char) (rest : List Char) :
    units (unicodeEscape c.toNat ++ rest) = charUnits c ++ units rest ∧
      (Quoted rest → Quoted (unicodeEscape c.toNat ++ rest)) := by
  have range := Utf8.valid_cases c
  rw [charUnits]
  generalize c.toNat = code at range
  split
  next small =>
    rw [unicodeEscape, if_pos small]
    simp only [List.cons_append]
    exact ⟨units_hex4 small rest, quoted_hex4 small⟩
  next large =>
    have some (unit : Nat) : ∃ other, unit = other := ⟨unit, rfl⟩
    rcases some (0xd800 + (code - 0x10000) / 0x400) with ⟨high, isHigh⟩
    rcases some (0xdc00 + (code - 0x10000) % 0x400) with ⟨low, isLow⟩
    have highBound : high < 0x10000 := by omega
    have lowBound : low < 0x10000 := by omega
    rw [unicodeEscape_pair large isHigh isLow, isHigh, isLow]
    simp only [List.cons_append, List.append_assoc, List.nil_append]
    constructor
    · rw [units_hex4 highBound, units_hex4 lowBound]
    · exact fun quoted => quoted_hex4 highBound (quoted_hex4 lowBound quoted)

/-- What is written for a character is read as its units. -/
theorem escapeChar_spec (c : Char) (rest : List Char) :
    units (escapeChar c ++ rest) = charUnits c ++ units rest ∧
      (Quoted rest → Quoted (escapeChar c ++ rest)) := by
  rw [escapeChar]
  split
  iterate 7
    · next same =>
        constructor
        · rw [charUnits, same]
          exact units_escape (by decide) rest
        · exact fun quoted => .escape (by decide) quoted
  split
  next plain =>
    simp only [Bool.and_eq_true, decide_eq_true_eq] at plain
    have noQuote : c ≠ '"' := by
      intro same
      simp_all
    have noBackslash : c ≠ '\\' := by
      intro same
      simp_all
    constructor
    · have small : c.toNat < 0x10000 := by omega
      rw [charUnits, if_pos small]
      exact units_plain noBackslash rest
    · exact fun quoted => .plain plain.1 noQuote noBackslash quoted
  next => exact unicodeEscape_spec c rest

theorem joinSurrogates_charUnits (c : Char) (rest : List Nat) :
    joinSurrogates (charUnits c ++ rest) = c :: joinSurrogates rest := by
  have range := Utf8.valid_cases c
  rw [charUnits]
  split
  next small =>
    cases rest with
    | nil => simp [joinSurrogates, charOf_toNat]
    | cons next others =>
        have alone : ¬(0xd800 ≤ c.toNat ∧ c.toNat < 0xdc00) := by omega
        simp only [List.cons_append, List.nil_append, joinSurrogates, charOf_toNat]
        rw [if_neg]
        intro pair
        simp only [Bool.and_eq_true, decide_eq_true_eq] at pair
        exact alone pair.1.1
  next large =>
    have high : 0xd800 + (c.toNat - 0x10000) / 0x400 < 0xdc00 := by omega
    have low : 0xdc00 + (c.toNat - 0x10000) % 0x400 < 0xe000 := by omega
    have whole : 0x10000 + (0xd800 + (c.toNat - 0x10000) / 0x400 - 0xd800) * 0x400 +
        (0xdc00 + (c.toNat - 0x10000) % 0x400 - 0xdc00) = c.toNat := by omega
    simp only [List.cons_append, List.nil_append, joinSurrogates, whole, charOf_toNat]
    rw [if_pos]
    simp only [Bool.and_eq_true, decide_eq_true_eq]
    omega

/-- The text of a string. -/
def escaped (text : String) : List Char := text.toList.flatMap escapeChar

theorem escaped_spec (chars : List Char) :
    Quoted (chars.flatMap escapeChar) ∧
      joinSurrogates (units (chars.flatMap escapeChar)) = chars := by
  induction chars with
  | nil => exact ⟨.nil, rfl⟩
  | cons c chars ih =>
      have first := escapeChar_spec c (chars.flatMap escapeChar)
      rw [List.flatMap_cons]
      constructor
      · exact first.2 ih.1
      · rw [first.1, joinSurrogates_charUnits, ih.2]

theorem quoted_escaped (text : String) : Quoted (escaped text) :=
  (escaped_spec text.toList).1

@[simp] theorem string_escaped (float : List Char → PyFloat) (text : String) :
    (standard float).string (escaped text) = text := by
  simp only [standard, escaped, (escaped_spec text.toList).2, String.ofList_toList]

theorem toList_quote (text : String) :
    (quote text).toList = '"' :: (escaped text ++ ['"']) := by
  rw [quote, String.toList_ofList, escaped]

/-! ## The text of a number -/

theorem digit_of_isDigit {c : Char} (isDigit : c.isDigit) : digit c := by
  simp only [Char.isDigit, Bool.and_eq_true, decide_eq_true_eq, ge_iff_le,
    UInt32.le_iff_toNat_le] at isDigit
  simpa [digit] using isDigit

theorem digit_toDigits (number : Nat) : ∀ c ∈ Nat.toDigits 10 number, digit c := by
  intro c member
  exact digit_of_isDigit (Nat.isDigit_of_mem_toDigits (by decide) (by decide) member)

theorem isDigits_toDigits (number : Nat) : IsDigits (Nat.toDigits 10 number) :=
  ⟨Nat.toDigits_ne_nil, digit_toDigits number⟩

theorem head?_toDigits {number : Nat} (positive : 0 < number) :
    (Nat.toDigits 10 number).head? ≠ some '0' := by
  induction number using Nat.strong_induction_on with
  | _ number ih =>
      rw [Nat.toDigits_eq_if (by decide)]
      split
      next small =>
        have nonzero : ∀ digit < 10, 0 < digit → Nat.digitChar digit ≠ '0' := by decide
        simpa using nonzero number small positive
      next large =>
        have fewer : 0 < number / 10 := Nat.div_pos (by omega) (by decide)
        have first := ih (number / 10) (Nat.div_lt_self positive (by decide)) fewer
        rcases List.exists_cons_of_ne_nil (@Nat.toDigits_ne_nil (number / 10) 10) with
          ⟨c, rest, digits⟩
        rw [digits] at first ⊢
        simpa using first

theorem isWhole_toDigits (number : Nat) : IsWhole (Nat.toDigits 10 number) := by
  rcases Nat.eq_zero_or_pos number with rfl | positive
  · exact Or.inl (Nat.toDigits_zero 10)
  · exact Or.inr ⟨isDigits_toDigits number, head?_toDigits positive⟩

theorem toList_toString (value : Int) :
    (toString value).toList =
      if 0 ≤ value then Nat.toDigits 10 value.toNat
      else '-' :: Nat.toDigits 10 (-value).toNat := by
  rw [Int.toString_eq_repr, Int.repr_eq_if]
  split <;> simp

theorem isNumber_of_digits (sign : List Char) (isSign : sign ∈ [[], ['-']])
    (number : Nat) : IsNumber (sign ++ Nat.toDigits 10 number) :=
  ⟨sign, Nat.toDigits 10 number, [], [], by simp, isSign, isWhole_toDigits number,
    Or.inl rfl, Or.inl rfl⟩

theorem intOf_digits {text : List Char} (isDigits : IsDigits text) :
    intOf text = natOf text := by
  rw [intOf.eq_def]
  split
  next rest =>
    exact absurd (isDigits.2 '-' List.mem_cons_self) (by decide)
  next => rfl

/-- A whole number is read as itself. -/
theorem scalar_int (lexemes : Lexemes) (value : Int) :
    Scalar lexemes (toString value).toList (.int value) := by
  have plain (sign : List Char) (isSign : sign ∈ [[], ['-']]) (number : Nat) :
      (sign ++ Nat.toDigits 10 number).all fun c => c = '-' || digit c := by
    rw [List.all_eq_true]
    intro c member
    rcases List.mem_append.mp member with inSign | inDigits
    · simp only [List.mem_cons, List.not_mem_nil, or_false] at isSign
      rcases isSign with rfl | rfl
      · cases inSign
      · rw [List.mem_singleton.mp inSign]
        rfl
    · simp [digit_toDigits number c inDigits]
  rw [toList_toString]
  split
  next positive =>
    have scalar := @Scalar.number lexemes _
      (isNumber_of_digits [] (by decide) value.toNat)
    rw [Lexemes.number, if_pos (plain [] (by decide) _), List.nil_append,
      intOf_digits (isDigits_toDigits _), natOf, Nat.ofDigitChars_ten_toDigits,
      Int.toNat_of_nonneg positive] at scalar
    exact scalar
  next negative =>
    have scalar := @Scalar.number lexemes _
      (isNumber_of_digits ['-'] (by decide) (-value).toNat)
    rw [Lexemes.number, if_pos (plain ['-'] (by decide) _), List.singleton_append, intOf,
      natOf, Nat.ofDigitChars_ten_toDigits, Int.toNat_of_nonneg (by omega), Int.neg_neg]
      at scalar
    exact scalar

/-! ## The text of a value -/

section Values

variable (builtins : Builtins) (float : List Char → PyFloat)

/-- `repr` of a finite float is the text of a float, and is read as it. -/
structure ReadsBack (value : Rat) : Prop where
  isNumber : IsNumber (builtins.floatRepr value).toList
  isFloat : ∃ c ∈ (builtins.floatRepr value).toList, c ≠ '-' ∧ digit c = false
  same : float (builtins.floatRepr value).toList = .finite value

/-- A value as Python has it: each dict has a key once. Its floats are read back. -/
inductive Proper : Json → Prop where
  | null : Proper .null
  | bool (value : Bool) : Proper (.bool value)
  | int (value : Int) : Proper (.int value)
  | finite {value : Rat} (readsBack : ReadsBack builtins float value) :
      Proper (.float (.finite value))
  | infinity (negative : Bool) : Proper (.float (.infinity negative))
  | nan : Proper (.float .nan)
  | str (text : String) : Proper (.str text)
  | arr {items : List Json} (each : ∀ item ∈ items, Proper item) : Proper (.arr items)
  | obj {fields : List (String × Json)} (nodup : (fields.map Prod.fst).Nodup)
      (each : ∀ field ∈ fields, Proper field.2) : Proper (.obj fields)

variable {builtins float}

theorem dumpsItems_eq (items : List Json) :
    builtins.dumpsItems items = items.map builtins.dumps := by
  induction items with
  | nil => simp [Builtins.dumpsItems]
  | cons item items ih => simp [Builtins.dumpsItems, ih]

theorem dumpsFields_eq (fields : List (String × Json)) :
    builtins.dumpsFields fields =
      fields.map fun field => quote field.1 ++ ": " ++ builtins.dumps field.2 := by
  induction fields with
  | nil => simp [Builtins.dumpsFields]
  | cons field fields ih => simp [Builtins.dumpsFields, ih]

theorem intercalate_cons_append (c : Char) (part : List Char) (parts : List (List Char)) :
    [','].intercalate ((c :: part) :: parts) = c :: [','].intercalate (part :: parts) := by
  cases parts with
  | nil => simp
  | cons next parts => simp [List.intercalate_cons_cons]

/-- A blank after each separator is one before each part but the first. -/
theorem intercalate_blank (part : List Char) (parts : List (List Char)) :
    [',', ' '].intercalate (part :: parts) =
      [','].intercalate (part :: parts.map (' ' :: ·)) := by
  induction parts generalizing part with
  | nil => simp
  | cons next parts ih =>
      rw [List.map_cons, List.intercalate_cons_cons, List.intercalate_cons_cons, ih,
        intercalate_cons_append]
      simp

theorem isBlank_nil : IsBlank [] := by
  intro c none
  cases none

theorem isBlank_blank : IsBlank [' '] := by
  intro c member
  rw [List.mem_singleton.mp member]
  rfl

/-- An item as it is written after some white space. -/
def itemAfter (before : List Char) (builtins : Builtins) (value : Json) : Item :=
  ⟨before, (builtins.dumps value).toList, value, []⟩

/-- A member as it is written after some white space. -/
def memberAfter (before : List Char) (builtins : Builtins) (field : String × Json) :
    Member :=
  ⟨before, escaped field.1, [], itemAfter [' '] builtins field.2⟩

theorem written_itemAfter (before : List Char) (value : Json) :
    (itemAfter before builtins value).written =
      before ++ (builtins.dumps value).toList := by
  simp [itemAfter, Item.written]

theorem written_memberAfter (before : List Char) (field : String × Json) :
    (memberAfter before builtins field).written =
      before ++ (quote field.1 ++ ": " ++ builtins.dumps field.2).toList := by
  have colon : ": ".toList = [':', ' '] := rfl
  simp [memberAfter, Member.written, written_itemAfter, toList_quote, colon]

theorem spaced_itemAfter {before : List Char} (isBlank : IsBlank before) (value : Json) :
    (itemAfter before builtins value).Spaced :=
  ⟨isBlank, isBlank_nil⟩

theorem spaced_memberAfter {before : List Char} (isBlank : IsBlank before)
    (field : String × Json) : (memberAfter before builtins field).Spaced :=
  ⟨isBlank, quoted_escaped field.1, isBlank_nil, spaced_itemAfter isBlank_blank field.2⟩

/-- Assigning to distinct keys lists them. -/
theorem dict_of_nodup {fields : List (String × Json)}
    (nodup : (fields.map Prod.fst).Nodup) : dict fields = fields := by
  have listed : ∀ items : List (String × Json), ((items ++ fields).map Prod.fst).Nodup →
      fields.foldl (fun items field => assign field.1 field.2 items) items =
        items ++ fields := by
    clear nodup
    induction fields with
    | nil => simp
    | cons field fields ih =>
        intro items nodup
        rw [List.map_append, List.map_cons] at nodup
        have absent : field.1 ∉ items.map Prod.fst := by
          intro present
          exact (List.nodup_append.mp nodup).2.2 _ present _ List.mem_cons_self rfl
        rw [List.foldl_cons, assign_of_not_mem absent, ih]
        · simp
        · simpa using nodup
  simpa [dict] using listed [] (by simpa using nodup)

/-- The first of some parts without and the others with a blank before them. -/
theorem toList_intercalate_parts (first : String) (others : List String) :
    (", ".intercalate (first :: others)).toList =
      [','].intercalate (first.toList :: others.map fun part => ' ' :: part.toList) := by
  have comma : ", ".toList = [',', ' '] := rfl
  rw [String.toList_intercalate, comma, List.map_cons, intercalate_blank, List.map_map]
  rfl

theorem value_array {item : Json} {items : List Json}
    (values : ∀ part ∈ item :: items,
      Value (standard float) (builtins.dumps part).toList part) :
    Value (standard float) (builtins.dumps (.arr (item :: items))).toList
      (.arr (item :: items)) := by
  have array := @Value.array (standard float)
    (itemAfter [] builtins item :: items.map (itemAfter [' '] builtins)) (by simp) (by
      simp only [List.forall_mem_cons, List.forall_mem_map]
      exact ⟨spaced_itemAfter isBlank_nil item,
        fun part _ => spaced_itemAfter isBlank_blank part⟩) (by
      simp only [List.forall_mem_cons, List.forall_mem_map] at values ⊢
      exact values)
  have parts : (itemAfter [] builtins item ::
        items.map (itemAfter [' '] builtins)).map Item.value = item :: items := by
    simp [itemAfter, Function.comp_def]
  have texts : (builtins.dumps (.arr (item :: items))).toList =
      '[' :: ([','].intercalate ((itemAfter [] builtins item ::
        items.map (itemAfter [' '] builtins)).map Item.written) ++ [']']) := by
    have bracket : "[".toList = ['['] ∧ "]".toList = [']'] := ⟨rfl, rfl⟩
    simp [Builtins.dumps, dumpsItems_eq, toList_intercalate_parts, bracket,
      written_itemAfter, Function.comp_def, -String.toList_intercalate]
  rwa [parts, ← texts] at array

theorem value_object {field : String × Json} {fields : List (String × Json)}
    (nodup : ((field :: fields).map Prod.fst).Nodup)
    (values : ∀ part ∈ field :: fields,
      Value (standard float) (builtins.dumps part.2).toList part.2) :
    Value (standard float) (builtins.dumps (.obj (field :: fields))).toList
      (.obj (field :: fields)) := by
  have object := @Value.object (standard float)
    (memberAfter [] builtins field :: fields.map (memberAfter [' '] builtins)) (by simp) (by
      simp only [List.forall_mem_cons, List.forall_mem_map]
      exact ⟨spaced_memberAfter isBlank_nil field,
        fun part _ => spaced_memberAfter isBlank_blank part⟩) (by
      simp only [List.forall_mem_cons, List.forall_mem_map] at values ⊢
      exact values)
  have parts : (memberAfter [] builtins field ::
        fields.map (memberAfter [' '] builtins)).map (Member.field (standard float)) =
      field :: fields := by
    simp [memberAfter, itemAfter, Member.field, Function.comp_def]
  have texts : (builtins.dumps (.obj (field :: fields))).toList =
      '\x7b' :: ([','].intercalate ((memberAfter [] builtins field ::
        fields.map (memberAfter [' '] builtins)).map Member.written) ++ ['\x7d']) := by
    have bracket : "\x7b".toList = ['\x7b'] ∧ "\x7d".toList = ['\x7d'] := ⟨rfl, rfl⟩
    simp only [Builtins.dumps, dumpsFields_eq, List.map_cons, String.toList_append,
      toList_intercalate_parts, bracket, List.map_map, written_memberAfter,
      Function.comp_def]
    simp
  rwa [parts, dict_of_nodup nodup, ← texts] at object

/-- What `json.dumps` writes for a value is a text of the value. -/
theorem value_dumps {value : Json} (proper : Proper builtins float value) :
    Value (standard float) (builtins.dumps value).toList value := by
  induction proper with
  | null => exact .scalar (.word (by simp [words, Builtins.dumps]))
  | bool value =>
      cases value <;> exact .scalar (.word (by simp [words, Builtins.dumps]))
  | int value =>
      rw [Builtins.dumps]
      exact .scalar (scalar_int _ value)
  | @finite value readsBack =>
      have scalar := @Scalar.number (standard float) _ readsBack.isNumber
      rcases readsBack.isFloat with ⟨c, member, noSign, noDigit⟩
      rw [Lexemes.number, if_neg] at scalar
      · rw [Builtins.dumps, Builtins.floatText, ← readsBack.same]
        exact .scalar scalar
      · intro all
        have found := List.all_eq_true.mp all c member
        simp [noSign, noDigit] at found
  | infinity negative =>
      cases negative <;>
        exact .scalar (.word (by simp [words, Builtins.dumps, Builtins.floatText]))
  | nan => exact .scalar (.word (by simp [words, Builtins.dumps, Builtins.floatText]))
  | str text =>
      have scalar := @Scalar.string (standard float) _ (quoted_escaped text)
      rw [string_escaped] at scalar
      rw [Builtins.dumps, toList_quote]
      exact .scalar scalar
  | @arr items each ih =>
      cases items with
      | nil =>
          rw [Builtins.dumps, Builtins.dumpsItems]
          exact Value.emptyArray isBlank_nil
      | cons item items => exact value_array ih
  | @obj fields nodup each ih =>
      cases fields with
      | nil =>
          rw [Builtins.dumps, Builtins.dumpsFields]
          exact Value.emptyObject isBlank_nil
      | cons field fields => exact value_object nodup ih

theorem document_dumps {value : Json} (proper : Proper builtins float value) :
    Document (standard float) (builtins.dumps value).toList value :=
  ⟨⟨[], (builtins.dumps value).toList, value, []⟩, by simp [Item.written], rfl,
    ⟨isBlank_nil, isBlank_nil⟩, value_dumps proper⟩

/-- What is written is read. -/
theorem loads_dumps (reads : Loads (standard float) builtins.loads) {value : Json}
    (proper : Proper builtins float value) :
    builtins.loads (builtins.dumps value) = .ok value := by
  rw [reads.returns]
  exact document_dumps proper

end Values

/-- Built-in functions whose `json.loads` reads the grammar. -/
noncomputable def grammatical (float : List Char → PyFloat) : Builtins :=
  { Builtins.sample [] with loads := (exists_loads (standard float)).choose }

theorem loads_grammatical (float : List Char → PyFloat) :
    Loads (standard float) (grammatical float).loads :=
  (exists_loads (standard float)).choose_spec

theorem dumps_grammatical (float : List Char → PyFloat) (value : Json) :
    (grammatical float).dumps value = (Builtins.sample []).dumps value :=
  @Builtins.dumps_congr (grammatical float) (Builtins.sample []) rfl value

end PrivateAiWorkspace.Python.JsonText
