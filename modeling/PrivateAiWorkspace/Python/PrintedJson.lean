import PrivateAiWorkspace.Python.JsonRoundTrip
import PrivateAiWorkspace.Python.Splitting
import PrivateAiWorkspace.Python.Utf8

/-!
# Printed JSON

`json.dumps` writes printable ASCII. Such a text has as many bytes as characters,
and text mode leaves it as it is. Values without floats are read back by built-in
functions whose `loads` reads the grammar.
-/

namespace PrivateAiWorkspace.Python

/-! ## Text mode -/

namespace Str

/-- What text mode makes of the ends of lines. -/
def universalNewlines : List Char → List Char
  | [] => []
  | '\r' :: '\n' :: rest => '\n' :: universalNewlines rest
  | c :: rest => (if c = '\r' then '\n' else c) :: universalNewlines rest

theorem universalNewlines_of_no_return {chars : List Char} (none : '\r' ∉ chars) :
    universalNewlines chars = chars := by
  induction chars with
  | nil => rfl
  | cons c rest ih =>
      rcases not_or.mp (List.mem_cons.not.mp none) with ⟨first, others⟩
      have different : c ≠ '\r' := fun same => first same.symm
      simp [universalNewlines, different, ih others]

end Str

/-! ## Printable text -/

/-- The byte of a printable character. -/
theorem encodeChar_of_printable {c : Char} (printable : Printable c) :
    Utf8.encodeChar c = [UInt8.ofNat c.toNat] := by
  have small : c.toNat < 0x80 := Nat.lt_of_le_of_lt printable.2 (by decide)
  rw [Utf8.encodeChar]
  exact if_pos small

theorem encodeChars_of_printable {chars : List Char}
    (printable : ∀ c ∈ chars, Printable c) :
    Utf8.encodeChars chars = chars.map fun c => UInt8.ofNat c.toNat := by
  induction chars with
  | nil => rfl
  | cons c rest ih =>
      have first := encodeChar_of_printable (printable c List.mem_cons_self)
      have others := ih fun d member => printable d (List.mem_cons_of_mem _ member)
      rw [Utf8.encodeChars] at others ⊢
      rw [List.flatMap_cons, first, others]
      rfl

/-- Printable text has as many bytes as characters. -/
theorem length_encode_of_printable {text : String}
    (printable : ∀ c ∈ text.toList, Printable c) :
    (Utf8.encode text).length = text.toList.length := by
  rw [Utf8.encode, encodeChars_of_printable printable, List.length_map]

theorem not_mem_of_printable {chars : List Char} (printable : ∀ c ∈ chars, Printable c)
    {c : Char} (control : ¬ Printable c) : c ∉ chars :=
  fun member => control (printable c member)

/-! ## Documents -/

namespace Builtins

variable (builtins : Builtins)

/-- `repr` of a finite float is printable. -/
def PrintsFloats : Prop :=
  ∀ value, ∀ c ∈ (builtins.floatRepr value).toList, Printable c

variable {builtins}

theorem printable_int (value : Int) : ∀ c ∈ (toString value).toList, Printable c := by
  have digits (number : Nat) : ∀ c ∈ Nat.toDigits 10 number, Printable c := by
    intro c member
    have isDigit := JsonText.digit_toDigits number c member
    simp only [JsonText.digit, Bool.and_eq_true, decide_eq_true_eq] at isDigit
    exact ⟨Nat.le_trans (by decide) isDigit.1, Nat.le_trans isDigit.2 (by decide)⟩
  rw [JsonText.toList_toString]
  split
  · exact digits _
  · intro c member
    rcases List.mem_cons.mp member with rfl | member
    · decide
    · exact digits _ c member

theorem printable_append {first second : String}
    (one : ∀ c ∈ first.toList, Printable c) (other : ∀ c ∈ second.toList, Printable c) :
    ∀ c ∈ (first ++ second).toList, Printable c := by
  intro c member
  rw [String.toList_append] at member
  exact (List.mem_append.mp member).elim (one c) (other c)

theorem printable_intercalate {parts : List String}
    (each : ∀ part ∈ parts, ∀ c ∈ part.toList, Printable c) :
    ∀ c ∈ (", ".intercalate parts).toList, Printable c := by
  have comma : ∀ c ∈ ", ".toList, Printable c := by decide
  induction parts with
  | nil =>
      intro c none
      cases none
  | cons part parts ih =>
      have first := each part List.mem_cons_self
      have others := ih fun other among => each other (List.mem_cons_of_mem _ among)
      cases parts with
      | nil =>
          rw [String.intercalate_singleton]
          exact first
      | cons next parts =>
          rw [String.intercalate_cons_cons]
          exact printable_append (printable_append first comma) others

mutual

/-- What `json.dumps` writes is printable. -/
theorem printable_dumps (prints : builtins.PrintsFloats) (value : Json) :
    ∀ c ∈ (builtins.dumps value).toList, Printable c := by
  cases value with
  | null =>
      rw [dumps]
      decide
  | bool value => cases value <;> (rw [dumps]; decide)
  | int value =>
      rw [dumps]
      exact printable_int value
  | float value =>
      rw [dumps]
      cases value with
      | finite value => exact prints value
      | infinity negative => cases negative <;> (rw [floatText]; decide)
      | nan =>
          rw [floatText]
          decide
  | str text =>
      rw [dumps]
      exact printable_quote text
  | arr items =>
      rw [dumps]
      exact printable_append (printable_append (by decide)
        (printable_intercalate (printable_dumpsItems prints items))) (by decide)
  | obj fields =>
      rw [dumps]
      exact printable_append (printable_append (by decide)
        (printable_intercalate (printable_dumpsFields prints fields))) (by decide)

theorem printable_dumpsItems (prints : builtins.PrintsFloats) (items : List Json) :
    ∀ part ∈ builtins.dumpsItems items, ∀ c ∈ part.toList, Printable c := by
  intro part member
  cases items with
  | nil =>
      rw [dumpsItems] at member
      cases member
  | cons item items =>
      rw [dumpsItems] at member
      rcases List.mem_cons.mp member with rfl | member
      · exact printable_dumps prints item
      · exact printable_dumpsItems prints items part member

theorem printable_dumpsFields (prints : builtins.PrintsFloats)
    (fields : List (String × Json)) :
    ∀ part ∈ builtins.dumpsFields fields, ∀ c ∈ part.toList, Printable c := by
  intro part member
  cases fields with
  | nil =>
      rw [dumpsFields] at member
      cases member
  | cons field fields =>
      rcases field with ⟨name, value⟩
      rw [dumpsFields] at member
      rcases List.mem_cons.mp member with rfl | member
      · exact printable_append (printable_append (printable_quote name) (by decide))
          (printable_dumps prints value)
      · exact printable_dumpsFields prints fields part member

end

end Builtins

/-! ## Values that are read back -/

namespace JsonText

mutual

/-- A value without floats whose dicts have each key once. -/
def plain : Json → Bool
  | .float _ => false
  | .arr items => plainItems items
  | .obj fields => decide (fields.map Prod.fst).Nodup && plainFields fields
  | _ => true

/-- The items of a list are plain. -/
def plainItems : List Json → Bool
  | [] => true
  | item :: items => plain item && plainItems items

/-- The values of a dict are plain. -/
def plainFields : List (String × Json) → Bool
  | [] => true
  | field :: fields => plain field.2 && plainFields fields

end

variable {builtins : Builtins} {float : List Char → PyFloat}

mutual

theorem proper_of_plain (value : Json) (isPlain : plain value = true) :
    Proper builtins float value := by
  cases value with
  | null => exact .null
  | bool value => exact .bool value
  | int value => exact .int value
  | float value =>
      rw [plain] at isPlain
      cases isPlain
  | str text => exact .str text
  | arr items =>
      rw [plain] at isPlain
      exact .arr (proper_items items isPlain)
  | obj fields =>
      rw [plain, Bool.and_eq_true, decide_eq_true_eq] at isPlain
      exact .obj isPlain.1 (proper_fields fields isPlain.2)

theorem proper_items (items : List Json) (arePlain : plainItems items = true) :
    ∀ item ∈ items, Proper builtins float item := by
  intro item member
  cases items with
  | nil => cases member
  | cons first items =>
      rw [plainItems, Bool.and_eq_true] at arePlain
      rcases List.mem_cons.mp member with rfl | member
      · exact proper_of_plain item arePlain.1
      · exact proper_items items arePlain.2 item member

theorem proper_fields (fields : List (String × Json))
    (arePlain : plainFields fields = true) :
    ∀ field ∈ fields, Proper builtins float field.2 := by
  intro field member
  cases fields with
  | nil => cases member
  | cons first fields =>
      rcases first with ⟨name, value⟩
      rw [plainFields, Bool.and_eq_true] at arePlain
      rcases List.mem_cons.mp member with rfl | member
      · exact proper_of_plain value arePlain.1
      · exact proper_fields fields arePlain.2 field member

end

/-- Built-in functions whose `json.loads` reads the grammar, from texts and from
bytes. -/
noncomputable def readingBytes (float : List Char → PyFloat) : Builtins :=
  { grammatical float with
    loadsBytes := fun data => (grammatical float).loads (Utf8.decodeReplace data) }

variable (float)

theorem loads_readingBytes {value : Json} (isPlain : plain value = true) :
    (readingBytes float).loads ((readingBytes float).dumps value) = .ok value :=
  @loads_dumps (readingBytes float) float (loads_grammatical float) value
    (proper_of_plain value isPlain)

theorem loadsBytes_readingBytes (text : String) :
    (readingBytes float).loadsBytes (Utf8.encode text) =
      (readingBytes float).loads text := by
  have bytes : (readingBytes float).loadsBytes (Utf8.encode text) =
      (grammatical float).loads (Utf8.decodeReplace (Utf8.encode text)) := rfl
  rw [bytes, Utf8.decodeReplace_encode]
  rfl

theorem dumps_readingBytes (value : Json) :
    (readingBytes float).dumps value = (Builtins.sample []).dumps value :=
  @Builtins.dumps_congr (readingBytes float) (Builtins.sample []) rfl value

theorem printsFloats_readingBytes : (readingBytes float).PrintsFloats := by
  intro value
  change ∀ c ∈ (toString value.num ++ ".0").toList, Printable c
  exact Builtins.printable_append (Builtins.printable_int value.num) (by decide)

end JsonText

end PrivateAiWorkspace.Python
