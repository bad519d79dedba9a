import PrivateAiWorkspace.Python.Basic

/-!
# Built-in functions and JSON text

Built-in functions whose results depend on Unicode tables, on the printing of
floats or on limits of the interpreter are parameters, collected in `Builtins`.
What `json.dumps` and `str` do besides is defined here.
-/

namespace PrivateAiWorkspace.Python

/-- The built-in functions the code is run with. -/
structure Builtins where
  /-- `text.lower()`. -/
  lower : String → String
  /-- `unicodedata.normalize("NFKC", text)`. -/
  nfkc : String → String
  /-- `json.loads(text)`. -/
  loads : String → Except PyException Json
  /-- `json.loads(data)` of bytes. -/
  loadsBytes : Bytes → Except PyException Json
  /-- `repr` of a finite float. -/
  floatRepr : Rat → String
  /-- `repr` of a JSON value. -/
  repr : Json → String

/-- Built-in functions as they are on ASCII text and whole numbers, with the
documents `json.loads` accepts listed. -/
def Builtins.sample (documents : List (String × Json)) : Builtins where
  lower := Str.asciiLower
  nfkc := id
  loads text :=
    match documents.lookup text with
    | some document => .ok document
    | none => .error .valueError
  loadsBytes _ := .error .valueError
  floatRepr value := toString value.num ++ ".0"
  repr
    | .int value => toString value
    | _ => ""

/-! ## Escapes -/

/-- Four hexadecimal digits. -/
def hex4 (code : Nat) : List Char :=
  let digits := Nat.toDigits 16 code
  List.replicate (4 - digits.length) '0' ++ digits

/-- `\uXXXX`, as a surrogate pair outside the basic plane. -/
def unicodeEscape (code : Nat) : List Char :=
  if code < 0x10000 then '\\' :: 'u' :: hex4 code
  else
    let rest := code - 0x10000
    '\\' :: 'u' :: hex4 (0xd800 + rest / 0x400) ++
      '\\' :: 'u' :: hex4 (0xdc00 + rest % 0x400)

/-- A character inside a JSON string, with `ensure_ascii`. -/
def escapeChar (c : Char) : List Char :=
  match c.toNat with
  | 0x22 => ['\\', '"']
  | 0x5c => ['\\', '\\']
  | 0x0a => ['\\', 'n']
  | 0x0d => ['\\', 'r']
  | 0x09 => ['\\', 't']
  | 0x0c => ['\\', 'f']
  | 0x08 => ['\\', 'b']
  | code =>
      if 0x20 ≤ code && code ≤ 0x7e then [c] else unicodeEscape code

/-- A JSON string. -/
def quote (text : String) : String :=
  String.ofList ('"' :: (text.toList.flatMap escapeChar ++ ['"']))

/-! ### Printable text -/

/-- A character that stands for itself in ASCII text. -/
def Printable (c : Char) : Prop := 0x20 ≤ c.toNat ∧ c.toNat ≤ 0x7e

instance (c : Char) : Decidable (Printable c) := inferInstanceAs (Decidable (_ ∧ _))

theorem printable_digitChar :
    ∀ digit < 16, Printable (Nat.digitChar digit) := by
  decide

theorem printable_toDigitsCore {fuel number : Nat} {digits : List Char}
    (before : ∀ c ∈ digits, Printable c) :
    ∀ c ∈ Nat.toDigitsCore 16 fuel number digits, Printable c := by
  induction fuel generalizing number digits with
  | zero => exact before
  | succ fuel ih =>
      have next : ∀ c ∈ Nat.digitChar (number % 16) :: digits, Printable c := by
        intro c member
        rcases List.mem_cons.mp member with rfl | member
        · exact printable_digitChar _ (Nat.mod_lt _ (by decide))
        · exact before c member
      rw [Nat.toDigitsCore]
      split
      · exact next
      · exact ih next

theorem printable_hex4 (code : Nat) : ∀ c ∈ hex4 code, Printable c := by
  intro c member
  rcases List.mem_append.mp member with padding | digit
  · rw [List.eq_of_mem_replicate padding]
    decide
  · apply printable_toDigitsCore _ c digit
    intro d none
    cases none

theorem printable_unicodeEscape (code : Nat) :
    ∀ c ∈ unicodeEscape code, Printable c := by
  have escape (code : Nat) : ∀ c ∈ '\\' :: 'u' :: hex4 code, Printable c := by
    intro c member
    rcases List.mem_cons.mp member with rfl | member
    · decide
    · rcases List.mem_cons.mp member with rfl | member
      · decide
      · exact printable_hex4 code c member
  intro c member
  rw [unicodeEscape] at member
  split at member
  · exact escape code c member
  · rcases List.mem_append.mp member with member | member
    · exact escape _ c member
    · exact escape _ c member

theorem printable_escapeChar (c : Char) : ∀ d ∈ escapeChar c, Printable d := by
  intro d member
  rw [escapeChar] at member
  split at member
  iterate 7
    · revert d
      decide
  split at member
  next range =>
    rw [List.mem_singleton.mp member]
    simpa [Printable] using range
  next => exact printable_unicodeEscape _ d member

/-- A JSON string is printable ASCII, whatever text it stands for. -/
theorem printable_quote (text : String) :
    ∀ c ∈ (quote text).toList, Printable c := by
  intro c member
  rw [quote, String.toList_ofList] at member
  rcases List.mem_cons.mp member with rfl | member
  · decide
  · rcases List.mem_append.mp member with member | member
    · rcases List.mem_flatMap.mp member with ⟨d, _, member⟩
      exact printable_escapeChar d c member
    · rw [List.mem_singleton.mp member]
      decide

/-! ## Documents -/

namespace Builtins

variable (builtins : Builtins)

/-- A float in JSON text, with `allow_nan`. -/
def floatText : PyFloat → String
  | .finite value => builtins.floatRepr value
  | .infinity false => "Infinity"
  | .infinity true => "-Infinity"
  | .nan => "NaN"

mutual

/-- `json.dumps(value)`. -/
def dumps : Json → String
  | .null => "null"
  | .bool true => "true"
  | .bool false => "false"
  | .int value => toString value
  | .float value => floatText builtins value
  | .str text => quote text
  | .arr items => "[" ++ ", ".intercalate (dumpsItems items) ++ "]"
  | .obj fields => "\x7b" ++ ", ".intercalate (dumpsFields fields) ++ "\x7d"

/-- The items of a list. -/
def dumpsItems : List Json → List String
  | [] => []
  | item :: items => dumps item :: dumpsItems items

/-- The items of a dict. -/
def dumpsFields : List (String × Json) → List String
  | [] => []
  | (name, value) :: fields => (quote name ++ ": " ++ dumps value) ::
      dumpsFields fields

end

section Congr

variable {one other : Builtins}

mutual

/-- Of the built-in functions `json.dumps` uses the printing of floats only. -/
theorem dumps_congr (same : one.floatRepr = other.floatRepr) :
    (value : Json) → dumps one value = dumps other value
  | .null | .bool true | .bool false | .int _ | .str _ => by simp [dumps]
  | .float value => by cases value <;> simp [dumps, floatText, same]
  | .arr items => by rw [dumps, dumps, dumpsItems_congr same items]
  | .obj fields => by rw [dumps, dumps, dumpsFields_congr same fields]

theorem dumpsItems_congr (same : one.floatRepr = other.floatRepr) :
    (items : List Json) → dumpsItems one items = dumpsItems other items
  | [] => by simp [dumpsItems]
  | item :: items => by
      rw [dumpsItems, dumpsItems, dumps_congr same item,
        dumpsItems_congr same items]

theorem dumpsFields_congr (same : one.floatRepr = other.floatRepr) :
    (fields : List (String × Json)) → dumpsFields one fields = dumpsFields other fields
  | [] => by simp [dumpsFields]
  | (name, value) :: fields => by
      rw [dumpsFields, dumpsFields, dumps_congr same value,
        dumpsFields_congr same fields]

end

end Congr

/-- A line break and two blanks for each level. -/
def newline (level : Nat) : String :=
  String.ofList ('\n' :: List.replicate (2 * level) ' ')

/-- Items one on a line between brackets; no lines without items. -/
def block (opening closing : String) (level : Nat) (items : List String) :
    String :=
  if items.isEmpty then opening ++ closing
  else
    opening ++ newline (level + 1) ++
      ("," ++ newline (level + 1)).intercalate items ++ newline level ++ closing

mutual

/-- `json.dumps(value, indent=2)`, inside so many brackets. -/
def dumpsIndented (level : Nat) : Json → String
  | .null => "null"
  | .bool true => "true"
  | .bool false => "false"
  | .int value => toString value
  | .float value => floatText builtins value
  | .str text => quote text
  | .arr items => block "[" "]" level (indentedItems (level + 1) items)
  | .obj fields => block "\x7b" "\x7d" level (indentedFields (level + 1) fields)

/-- The items of a list. -/
def indentedItems (level : Nat) : List Json → List String
  | [] => []
  | item :: items => dumpsIndented level item :: indentedItems level items

/-- The items of a dict. -/
def indentedFields (level : Nat) : List (String × Json) → List String
  | [] => []
  | (name, value) :: fields =>
      (quote name ++ ": " ++ dumpsIndented level value) ::
        indentedFields level fields

end

/-- `str(value)`. -/
def str : Json → String
  | .str text => text
  | value => builtins.repr value

end Builtins

end PrivateAiWorkspace.Python
