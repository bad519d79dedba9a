import PrivateAiWorkspace.Lists.Separated
import PrivateAiWorkspace.Lists.Trimming
import PrivateAiWorkspace.Python.Builtins
import PrivateAiWorkspace.Python.Dict

/-!
# The texts of JSON values

The grammar `json.loads` reads with its defaults: besides the values of the
standard, the words `NaN`, `Infinity` and `-Infinity`; no control characters
in strings. What the text between two quotes or that of a float stands
for is a parameter: the grammar needs none of it.

The grammar is unambiguous (`Value.unique`): before a character that cannot
continue it, a text is a value in one way at most.
-/

namespace PrivateAiWorkspace.Python.JsonText

/-- What the texts of strings and of floats stand for. -/
structure Lexemes where
  string : List Char → String
  float : List Char → PyFloat

/-! ## White space, words, numbers and strings -/

/-- A character of white space. -/
def blank (c : Char) : Bool := c ∈ [' ', '\t', '\n', '\r']

/-- A text of white space. -/
def IsBlank (text : List Char) : Prop := ∀ c ∈ text, blank c

/-- The words and their values. -/
def words : List (List Char × Json) :=
  [(['n', 'u', 'l', 'l'], .null), (['t', 'r', 'u', 'e'], .bool true),
    (['f', 'a', 'l', 's', 'e'], .bool false), (['N', 'a', 'N'], .float .nan),
    (['I', 'n', 'f', 'i', 'n', 'i', 't', 'y'], .float (.infinity false)),
    (['-', 'I', 'n', 'f', 'i', 'n', 'i', 't', 'y'], .float (.infinity true))]

/-- `[0-9]`. -/
def digit (c : Char) : Bool := 0x30 ≤ c.toNat && c.toNat ≤ 0x39

/-- `[0-9]+`. -/
def IsDigits (text : List Char) : Prop := text ≠ [] ∧ ∀ c ∈ text, digit c

/-- `0|[1-9][0-9]*`. -/
def IsWhole (text : List Char) : Prop :=
  text = ['0'] ∨ IsDigits text ∧ text.head? ≠ some '0'

/-- `(\.[0-9]+)?`. -/
def IsFraction (text : List Char) : Prop :=
  text = [] ∨ ∃ digits, text = '.' :: digits ∧ IsDigits digits

/-- `([eE][-+]?[0-9]+)?`. -/
def IsExponent (text : List Char) : Prop :=
  text = [] ∨ ∃ mark sign digits, text = mark :: (sign ++ digits) ∧
    mark ∈ ['e', 'E'] ∧ sign ∈ [[], ['-'], ['+']] ∧ IsDigits digits

/-- `-?(0|[1-9][0-9]*)(\.[0-9]+)?([eE][-+]?[0-9]+)?`. -/
def IsNumber (text : List Char) : Prop :=
  ∃ sign whole fraction exponent, text = sign ++ whole ++ fraction ++ exponent ∧
    sign ∈ [[], ['-']] ∧ IsWhole whole ∧ IsFraction fraction ∧ IsExponent exponent

/-- The number some digits stand for. -/
def natOf (digits : List Char) : Nat := Nat.ofDigitChars 10 digits 0

/-- The number digits behind an optional sign stand for. -/
def intOf : List Char → Int
  | '-' :: digits => -(natOf digits : Int)
  | digits => natOf digits

/-- The value of a number: a float when it has a fraction or an exponent. -/
def Lexemes.number (lexemes : Lexemes) (text : List Char) : Json :=
  if text.all fun c => c = '-' || digit c then .int (intOf text)
  else .float (lexemes.float text)

/-- `[0-9A-Fa-f]`. -/
def hexDigit (c : Char) : Bool :=
  digit c || (0x41 ≤ c.toNat && c.toNat ≤ 0x46) || (0x61 ≤ c.toNat && c.toNat ≤ 0x66)

/-- The text between the quotes of a string. -/
inductive Quoted : List Char → Prop where
  | nil : Quoted []
  | plain {c : Char} {rest : List Char} (printable : 0x20 ≤ c.toNat)
      (noQuote : c ≠ '"') (noBackslash : c ≠ '\\') (more : Quoted rest) :
      Quoted (c :: rest)
  | escape {c : Char} {rest : List Char}
      (simple : c ∈ ['"', '\\', '/', 'b', 'f', 'n', 'r', 't'])
      (more : Quoted rest) : Quoted ('\\' :: c :: rest)
  | unicode {digits rest : List Char} (four : digits.length = 4)
      (hex : ∀ c ∈ digits, hexDigit c) (more : Quoted rest) :
      Quoted ('\\' :: 'u' :: (digits ++ rest))

/-! ## Values -/

/-- A value that holds no other. -/
inductive Scalar (lexemes : Lexemes) : List Char → Json → Prop where
  | word {text : List Char} {value : Json} (listed : (text, value) ∈ words) :
      Scalar lexemes text value
  | number {text : List Char} (isNumber : IsNumber text) :
      Scalar lexemes text (lexemes.number text)
  | string {text : List Char} (quoted : Quoted text) :
      Scalar lexemes ('"' :: (text ++ ['"'])) (.str (lexemes.string text))

/-- A value in white space. -/
structure Item where
  before : List Char
  text : List Char
  value : Json
  after : List Char

namespace Item

/-- The text of an item. -/
def written (item : Item) : List Char := item.before ++ (item.text ++ item.after)

/-- There is nothing but white space around the value. -/
structure Spaced (item : Item) : Prop where
  before : IsBlank item.before
  after : IsBlank item.after

end Item

/-- A member of an object: white space, a key between quotes, white space, and
after a colon an item. -/
structure Member where
  before : List Char
  key : List Char
  colon : List Char
  item : Item

namespace Member

/-- The text of a member. -/
def written (member : Member) : List Char :=
  member.before ++ ('"' :: (member.key ++ '"' ::
    (member.colon ++ ':' :: member.item.written)))

/-- The key is one and there is nothing but white space around it. -/
structure Spaced (member : Member) : Prop where
  before : IsBlank member.before
  key : Quoted member.key
  colon : IsBlank member.colon
  item : member.item.Spaced

/-- What a member stands for. -/
def field (lexemes : Lexemes) (member : Member) : String × Json :=
  (lexemes.string member.key, member.item.value)

end Member

/-- The dict with some items assigned in turn. -/
def dict (fields : List (String × Json)) : List (String × Json) :=
  fields.foldl (fun items field => assign field.1 field.2 items) []

/-- The text of a value, and the value. -/
inductive Value (lexemes : Lexemes) : List Char → Json → Prop where
  | scalar {text : List Char} {value : Json} (scalar : Scalar lexemes text value) :
      Value lexemes text value
  | emptyArray {space : List Char} (isBlank : IsBlank space) :
      Value lexemes ('[' :: (space ++ [']'])) (.arr [])
  | array {items : List Item} (nonempty : items ≠ [])
      (spaced : ∀ item ∈ items, item.Spaced)
      (values : ∀ item ∈ items, Value lexemes item.text item.value) :
      Value lexemes ('[' :: ([','].intercalate (items.map Item.written) ++ [']']))
        (.arr (items.map Item.value))
  | emptyObject {space : List Char} (isBlank : IsBlank space) :
      Value lexemes ('\x7b' :: (space ++ ['\x7d'])) (.obj [])
  | object {members : List Member} (nonempty : members ≠ [])
      (spaced : ∀ member ∈ members, member.Spaced)
      (values : ∀ member ∈ members,
        Value lexemes member.item.text member.item.value) :
      Value lexemes
        ('\x7b' :: ([','].intercalate (members.map Member.written) ++ ['\x7d']))
        (.obj (dict (members.map (Member.field lexemes))))

/-- A document is a value in white space. -/
def Document (lexemes : Lexemes) (text : List Char) (value : Json) : Prop :=
  ∃ item : Item, text = item.written ∧ item.value = value ∧ item.Spaced ∧
    Value lexemes item.text item.value

/-- `json.loads`: it returns the values of documents and refuses any other
text with a `ValueError`. -/
structure Loads (lexemes : Lexemes) (loads : String → Except PyException Json) :
    Prop where
  returns (text : String) (value : Json) :
    loads text = .ok value ↔ Document lexemes text.toList value
  refuses (text : String) (error : PyException) :
    loads text = .error error → error = .valueError

/-! ## One way to read a text -/

section Unique

variable {lexemes : Lexemes} {text text' rest rest' : List Char} {value value' : Json}

/-- A character that may follow a value. -/
def follows (c : Char) : Bool := c ∈ [' ', '\t', '\n', '\r', ',', ']', '\x7d']

/-- A text a value does not go on into. -/
def Ends (rest : List Char) : Prop := ∀ c, rest.head? = some c → follows c

theorem follows_of_blank {c : Char} (isBlank : blank c) : follows c := by
  simp only [blank, follows, decide_eq_true_eq, List.mem_cons, List.not_mem_nil] at *
  tauto

/-- White space is read in one way. -/
theorem blanks_inj {space space' : List Char} (isBlank : IsBlank space)
    (isBlank' : IsBlank space')
    (starts : ∀ c, text.head? = some c → blank c = false)
    (starts' : ∀ c, text'.head? = some c → blank c = false)
    (same : space ++ text = space' ++ text') : space = space' ∧ text = text' := by
  constructor
  · rw [← Lists.takeWhile_append_of_head isBlank starts, same,
      Lists.takeWhile_append_of_head isBlank' starts']
  · rw [← Lists.dropWhile_append_of_head isBlank starts, same,
      Lists.dropWhile_append_of_head isBlank' starts']

/-- A text without brackets, quotes and what may follow a value. -/
structure IsToken (text : List Char) : Prop where
  nonempty : text ≠ []
  clean : ∀ c ∈ text, follows c = false ∧ c ∉ ['"', '[', '\x7b', ':']

theorem isToken_of_word : ∀ word ∈ words, IsToken word.1 := by
  intro word listed
  constructor
  · revert word
    decide
  · revert word
    decide

/-- A character a number may hold. -/
def numeric (c : Char) : Bool := digit c || c ∈ ['-', '+', '.', 'e', 'E']

theorem clean_of_numeric {c : Char} (isNumeric : numeric c) :
    follows c = false ∧ c ∉ ['"', '[', '\x7b', ':'] := by
  have marks : ∀ d ∈ [' ', '\t', '\n', '\r', ',', ']', '\x7d', '"', '[', '\x7b', ':'],
      numeric d = false := by decide
  constructor
  · by_contra is_follower
    simp only [Bool.not_eq_false, follows, decide_eq_true_eq] at is_follower
    have := marks c (List.mem_append_left ['"', '[', '\x7b', ':'] is_follower)
    simp [isNumeric] at this
  · intro is_mark
    have := marks c
      (List.mem_append_right [' ', '\t', '\n', '\r', ',', ']', '\x7d'] is_mark)
    simp [isNumeric] at this

theorem IsDigits.numeric {text : List Char} (isDigits : IsDigits text) :
    ∀ c ∈ text, numeric c := by
  intro c member
  simp [JsonText.numeric, isDigits.2 c member]

theorem IsNumber.numeric {text : List Char} (isNumber : IsNumber text) :
    text ≠ [] ∧ ∀ c ∈ text, numeric c := by
  rcases isNumber with
    ⟨sign, whole, fraction, exponent, rfl, isSign, isWhole, isFraction, isExponent⟩
  have ofWhole : whole ≠ [] ∧ ∀ c ∈ whole, JsonText.numeric c := by
    rcases isWhole with zero | ⟨isDigits, -⟩
    · subst zero
      decide
    · exact ⟨isDigits.1, isDigits.numeric⟩
  have ofFraction : ∀ c ∈ fraction, JsonText.numeric c := by
    rcases isFraction with none | ⟨digits, point, isDigits⟩
    · simp [none]
    · subst point
      exact List.forall_mem_cons.mpr ⟨by decide, isDigits.numeric⟩
  have signs : ∀ c ∈ ['-', '+', 'e', 'E'], JsonText.numeric c := by decide
  have ofExponent : ∀ c ∈ exponent, JsonText.numeric c := by
    rcases isExponent with none | ⟨mark, sign, digits, marked, isMark, isSign, isDigits⟩
    · simp [none]
    · subst marked
      intro c member
      rcases List.mem_cons.mp member with isC | member
      · exact signs c (by
          simp only [List.mem_cons, List.not_mem_nil] at isMark ⊢
          rw [isC]
          tauto)
      · rcases List.mem_append.mp member with inSign | inDigits
        · exact signs c (by
            simp only [List.mem_cons, List.not_mem_nil, or_false] at isSign ⊢
            rcases isSign with none | minus | plus
            · simp [none] at inSign
            · simp [minus] at inSign
              exact Or.inl inSign
            · simp [plus] at inSign
              exact Or.inr (Or.inl inSign))
        · exact isDigits.numeric c inDigits
  constructor
  · simp [ofWhole.1]
  · intro c member
    simp only [List.mem_append] at member
    rcases member with ((inSign | inWhole) | inFraction) | inExponent
    · simp only [List.mem_cons, List.not_mem_nil, or_false] at isSign
      rcases isSign with none | minus
      · simp [none] at inSign
      · simp only [minus, List.mem_singleton] at inSign
        rw [inSign]
        decide
    · exact ofWhole.2 c inWhole
    · exact ofFraction c inFraction
    · exact ofExponent c inExponent

theorem IsNumber.isToken (isNumber : IsNumber text) : IsToken text where
  nonempty := isNumber.numeric.1
  clean := fun c member => clean_of_numeric (isNumber.numeric.2 c member)

/-- A token ends where something that may follow a value begins. -/
theorem IsToken.unique (token : IsToken text) (token' : IsToken text')
    (ends : Ends rest) (ends' : Ends rest') (same : text ++ rest = text' ++ rest') :
    text = text' := by
  have keeps {text rest : List Char} (token : IsToken text) (ends : Ends rest) :
      (text ++ rest).takeWhile (fun c => !follows c) = text := by
    apply Lists.takeWhile_append_of_head
    · intro c member
      simp [(token.clean c member).1]
    · intro c first
      simp [ends c first]
  rw [← keeps token ends, same, keeps token' ends']

/-- The text up to a quote that is not escaped. -/
def upToQuote (escaped : Bool) : List Char → List Char
  | [] => []
  | c :: rest =>
      if escaped then c :: upToQuote false rest
      else if c = '"' then []
      else c :: upToQuote (c = '\\') rest

theorem plain_of_hexDigit {c : Char} (hex : hexDigit c) : c ≠ '"' ∧ c ≠ '\\' := by
  constructor <;> intro same <;> subst same <;> exact absurd hex (by decide)

theorem upToQuote_append {digits : List Char} (hex : ∀ c ∈ digits, hexDigit c) :
    upToQuote false (digits ++ rest) = digits ++ upToQuote false rest := by
  induction digits with
  | nil => rfl
  | cons c digits ih =>
      have plain := plain_of_hexDigit (hex c List.mem_cons_self)
      have others := ih fun d member => hex d (List.mem_cons_of_mem c member)
      simp [upToQuote, plain.1, plain.2, others]

theorem Quoted.upToQuote (quoted : Quoted text) :
    JsonText.upToQuote false (text ++ '"' :: rest) = text := by
  induction quoted with
  | nil => simp [JsonText.upToQuote]
  | plain printable noQuote noBackslash more ih =>
      simp [JsonText.upToQuote, noQuote, noBackslash, ih]
  | escape simple more ih => simp [JsonText.upToQuote, ih]
  | unicode four hex more ih =>
      simp [JsonText.upToQuote, List.append_assoc, upToQuote_append hex, ih]

/-- A string ends at its first quote that is not escaped. -/
theorem Quoted.unique (quoted : Quoted text) (quoted' : Quoted text')
    (same : text ++ '"' :: rest = text' ++ '"' :: rest') :
    text = text' ∧ rest = rest' := by
  have texts : text = text' := by
    rw [← quoted.upToQuote, same, quoted'.upToQuote]
  rw [texts] at same
  exact ⟨texts, (List.cons.inj (List.append_cancel_left same)).2⟩

theorem words_inj {word word' : List Char × Json} (listed : word ∈ words)
    (listed' : word' ∈ words) (same : word.1 = word'.1) : word = word' := by
  have nodup : (words.map Prod.fst).Nodup := by decide
  exact List.inj_on_of_nodup_map nodup listed listed' same

theorem word_not_number {word : List Char × Json} (listed : word ∈ words) :
    ¬IsNumber word.1 := by
  have foreign : (words.all fun word => word.1.any (!numeric ·)) = true := by decide
  intro isNumber
  rcases List.any_eq_true.mp (List.all_eq_true.mp foreign word listed) with
    ⟨c, member, alien⟩
  simp [isNumber.numeric.2 c member] at alien

/-- The first character of a value. -/
structure Starts (first : Char) : Prop where
  noFollower : follows first = false
  noColon : first ≠ ':'

theorem Starts.not_blank {first : Char} (starts : Starts first) :
    blank first = false := by
  by_contra isBlank
  simp only [Bool.not_eq_false] at isBlank
  simpa [starts.noFollower] using follows_of_blank isBlank

theorem IsToken.starts (token : IsToken text) : ∃ first rest, text = first :: rest ∧
    Starts first ∧ first ∉ ['"', '[', '\x7b'] := by
  rcases List.exists_cons_of_ne_nil token.nonempty with ⟨first, rest, rfl⟩
  have clean := token.clean first List.mem_cons_self
  simp only [List.mem_cons, List.not_mem_nil, or_false, not_or] at clean
  exact ⟨first, rest, rfl, ⟨clean.1, clean.2.2.2.2⟩, by simp [clean.2]⟩

/-- A value that holds no other is a token or a string. -/
theorem Scalar.shape (scalar : Scalar lexemes text value) :
    IsToken text ∨ ∃ inner, text = '"' :: (inner ++ ['"']) := by
  cases scalar with
  | word listed => exact Or.inl (isToken_of_word _ listed)
  | number isNumber => exact Or.inl isNumber.isToken
  | string quoted => exact Or.inr ⟨_, rfl⟩

theorem Scalar.starts (scalar : Scalar lexemes text value) :
    ∃ first rest, text = first :: rest ∧ Starts first ∧ first ∉ ['[', '\x7b'] := by
  rcases scalar.shape with token | ⟨inner, rfl⟩
  · rcases token.starts with ⟨first, rest, rfl, starts, none⟩
    exact ⟨first, rest, rfl, starts, by simp at none; simp [none]⟩
  · exact ⟨'"', inner ++ ['"'], rfl, ⟨by decide, by decide⟩, by decide⟩

theorem Scalar.unique (scalar : Scalar lexemes text value)
    (scalar' : Scalar lexemes text' value') (ends : Ends rest) (ends' : Ends rest')
    (same : text ++ rest = text' ++ rest') : text = text' ∧ value = value' := by
  have notString {inner inner' : List Char} (token : IsToken inner) :
      inner ++ rest ≠ '"' :: (inner' ++ ['"']) ++ rest' := by
    rcases token.starts with ⟨first, more, rfl, -, none⟩
    intro same
    simp [(List.cons.inj same).1] at none
  have notString' {inner inner' : List Char} (token : IsToken inner') :
      '"' :: (inner ++ ['"']) ++ rest ≠ inner' ++ rest' := by
    rcases token.starts with ⟨first, more, rfl, -, none⟩
    intro same
    simp [← (List.cons.inj same).1] at none
  cases scalar with
  | word listed =>
      have token := isToken_of_word _ listed
      cases scalar' with
      | word listed' =>
          have texts := token.unique (isToken_of_word _ listed') ends ends' same
          exact ⟨texts, congrArg Prod.snd (words_inj listed listed' texts)⟩
      | number isNumber' =>
          have texts := token.unique isNumber'.isToken ends ends' same
          rw [← texts] at isNumber'
          exact absurd isNumber' (word_not_number listed)
      | string quoted' => exact absurd same (notString token)
  | number isNumber =>
      have token := isNumber.isToken
      cases scalar' with
      | word listed' =>
          have texts := token.unique (isToken_of_word _ listed') ends ends' same
          rw [texts] at isNumber
          exact absurd isNumber (word_not_number listed')
      | number isNumber' =>
          have texts := token.unique isNumber'.isToken ends ends' same
          exact ⟨texts, by rw [texts]⟩
      | string quoted' => exact absurd same (notString token)
  | string quoted =>
      cases scalar' with
      | word listed' => exact absurd same (notString' (isToken_of_word _ listed'))
      | number isNumber' => exact absurd same (notString' isNumber'.isToken)
      | string quoted' =>
          simp only [List.cons_append, List.append_assoc, List.nil_append,
            List.cons.injEq, true_and] at same
          have texts := (quoted.unique quoted' same).1
          exact ⟨by rw [texts], by rw [texts]⟩

theorem Value.starts (isValue : Value lexemes text value) :
    ∃ first rest, text = first :: rest ∧ Starts first := by
  cases isValue with
  | scalar scalar =>
      rcases scalar.starts with ⟨first, rest, same, starts, -⟩
      exact ⟨first, rest, same, starts⟩
  | emptyArray | array => exact ⟨'[', _, rfl, by decide, by decide⟩
  | emptyObject | object => exact ⟨'\x7b', _, rfl, by decide, by decide⟩

/-- A text is the value in front of what may follow it, and no other. -/
def ReadOnce (lexemes : Lexemes) (text : List Char) (value : Json) : Prop :=
  ∀ text' value' rest rest', Value lexemes text' value' → Ends rest → Ends rest' →
    text ++ rest = text' ++ rest' → text = text' ∧ value = value'

/-- A text that neither goes on with white space nor with a value. -/
def Closed (rest : List Char) : Prop :=
  ∀ c, rest.head? = some c → follows c ∧ blank c = false

theorem closed_of_endsPart {close : Char} (bracket : close ∈ [']', '\x7d'])
    (ends : Lists.EndsPart ',' close rest) : Closed rest := by
  intro c first
  simp only [List.mem_cons, List.not_mem_nil, or_false] at bracket
  rcases ends with comma | closing
  · rw [← Option.some.inj (comma.symm.trans first)]
    decide
  · rw [← Option.some.inj (closing.symm.trans first)]
    rcases bracket with rfl | rfl <;> decide

theorem Closed.ends_append {space : List Char} (closed : Closed rest)
    (isBlank : IsBlank space) : Ends (space ++ rest) := by
  intro c first
  cases space with
  | nil => exact (closed c first).1
  | cons d space =>
      rw [← Option.some.inj first]
      exact follows_of_blank (isBlank d List.mem_cons_self)

theorem Value.not_blank (isValue : Value lexemes text value) (rest : List Char) :
    ∀ c, (text ++ rest).head? = some c → blank c = false := by
  rcases isValue.starts with ⟨first, more, rfl, starts⟩
  intro c found
  rw [← Option.some.inj found]
  exact starts.not_blank

/-- Items are read in one way when their values are. -/
theorem Item.unique {item item' : Item} (spaced : item.Spaced)
    (spaced' : item'.Spaced) (isValue : Value lexemes item.text item.value)
    (isValue' : Value lexemes item'.text item'.value)
    (once : ReadOnce lexemes item.text item.value) (closed : Closed rest)
    (closed' : Closed rest') (same : item.written ++ rest = item'.written ++ rest') :
    item.written = item'.written ∧ item.value = item'.value := by
  simp only [Item.written, List.append_assoc] at same
  have afterBefore := blanks_inj spaced.before spaced'.before
    (isValue.not_blank _) (isValue'.not_blank _) same
  have afterText := once _ _ _ _ isValue' (closed.ends_append spaced.after)
    (closed'.ends_append spaced'.after) afterBefore.2
  have rests := afterBefore.2
  rw [afterText.1] at rests
  have afterAfter := blanks_inj spaced.after spaced'.after
    (fun c first => (closed c first).2) (fun c first => (closed' c first).2)
    (List.append_cancel_left rests)
  constructor
  · rw [Item.written, Item.written, afterBefore.1, afterText.1, afterAfter.1]
  · exact afterText.2

/-- Members are read in one way when their values are. -/
theorem Member.unique {member member' : Member} (spaced : member.Spaced)
    (spaced' : member'.Spaced)
    (isValue : Value lexemes member.item.text member.item.value)
    (isValue' : Value lexemes member'.item.text member'.item.value)
    (once : ReadOnce lexemes member.item.text member.item.value)
    (closed : Closed rest) (closed' : Closed rest')
    (same : member.written ++ rest = member'.written ++ rest') :
    member.written = member'.written ∧ member.field lexemes = member'.field lexemes := by
  simp only [Member.written, List.append_assoc, List.cons_append] at same
  have afterBefore := blanks_inj spaced.before spaced'.before (by simp; decide)
    (by simp; decide) same
  have afterKey := spaced.key.unique spaced'.key (List.cons.inj afterBefore.2).2
  have afterColon := blanks_inj spaced.colon spaced'.colon (by simp; decide)
    (by simp; decide) afterKey.2
  have items := Item.unique spaced.item spaced'.item isValue isValue' once closed closed'
    (List.cons.inj afterColon.2).2
  constructor
  · rw [Member.written, Member.written, afterBefore.1, afterKey.1, afterColon.1,
      items.1]
  · rw [Member.field, Member.field, afterKey.1, items.2]

/-- White space between brackets is not the first of some parts. -/
theorem blank_ne_parts {close : Char} {space before first more : List Char}
    {parts : List (List Char)} (bracket : close ∈ [']', '\x7d'])
    (isBlank : IsBlank space) (isBlank' : IsBlank before) {c : Char}
    (starts : follows c = false) (begins : first = before ++ c :: more) :
    space ++ close :: rest ≠ [','].intercalate (first :: parts) ++ close :: rest' := by
  intro same
  have closes : follows close ∧ blank close = false := by
    simp only [List.mem_cons, List.not_mem_nil, or_false] at bracket
    rcases bracket with rfl | rfl <;> decide
  have noBlank : blank c = false := by
    by_contra white
    simp only [Bool.not_eq_false] at white
    simpa [starts] using follows_of_blank white
  rw [Lists.intercalate_append_close, begins, List.append_assoc, List.cons_append] at same
  have heads := (blanks_inj isBlank isBlank' (by simp [closes.2]) (by simp [noBlank])
    same).2
  rw [(List.cons.inj heads).1] at closes
  simp [starts] at closes

theorem Item.begins {item : Item} (isValue : Value lexemes item.text item.value) :
    ∃ c more, item.written = item.before ++ c :: more ∧ follows c = false := by
  rcases isValue.starts with ⟨c, more, text, starts⟩
  exact ⟨c, more ++ item.after, by simp [Item.written, text], starts.noFollower⟩

/-- Parts between brackets are read in one way when each of them is. -/
theorem parts_unique {ι β : Type} {written : ι → List Char} {means : ι → β}
    {close : Char} (bracket : close ∈ [']', '\x7d']) {parts parts' : List ι}
    (nonempty : parts ≠ []) (nonempty' : parts' ≠ [])
    (unique : ∀ part ∈ parts, ∀ part' ∈ parts', ∀ tail tail',
      Closed tail → Closed tail' → written part ++ tail = written part' ++ tail' →
      written part = written part' ∧ means part = means part')
    (same : [','].intercalate (parts.map written) ++ close :: rest =
      [','].intercalate (parts'.map written) ++ close :: rest') :
    parts.map written = parts'.map written ∧ parts.map means = parts'.map means := by
  have different : ',' ≠ close := by
    intro comma
    rw [← comma] at bracket
    exact absurd bracket (by decide)
  have texts (parts : List ι) :
      (parts.map fun part => (written part, means part)).map Prod.fst =
        parts.map written := by
    rw [List.map_map]
    rfl
  have meanings (parts : List ι) :
      (parts.map fun part => (written part, means part)).map Prod.snd =
        parts.map means := by
    rw [List.map_map]
    rfl
  rw [← texts parts, ← texts parts'] at same
  have entries := (Lists.intercalate_close_inj different
    (by simpa using nonempty) (by simpa using nonempty') (by
      simp only [List.forall_mem_map]
      intro part member part' member' tail tail' ends ends' same
      have found := unique part member part' member' tail tail'
        (closed_of_endsPart bracket ends) (closed_of_endsPart bracket ends') same
      exact Prod.ext found.1 found.2) same).1
  constructor
  · rw [← texts parts, entries, texts]
  · rw [← meanings parts, entries, meanings]

/-- The text between two brackets and what follows it. -/
theorem between_brackets {bracket close : Char} {inner inner' : List Char}
    (same : bracket :: (inner ++ [close]) ++ rest =
      bracket :: (inner' ++ [close]) ++ rest') :
    inner ++ close :: rest = inner' ++ close :: rest' := by
  simpa using same

/-- A value is read in one way. -/
theorem Value.readOnce (isValue : Value lexemes text value) :
    ReadOnce lexemes text value := by
  induction isValue with
  | scalar scalar =>
      intro text' value' rest rest' isValue' ends ends' same
      rcases scalar.starts with ⟨first, more, text, -, other⟩
      rw [text] at same
      cases isValue' with
      | scalar scalar' => exact scalar.unique scalar' ends ends' (by rw [text, same])
      | emptyArray | array | emptyObject | object =>
          exact absurd (List.cons.inj same).1 (by intro here; simp [here] at other)
  | emptyArray isBlank =>
      intro text' value' rest rest' isValue' ends ends' same
      cases isValue' with
      | scalar scalar' =>
          rcases scalar'.starts with ⟨first, more, text, -, other⟩
          rw [text] at same
          exact absurd (List.cons.inj same).1 (by intro here; simp [← here] at other)
      | emptyArray isBlank' =>
          have spaces := blanks_inj isBlank isBlank' (by simp; decide) (by simp; decide)
            (between_brackets same)
          exact ⟨by rw [spaces.1], rfl⟩
      | @array items nonempty spaced values =>
          rcases List.exists_cons_of_ne_nil nonempty with ⟨item, others, rfl⟩
          rcases Item.begins (values item List.mem_cons_self) with
            ⟨c, more, begins, starts⟩
          exact absurd (between_brackets same) (blank_ne_parts (by decide) isBlank
            (spaced item List.mem_cons_self).before starts begins)
      | emptyObject | object => exact absurd (List.cons.inj same).1 (by decide)
  | @array items nonempty spaced values ih =>
      intro text' value' rest rest' isValue' ends ends' same
      cases isValue' with
      | scalar scalar' =>
          rcases scalar'.starts with ⟨first, more, text, -, other⟩
          rw [text] at same
          exact absurd (List.cons.inj same).1 (by intro here; simp [← here] at other)
      | emptyArray isBlank' =>
          rcases List.exists_cons_of_ne_nil nonempty with ⟨item, others, rfl⟩
          rcases Item.begins (values item List.mem_cons_self) with
            ⟨c, more, begins, starts⟩
          exact absurd (between_brackets same).symm (blank_ne_parts (by decide) isBlank'
            (spaced item List.mem_cons_self).before starts begins)
      | @array items' nonempty' spaced' values' =>
          have parts := parts_unique (by decide) nonempty nonempty' (by
            intro item member item' member' tail tail' closed closed' same
            exact Item.unique (spaced item member) (spaced' item' member')
              (values item member) (values' item' member') (ih item member) closed
              closed' same) (between_brackets same)
          exact ⟨by rw [parts.1], congrArg Json.arr parts.2⟩
      | emptyObject | object => exact absurd (List.cons.inj same).1 (by decide)
  | emptyObject isBlank =>
      intro text' value' rest rest' isValue' ends ends' same
      cases isValue' with
      | scalar scalar' =>
          rcases scalar'.starts with ⟨first, more, text, -, other⟩
          rw [text] at same
          exact absurd (List.cons.inj same).1 (by intro here; simp [← here] at other)
      | emptyArray | array => exact absurd (List.cons.inj same).1 (by decide)
      | emptyObject isBlank' =>
          have spaces := blanks_inj isBlank isBlank' (by simp; decide) (by simp; decide)
            (between_brackets same)
          exact ⟨by rw [spaces.1], rfl⟩
      | @object members nonempty spaced values =>
          rcases List.exists_cons_of_ne_nil nonempty with ⟨member, others, rfl⟩
          exact absurd (between_brackets same) (blank_ne_parts (by decide) isBlank
            (spaced member List.mem_cons_self).before (by decide) rfl)
  | @object members nonempty spaced values ih =>
      intro text' value' rest rest' isValue' ends ends' same
      cases isValue' with
      | scalar scalar' =>
          rcases scalar'.starts with ⟨first, more, text, -, other⟩
          rw [text] at same
          exact absurd (List.cons.inj same).1 (by intro here; simp [← here] at other)
      | emptyArray | array => exact absurd (List.cons.inj same).1 (by decide)
      | emptyObject isBlank' =>
          rcases List.exists_cons_of_ne_nil nonempty with ⟨member, others, rfl⟩
          exact absurd (between_brackets same).symm (blank_ne_parts (by decide) isBlank'
            (spaced member List.mem_cons_self).before (by decide) rfl)
      | @object members' nonempty' spaced' values' =>
          have parts := parts_unique (by decide) nonempty nonempty' (by
            intro member listed member' listed' tail tail' closed closed' same
            exact Member.unique (spaced member listed) (spaced' member' listed')
              (values member listed) (values' member' listed') (ih member listed) closed
              closed' same) (between_brackets same)
          exact ⟨by rw [parts.1], congrArg (fun fields => Json.obj (dict fields)) parts.2⟩

/-- A document has one value. -/
theorem Document.value_unique (document : Document lexemes text value)
    (document' : Document lexemes text value') : value = value' := by
  rcases document with ⟨item, rfl, rfl, spaced, isValue⟩
  rcases document' with ⟨item', same, rfl, spaced', isValue'⟩
  have closed : Closed [] := by
    intro c first
    cases first
  exact (Item.unique spaced spaced' isValue isValue' isValue.readOnce closed closed
    (by rw [same])).2

end Unique

/-- There is such a function. -/
theorem exists_loads (lexemes : Lexemes) : ∃ loads, Loads lexemes loads := by
  classical
  refine ⟨fun text =>
    if document : ∃ value, Document lexemes text.toList value then .ok document.choose
    else .error .valueError, ?_, ?_⟩
  · intro text value
    constructor
    · intro returned
      split at returned
      next document =>
        cases returned
        exact document.choose_spec
      next => cases returned
    · intro isDocument
      have document : ∃ value, Document lexemes text.toList value := ⟨value, isDocument⟩
      rw [dif_pos document, document.choose_spec.value_unique isDocument]
  · intro text error raised
    split at raised
    next => cases raised
    next =>
      cases raised
      rfl

end PrivateAiWorkspace.Python.JsonText
