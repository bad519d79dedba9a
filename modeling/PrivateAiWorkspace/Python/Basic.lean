import Mathlib.Data.List.Infix
import Mathlib.Data.Rat.Defs

/-!
# Built-in Python values used by the application

Strings are Lean strings, handled as lists of code points; JSON documents are
what `json.loads` returns, with an object as the list of its items in order.
Only the operations the modelled code performs are defined.
-/

namespace PrivateAiWorkspace.Python

universe u

/-- What is said of all items of a list is decided along the list, also where the type
of the items is finite. -/
instance (priority := 2000) decidableForallMem {α : Type u} (property : α → Prop)
    [DecidablePred property] (items : List α) :
    Decidable (∀ item ∈ items, property item) :=
  List.decidableBAll property items

/-- `REJECT_*` of `outbound.py`: why a URL is refused. -/
inductive RejectReason where
  | scheme
  | credentials
  | hostNotAllowed
  | dns
  | metadata
  | privateIp
  | malformed
  deriving DecidableEq, Repr

/-- Exception classes the modelled code raises or tells apart. Any other class
is `other`. -/
inductive PyException where
  | valueError
  | typeError
  | keyError
  | indexError
  | attributeError
  | overflowError
  | osError
  | gaierror
  | timeoutError
  | brokenPipeError
  | connectionResetError
  | httpError (code : Nat)
  | urlError
  | tokenVerificationError
  | inferenceUnavailableError (statusCode : Option Nat)
  | inferenceRoutingError
  | outboundReject (reason : RejectReason)
  | unknownOperation
  | other (name : String)
  deriving DecidableEq, Repr

/-- `bytes`. -/
abbrev Bytes := List UInt8

/-- `data or b"{}"`. -/
def orEmptyObject (data : Bytes) : Bytes := if data.isEmpty then [123, 125] else data

namespace Str

/-- `str.isspace` on one code point. -/
def isSpace (c : Char) : Bool :=
  let code := c.toNat
  (0x9 ≤ code && code ≤ 0xd) || (0x1c ≤ code && code ≤ 0x20) ||
    code == 0x85 || code == 0xa0 || code == 0x1680 ||
    (0x2000 ≤ code && code ≤ 0x200a) || code == 0x2028 || code == 0x2029 ||
    code == 0x202f || code == 0x205f || code == 0x3000

/-- `text.strip()`. -/
def strip (text : String) : String :=
  String.ofList (((text.toList.dropWhile isSpace).reverse.dropWhile
    isSpace).reverse)

/-- `text.lower()` of ASCII text. -/
def asciiLower (text : String) : String :=
  String.ofList (text.toList.map Char.toLower)

/-- `text.split(None, 1)`: the first word and, when there is one, the rest
without the white space between them. -/
def splitWord (text : String) : List String :=
  match text.toList.dropWhile isSpace with
  | [] => []
  | trimmed =>
      let word := String.ofList (trimmed.takeWhile (!isSpace ·))
      match (trimmed.dropWhile (!isSpace ·)).dropWhile isSpace with
      | [] => [word]
      | rest => [word, String.ofList rest]

/-- `text.split(separator, 1)[0]`. -/
def before (separator : Char) (text : String) : String :=
  String.ofList (text.toList.takeWhile (· != separator))

/-- `text.split(separator, 1)[1]`, the empty string when the separator is
absent. -/
def after (separator : Char) (text : String) : String :=
  String.ofList ((text.toList.dropWhile (· != separator)).drop 1)

/-- `text.split(separator)`. -/
def splitOn (separator : Char) (text : String) : List String :=
  (text.toList.splitOn separator).map String.ofList

/-- `part in text`. -/
def contains (text part : String) : Bool :=
  decide (part.toList <:+: text.toList)

/-- `text.isascii()`. -/
def isAscii (text : String) : Bool :=
  text.toList.all (·.toNat < 128)

/-- `text.startswith(prefix)`. -/
def startsWith (text initial : String) : Bool :=
  initial.toList.isPrefixOf text.toList

/-- `text.endswith(suffix)`. -/
def endsWith (text final : String) : Bool :=
  final.toList.isSuffixOf text.toList

/-- `text[start:len(text) - stop]`. -/
def slice (text : String) (start stop : Nat) : String :=
  String.ofList ((text.toList.take (text.toList.length - stop)).drop start)

/-- `text[:count]`. -/
def take (text : String) (count : Nat) : String :=
  String.ofList (text.toList.take count)

/-- The text can be encoded in latin-1. -/
def isLatin1 (text : String) : Bool :=
  text.toList.all (·.toNat < 256)

/-- Most digits `int` converts. -/
def maxDigits : Nat := 4300

/-- White space around a number that `int` skips in latin-1 text: the separators
U+001C to U+001F, which `strip` removes, are not part of it. -/
def isNumberSpace (c : Char) : Bool :=
  let code := c.toNat
  (0x9 ≤ code && code ≤ 0xd) || code == 0x20 || code == 0x85 || code == 0xa0

/-- `int(text)` of latin-1 text: digits after an optional sign, in groups that
single underscores separate, with white space around. -/
def toInt (text : String) : Except PyException Int :=
  let (sign, digits) : Int × List Char :=
    match ((text.toList.dropWhile isNumberSpace).reverse.dropWhile
        isNumberSpace).reverse with
    | '-' :: rest => (-1, rest)
    | '+' :: rest => (1, rest)
    | digits => (1, digits)
  let groups := digits.splitOn '_'
  let all := groups.flatten
  if groups.all (fun group => !group.isEmpty && group.all Char.isDigit) &&
      decide (all.length ≤ maxDigits) then
    .ok (sign * all.foldl (fun value c => value * 10 + (c.toNat - '0'.toNat)) 0)
  else .error .valueError

end Str

/-- A `float`: a rational value, an infinity or not a number. -/
inductive PyFloat where
  | finite (value : Rat)
  | infinity (negative : Bool)
  | nan
  deriving DecidableEq, Repr

/-- `int(value)`: towards zero. -/
def PyFloat.toInt : PyFloat → Except PyException Int
  | .finite value => .ok (value.num.tdiv value.den)
  | .infinity _ => .error .overflowError
  | .nan => .error .valueError

/-- `left < right`: false when either side is not a number. -/
def PyFloat.lt : PyFloat → PyFloat → Bool
  | .finite left, .finite right => decide (left < right)
  | .finite _, .infinity negative => !negative
  | .infinity negative, .finite _ => negative
  | .infinity left, .infinity right => left && !right
  | .nan, _ => false
  | _, .nan => false

/-- The least `int` that does not round to a `float`. -/
def floatOverflow : Int := Int.ofNat (1 <<< 1024 - 1 <<< 970)

/-- `time + seconds` of a `float` and an `int`, which has to fit a `float`. -/
def addSeconds (time : Rat) (seconds : Int) : Except PyException Rat :=
  if -floatOverflow < seconds && seconds < floatOverflow then .ok (time + seconds)
  else .error .overflowError

theorem eq_of_addSeconds {time sum : Rat} {seconds : Int}
    (added : addSeconds time seconds = .ok sum) : sum = time + seconds := by
  unfold addSeconds at added
  split at added
  · exact (Except.ok.inj added).symm
  · cases added

/-- `items[:count]`. -/
def takeSlice {α : Type} (items : List α) (count : Int) : List α :=
  if 0 ≤ count then items.take count.toNat
  else items.take (items.length - (-count).toNat)

/-- `items[start:]`. -/
def dropSlice {α : Type} (items : List α) (start : Int) : List α :=
  if 0 ≤ start then items.drop start.toNat
  else items.drop (items.length - (-start).toNat)

/-- A sequence raises in its first part or in its second. -/
theorem error_of_bind {α β : Type} {first : Except PyException α}
    {second : α → Except PyException β} {error : PyException}
    (raised : first.bind second = .error error) :
    first = .error error ∨
      ∃ value, first = .ok value ∧ second value = .error error := by
  cases first with
  | error other =>
      cases raised
      exact Or.inl rfl
  | ok value => exact Or.inr ⟨value, rfl, raised⟩

/-- A sequence that returns does so after its first part. -/
theorem value_of_bind {α β : Type} {first : Except PyException α}
    {second : α → Except PyException β} {result : β}
    (returned : first.bind second = .ok result) :
    ∃ value, first = .ok value ∧ second value = .ok result := by
  cases first with
  | error other => cases returned
  | ok value => exact ⟨value, rfl, returned⟩

/-- A value `json.loads` returns. -/
inductive Json where
  | null
  | bool (value : Bool)
  | int (value : Int)
  | float (value : PyFloat)
  | str (value : String)
  | arr (items : List Json)
  | obj (fields : List (String × Json))
  deriving Repr

namespace Json

/-- `bool(value)`, as `if` and `or` apply it. -/
def truthy : Json → Bool
  | .null => false
  | .bool value => value
  | .int value => value != 0
  | .float (.finite value) => value != 0
  | .float _ => true
  | .str value => value != ""
  | .arr items => !items.isEmpty
  | .obj fields => !fields.isEmpty

/-- The item of a dict under a key. -/
def lookup (key : String) : List (String × Json) → Option Json
  | [] => none
  | (name, value) :: rest => if name = key then some value else lookup key rest

/-- `data.get(key)` on a dict given by its items. -/
def get (fields : List (String × Json)) (key : String) : Json :=
  (lookup key fields).getD .null

/-- `data.get(key, default)` on a dict given by its items. -/
def getOr (fields : List (String × Json)) (key : String) (default : Json) :
    Json :=
  (lookup key fields).getD default

/-- An item that is there makes no use of the default. -/
theorem getOr_of_get {fields : List (String × Json)} {key : String} {value : Json}
    (found : get fields key = value) (some : value ≠ .null) (default : Json) :
    getOr fields key default = value := by
  rw [get] at found
  rw [getOr]
  cases there : lookup key fields with
  | none =>
      rw [there] at found
      exact absurd found.symm some
  | some item =>
      rw [there] at found
      exact found

/-- `value.get(key)`: only dicts have the method. -/
def getAttr (key : String) : Json → Except PyException Json
  | .obj fields => .ok (get fields key)
  | _ => .error .attributeError

/-- `value or default`. -/
def orElse (value default : Json) : Json :=
  if value.truthy then value else default

/-- `data[key]` with a string key. -/
def getItem (key : String) : Json → Except PyException Json
  | .obj fields =>
      match lookup key fields with
      | some value => .ok value
      | none => .error .keyError
  | _ => .error .typeError

/-- `data[0]`. -/
def getFirst : Json → Except PyException Json
  | .arr (item :: _) => .ok item
  | .arr [] => .error .indexError
  | .str text =>
      match text.toList with
      | [] => .error .indexError
      | c :: _ => .ok (.str (String.ofList [c]))
  | .obj _ => .error .keyError
  | _ => .error .typeError

@[simp] theorem lookup_self (key : String) (value : Json)
    (rest : List (String × Json)) :
    lookup key ((key, value) :: rest) = some value := by
  simp [lookup]

theorem lookup_ne {key name : String} (different : name ≠ key) (value : Json)
    (rest : List (String × Json)) :
    lookup key ((name, value) :: rest) = lookup key rest := by
  simp [lookup, different]

end Json

/-- A timestamp in UTC, as `datetime.now(timezone.utc)` returns it. -/
structure DateTime where
  year : Nat
  month : Nat
  day : Nat
  hour : Nat
  minute : Nat
  second : Nat
  microsecond : Nat
  inRange : month ≤ 12 ∧ day ≤ 31 ∧ hour < 24 ∧ minute < 60 ∧ second < 60 ∧
    microsecond < 1000000
  deriving DecidableEq, Repr

namespace DateTime

/-- A full hour of the first day of a year. -/
def fullHour (hour : Nat) : DateTime where
  year := 2026
  month := 1
  day := 1
  hour := hour % 24
  minute := 0
  second := 0
  microsecond := 0
  inRange :=
    ⟨by decide, by decide, Nat.mod_lt hour (by decide), by decide, by decide, by decide⟩

/-- Position of a timestamp on one line, which orders timestamps as `<` on
`datetime` does. -/
def instant (time : DateTime) : Nat :=
  (((((time.year * 13 + time.month) * 32 + time.day) * 24 + time.hour) * 60 +
    time.minute) * 60 + time.second) * 1000000 + time.microsecond

/-- A number in decimal, padded with zeros to a width. -/
def padded (width value : Nat) : String :=
  let digits := Nat.toDigits 10 value
  String.ofList (List.replicate (width - digits.length) '0' ++ digits)

/-- `time.isoformat()` of a timestamp in UTC. -/
def isoformat (time : DateTime) : String :=
  padded 4 time.year ++ "-" ++ padded 2 time.month ++ "-" ++
    padded 2 time.day ++ "T" ++ padded 2 time.hour ++ ":" ++
    padded 2 time.minute ++ ":" ++ padded 2 time.second ++
    (if time.microsecond = 0 then "" else
      "." ++ padded 6 time.microsecond) ++ "+00:00"

end DateTime

end PrivateAiWorkspace.Python
