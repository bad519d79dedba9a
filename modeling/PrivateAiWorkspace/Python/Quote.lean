import PrivateAiWorkspace.Lists.Fallible
import PrivateAiWorkspace.Python.IpAddress
import PrivateAiWorkspace.Python.Pattern
import PrivateAiWorkspace.Python.Utf8

/-!
# Percent-encoding

`urllib.parse.quote`: the UTF-8 bytes of a text, each of which stands for itself or
is written in two hexadecimal digits. A `str` may hold surrogates, which have no
bytes.
-/

namespace PrivateAiWorkspace.Python

/-- A `str`: code points, among them surrogates. -/
abbrev CodePoints := List (Fin 0x110000)

/-- A code point that is half of a pair. -/
def IsSurrogate (point : Fin 0x110000) : Prop :=
  0xd800 ≤ point.val ∧ point.val ≤ 0xdfff

instance (point : Fin 0x110000) : Decidable (IsSurrogate point) :=
  inferInstanceAs (Decidable (_ ∧ _))

namespace Quote

/-- The bytes of a code point. -/
def encodePoint (point : Fin 0x110000) : Except PyException Bytes :=
  if IsSurrogate point then .error .valueError
  else .ok (Utf8.encodeChar (Char.ofNat point.val))

/-- `text.encode("utf-8")`: surrogates raise `UnicodeEncodeError`. -/
def encodePoints (text : CodePoints) : Except PyException Bytes :=
  (text.mapM encodePoint).map List.flatten

/-- `_ALWAYS_SAFE`. -/
def alwaysSafe : List Char := Pattern.alphanumeric ++ ['_', '.', '-', '~']

/-- A hexadecimal digit in upper case. -/
def upperHex (digit : Nat) : Char := "0123456789ABCDEF".toList.getD digit '0'

/-- How a byte is written. -/
def quoteByte (safe : List Char) (byte : UInt8) : List Char :=
  let c := Char.ofNat byte.toNat
  if c ∈ alwaysSafe ∨ c ∈ safe then [c]
  else ['%', upperHex (byte.toNat / 16), upperHex (byte.toNat % 16)]

/-- `quote_from_bytes(data, safe)`. -/
def quoteFromBytes (safe : List Char) (data : Bytes) : List Char :=
  data.flatMap (quoteByte safe)

/-- `quote(text, safe)` of a text without surrogates. -/
def quote (safe : List Char) (text : String) : String :=
  String.ofList (quoteFromBytes safe (Utf8.encode text))

/-- `quote(text)`. -/
def quotePoints (text : CodePoints) : Except PyException String :=
  (encodePoints text).map fun data => String.ofList (quoteFromBytes ['/'] data)

theorem exists_quotePoints_iff {text : CodePoints} :
    (∃ quoted, quotePoints text = .ok quoted) ↔ ∀ point ∈ text, ¬ IsSurrogate point := by
  constructor
  · intro ⟨quoted, encoded⟩ point mem surrogate
    cases mapped : text.mapM encodePoint with
    | error error =>
        rw [quotePoints, encodePoints, mapped] at encoded
        cases encoded
    | ok bytes =>
        rcases List.mem_iff_getElem.mp mem with ⟨place, inside, rfl⟩
        have related := Lists.mapM_eq_ok_iff.mp mapped
        have first := related.get inside (related.length_eq ▸ inside)
        rw [List.get_eq_getElem, encodePoint, if_pos surrogate] at first
        cases first
  · intro plain
    cases mapped : text.mapM encodePoint with
    | ok bytes =>
        rw [quotePoints, encodePoints, mapped]
        exact ⟨_, rfl⟩
    | error error =>
        rcases Lists.mapM_eq_error_iff.mp mapped with
          ⟨before, point, after, split, -, raised⟩
        rw [encodePoint, if_neg (plain point (by rw [split]; simp))] at raised
        cases raised

/-! ## Decoding -/

/-- The bytes a text stands for: two hexadecimal digits behind a percent sign are one
byte, everything else is encoded. -/
def percentDecode : List Char → Bytes
  | [] => []
  | '%' :: high :: low :: rest =>
      match IpAddress.hexDigit? high, IpAddress.hexDigit? low with
      | some first, some second =>
          UInt8.ofNat (first * 16 + second) :: percentDecode rest
      | _, _ => 0x25 :: percentDecode (high :: low :: rest)
  | c :: rest => Utf8.encodeChar c ++ percentDecode rest

/-- The text a percent-encoded text stands for. -/
def unquote (text : String) : Except PyException String :=
  Utf8.decode (percentDecode text.toList)

theorem encodeChar_of_mem_alwaysSafe :
    ∀ c ∈ alwaysSafe, Utf8.encodeChar c = [UInt8.ofNat c.toNat] := by decide +kernel

theorem percent_notMem_alwaysSafe : '%' ∉ alwaysSafe := by decide +kernel

theorem hexDigit?_upperHex :
    ∀ digit < 16, IpAddress.hexDigit? (upperHex digit) = some digit := by decide +kernel

theorem upperHex_mem_alwaysSafe : ∀ digit < 16, upperHex digit ∈ alwaysSafe := by
  decide +kernel

/-- A byte is written as an unreserved character, which is its own encoding, or in
two digits. -/
theorem quoteByte_cases (byte : UInt8) :
    (∃ c ∈ alwaysSafe, quoteByte [] byte = [c] ∧ Utf8.encodeChar c = [byte]) ∨
      ∃ high low, high < 16 ∧ low < 16 ∧ UInt8.ofNat (high * 16 + low) = byte ∧
        quoteByte [] byte = ['%', upperHex high, upperHex low] := by
  have small : byte.toNat < 256 := byte.toNat_lt
  rw [quoteByte]
  split
  next isSafe =>
    have mem : Char.ofNat byte.toNat ∈ alwaysSafe :=
      isSafe.resolve_right (List.not_mem_nil)
    refine Or.inl ⟨_, mem, rfl, ?_⟩
    have valid : byte.toNat.isValidChar := Or.inl (by omega)
    have code : (Char.ofNat byte.toNat).toNat = byte.toNat := by
      rw [Char.ofNat, dif_pos valid]
      rfl
    rw [encodeChar_of_mem_alwaysSafe _ mem, code, UInt8.ofNat_toNat]
  next =>
    refine Or.inr ⟨byte.toNat / 16, byte.toNat % 16, by omega, by omega, ?_, rfl⟩
    rw [Nat.div_add_mod', UInt8.ofNat_toNat]

/-- Quoting is undone by decoding. -/
theorem percentDecode_quoteFromBytes (data : Bytes) :
    percentDecode (quoteFromBytes [] data) = data := by
  induction data with
  | nil => rfl
  | cons byte rest ih =>
      rw [quoteFromBytes] at ih
      rw [quoteFromBytes, List.flatMap_cons]
      rcases quoteByte_cases byte with ⟨c, mem, written, encoded⟩ |
        ⟨high, low, highSmall, lowSmall, same, written⟩
      · have plain : c ≠ '%' := fun percent => percent_notMem_alwaysSafe (percent ▸ mem)
        rw [written, List.singleton_append, percentDecode, ih, encoded,
          List.singleton_append]
        intro high low more percent
        exact absurd percent plain
      · rw [written]
        change percentDecode
          ('%' :: upperHex high :: upperHex low :: rest.flatMap (quoteByte [])) = _
        rw [percentDecode, hexDigit?_upperHex high highSmall,
          hexDigit?_upperHex low lowSmall, ih]
        dsimp only
        rw [same]

theorem unquote_quote (text : String) : unquote (quote [] text) = .ok text := by
  rw [unquote, quote, String.toList_ofList, percentDecode_quoteFromBytes,
    Utf8.decode_eq_ok_iff]

theorem quote_inj {text other : String} :
    quote [] text = quote [] other ↔ text = other := by
  constructor
  · intro same
    have back := unquote_quote text
    rw [same, unquote_quote] at back
    exact (Except.ok.inj back).symm
  · exact congrArg _

/-- Quoted texts are written in unreserved characters and percent signs. -/
theorem mem_quote {text : String} {c : Char} (mem : c ∈ (quote [] text).toList) :
    c ∈ alwaysSafe ∨ c = '%' := by
  rw [quote, String.toList_ofList, quoteFromBytes] at mem
  rcases List.mem_flatMap.mp mem with ⟨byte, -, among⟩
  rcases quoteByte_cases byte with ⟨safe, isSafe, written, -⟩ |
    ⟨high, low, highSmall, lowSmall, -, written⟩
  · rw [written, List.mem_singleton] at among
    exact Or.inl (among ▸ isSafe)
  · rw [written] at among
    simp only [List.mem_cons, List.not_mem_nil, or_false] at among
    rcases among with rfl | rfl | rfl
    · exact Or.inr rfl
    · exact Or.inl (upperHex_mem_alwaysSafe high highSmall)
    · exact Or.inl (upperHex_mem_alwaysSafe low lowSmall)

end Quote

end PrivateAiWorkspace.Python
