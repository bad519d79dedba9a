import PrivateAiWorkspace.Python.Basic

/-!
# UTF-8

Encoding of a text and the decoder that replaces what is malformed, one byte at
a time: `bytes.decode("utf-8", "replace")`, and what a streaming decoder keeps
between two pieces of a stream. The longest part of a malformed sequence that
could have begun a character is replaced at once.
-/

namespace PrivateAiWorkspace.Python.Utf8

/-! ## Encoding -/

/-- The bytes of a character. -/
def encodeChar (c : Char) : Bytes :=
  let code := c.toNat
  if code < 0x80 then [UInt8.ofNat code]
  else if code < 0x800 then
    [UInt8.ofNat (0xc0 + code / 64), UInt8.ofNat (0x80 + code % 64)]
  else if code < 0x10000 then
    [UInt8.ofNat (0xe0 + code / 4096), UInt8.ofNat (0x80 + code / 64 % 64),
      UInt8.ofNat (0x80 + code % 64)]
  else
    [UInt8.ofNat (0xf0 + code / 262144), UInt8.ofNat (0x80 + code / 4096 % 64),
      UInt8.ofNat (0x80 + code / 64 % 64), UInt8.ofNat (0x80 + code % 64)]

/-- The bytes of some characters. -/
def encodeChars (text : List Char) : Bytes := text.flatMap encodeChar

/-- `text.encode("utf-8")`. -/
def encode (text : String) : Bytes := encodeChars text.toList

theorem encode_append (first second : String) :
    encode (first ++ second) = encode first ++ encode second := by
  simp [encode, encodeChars]

theorem encodeChar_ne (c : Char) : encodeChar c ≠ [] := by
  unfold encodeChar
  dsimp only
  split
  · exact List.cons_ne_nil _ _
  · split
    · exact List.cons_ne_nil _ _
    · split <;> exact List.cons_ne_nil _ _

theorem encode_eq_nil_iff {text : String} : encode text = [] ↔ text = "" := by
  constructor
  · intro empty
    cases chars : text.toList with
    | nil => exact String.toList_eq_nil_iff.mp chars
    | cons c rest =>
        rw [encode, chars] at empty
        exact absurd (List.append_eq_nil_iff.mp empty).1 (encodeChar_ne c)
  · intro empty
    subst empty
    rfl

/-! ## Decoding -/

/-- A character that has been begun: the code so far, the bytes that are missing,
and the range the next of them has to be in. -/
structure Pending where
  code : Nat
  missing : Nat
  lower : Nat
  upper : Nat
  deriving DecidableEq, Repr

/-- The replacement character. -/
def replacement : Char := Char.ofNat 0xfffd

/-- A byte between two characters. -/
def lead (byte : Nat) : List Char × Option Pending :=
  if byte < 0x80 then ([Char.ofNat byte], none)
  else if byte < 0xc2 then ([replacement], none)
  else if byte < 0xe0 then ([], some ⟨byte - 0xc0, 1, 0x80, 0xbf⟩)
  else if byte < 0xf0 then
    ([], some ⟨byte - 0xe0, 2, if byte = 0xe0 then 0xa0 else 0x80,
      if byte = 0xed then 0x9f else 0xbf⟩)
  else if byte < 0xf5 then
    ([], some ⟨byte - 0xf0, 3, if byte = 0xf0 then 0x90 else 0x80,
      if byte = 0xf4 then 0x8f else 0xbf⟩)
  else ([replacement], none)

/-- A byte after another: what is put out, and what is pending then. -/
def feedByte (pending : Option Pending) (byte : Nat) :
    List Char × Option Pending :=
  match pending with
  | none => lead byte
  | some begun =>
      if begun.lower ≤ byte ∧ byte ≤ begun.upper then
        let code := begun.code * 64 + (byte - 0x80)
        if begun.missing ≤ 1 then ([Char.ofNat code], none)
        else ([], some ⟨code, begun.missing - 1, 0x80, 0xbf⟩)
      else (replacement :: (lead byte).1, (lead byte).2)

/-- Some bytes after others. -/
def feed (pending : Option Pending) : Bytes → List Char × Option Pending
  | [] => ([], pending)
  | byte :: rest =>
      ((feedByte pending byte.toNat).1 ++
          (feed (feedByte pending byte.toNat).2 rest).1,
        (feed (feedByte pending byte.toNat).2 rest).2)

/-- What is put out at the end. -/
def flush : Option Pending → List Char
  | none => []
  | some _ => [replacement]

/-- `data.decode("utf-8", "replace")`. -/
def decodeReplace (data : Bytes) : String :=
  String.ofList ((feed none data).1 ++ flush (feed none data).2)

theorem feed_append (pending : Option Pending) (first second : Bytes) :
    feed pending (first ++ second) =
      ((feed pending first).1 ++ (feed (feed pending first).2 second).1,
        (feed (feed pending first).2 second).2) := by
  induction first generalizing pending with
  | nil => simp [feed]
  | cons byte first ih => simp [feed, ih]

/-! ## Round trip -/

theorem toNat_ofNat {byte : Nat} (small : byte < 256) :
    (UInt8.ofNat byte).toNat = byte :=
  UInt8.toNat_ofNat_of_lt' small

theorem valid_cases (c : Char) :
    c.toNat < 0xd800 ∨ 0xdfff < c.toNat ∧ c.toNat < 0x110000 := by
  rcases c.valid with low | ⟨above, below⟩
  · exact Or.inl low
  · exact Or.inr ⟨above, below⟩

/-- A byte that goes on with what is pending. -/
theorem feedByte_next {code missing lower upper byte : Nat}
    (above : lower ≤ byte) (below : byte ≤ upper) :
    feedByte (some ⟨code, missing + 2, lower, upper⟩) byte =
      ([], some ⟨code * 64 + (byte - 0x80), missing + 1, 0x80, 0xbf⟩) := by
  simp [feedByte, above, below]

/-- The last byte of what is pending. -/
theorem feedByte_last {code lower upper byte : Nat} (above : lower ≤ byte)
    (below : byte ≤ upper) :
    feedByte (some ⟨code, 1, lower, upper⟩) byte =
      ([Char.ofNat (code * 64 + (byte - 0x80))], none) := by
  simp [feedByte, above, below]

theorem lead_two {byte : Nat} (above : 0xc2 ≤ byte) (below : byte < 0xe0) :
    lead byte = ([], some ⟨byte - 0xc0, 1, 0x80, 0xbf⟩) := by
  have notAscii : ¬ byte < 0x80 := by omega
  have starts : ¬ byte < 0xc2 := by omega
  simp only [lead, notAscii, starts, below, if_false, if_true]

theorem lead_three {byte : Nat} (above : 0xe0 ≤ byte) (below : byte < 0xf0) :
    lead byte = ([], some ⟨byte - 0xe0, 2, if byte = 0xe0 then 0xa0 else 0x80,
      if byte = 0xed then 0x9f else 0xbf⟩) := by
  have notAscii : ¬ byte < 0x80 := by omega
  have starts : ¬ byte < 0xc2 := by omega
  have long : ¬ byte < 0xe0 := by omega
  simp only [lead, notAscii, starts, long, below, if_false, if_true]

theorem lead_four {byte : Nat} (above : 0xf0 ≤ byte) (below : byte < 0xf5) :
    lead byte = ([], some ⟨byte - 0xf0, 3, if byte = 0xf0 then 0x90 else 0x80,
      if byte = 0xf4 then 0x8f else 0xbf⟩) := by
  have notAscii : ¬ byte < 0x80 := by omega
  have starts : ¬ byte < 0xc2 := by omega
  have long : ¬ byte < 0xe0 := by omega
  have longer : ¬ byte < 0xf0 := by omega
  simp only [lead, notAscii, starts, long, longer, below, if_false, if_true]

/-- A character comes back from its bytes. -/
theorem feed_encodeChar (c : Char) : feed none (encodeChar c) = ([c], none) := by
  have valid := valid_cases c
  have back : Char.ofNat c.toNat = c := Char.ofNat_toNat c
  unfold encodeChar
  dsimp only
  generalize c.toNat = code at valid back
  split
  · rename_i ascii
    have small : code < 256 := by omega
    simp only [feed, toNat_ofNat small, feedByte, lead, ascii, if_true, back,
      List.append_nil]
  split
  · rename_i ascii two
    have first : 0xc0 + code / 64 < 256 := by omega
    have second : 0x80 + code % 64 < 256 := by omega
    have whole : (0xc0 + code / 64 - 0xc0) * 64 + (0x80 + code % 64 - 0x80) =
        code := by omega
    simp only [feed, toNat_ofNat first, toNat_ofNat second]
    rw [feedByte, lead_two (by omega) (by omega),
      feedByte_last (by omega) (by omega), whole, back]
    rfl
  split
  · rename_i ascii two three
    have first : 0xe0 + code / 4096 < 256 := by omega
    have second : 0x80 + code / 64 % 64 < 256 := by omega
    have third : 0x80 + code % 64 < 256 := by omega
    have whole : ((0xe0 + code / 4096 - 0xe0) * 64 +
        (0x80 + code / 64 % 64 - 0x80)) * 64 + (0x80 + code % 64 - 0x80) =
        code := by omega
    simp only [feed, toNat_ofNat first, toNat_ofNat second, toNat_ofNat third]
    rw [feedByte, lead_three (by omega) (by omega),
      feedByte_next (by split <;> omega) (by split <;> omega),
      feedByte_last (by omega) (by omega), whole, back]
    rfl
  · rename_i ascii two three
    have first : 0xf0 + code / 262144 < 256 := by omega
    have second : 0x80 + code / 4096 % 64 < 256 := by omega
    have third : 0x80 + code / 64 % 64 < 256 := by omega
    have fourth : 0x80 + code % 64 < 256 := by omega
    have whole : (((0xf0 + code / 262144 - 0xf0) * 64 +
        (0x80 + code / 4096 % 64 - 0x80)) * 64 +
        (0x80 + code / 64 % 64 - 0x80)) * 64 + (0x80 + code % 64 - 0x80) =
        code := by omega
    simp only [feed, toNat_ofNat first, toNat_ofNat second, toNat_ofNat third,
      toNat_ofNat fourth]
    rw [feedByte, lead_four (by omega) (by omega),
      feedByte_next (by split <;> omega) (by split <;> omega),
      feedByte_next (by omega) (by omega), feedByte_last (by omega) (by omega),
      whole, back]
    rfl

/-- A text comes back from its bytes. -/
theorem feed_encodeChars (text : List Char) :
    feed none (encodeChars text) = (text, none) := by
  induction text with
  | nil => rfl
  | cons c text ih =>
      rw [encodeChars, List.flatMap_cons, feed_append, feed_encodeChar]
      rw [encodeChars] at ih
      rw [ih]
      rfl

theorem decodeReplace_encode (text : String) :
    decodeReplace (encode text) = text := by
  rw [decodeReplace, encode, feed_encodeChars]
  simp [flush]

/-- `data.decode("utf-8")`: the text that the bytes encode, if there is one. -/
def decode (data : Bytes) : Except PyException String :=
  if encode (decodeReplace data) = data then .ok (decodeReplace data)
  else .error .valueError

theorem decode_eq_ok_iff {data : Bytes} {text : String} :
    decode data = .ok text ↔ encode text = data := by
  rw [decode]
  constructor
  · intro decoded
    split at decoded
    next encoded =>
      cases decoded
      exact encoded
    · cases decoded
  · intro encoded
    rw [← encoded, decodeReplace_encode, if_pos rfl]

end PrivateAiWorkspace.Python.Utf8
