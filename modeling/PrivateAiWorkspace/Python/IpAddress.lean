import PrivateAiWorkspace.Python.Basic
import Mathlib.Algebra.Group.Nat.Defs
import Mathlib.Tactic.IntervalCases

/-!
# The `ipaddress` module

Addresses, their textual forms and the networks `ipaddress` classifies them by,
as of the Python the application's image runs, 3.14: an IPv4-mapped IPv6 address
has the properties of the IPv4 address it maps.
-/

namespace PrivateAiWorkspace.Python

/-- `IPv4Address` and `IPv6Address`. -/
inductive IpAddress where
  | v4 (value : BitVec 32)
  | v6 (value : BitVec 128) (scopeId : Option String)
  deriving DecidableEq, Repr

namespace IpAddress

/-! ## Reading addresses -/

/-- `IPv4Address._parse_octet`. -/
def parseOctet (text : List Char) : Option Nat :=
  if text.isEmpty || !text.all Char.isDigit || 3 < text.length ||
      (text != ['0'] && text.head? == some '0') then
    none
  else
    let octet := text.foldl (fun value c => value * 10 + (c.toNat - '0'.toNat)) 0
    if 255 < octet then none else some octet

/-- `IPv4Address(text)`. -/
def parseV4 (text : List Char) : Option (BitVec 32) :=
  match (text.splitOn '.').map parseOctet with
  | [some a, some b, some c, some d] =>
      some (BitVec.ofNat 32 (((a * 256 + b) * 256 + c) * 256 + d))
  | _ => none

/-- Value of a hexadecimal digit. -/
def hexDigit? (c : Char) : Option Nat :=
  if c.isDigit then some (c.toNat - '0'.toNat)
  else if 'a' ≤ c && c ≤ 'f' then some (c.toNat - 'a'.toNat + 10)
  else if 'A' ≤ c && c ≤ 'F' then some (c.toNat - 'A'.toNat + 10)
  else none

/-- `IPv6Address._parse_hextet`: one to four hexadecimal digits. -/
def parseHextet (text : List Char) : Option Nat :=
  if text.isEmpty || 4 < text.length then none
  else
    text.foldlM (fun value c => (hexDigit? c).map fun digit => value * 16 + digit)
      0

/-- Hextets of the parts between colons; an IPv4 address in the last part counts
for two. -/
def parseParts (parts : List (List Char)) : Option (List Nat) :=
  match parts.getLast? with
  | none => some []
  | some last =>
      if '.' ∈ last then do
        let tail ← parseV4 last
        let hextets ← parts.dropLast.mapM parseHextet
        return hextets ++ [tail.toNat / 0x10000, tail.toNat % 0x10000]
      else parts.mapM parseHextet

/-- The number eight hextets make up. -/
def ofHextets (hextets : List Nat) : BitVec 128 :=
  BitVec.ofNat 128 (hextets.foldl (fun value hextet => value * 0x10000 + hextet) 0)

/-- The parts on each side of `::`, when there is one. -/
def splitSkip : List Char → Option (List Char × List Char)
  | ':' :: ':' :: rest => some ([], rest)
  | c :: rest => (splitSkip rest).map fun (high, low) => (c :: high, low)
  | [] => none

/-- The hextets of one side of `::`, which may be empty. -/
def parseSide (text : List Char) : Option (List Nat) :=
  if text.isEmpty then some [] else parseParts (text.splitOn ':')

/-- `IPv6Address._ip_int_from_string`: eight hextets, or fewer with one `::` for
a run of at least one zero. -/
def parseV6 (text : List Char) : Option (BitVec 128) :=
  match splitSkip text with
  | none => do
      let hextets ← parseParts (text.splitOn ':')
      if hextets.length = 8 then some (ofHextets hextets) else none
  | some (high, low) =>
      -- An IPv4 address may only stand at the very end.
      if '.' ∈ high then none
      else do
        let high ← parseSide high
        let low ← parseSide low
        if high.length + low.length < 8 then
          some (ofHextets (high ++
            List.replicate (8 - (high.length + low.length)) 0 ++ low))
        else none

/-- `ipaddress.ip_address(text)`. -/
def ofString (text : String) : Except PyException IpAddress :=
  match parseV4 text.toList with
  | some value => .ok (.v4 value)
  | none =>
      -- An IPv6 address may name a scope after a percent sign.
      let scope := Str.after '%' text
      if '/' ∈ text.toList ||
          ('%' ∈ text.toList && (scope = "" || '%' ∈ scope.toList)) then
        .error .valueError
      else
        match parseV6 (Str.before '%' text).toList with
        | some value =>
            .ok (.v6 value (if '%' ∈ text.toList then some scope else none))
        | none => .error .valueError

/-- `str(address)` of an IPv4 address. -/
def v4Text (value : BitVec 32) : String :=
  let octet := fun shift : Nat => toString (value.toNat / 2 ^ shift % 256)
  octet 24 ++ "." ++ octet 16 ++ "." ++ octet 8 ++ "." ++ octet 0

/-! ### The spelling of an IPv4 address -/

theorem digit_of_isDigit {c : Char} (digit : c.isDigit = true) :
    ∃ value < 10, c = Nat.digitChar value := by
  have range : 48 ≤ c.toNat ∧ c.toNat ≤ 57 := by
    rw [Char.isDigit, Bool.and_eq_true, decide_eq_true_eq,
      decide_eq_true_eq] at digit
    exact digit
  have same : c = Char.ofNat c.toNat := (Char.ofNat_toNat c).symm
  generalize c.toNat = code at range same
  subst same
  rcases range with ⟨above, below⟩
  interval_cases code
  · exact ⟨0, by decide, by decide⟩
  · exact ⟨1, by decide, by decide⟩
  · exact ⟨2, by decide, by decide⟩
  · exact ⟨3, by decide, by decide⟩
  · exact ⟨4, by decide, by decide⟩
  · exact ⟨5, by decide, by decide⟩
  · exact ⟨6, by decide, by decide⟩
  · exact ⟨7, by decide, by decide⟩
  · exact ⟨8, by decide, by decide⟩
  · exact ⟨9, by decide, by decide⟩

/-- Digits that are read as an octet are the octet in decimal. -/
def Spells (text : List Char) : Prop :=
  ∀ octet ∈ parseOctet text, octet < 256 ∧ text = Nat.toDigits 10 octet

instance (text : List Char) : Decidable (Spells text) :=
  inferInstanceAs (Decidable (∀ octet ∈ parseOctet text, _))

theorem spells_one : ∀ first < 10, Spells [Nat.digitChar first] := by
  decide +kernel

theorem spells_two : ∀ first < 10, ∀ second < 10,
    Spells [Nat.digitChar first, Nat.digitChar second] := by
  decide +kernel

theorem spells_three : ∀ first < 10, ∀ second < 10, ∀ third < 10,
    Spells [Nat.digitChar first, Nat.digitChar second, Nat.digitChar third] := by
  decide +kernel

/-- An octet is read from its decimal digits and from nothing else. -/
theorem parseOctet_eq_some_iff {text : List Char} {octet : Nat} :
    parseOctet text = some octet ↔
      octet < 256 ∧ text = Nat.toDigits 10 octet := by
  constructor
  · intro read
    have digits : text.all Char.isDigit = true ∧ text.length ≤ 3 ∧ text ≠ [] := by
      rw [parseOctet] at read
      split at read
      · cases read
      next refused =>
        simp only [Bool.or_eq_true, not_or, Bool.not_eq_true', decide_eq_true_eq,
          Bool.not_eq_false, List.isEmpty_iff, Nat.not_lt] at refused
        exact ⟨refused.1.1.2, refused.1.2, refused.1.1.1⟩
    rcases digits with ⟨digits, short, nonempty⟩
    have spells : Spells text := by
      rw [List.all_eq_true] at digits
      match text with
      | [] => exact absurd rfl nonempty
      | [c] =>
          rcases digit_of_isDigit (digits c (by simp)) with ⟨first, small, rfl⟩
          exact spells_one first small
      | [c, d] =>
          rcases digit_of_isDigit (digits c (by simp)) with ⟨first, small, rfl⟩
          rcases digit_of_isDigit (digits d (by simp)) with ⟨second, small', rfl⟩
          exact spells_two first small second small'
      | [c, d, e] =>
          rcases digit_of_isDigit (digits c (by simp)) with ⟨first, small, rfl⟩
          rcases digit_of_isDigit (digits d (by simp)) with ⟨second, small', rfl⟩
          rcases digit_of_isDigit (digits e (by simp)) with ⟨third, small'', rfl⟩
          exact spells_three first small second small' third small''
      | _ :: _ :: _ :: _ :: rest =>
          simp only [List.length_cons] at short
          omega
    exact spells octet read
  · intro spelled
    rcases spelled with ⟨small, rfl⟩
    revert octet
    decide +kernel

theorem dot_not_mem_toDigits :
    ∀ octet < 256, '.' ∉ Nat.toDigits 10 octet := by
  decide +kernel

theorem toList_v4Text (value : BitVec 32) :
    (v4Text value).toList =
      ['.'].intercalate
        [Nat.toDigits 10 (value.toNat / 2 ^ 24 % 256),
          Nat.toDigits 10 (value.toNat / 2 ^ 16 % 256),
          Nat.toDigits 10 (value.toNat / 2 ^ 8 % 256),
          Nat.toDigits 10 (value.toNat / 2 ^ 0 % 256)] := by
  simp [v4Text, List.intercalate_cons_cons]

/-- An IPv4 address has one spelling. -/
theorem parseV4_eq_some_iff {text : List Char} {value : BitVec 32} :
    parseV4 text = some value ↔ text = (v4Text value).toList := by
  constructor
  · intro read
    rw [parseV4] at read
    split at read
    next a b c d parts =>
      rcases List.map_eq_cons_iff.mp parts with ⟨first, rest, split, ha, parts⟩
      rcases List.map_eq_cons_iff.mp parts with ⟨second, rest, rfl, hb, parts⟩
      rcases List.map_eq_cons_iff.mp parts with ⟨third, rest, rfl, hc, parts⟩
      rcases List.map_eq_cons_iff.mp parts with ⟨fourth, rest, rfl, hd, parts⟩
      rcases List.map_eq_nil_iff.mp parts with rfl
      rcases parseOctet_eq_some_iff.mp ha with ⟨smallA, rfl⟩
      rcases parseOctet_eq_some_iff.mp hb with ⟨smallB, rfl⟩
      rcases parseOctet_eq_some_iff.mp hc with ⟨smallC, rfl⟩
      rcases parseOctet_eq_some_iff.mp hd with ⟨smallD, rfl⟩
      have joined := @List.intercalate_splitOn _ text _ _ '.'
      rw [split] at joined
      rw [← joined, ← Option.some.inj read, toList_v4Text, BitVec.toNat_ofNat]
      have whole : (((a * 256 + b) * 256 + c) * 256 + d) % 2 ^ 32 =
          ((a * 256 + b) * 256 + c) * 256 + d := Nat.mod_eq_of_lt (by omega)
      have octetA : (((a * 256 + b) * 256 + c) * 256 + d) / 2 ^ 24 % 256 = a := by
        omega
      have octetB : (((a * 256 + b) * 256 + c) * 256 + d) / 2 ^ 16 % 256 = b := by
        omega
      have octetC : (((a * 256 + b) * 256 + c) * 256 + d) / 2 ^ 8 % 256 = c := by
        omega
      have octetD : (((a * 256 + b) * 256 + c) * 256 + d) / 2 ^ 0 % 256 = d := by
        omega
      rw [whole, octetA, octetB, octetC, octetD]
    next => cases read
  · intro spelled
    have read (number : Nat) : parseOctet (Nat.toDigits 10 (number % 256)) =
        some (number % 256) :=
      parseOctet_eq_some_iff.mpr ⟨Nat.mod_lt _ (by decide), rfl⟩
    have noDot (number : Nat) : '.' ∉ Nat.toDigits 10 (number % 256) :=
      dot_not_mem_toDigits _ (Nat.mod_lt _ (by decide))
    rw [spelled, parseV4, toList_v4Text,
      List.splitOn_intercalate '.' (by simp [noDot]) (by simp)]
    simp only [List.map_cons, List.map_nil, read]
    congr 1
    apply BitVec.eq_of_toNat_eq
    have bound := value.isLt
    rw [BitVec.toNat_ofNat]
    omega

/-! ## Networks -/

/-- A network: the leading bits that its addresses share. -/
structure Network (width : Nat) where
  base : BitVec width
  length : Nat

/-- `address in network`. -/
def Network.contains {width : Nat} (network : Network width)
    (address : BitVec width) : Bool :=
  address >>> (width - network.length) == network.base >>> (width - network.length)

/-- An address in some networks that is in none of the exceptions. -/
def among {width : Nat} (networks exceptions : List (Network width))
    (address : BitVec width) : Bool :=
  networks.any (·.contains address) && !exceptions.any (·.contains address)

/-- `_IPv4Constants._private_networks`. -/
def privateV4 : List (Network 32) :=
  [⟨0x00000000, 8⟩, ⟨0x0a000000, 8⟩, ⟨0x7f000000, 8⟩, ⟨0xa9fe0000, 16⟩,
    ⟨0xac100000, 12⟩, ⟨0xc0000000, 24⟩, ⟨0xc00000aa, 31⟩, ⟨0xc0000200, 24⟩,
    ⟨0xc0a80000, 16⟩, ⟨0xc6120000, 15⟩, ⟨0xc6336400, 24⟩, ⟨0xcb007100, 24⟩,
    ⟨0xf0000000, 4⟩, ⟨0xffffffff, 32⟩]

/-- `_IPv4Constants._private_networks_exceptions`. -/
def privateExceptionsV4 : List (Network 32) :=
  [⟨0xc0000009, 32⟩, ⟨0xc000000a, 32⟩]

/-- `_IPv6Constants._private_networks`. -/
def privateV6 : List (Network 128) :=
  [⟨0x1, 128⟩, ⟨0x0, 128⟩, ⟨0xffff00000000, 96⟩,
    ⟨0x0064ff9b000100000000000000000000, 48⟩,
    ⟨0x01000000000000000000000000000000, 64⟩,
    ⟨0x20010000000000000000000000000000, 23⟩,
    ⟨0x20010db8000000000000000000000000, 32⟩,
    ⟨0x20020000000000000000000000000000, 16⟩,
    ⟨0x3fff0000000000000000000000000000, 20⟩,
    ⟨0xfc000000000000000000000000000000, 7⟩,
    ⟨0xfe800000000000000000000000000000, 10⟩]

/-- `_IPv6Constants._private_networks_exceptions`. -/
def privateExceptionsV6 : List (Network 128) :=
  [⟨0x20010001000000000000000000000001, 128⟩,
    ⟨0x20010001000000000000000000000002, 128⟩,
    ⟨0x20010003000000000000000000000000, 32⟩,
    ⟨0x20010004011200000000000000000000, 48⟩,
    ⟨0x20010020000000000000000000000000, 28⟩,
    ⟨0x20010030000000000000000000000000, 28⟩]

/-- `_IPv6Constants._reserved_networks`. -/
def reservedV6 : List (Network 128) :=
  [⟨0x0, 8⟩, ⟨0x01000000000000000000000000000000, 8⟩,
    ⟨0x02000000000000000000000000000000, 7⟩,
    ⟨0x04000000000000000000000000000000, 6⟩,
    ⟨0x08000000000000000000000000000000, 5⟩,
    ⟨0x10000000000000000000000000000000, 4⟩,
    ⟨0x40000000000000000000000000000000, 3⟩,
    ⟨0x60000000000000000000000000000000, 3⟩,
    ⟨0x80000000000000000000000000000000, 3⟩,
    ⟨0xa0000000000000000000000000000000, 3⟩,
    ⟨0xc0000000000000000000000000000000, 3⟩,
    ⟨0xe0000000000000000000000000000000, 4⟩,
    ⟨0xf0000000000000000000000000000000, 5⟩,
    ⟨0xf8000000000000000000000000000000, 6⟩,
    ⟨0xfe000000000000000000000000000000, 9⟩]

/-! ## Classification -/

/-- `ipv4_mapped`. -/
def ipv4Mapped : IpAddress → Option (BitVec 32)
  | .v4 _ => none
  | .v6 value _ =>
      if value >>> 32 = 0xffff then some (value.setWidth 32) else none

/-- The address itself, or the IPv4 address it maps. -/
def unmapped (address : IpAddress) : IpAddress :=
  (address.ipv4Mapped.map IpAddress.v4).getD address

/-- A property of an address, read off the IPv4 address where one is mapped. -/
def classify (ofV4 : BitVec 32 → Bool) (ofV6 : BitVec 128 → Bool)
    (address : IpAddress) : Bool :=
  match address.unmapped with
  | .v4 value => ofV4 value
  | .v6 value _ => ofV6 value

/-- `is_private`. -/
def isPrivate : IpAddress → Bool :=
  classify (among privateV4 privateExceptionsV4)
    (among privateV6 privateExceptionsV6)

/-- `is_loopback`. -/
def isLoopback : IpAddress → Bool :=
  classify (Network.contains ⟨0x7f000000, 8⟩) (· == 1)

/-- `is_link_local`. -/
def isLinkLocal : IpAddress → Bool :=
  classify (Network.contains ⟨0xa9fe0000, 16⟩)
    (Network.contains ⟨0xfe800000000000000000000000000000, 10⟩)

/-- `is_reserved`. -/
def isReserved : IpAddress → Bool :=
  classify (Network.contains ⟨0xf0000000, 4⟩) (among reservedV6 [])

/-- `is_multicast`. -/
def isMulticast : IpAddress → Bool :=
  classify (Network.contains ⟨0xe0000000, 4⟩)
    (Network.contains ⟨0xff000000000000000000000000000000, 8⟩)

/-- `is_unspecified`. -/
def isUnspecified : IpAddress → Bool := classify (· == 0) (· == 0)

end IpAddress

end PrivateAiWorkspace.Python
