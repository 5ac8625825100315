import CaptureFlow.Address.Ipv4

/-!
# IPv6 addresses

Eight 16-bit groups. The text shortens the first longest run of at least two
zero groups to a double colon and writes an IPv4-mapped address with a dotted
tail. The reader accepts every such text, any other place of the double colon
and either letter case.
-/

namespace CaptureFlow.Ipv6

/-- An IPv6 address. -/
structure Address where
  /-- The groups, most significant first. -/
  groups : List UInt16
  /-- There are eight of them. -/
  length_eq : groups.length = 8
  deriving DecidableEq

namespace Address

/-- The address whose octets start at an offset. -/
def readAt (bytes : Bytes) (offset : Nat) : Address :=
  ⟨(List.range 8).map fun i => wordAt .big bytes (offset + 2 * i), by simp⟩

/-- The octets, most significant first. -/
def octets (address : Address) : Bytes :=
  address.groups.flatMap fun g => ByteOrder.big.octets 2 g.toNat

end Address

/-- The number of zero groups in front. -/
def leadingZeros (groups : List UInt16) : Nat :=
  (groups.takeWhile (· == 0)).length

/-- Start and length of the first longest run of zero groups. -/
def longestZeroRun (groups : List UInt16) : Nat × Nat :=
  (List.range groups.length).foldl (fun (start, length) i =>
    let here := leadingZeros (groups.drop i)
    if length < here then (i, here) else (start, length)) (0, 0)

/-- Groups in hexadecimal, joined by colons. -/
def groupsText (groups : List UInt16) : String :=
  ":".intercalate (groups.map fun g => Numeral.hexadecimal g.toNat)

/-- The IPv4 address inside an IPv4-mapped address. -/
def mapped? : List UInt16 → Option Ipv4.Address
  | [0, 0, 0, 0, 0, 0xffff, high, low] =>
    some (Ipv4.Address.readAt
      (ByteOrder.big.octets 2 high.toNat ++ ByteOrder.big.octets 2 low.toNat) 0)
  | _ => none

/-- The canonical text of an address. -/
def Address.text (address : Address) : String :=
  match mapped? address.groups with
  | some inner => "::ffff:" ++ inner.text
  | none =>
    let (start, length) := longestZeroRun address.groups
    if length > 1 then
      groupsText (address.groups.take start) ++ "::" ++
        groupsText (address.groups.drop (start + length))
    else groupsText address.groups

/-- Splits one group off the text: one to four hexadecimal digits. -/
def splitGroup (text : List Char) : Option (UInt16 × List Char) :=
  let isHex := fun c => (Numeral.digit? 16 c).isSome
  let digits := text.takeWhile isHex
  if digits.isEmpty || digits.length > 4 then none
  else (Numeral.value? 16 digits).map fun n => (UInt16.ofNat n, text.dropWhile isHex)

/-- Drops the colon that separates a group from the one before it. -/
def afterColon (first : Bool) (text : List Char) : Option (List Char) :=
  if first then some text
  else match text with
    | ':' :: rest => some rest
    | _ => none

/-- Splits at most `limit` groups off the text. A dotted IPv4 address stands
for the last two of them and ends the run, as the second result tells. -/
def splitGroups : (limit : Nat) → (first : Bool) → List Char → List UInt16 × Bool × List Char
  | 0, _, text => ([], false, text)
  | limit + 1, first, text =>
    let dotted := if limit = 0 then none else (afterColon first text).bind Ipv4.splitAddress
    match dotted with
    | some (inner, rest) =>
      ([wordAt .big inner.octets 0, wordAt .big inner.octets 2], true, rest)
    | none =>
      match (afterColon first text).bind splitGroup with
      | some (group, rest) =>
        let (groups, tail, rest) := splitGroups limit false rest
        (group :: groups, tail, rest)
      | none => ([], false, text)

/-- The eight groups that a whole text stands for. -/
def parseGroups (text : List Char) : Option (List UInt16) :=
  match splitGroups 8 true text with
  | (head, dotted, rest) =>
    if head.length = 8 then
      if rest.isEmpty then some head else none
    else if dotted then none
    else match rest with
      | ':' :: ':' :: rest =>
        match splitGroups (7 - head.length) true rest with
        | (tail, _, []) => some (head ++ List.replicate (8 - head.length - tail.length) 0 ++ tail)
        | _ => none
      | _ => none

/-- The address that a whole text stands for. -/
def Address.parse? (text : String) : Option Address :=
  (parseGroups text.toList).bind fun groups =>
    if h : groups.length = 8 then some ⟨groups, h⟩ else none

end CaptureFlow.Ipv6
