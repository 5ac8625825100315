import CaptureFlow.Text.Numeral

/-!
# IPv4 addresses

Four octets, and their dotted decimal text. The reader is strict: four decimal
octets without leading zeros, and nothing else.
-/

namespace CaptureFlow.Ipv4

/-- An IPv4 address. -/
structure Address where
  /-- The most significant octet. -/
  a : UInt8
  /-- The second octet. -/
  b : UInt8
  /-- The third octet. -/
  c : UInt8
  /-- The least significant octet. -/
  d : UInt8
  deriving DecidableEq, Repr

namespace Address

/-- The address whose octets start at an offset. -/
def readAt (bytes : Bytes) (offset : Nat) : Address :=
  ⟨octetAt bytes offset, octetAt bytes (offset + 1), octetAt bytes (offset + 2),
    octetAt bytes (offset + 3)⟩

/-- The octets, most significant first. -/
def octets (address : Address) : Bytes :=
  [address.a, address.b, address.c, address.d]

/-- The dotted decimal text. -/
def text (address : Address) : String :=
  ".".intercalate (address.octets.map fun b => Numeral.decimal b.toNat)

end Address

/-- Splits a decimal octet off the text: one to three digits, no leading zero
in front of another digit, at most 255. -/
def splitOctet (text : List Char) : Option (UInt8 × List Char) :=
  let digits := text.takeWhile Char.isDigit
  let rest := text.dropWhile Char.isDigit
  let padded := digits.length > 1 && digits.head? == some '0'
  if digits.isEmpty || digits.length > 3 || padded then none
  else do
    let n ← (Numeral.value? 10 digits).filter (· < 256)
    pure (UInt8.ofNat n, rest)

/-- Splits a dot and a decimal octet off the text. -/
def splitDottedOctet : List Char → Option (UInt8 × List Char)
  | '.' :: rest => splitOctet rest
  | _ => none

/-- Splits a dotted decimal address off the text. -/
def splitAddress (text : List Char) : Option (Address × List Char) := do
  let (a, text) ← splitOctet text
  let (b, text) ← splitDottedOctet text
  let (c, text) ← splitDottedOctet text
  let (d, text) ← splitDottedOctet text
  pure (⟨a, b, c, d⟩, text)

/-- The address that a whole text stands for. -/
def Address.parse? (text : String) : Option Address :=
  match splitAddress text.toList with
  | some (address, []) => some address
  | _ => none

end CaptureFlow.Ipv4
