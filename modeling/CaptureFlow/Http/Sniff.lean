import CaptureFlow.Http.Header
import CaptureFlow.Text.Blank
import CaptureFlow.Text.Utf8

/-!
# Sniffing HTTP messages

A payload is taken for an HTTP message if it starts with a request line or a
status line of HTTP/1.0 or 1.1. Acceptance needs no more of the message than
that; its fields count only if the whole head is there, ends in an empty line
and has no more fields than there is room for.
-/

namespace CaptureFlow.Http

/-! ## Character classes -/

/-- Whether an octet is a letter or a digit. -/
def isAlphanumeric (b : UInt8) : Bool :=
  (0x30 ≤ b && b ≤ 0x39) || (0x41 ≤ b && b ≤ 0x5a) || (0x61 ≤ b && b ≤ 0x7a)

/-- Whether an octet belongs to a token, such as a method or a field name. -/
def isToken (b : UInt8) : Bool :=
  isAlphanumeric b ||
    [0x21, 0x23, 0x24, 0x25, 0x26, 0x27, 0x2a, 0x2b, 0x2d, 0x2e, 0x5e, 0x5f, 0x60, 0x7c,
      0x7e].contains b

/-- Whether an octet belongs to a request target. -/
def isUri (b : UInt8) : Bool :=
  (0x21 ≤ b && b ≤ 0x7e) || 0x80 ≤ b

/-- Whether an octet is a space or a tab. -/
def isSpace (b : UInt8) : Bool :=
  b == 0x20 || b == 0x09

/-- Whether an octet belongs to a field value or a reason. -/
def isText (b : UInt8) : Bool :=
  isSpace b || isUri b

/-! ## Pieces of a line -/

/-- The text of octets that are all ASCII. -/
def asciiText (bytes : Bytes) : String :=
  String.ofList (bytes.map fun b => Char.ofNat b.toNat)

/-- Splits off the longest run of octets of a class, which must not be empty. -/
def splitRun (isMember : UInt8 → Bool) (bytes : Bytes) : Option (Bytes × Bytes) :=
  let run := bytes.takeWhile isMember
  if run.isEmpty then none else some (run, bytes.dropWhile isMember)

/-- Drops one octet. -/
def dropOctet (octet : UInt8) : Bytes → Option Bytes
  | b :: rest => if b = octet then some rest else none
  | [] => none

/-- Drops the end of a line, a newline that may have a carriage return in front. -/
def dropLineEnd : Bytes → Option Bytes
  | 0x0d :: 0x0a :: rest => some rest
  | 0x0a :: rest => some rest
  | _ => none

/-- Drops the empty lines in front of a request. -/
def skipEmptyLines : Bytes → Bytes
  | 0x0d :: 0x0a :: rest => skipEmptyLines rest
  | 0x0a :: rest => skipEmptyLines rest
  | bytes => bytes

/-- Splits off the protocol and gives its minor version. -/
def splitVersion : Bytes → Option (UInt8 × Bytes)
  | 0x48 :: 0x54 :: 0x54 :: 0x50 :: 0x2f :: 0x31 :: 0x2e :: minor :: rest =>
    if minor = 0x30 then some (0, rest) else if minor = 0x31 then some (1, rest) else none
  | _ => none

/-- The value of a decimal digit. -/
def digitValue? (b : UInt8) : Option Nat :=
  if 0x30 ≤ b ∧ b ≤ 0x39 then some (b.toNat - 0x30) else none

/-- Splits off the three digits of a status. -/
def splitStatus : Bytes → Option (UInt16 × Bytes)
  | a :: b :: c :: rest => do
    pure (UInt16.ofNat (100 * (← digitValue? a) + 10 * (← digitValue? b) + (← digitValue? c)), rest)
  | _ => none

/-! ## Fields -/

/-- A field of a message. -/
structure Field where
  /-- Its name. -/
  name : Bytes
  /-- Its value without the blanks around it. -/
  value : Bytes

/-- The value without blanks at its end. -/
def trimEnd (value : Bytes) : Bytes :=
  (value.reverse.dropWhile isSpace).reverse

/-- Splits a field and the end of its line off. -/
def splitField (bytes : Bytes) : Option (Field × Bytes) := do
  let (name, rest) ← splitRun isToken bytes
  let rest ← dropOctet 0x3a rest
  let line := rest.takeWhile isText
  let rest ← dropLineEnd (rest.drop line.length)
  pure (⟨name, trimEnd (line.dropWhile isSpace)⟩, rest)

/-- The fields up to the empty line that ends them, if there are at most `room`. -/
def fields : (room : Nat) → Bytes → Option (List Field)
  | room, bytes =>
    match dropLineEnd bytes with
    | some _ => some []
    | none =>
      match room with
      | 0 => none
      | room + 1 => do
        let (field, rest) ← splitField bytes
        let others ← fields room rest
        pure (field :: others)

/-- The greatest number of fields of a message. -/
def maxFields : Nat := 64

namespace Header

/-- The head with one more field, if it is one of those that are kept. A value
that is no text is passed over; a later field takes the place of an earlier. -/
def withField (header : Header) (field : Field) : Header :=
  match Utf8.decode? field.value with
  | none => header
  | some value =>
    let name := (asciiText field.name).toLower
    if name = "host" then { header with host := some value }
    else if name = "content-type" then { header with contentType := some value }
    else if name = "content-length" then
      let length := Numeral.unsigned? UInt64.size (Blank.trim value.toList)
      { header with contentLength := length.map UInt64.ofNat }
    else header

/-- The head with the fields of a message behind its first line. -/
def withFields (header : Header) (behindLine : Option Bytes) : Header :=
  match behindLine.bind (fields maxFields) with
  | some found => found.foldl withField header
  | none => header

end Header

/-! ## First lines -/

/-- The head of a request at the start of a payload. -/
def sniffRequest (payload : Bytes) : Option Header := do
  let (method, rest) ← splitRun isToken (skipEmptyLines payload)
  let rest ← dropOctet 0x20 rest
  let (target, rest) ← splitRun isUri rest
  let rest ← dropOctet 0x20 rest
  let uri ← Utf8.decode? target
  let (version, rest) ← splitVersion rest
  pure ((Header.request (asciiText method) uri version).withFields (dropLineEnd rest))

/-- The reason behind a status, and what follows its line. A reason with
octets beyond ASCII counts as empty. -/
def reasonLine (bytes : Bytes) : Option String × Option Bytes :=
  match dropLineEnd bytes with
  | some rest => (some "", some rest)
  | none =>
    match dropOctet 0x20 bytes with
    | none => (none, none)
    | some rest =>
      let line := rest.takeWhile isText
      match dropLineEnd (rest.drop line.length) with
      | some behind => (some (if line.any (0x80 ≤ ·) then "" else asciiText line), some behind)
      | none => (none, none)

/-- The head of a response at the start of a payload. -/
def sniffResponse (payload : Bytes) : Option Header := do
  let (version, rest) ← splitVersion payload
  let rest ← dropOctet 0x20 rest
  let (status, rest) ← splitStatus rest
  let (reason, behind) := reasonLine rest
  pure ((Header.response status reason version).withFields behind)

/-- The octets at the start of every response. -/
def responseMark : Bytes := [0x48, 0x54, 0x54, 0x50, 0x2f]

/-- The head of the HTTP message that a payload starts with. -/
def sniff (payload : Bytes) : Option Header :=
  if responseMark.isPrefixOf payload then sniffResponse payload else sniffRequest payload

end CaptureFlow.Http
