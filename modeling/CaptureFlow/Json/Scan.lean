import CaptureFlow.Json.Failure
import CaptureFlow.Text.Shortest
import CaptureFlow.Text.Utf8

/-!
# Scanning JSON text

Blanks, words, numbers and strings at the front of a text, each handing on
what is left. A failure keeps the place that the scanner had reached: a byte
that decided the matter by being looked at counts as taken.
-/

namespace CaptureFlow.Json

/-- A text being read: what is left of it, and whether its stream fails there. -/
structure Input where
  /-- The octets not yet used. -/
  rest : Bytes
  /-- The fault of a read beyond them, if it fails. -/
  fault : Option ReadFault

/-- A reader of one construct: its value and what is left, or a refusal. -/
abbrev Reader (α : Type) := Input → Except Failure (α × Input)

/-- The refusal of a text that ends here. -/
def stop (fault : Option ReadFault) (inside : Unfinished) : Failure :=
  match fault with
  | some fault => ⟨.stream fault, .within []⟩
  | none => ⟨.ended inside, .unread 0⟩

/-- The refusal of a text of which `rest` is left untaken. -/
def refuse (rest : Bytes) (breach : Breach) : Failure :=
  ⟨.syntactic breach, .unread rest.length⟩

/-- Whether an octet is a blank between tokens. -/
def isBlankOctet (b : UInt8) : Bool :=
  b == 0x20 || b == 0x0a || b == 0x09 || b == 0x0d

/-- Drops the blanks in front. -/
def skipBlanks (bytes : Bytes) : Bytes :=
  bytes.dropWhile isBlankOctet

/-- The input behind its leading blanks. -/
def Input.skip (input : Input) : Input :=
  { input with rest := skipBlanks input.rest }

/-- Drops the letters of a word. -/
def word : (letters : Bytes) → Reader Unit
  | [], input => .ok ((), input)
  | letter :: letters, input =>
    match input.rest with
    | [] => .error (stop input.fault .value)
    | b :: rest =>
      if b = letter then word letters { input with rest }
      else .error (refuse rest .word)

/-! ## Numbers -/

/-- A number as the text gives it. -/
inductive Number where
  /-- A whole number within 64 bits. -/
  | integer (value : Int)
  /-- Any other number. -/
  | float (value : Float)

/-- Whether an octet is a decimal digit. -/
def isDigit (b : UInt8) : Bool :=
  0x30 ≤ b && b ≤ 0x39

/-- The value of a decimal digit. -/
def digitValue (b : UInt8) : Nat :=
  b.toNat - 0x30

/-- The run of digits in front. The octet behind it is looked at, so the
stream must not fail there. -/
def digitRun : Reader Bytes := fun input =>
  let rest := input.rest.dropWhile isDigit
  match rest, input.fault with
  | [], some _ => .error (stop input.fault .value)
  | _, _ => .ok (input.rest.takeWhile isDigit, { input with rest })

/-- Appends digits to a number below 64 bits; the first digit that does not
fit and all behind it are left over. -/
def accumulate : (n : Nat) → (digits : Bytes) → Nat × Bytes
  | n, [] => (n, [])
  | n, d :: digits =>
    let next := 10 * n + digitValue d
    if next < UInt64.size then accumulate next digits else (n, d :: digits)

/-- The floating-point number `significand * 10 ^ exponent`, none beyond the range. -/
def scaled? (positive : Bool) (significand : Nat) (exponent : Int) : Option Float :=
  let sign := fun (x : Float) => if positive then x else -x
  let x := significand.toUInt64.toFloat
  let power := fun (n : Nat) => Float.ofScientific 1 false n
  if significand = 0 then some (sign x)
  else if 0 ≤ exponent then
    if exponent ≤ 308 then
      let y := x * power exponent.toNat
      if y.isInf then none else some (sign y)
    else none
  else
    let steps := ((-exponent).toNat - 1) / 308
    if steps > 3 then some (sign 0)
    else
      let y := (List.range steps).foldl (fun (y : Float) _ => y / power 308) x
      some (sign (y / power ((-exponent).toNat - 308 * steps)))

/-- A floating-point number in front of `input`, refused beyond the range. -/
def scale (positive : Bool) (significand : Nat) (exponent : Int) : Reader Number := fun input =>
  match scaled? positive significand exponent with
  | some x => .ok (.float x, input)
  | none => .error (refuse input.rest.tail .range)

/-- Reads an exponent behind its mark. -/
def exponentPart (positive : Bool) (significand : Nat) (start : Int) : Reader Number :=
    fun input => do
  let limit : Nat := UInt32.size / 2
  let bounded : Int → Int := fun n => max (-limit) (min n (limit - 1))
  let (negative, rest) := match input.rest with
    | 0x2b :: rest => (false, rest)
    | 0x2d :: rest => (true, rest)
    | rest => (false, rest)
  match rest with
  | [] => .error (stop input.fault .value)
  | first :: after =>
    if !isDigit first then .error (refuse after .number)
    else
      let (digits, input) ← digitRun { input with rest }
      let fits := digits.foldl (fun (state : Nat × Nat × Bool) d =>
        let (n, count, fits) := state
        let next := 10 * n + digitValue d
        if fits && next < limit then (next, count + 1, true) else (n, count, false)) (0, 0, true)
      let (n, count, fits) := fits
      if fits then
        let shift : Int := if negative then -n else n
        scale positive significand (bounded (start + shift)) input
      else if significand ≠ 0 ∧ !negative then
        .error (refuse (after.drop count) .range)
      else .ok (.float (if positive then 0 else -0), input)

/-- Reads an exponent if its mark is in front. -/
def exponentOr (positive : Bool) (significand : Nat) (start : Int) : Reader Number := fun input =>
  match input.rest with
  | 0x65 :: rest => exponentPart positive significand start { input with rest }
  | 0x45 :: rest => exponentPart positive significand start { input with rest }
  | _ => scale positive significand start input

/-- Reads a fraction behind its point. -/
def fractionPart (positive : Bool) (significand : Nat) (start : Int) : Reader Number :=
    fun input => do
  let (digits, after) ← digitRun input
  match digits, after.rest with
  | [], [] => .error (stop after.fault .value)
  | [], _ :: rest => .error (refuse rest .number)
  | _, _ =>
    let (significand, left) := accumulate significand digits
    exponentOr positive significand (start - (digits.length - left.length : Nat)) after

/-- Reads a number behind its sign. -/
def readNumber (positive : Bool) : Reader Number := fun input => do
  match input.rest with
  | [] => .error (stop input.fault .value)
  | first :: after =>
    if !isDigit first then .error (refuse after .number)
    else if first = 0x30 ∧ (after.head?.any isDigit) then .error (refuse after.tail .number)
    else
      let (digits, input) ← digitRun input
      let (significand, left) := accumulate 0 digits
      match input.rest with
      | 0x2e :: rest => fractionPart positive significand left.length { input with rest }
      | 0x65 :: _ => exponentOr positive significand left.length input
      | 0x45 :: _ => exponentOr positive significand left.length input
      | _ =>
        if !left.isEmpty then scale positive significand left.length input
        else if positive then .ok (.integer significand, input)
        else if significand = 0 ∨ UInt64.size / 2 < significand then
          .ok (.float (-significand.toUInt64.toFloat), input)
        else .ok (.integer (-significand), input)

/-- Drops a number behind its sign without taking its value. -/
def skipNumber : Reader Unit := fun input => do
  match input.rest with
  | [] => .error (match input.fault with
    | some _ => stop input.fault .value
    | none => refuse [] .number)
  | first :: after =>
    if !isDigit first then .error (refuse after .number)
    else if first = 0x30 then
      match after, input.fault with
      | [], some _ => .error (stop input.fault .value)
      | d :: rest, _ =>
        if isDigit d then .error (refuse rest .number) else tail { input with rest := after }
      | [], none => .ok ((), { input with rest := [] })
    else
      let (_, input) ← digitRun input
      tail input
where
  /-- Drops an exponent behind its mark. -/
  skipExponent : Reader Unit := fun input => do
    let rest := match input.rest with
      | 0x2b :: rest => rest
      | 0x2d :: rest => rest
      | rest => rest
    match rest, input.fault with
    | [], some _ => .error (stop input.fault .value)
    | [], none => .error (refuse [] .number)
    | d :: after, _ =>
      if !isDigit d then .error (refuse after .number)
      else
        let (_, input) ← digitRun { input with rest }
        .ok ((), input)
  /-- Drops a fraction and an exponent, where there are any. -/
  tail : Reader Unit := fun input => do
    match input.rest with
    | 0x2e :: rest =>
      let (digits, after) ← digitRun { input with rest }
      if digits.isEmpty then .error (refuse after.rest.tail .number)
      else match after.rest with
        | 0x65 :: rest => skipExponent { after with rest }
        | 0x45 :: rest => skipExponent { after with rest }
        | _ => .ok ((), after)
    | 0x65 :: rest => skipExponent { input with rest }
    | 0x45 :: rest => skipExponent { input with rest }
    | _ => .ok ((), input)

/-! ## Strings -/

/-- What stands behind `rest` once some octets are used. -/
abbrev Shorter (rest : Bytes) := { left : Bytes // left.length ≤ rest.length }

/-- The value of a hexadecimal digit. -/
def hexValue (b : UInt8) : Option Nat :=
  Numeral.digit? 16 (Char.ofNat b.toNat)

/-- The value of four hexadecimal digits. -/
def hexQuad (a b c d : UInt8) : Option Nat := do
  pure (4096 * (← hexValue a) + 256 * (← hexValue b) + 16 * (← hexValue c) + (← hexValue d))

/-- Reads four hexadecimal digits. -/
def hexFour (fault : Option ReadFault) :
    (rest : Bytes) → Except Failure (Nat × Shorter rest)
  | a :: b :: c :: d :: rest =>
    match hexQuad a b c d with
    | some n => .ok (n, ⟨rest, by simp only [List.length_cons]; omega⟩)
    | none => .error (refuse rest .escape)
  | _ => .error (stop fault .string)

/-- The octets of a code point. -/
def codePointOctets (n : Nat) : Bytes :=
  String.utf8EncodeChar (Char.ofNat n)

/-- The octet that a backslash and a letter stand for. -/
def simpleEscape (b : UInt8) : Option UInt8 :=
  if b = 0x22 ∨ b = 0x5c ∨ b = 0x2f then some b
  else if b = 0x62 then some 0x08
  else if b = 0x66 then some 0x0c
  else if b = 0x6e then some 0x0a
  else if b = 0x72 then some 0x0d
  else if b = 0x74 then some 0x09
  else none

/-- Reads the second half of a surrogate pair whose first half is `high`. -/
def lowSurrogate (fault : Option ReadFault) (high : Nat) :
    (rest : Bytes) → Except Failure (Bytes × Shorter rest)
  | [] => .error (stop fault .string)
  | [b] => .error (if b = 0x5c then stop fault .string else refuse [] .hexEnd)
  | b :: c :: rest =>
    if b ≠ 0x5c then .error (refuse (c :: rest) .hexEnd)
    else if c ≠ 0x75 then .error (refuse rest .hexEnd)
    else do
      let (low, ⟨left, h⟩) ← hexFour fault rest
      if 0xdc00 ≤ low ∧ low ≤ 0xdfff then
        .ok (codePointOctets ((high - 0xd800) * 1024 + (low - 0xdc00) + 0x10000),
          ⟨left, by simp only [List.length_cons]; omega⟩)
      else .error (refuse left .surrogate)

/-- Reads what follows a backslash, as the octets that it stands for. -/
def escape (fault : Option ReadFault) : (rest : Bytes) → Except Failure (Bytes × Shorter rest)
  | [] => .error (stop fault .string)
  | b :: rest =>
    if b = 0x75 then do
      let (n, ⟨left, h⟩) ← hexFour fault rest
      if 0xdc00 ≤ n ∧ n ≤ 0xdfff then .error (refuse left .surrogate)
      else if 0xd800 ≤ n ∧ n ≤ 0xdbff then do
        let (octets, ⟨left', h'⟩) ← lowSurrogate fault n left
        .ok (octets, ⟨left', by simp only [List.length_cons]; omega⟩)
      else .ok (codePointOctets n, ⟨left, by simp only [List.length_cons]; omega⟩)
    else match simpleEscape b with
      | some octet => .ok ([octet], ⟨rest, by simp only [List.length_cons]; omega⟩)
      | none => .error (refuse rest .escape)

/-- Reads the octets of a string up to its closing quote; those read so far
come first, last one first. -/
def stringOctets (fault : Option ReadFault) (done : Bytes) (rest : Bytes) :
    Except Failure (Bytes × Bytes) :=
  match rest with
  | [] => .error (stop fault .string)
  | b :: rest =>
    if b = 0x22 then .ok (done.reverse, rest)
    else if b = 0x5c then
      match escape fault rest with
      | .error failure => .error failure
      | .ok (octets, ⟨left, _⟩) => stringOctets fault (octets.reverse ++ done) left
    else if b < 0x20 then .error (refuse rest .control)
    else stringOctets fault (b :: done) rest
termination_by rest.length
decreasing_by all_goals simp only [List.length_cons]; omega

/-- Reads a string behind its opening quote. -/
def string : Reader String := fun input => do
  let (octets, rest) ← stringOctets input.fault [] input.rest
  match Utf8.decode? octets with
  | some value => .ok (value, { input with rest })
  | none => .error (refuse rest .codePoint)

/-- Drops a string behind its opening quote without taking its value. -/
def skipString (fault : Option ReadFault) (rest : Bytes) : Except Failure Bytes :=
  match rest with
  | [] => .error (stop fault .string)
  | b :: rest =>
    if b = 0x22 then .ok rest
    else if b = 0x5c then
      match rest with
      | [] => .error (stop fault .string)
      | c :: rest =>
        if c = 0x75 then
          match hexFour fault rest with
          | .error failure => .error failure
          | .ok (_, ⟨left, _⟩) => skipString fault left
        else if (simpleEscape c).isSome then skipString fault rest
        else .error (refuse rest .escape)
    else if b < 0x20 then .error (refuse rest .control)
    else skipString fault rest
termination_by rest.length
decreasing_by all_goals simp only [List.length_cons]; omega

end CaptureFlow.Json
