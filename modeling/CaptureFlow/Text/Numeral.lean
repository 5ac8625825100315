import CaptureFlow.Bytes

/-!
# Numerals

Decimal and hexadecimal numerals, written without leading zeros unless a
width is asked for, and the readers of decimal numerals that command line
values and HTTP lengths share.
-/

namespace CaptureFlow.Numeral

/-- The decimal numeral of `n`. -/
def decimal (n : Nat) : String :=
  String.ofList (Nat.toDigits 10 n)

/-- The hexadecimal numeral of `n` in lower case. -/
def hexadecimal (n : Nat) : String :=
  String.ofList (Nat.toDigits 16 n)

/-- The hexadecimal numeral behind the mark `0x`. -/
def marked (n : Nat) : String :=
  "0x" ++ hexadecimal n

/-- The decimal numeral of an integer, with a minus sign when it is negative. -/
def signed : Int → String
  | .ofNat n => decimal n
  | .negSucc n => "-" ++ decimal (n + 1)

/-- `text` with zeros in front up to `width` characters. -/
def zeroPadded (width : Nat) (text : String) : String :=
  String.ofList (List.replicate (width - text.length) '0') ++ text

/-- The two hexadecimal digits of an octet. -/
def octet (b : UInt8) : String :=
  zeroPadded 2 (hexadecimal b.toNat)

/-- The hexadecimal digits of a run of octets. -/
def octets (bytes : Bytes) : String :=
  String.join (bytes.map octet)

/-- The value of a digit of the given base, in either letter case. -/
def digit? (base : Nat) (c : Char) : Option Nat :=
  let value : Option Nat :=
    if '0' ≤ c ∧ c ≤ '9' then some (c.toNat - '0'.toNat)
    else if 'a' ≤ c ∧ c ≤ 'f' then some (c.toNat - 'a'.toNat + 10)
    else if 'A' ≤ c ∧ c ≤ 'F' then some (c.toNat - 'A'.toNat + 10)
    else none
  value.filter (· < base)

/-- The value of a run of digits, most significant first. -/
def value? (base : Nat) (digits : List Char) : Option Nat :=
  digits.foldlM (fun n c => (digit? base c).map (base * n + ·)) 0

/-- Reads an unsigned decimal numeral below `limit`; a plus sign in front is
allowed, and at least one digit is needed. -/
def unsigned? (limit : Nat) (text : List Char) : Option Nat :=
  let digits := match text with
    | '+' :: rest => rest
    | other => other
  if digits.isEmpty then none else (value? 10 digits).filter (· < limit)

/-- Reads a decimal numeral that may have a sign in front; at least one digit is
needed. -/
def signed? (text : List Char) : Option Int :=
  let (sign, digits) : Int × List Char := match text with
    | '+' :: rest => (1, rest)
    | '-' :: rest => (-1, rest)
    | other => (1, other)
  if digits.isEmpty then none else (value? 10 digits).map (sign * ·)

end CaptureFlow.Numeral
