import CaptureFlow.Text.Numeral

/-!
# Shortest decimal text of a floating-point number

The text has the fewest digits that read back to the same binary64 number, and
of those the ones nearest to it. It is positional from `1e-5` up to `1e16` and
scientific beyond, where the exponent has a sign: `1e+16` and `1.5e-7`. There
is always a fraction or an exponent.
-/

namespace CaptureFlow.Shortest

/-- A power of two. -/
def twos (n : Nat) : Nat :=
  Nat.pow 2 n

/-- A power of ten. -/
def tens (n : Nat) : Nat :=
  Nat.pow 10 n

/-- The integral factors of normal numbers start here. -/
def normal : Nat :=
  twos 52

/-- A positive number `mantissa * 2 ^ exponent`. -/
structure Binary where
  /-- The integral factor. -/
  mantissa : Nat
  /-- The power of two. -/
  exponent : Int

/-- The finite positive number with the given low 63 bits. -/
def Binary.ofBits (bits : Nat) : Binary :=
  let biased : Nat := bits / normal
  let low := bits % normal
  if biased = 0 then ⟨low, -1074⟩ else ⟨normal + low, (biased : Int) - 1075⟩

/-- Whether `a * 2 ^ p` is at most `b * 10 ^ e`. -/
def atMostTens (a : Nat) (p : Int) (b : Nat) (e : Int) : Bool :=
  a * twos p.toNat * tens (-e).toNat ≤ b * tens e.toNat * twos (-p).toNat

/-- Whether `b * 10 ^ e` is at most `a * 2 ^ p`. -/
def tensAtMost (b : Nat) (e : Int) (a : Nat) (p : Int) : Bool :=
  b * tens e.toNat * twos (-p).toNat ≤ a * twos p.toNat * tens (-e).toNat

/-- The number of decimal digits, none for zero. -/
def digitCount (n : Nat) : Nat :=
  if n = 0 then 0 else (Nat.toDigits 10 n).length

/-- The power of ten of the leading digit. -/
def decade (x : Binary) : Int :=
  let num := x.mantissa * twos x.exponent.toNat
  let den := twos (-x.exponent).toNat
  if den ≤ num then (digitCount (num / den) : Int) - 1
  else -(digitCount ((den - 1) / num) : Int)

/-- Whether `digits * 10 ^ e` lies among the numbers that round to `x`, the
ends included when the mantissa is even. -/
def roundsTo (x : Binary) (digits : Nat) (e : Int) : Bool :=
  let p := x.exponent - 2
  let high := 4 * x.mantissa + 2
  let low := if x.mantissa = normal ∧ -1074 < x.exponent then 4 * x.mantissa - 1
    else 4 * x.mantissa - 2
  if x.mantissa % 2 = 0 then atMostTens low p digits e && tensAtMost digits e high p
  else !tensAtMost digits e low p && !atMostTens high p digits e

/-- The nearest of the two neighbours of `x` on the grid of `10 ^ e` that
round to it. -/
def onGrid? (x : Binary) (e : Int) : Option Nat :=
  let num := x.mantissa * twos x.exponent.toNat * tens (-e).toNat
  let den := twos (-x.exponent).toNat * tens e.toNat
  let below := num / den
  let nearer := if 2 * (num % den) < den then [below, below + 1]
    else if den < 2 * (num % den) then [below + 1, below]
    else if below % 2 = 0 then [below, below + 1] else [below + 1, below]
  nearer.find? fun d => d != 0 && roundsTo x d e

/-- The shortest digits and their power of ten, trying 1, 2, … 17 digits. -/
def digits (x : Binary) : Nat × Int :=
  let top := decade x
  let found := (List.range 17).findSome? fun (n : Nat) =>
    (onGrid? x (top - n)).map fun d => (d, top - n)
  found.getD (0, 0)

/-- Digits without trailing zeros, the power of ten raised to match. -/
def trimZeros : (fuel : Nat) → Nat × Int → Nat × Int
  | 0, pair => pair
  | fuel + 1, (d, e) => if d % 10 = 0 ∧ d ≠ 0 then trimZeros fuel (d / 10, e + 1) else (d, e)

/-- The layout of digits and power of ten. -/
def layout (d : Nat) (e : Int) : String :=
  let shown := Numeral.decimal d
  let point : Int := shown.length + e
  let zeros := fun (n : Int) => String.ofList (List.replicate n.toNat '0')
  if 0 ≤ e ∧ point ≤ 16 then shown ++ zeros e ++ ".0"
  else if 0 < point ∧ point ≤ 16 then
    String.ofList (shown.toList.take point.toNat) ++ "." ++
      String.ofList (shown.toList.drop point.toNat)
  else if -5 < point ∧ point ≤ 0 then "0." ++ zeros (-point) ++ shown
  else
    let exponent := (if 0 < point then "+" else "") ++ Numeral.signed (point - 1)
    if shown.length = 1 then s!"{shown}e{exponent}"
    else String.ofList (shown.toList.take 1) ++ "." ++ String.ofList (shown.toList.drop 1) ++
      "e" ++ exponent

/-- The text of a finite floating-point number. -/
def text (x : Float) : String :=
  let bits := x.toBits.toNat
  let sign := if bits ≥ twos 63 then "-" else ""
  let magnitude := bits % twos 63
  if magnitude = 0 then sign ++ "0.0"
  else
    let (d, e) := trimZeros 20 (digits (Binary.ofBits magnitude))
    sign ++ layout d e

end CaptureFlow.Shortest
