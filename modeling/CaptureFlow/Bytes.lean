/-!
# Octets and byte order

Captured data is a list of octets. A number in a header is a run of octets
read in one of the two byte orders; the writer of such a run stands beside
its reader, and the two undo each other within the width of the run.
-/

namespace CaptureFlow

/-- Octets in the order in which they were captured. -/
abbrev Bytes := List UInt8

/-- The two orders in which the octets of a number are laid out. -/
inductive ByteOrder where
  /-- The most significant octet comes first. -/
  | big
  /-- The least significant octet comes first. -/
  | little
  deriving DecidableEq, Repr

namespace ByteOrder

/-- The number whose base-256 digits are `bytes`, least significant first. -/
def littleNumber : Bytes → Nat
  | [] => 0
  | b :: rest => b.toNat + 256 * littleNumber rest

/-- The lowest `width` base-256 digits of `n`, least significant first. -/
def littleOctets : (width n : Nat) → Bytes
  | 0, _ => []
  | width + 1, n => UInt8.ofNat (n % 256) :: littleOctets width (n / 256)

/-- The number that a run of octets stands for. -/
def number : ByteOrder → Bytes → Nat
  | big, bytes => littleNumber bytes.reverse
  | little, bytes => littleNumber bytes

/-- The least number that does not fit in `width` octets. -/
def bound : (width : Nat) → Nat
  | 0 => 1
  | width + 1 => 256 * bound width

/-- The run of `width` octets that stands for `n` modulo the bound of its width. -/
def octets : ByteOrder → (width n : Nat) → Bytes
  | big, width, n => (littleOctets width n).reverse
  | little, width, n => littleOctets width n

/-- A written number takes exactly its width. -/
theorem length_littleOctets (width n : Nat) : (littleOctets width n).length = width := by
  induction width generalizing n with
  | zero => rfl
  | succ width ih => simp [littleOctets, ih]

/-- A written number takes exactly its width in either order. -/
theorem length_octets (order : ByteOrder) (width n : Nat) :
    (order.octets width n).length = width := by
  cases order <;> simp [octets, length_littleOctets]

/-- Reading a written number gives it back modulo the bound of its width. -/
theorem littleNumber_littleOctets (width n : Nat) :
    littleNumber (littleOctets width n) = n % bound width := by
  induction width generalizing n with
  | zero => simp [littleOctets, littleNumber, bound, Nat.mod_one]
  | succ width ih =>
    have h : (UInt8.ofNat (n % 256)).toNat = n % 256 := by
      simp
    rw [littleOctets, littleNumber, ih, h, bound, Nat.mod_mul]

/-- Reading undoes writing in either order, within the width. -/
theorem number_octets (order : ByteOrder) (width n : Nat) :
    order.number (order.octets width n) = n % bound width := by
  cases order <;> simp [number, octets, littleNumber_littleOctets]

end ByteOrder

/-- The run of `width` octets that starts at offset `start`. -/
def slice (bytes : Bytes) (start width : Nat) : Bytes :=
  (bytes.drop start).take width

/-- The octet at an offset, zero beyond the end. -/
def octetAt (bytes : Bytes) (offset : Nat) : UInt8 :=
  bytes.getD offset 0

/-- The 16-bit number at an offset. -/
def wordAt (order : ByteOrder) (bytes : Bytes) (offset : Nat) : UInt16 :=
  UInt16.ofNat (order.number (slice bytes offset 2))

/-- The 32-bit number at an offset. -/
def longAt (order : ByteOrder) (bytes : Bytes) (offset : Nat) : UInt32 :=
  UInt32.ofNat (order.number (slice bytes offset 4))

end CaptureFlow
