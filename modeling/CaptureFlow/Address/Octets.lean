import CaptureFlow.Text.Numeral

/-!
# Fixed-length octet strings

Hardware addresses are octet strings whose length belongs to their type.
Their text joins the octets, two hexadecimal digits each, by colons.
-/

namespace CaptureFlow

/-- Exactly `n` octets. -/
structure Octets (n : Nat) where
  /-- The octets in order. -/
  bytes : Bytes
  /-- There are as many as the type says. -/
  length_eq : bytes.length = n
  deriving DecidableEq

namespace Octets

/-- The `n` octets from an offset on, zero beyond the end. -/
def readAt (n : Nat) (bytes : Bytes) (offset : Nat) : Octets n :=
  ⟨(List.range n).map fun i => octetAt bytes (offset + i), by simp⟩

/-- The octets of a list that has the right length. -/
def ofBytes? (n : Nat) (bytes : Bytes) : Option (Octets n) :=
  if h : bytes.length = n then some ⟨bytes, h⟩ else none

/-- Only the octets matter for equality. -/
theorem ext {n : Nat} {a b : Octets n} (h : a.bytes = b.bytes) : a = b := by
  cases a
  cases b
  cases h
  rfl

end Octets

/-- The text of a hardware address of any length. -/
def hardwareText (bytes : Bytes) : String :=
  ":".intercalate (bytes.map Numeral.octet)

end CaptureFlow
