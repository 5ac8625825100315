import CaptureFlow.Gzip.Window
import CaptureFlow.Proofs.Stream

/-!
# What decompression delivers

A supply of compressed data that is complete delivers all output, wherever the window
and the pieces of the file end its stretches.
-/

namespace CaptureFlow

namespace Gzip

/-- The octets of output. -/
def octetsOf (outputs : List Output) : Bytes :=
  outputs.map Output.octet

/-- The supply of complete data delivers all output, however it is cut. -/
theorem delivers_supplyFrom (reached : Nat) (gathered : Array UInt8) (room : Nat)
    (ends : List Nat) (outputs : List Output) :
    (supplyFrom (.complete reached .clean) gathered room ends outputs).Delivers
      (gathered.toList ++ octetsOf outputs) := by
  fun_induction supplyFrom (.complete reached .clean) gathered room ends outputs with
  | case1 gathered room =>
    rw [octetsOf, List.map_nil, List.append_nil]
    exact .last gathered.toList
  | case2 gathered output outputs ih => exact .stretch _ _ ih
  | case3 gathered room output outputs hroom ih =>
    rw [Array.toList_push, List.append_assoc] at ih
    exact ih
  | case4 gathered room limit ends hreached =>
    rw [octetsOf, List.map_nil, List.append_nil]
    exact .last gathered.toList
  | case5 gathered room limit ends hreached ih => exact .stretch _ _ ih
  | case6 gathered room limit ends output outputs hlimit ih => exact .stretch _ _ ih
  | case7 gathered limit ends output outputs hlimit ih => exact .stretch _ _ ih
  | case8 gathered room limit ends output outputs hlimit hroom ih =>
    rw [Array.toList_push, List.append_assoc] at ih
    exact ih

/-- Compressed data that is read up to its end and fits what is behind it delivers its
output. -/
theorem delivers_supply {ending : Bytes → Bytes → Ending} {start : Nat} {bytes : Bytes}
    {outputs : Array Output} {bits : Bits} (h : inflate start bytes = (outputs, .ok bits))
    (hending : ending (octetsOf outputs.toList) bits.rest = .clean) :
    (supply ending start bytes).Delivers (octetsOf outputs.toList) := by
  unfold octetsOf at hending
  have hdelivers := delivers_supplyFrom bits.reached #[] windowLength
    (pieceEnds start (start + bytes.length)) outputs.toList
  rw [List.nil_append] at hdelivers
  simp only [supply, h, hending]
  exact hdelivers

end Gzip

end CaptureFlow
