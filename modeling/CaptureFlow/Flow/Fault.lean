import CaptureFlow.Text.Numeral

/-!
# Why flows refuse packets

A packet may lack a header that a flow is about, or belong to another flow; a
pair of endpoints may not tell the server's side; a sequence number may be
missing from a chain of segments.
-/

namespace CaptureFlow

/-- Why a flow, a tuple or an exchange cannot be formed. -/
inductive FlowError where
  /-- The packet has no network header. -/
  | networkMissing
  /-- The packet has no TCP header. -/
  | transportMissing
  /-- The packet has no request. -/
  | applicationMissing
  /-- There is no packet. -/
  | noPackets
  /-- Neither side uses the server's port. -/
  | portOnNeither (port : UInt16)
  /-- Both sides use the server's port. -/
  | portOnBoth (port : UInt16)
  /-- No segment with a payload starts at a sequence number. -/
  | sequenceMissing (seq : UInt32)
  /-- The packet goes between other endpoints than the flow. -/
  | mismatch (flow packet : String)
  deriving DecidableEq, Repr

/-- The wording of a flow error. -/
def FlowError.message : FlowError → String
  | networkMissing => "network layer header missing"
  | transportMissing => "transport layer header missing"
  | applicationMissing => "application layer header missing"
  | noPackets => "empty packet data"
  | portOnNeither port => s!"port {Numeral.decimal port.toNat} is on neither side of the tuple"
  | portOnBoth port => s!"port {Numeral.decimal port.toNat} is on both sides of the tuple"
  | sequenceMissing seq => s!"TCP sequence {Numeral.decimal seq.toNat} missing"
  | mismatch flow packet => s!"packet tuple {packet} does not match flow {flow}"

end CaptureFlow
