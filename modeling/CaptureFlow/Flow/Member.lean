import CaptureFlow.Packet

/-!
# Members of a batch

Flows are formed from a batch of packets. They keep with every packet its
position in the batch, so that equal packets stay apart, and the span of time
from the earliest to the latest of their packets.
-/

namespace CaptureFlow

/-- A packet of a batch. -/
structure Member where
  /-- Its position in the batch. -/
  index : Nat
  /-- The packet. -/
  packet : Packet
  deriving DecidableEq

/-- The members of a batch in order. -/
def Member.ofBatch (packets : List Packet) : List Member :=
  packets.zipIdx.map fun (packet, index) => ⟨index, packet⟩

/-- The packets of a batch are its members' packets. -/
theorem Member.map_packet_ofBatch (packets : List Packet) :
    (Member.ofBatch packets).map Member.packet = packets := by
  simp [Member.ofBatch, Function.comp_def]

/-- The time from the earliest to the latest of some packets. -/
structure Span where
  /-- The earliest timestamp. -/
  start : Timestamp
  /-- The latest timestamp. -/
  stop : Timestamp
  deriving DecidableEq

namespace Span

/-- The span that a further timestamp belongs to as well. -/
def including (timestamp : Timestamp) : Option Span → Span
  | none => ⟨timestamp, timestamp⟩
  | some span => ⟨min span.start timestamp, max span.stop timestamp⟩

/-- The earliest timestamp, zero where there is none. -/
def startOf (span : Option Span) : Timestamp :=
  (span.map Span.start).getD 0

/-- The latest timestamp, zero where there is none. -/
def stopOf (span : Option Span) : Timestamp :=
  (span.map Span.stop).getD 0

/-- The microseconds from the earliest to the latest timestamp. -/
def durationOf (span : Option Span) : Except Overflow Int64 :=
  Timestamp.elapsed (startOf span) (stopOf span)

end Span

end CaptureFlow
