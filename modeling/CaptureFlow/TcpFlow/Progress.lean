import CaptureFlow.TcpFlow

/-!
# Progress of TCP flows

The progress of a direction is told by samples: the packets whose sequence
number, or acknowledgement, is above all before it.
-/

namespace CaptureFlow

/-- A number observed at a time. -/
structure Sample where
  /-- When it was observed. -/
  timestamp : Timestamp
  /-- The number. -/
  value : UInt32
  deriving DecidableEq

namespace Sample

/-- The samples whose value is above all values before them, `highest` included. -/
def recordHighs : (highest : Option UInt32) → List Sample → List Sample
  | _, [] => []
  | highest, sample :: rest =>
    if highest.all (· < sample.value) then sample :: recordHighs (some sample.value) rest
    else recordHighs highest rest

end Sample

namespace TcpFlow

/-- The samples of a number in the TCP headers of a direction. -/
def samples (flow : TcpFlow) (direction : Direction) (number : Tcp.Header → UInt32) :
    List Sample :=
  (flow.side direction).members.toList.filterMap fun member =>
    member.packet.tcp?.map fun tcp => ⟨member.packet.timestamp, number tcp⟩

/-- The progress of the acknowledgements of a direction. -/
def ackProgress (flow : TcpFlow) (direction : Direction) : List Sample :=
  Sample.recordHighs none (flow.samples direction Tcp.Header.ack)

/-- The progress of the sequence numbers of a direction. -/
def seqProgress (flow : TcpFlow) (direction : Direction) : List Sample :=
  Sample.recordHighs none (flow.samples direction Tcp.Header.seq)

end TcpFlow

end CaptureFlow
