import CaptureFlow.TcpFlow.Health

/-!
# Dumps of TCP packets

A dump has a line for every packet with the numbers of its TCP header. A window
of a dump holds the lines around one of them.
-/

namespace CaptureFlow.Dump

/-- The line of a packet. -/
def line (packet : Packet) : Except FlowError String := do
  let (tcp, payload) ← Health.headersOf packet
  let n := Numeral.decimal
  .ok (s!"{Numeral.signed packet.nanoseconds.toInt} " ++
    s!"{n tcp.sourcePort.toNat}->{n tcp.destinationPort.toNat} {n tcp.seq.toNat} " ++
    s!"{n tcp.ack.toNat} {n tcp.words.toNat} {Numeral.marked tcp.flags.toNat} " ++
    s!"{n tcp.window.toNat} {n payload.toNat}")

/-- The lines of all packets, which all have to be TCP packets. -/
def lines (members : List Member) : Except FlowError (List String) :=
  members.mapM fun member => line member.packet

/-- The sum of two numbers of lines, held at the greatest 64-bit number. -/
def heldSum (a b : Nat) : Nat :=
  min (a + b) (UInt64.size - 1)

/-- The lines up to `context` away from line number `target`, or from the last
line if there is none of that number, and the place of that line among them. -/
def window (members : List Member) (target context : Nat) :
    Except FlowError (List String × Nat) := do
  if members.isEmpty then .ok ([], 0)
  else
    let target := min target (members.length - 1)
    let start := target - context
    let stop := min (heldSum (heldSum target context) 1) members.length
    .ok (← lines ((members.take stop).drop start), target - start)

end CaptureFlow.Dump
