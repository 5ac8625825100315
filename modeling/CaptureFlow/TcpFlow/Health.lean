import CaptureFlow.TcpFlow

/-!
# Health of TCP flows

The packets of a flow are walked once in order of arrival. Each side keeps the
next sequence number that it expects to send, its highest acknowledgement and
how often that was repeated, and the sequence numbers whose loss the other side
has signalled by repeating an acknowledgement three times. A packet behind the
expected number confirms such a loss, or counts as out of order, or as other.
-/

namespace CaptureFlow

/-- What went wrong on one side of a connection. -/
structure Anomalies where
  /-- Acknowledgements that repeat the highest one. -/
  dupAck : Nat := 0
  /-- Segments sent again after their loss was signalled. -/
  loss : Nat := 0
  /-- The payload octets of those segments. -/
  lossBytes : Nat := 0
  /-- Segments behind the expected number without a sign of loss. -/
  outOfOrder : Nat := 0
  /-- Other segments behind the expected number, and losses not confirmed. -/
  other : Nat := 0
  deriving DecidableEq, Repr

namespace Anomalies

/-- Whether nothing went wrong. -/
def isClean (anomalies : Anomalies) : Bool :=
  anomalies = {}

/-- The text of the counters. -/
def text (anomalies : Anomalies) : String :=
  let n := Numeral.decimal
  s!"dup_ack={n anomalies.dupAck} loss={n anomalies.loss} loss_bytes={n anomalies.lossBytes} " ++
    s!"out_of_order={n anomalies.outOfOrder} other={n anomalies.other}"

end Anomalies

/-- What went wrong on both sides of a connection. -/
structure Health where
  /-- The side of the first endpoint. -/
  forward : Anomalies
  /-- The side of the second endpoint. -/
  reverse : Anomalies
  deriving DecidableEq, Repr

namespace Health

/-- The anomalies of a side. -/
def side (health : Health) : Direction → Anomalies
  | .forward => health.forward
  | .reverse => health.reverse

/-- Whether nothing went wrong on either side. -/
def isClean (health : Health) : Bool :=
  health.forward.isClean && health.reverse.isClean

/-- The text of the counters of both sides. -/
def text (health : Health) : String :=
  s!"fwd[{health.forward.text}] rev[{health.reverse.text}]"

/-- What the analysis looks at in a packet. -/
structure Segment where
  /-- The sequence number. -/
  seq : UInt32
  /-- The acknowledgement number. -/
  ack : UInt32
  /-- The length of the payload. -/
  payload : UInt16
  deriving DecidableEq, Repr

/-- What is known of a side of a connection. -/
structure Side where
  /-- The sequence number expected next. -/
  cursor : UInt32 := 0
  /-- The highest acknowledgement. -/
  highestAck : Option UInt32 := none
  /-- How often the highest acknowledgement was repeated. -/
  repeats : Nat := 0
  /-- The sequence numbers whose loss is signalled and not confirmed. -/
  suspected : List UInt32 := []
  /-- What went wrong so far. -/
  anomalies : Anomalies := {}
  deriving DecidableEq, Repr

/-- The number of repeated acknowledgements that signal a loss. -/
def lossSignal : Nat := 3

/-- Both sides after the acknowledgement of a packet sent by `this` one. -/
def acknowledge (segment : Segment) (this other : Side) : Side × Side :=
  let advanced := ({ this with highestAck := some segment.ack, repeats := 0 }, other)
  match this.highestAck with
  | none => advanced
  | some highest =>
    if segment.ack = highest then
      let repeats := this.repeats + 1
      let anomalies := { this.anomalies with dupAck := this.anomalies.dupAck + 1 }
      let suspected :=
        if repeats = lossSignal ∧ segment.ack ≠ other.cursor then
          other.suspected.insert segment.ack
        else other.suspected
      ({ this with repeats, anomalies }, { other with suspected })
    else if segment.ack < highest then (this, other)
    else advanced

/-- The sending side after the sequence number of a packet. -/
def advance (segment : Segment) (this other : Side) : Side :=
  let found := this.anomalies
  if this.cursor ≤ segment.seq then
    { this with cursor := segment.seq + segment.payload.toUInt32 }
  else if segment.seq ∈ this.suspected then
    { this with
      suspected := this.suspected.erase segment.seq
      anomalies := { found with
        loss := found.loss + 1, lossBytes := found.lossBytes + segment.payload.toNat } }
  else if other.repeats < lossSignal then
    { this with anomalies := { found with outOfOrder := found.outOfOrder + 1 } }
  else { this with anomalies := { found with other := found.other + 1 } }

/-- Both sides after a packet sent by `this` one. -/
def exchangeSegment (segment : Segment) (this other : Side) : Side × Side :=
  let (this, other) := acknowledge segment this other
  (advance segment this other, other)

/-- What is known of both sides of a connection. -/
structure State where
  /-- The side of the first endpoint. -/
  forward : Side := {}
  /-- The side of the second endpoint. -/
  reverse : Side := {}
  deriving DecidableEq, Repr

/-- The state after a packet sent by a side. -/
def State.step (state : State) (direction : Direction) (segment : Segment) : State :=
  match direction with
  | .forward =>
    let (this, other) := exchangeSegment segment state.forward state.reverse
    ⟨this, other⟩
  | .reverse =>
    let (this, other) := exchangeSegment segment state.reverse state.forward
    ⟨other, this⟩

/-- The anomalies of a side at the end, where losses not confirmed count as other. -/
def Side.finish (side : Side) : Anomalies :=
  { side.anomalies with other := side.anomalies.other + side.suspected.length }

/-- The health that a walk ends with. -/
def State.finish (state : State) : Health :=
  ⟨state.forward.finish, state.reverse.finish⟩

/-- The side that sent a packet, by its source port alone. -/
def directionByPort (pair : EndpointPair) (tcp : Tcp.Header) : Direction :=
  if tcp.sourcePort = pair.source.port then .forward else .reverse

/-- The state after a packet whose TCP header and payload length are given. -/
def State.stepPacket (state : State) (pair : EndpointPair) (tcp : Tcp.Header)
    (payload : UInt16) : State :=
  state.step (directionByPort pair tcp) ⟨tcp.seq, tcp.ack, payload⟩

/-- The health of a flow. -/
def ofFlow (flow : TcpFlow) : Health :=
  (flow.members.foldl (fun state member =>
    match member.packet.tcp? with
    | some tcp =>
      State.stepPacket state flow.pair tcp (member.packet.payloadLength?.getD 0)
    | none => state) ({} : State)).finish

/-- The headers that the analysis needs of a packet. -/
def headersOf (packet : Packet) : Except FlowError (Tcp.Header × UInt16) :=
  match packet.payloadLength?, packet.tcp? with
  | none, _ => .error .networkMissing
  | some _, none => .error .transportMissing
  | some payload, some tcp => .ok (tcp, payload)

/-- The health of packets that all have to be TCP packets. -/
def ofMembers (pair : EndpointPair) (members : List Member) : Except FlowError Health := do
  let state ← members.foldlM (fun (state : State) member => do
    let (tcp, payload) ← headersOf member.packet
    Except.ok (state.stepPacket pair tcp payload)) {}
  .ok state.finish

end Health

end CaptureFlow
