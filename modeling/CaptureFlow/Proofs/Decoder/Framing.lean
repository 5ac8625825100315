import CaptureFlow.Decoder
import CaptureFlow.Proofs.Header.Layout

/-!
# Decoding undoes framing

A frame is laid out as a framing, an internet header, a transport header and a payload.
Decoding it finds every header behind the one before it, whatever options they have,
and hands exactly the payload to the search for an HTTP message.
-/

namespace CaptureFlow

/-! ## Layers of a frame -/

/-- The framing in front of a datagram. -/
inductive Framing where
  /-- Ethernet framing. -/
  | ethernet (destination source : Octets 6)
  /-- Ethernet framing of a capture on all devices, with the type zero and padding. -/
  | marked (destination source : Octets 6) (padding : Octets 2)
  /-- Cooked framing. -/
  | cooked (packetType deviceType addressLength : UInt16) (room : Octets 8)

namespace Framing

/-- The link type of frames with a framing. -/
def link : Framing → LinkType
  | ethernet _ _ | marked _ _ _ => .ethernet
  | cooked _ _ _ _ => .cooked

/-- Whether the framing leaves out the type of the datagram. -/
def isMarked : Framing → Bool
  | marked _ _ _ => true
  | ethernet _ _ | cooked _ _ _ _ => false

/-- The header of a framing, in front of a datagram of a type. -/
def header (etherType : UInt16) : Framing → Header
  | ethernet destination source => .ethernet ⟨source, destination, etherType⟩
  | marked destination source _ => .ethernet ⟨source, destination, 0⟩
  | cooked packetType deviceType addressLength room =>
    .cooked ⟨packetType, deviceType, addressLength, room, etherType⟩

/-- The octets of a framing, in front of a datagram of a type. -/
def octets (etherType : UInt16) : Framing → Bytes
  | ethernet destination source => Ethernet.Header.toOctets ⟨source, destination, etherType⟩
  | marked destination source padding =>
    Ethernet.Header.toOctets ⟨source, destination, 0⟩ ++ padding.bytes
  | cooked packetType deviceType addressLength room =>
    Cooked.Header.toOctets ⟨packetType, deviceType, addressLength, room, etherType⟩

/-- A framing takes sixteen octets at most. -/
theorem length_octets_le (framing : Framing) (etherType : UInt16) :
    (framing.octets etherType).length ≤ 16 := by
  cases framing with
  | ethernet destination source =>
    rw [octets, Ethernet.Header.length_toOctets]
    decide
  | marked destination source padding =>
    rw [octets, List.length_append, Ethernet.Header.length_toOctets, padding.length_eq]
    decide
  | cooked packetType deviceType addressLength room =>
    rw [octets, Cooked.Header.length_toOctets]
    decide

end Framing

/-- An internet header, but for what its payload tells. -/
inductive NetworkLayout where
  /-- An IPv4 header. -/
  | ipv4 (layout : Ipv4.Layout)
  /-- An IPv6 header. -/
  | ipv6 (layout : Ipv6.Layout)

namespace NetworkLayout

/-- The type by which a framing names the header. -/
def etherType : NetworkLayout → UInt16
  | ipv4 _ => Ethernet.typeIpv4
  | ipv6 _ => Ethernet.typeIpv6

/-- What the length field of the header holds for a payload of a length. -/
def lengthField (payload : Nat) : NetworkLayout → Nat
  | ipv4 layout => 4 * layout.options.words + payload
  | ipv6 _ => payload

/-- The header that is kept, for a payload of a protocol and length. -/
def header (protocol : UInt8) (payload : Nat) : NetworkLayout → Header
  | ipv4 layout => .ipv4 (layout.header protocol payload)
  | ipv6 layout => .ipv6 (layout.header protocol payload)

/-- The octets of the header, for a payload of a protocol and length. -/
def octets (protocol : UInt8) (payload : Nat) : NetworkLayout → Bytes
  | ipv4 layout => layout.octets protocol payload
  | ipv6 layout => layout.octets protocol payload

/-- The header tells the length of its payload. -/
theorem payloadLength_header (network : NetworkLayout) (protocol : UInt8) (payload : Nat) :
    (network.header protocol payload).network?.map Network.payloadLength =
      some (UInt16.ofNat payload) := by
  cases network <;> rfl

/-- A datagram is not much longer than its length field tells. -/
theorem length_octets_le (network : NetworkLayout) (protocol : UInt8) (payload : Nat) :
    (network.octets protocol payload).length + payload ≤ network.lengthField payload + 40 := by
  cases network with
  | ipv4 layout =>
    rw [octets, layout.length_octets, lengthField]
    omega
  | ipv6 layout =>
    rw [octets, layout.length_octets, lengthField, Ipv6.headerLength]
    omega

end NetworkLayout

/-- A transport header. -/
inductive TransportLayout where
  /-- A TCP header. -/
  | tcp (layout : Tcp.Layout)
  /-- A UDP header. -/
  | udp (header : Udp.Header)

namespace TransportLayout

/-- Whether it is a TCP header. -/
def isTcp : TransportLayout → Bool
  | tcp _ => true
  | udp _ => false

/-- The number by which an internet header names the protocol. -/
def protocol : TransportLayout → UInt8
  | tcp _ => Tcp.protocolNumber
  | udp _ => Udp.protocolNumber

/-- The header that is kept. -/
def header : TransportLayout → Header
  | tcp layout => .tcp layout.header
  | udp header => .udp header

/-- The octets of the header. -/
def octets : TransportLayout → Bytes
  | tcp layout => layout.octets
  | udp header => header.toOctets

/-- The length of a TCP payload is what the header leaves of the segment. -/
theorem payloadLength_tcp (layout : Tcp.Layout) {payload : Nat}
    (hfits : layout.octets.length + payload < UInt16.size) :
    layout.header.payloadLength (UInt16.ofNat (layout.octets.length + payload)) =
      UInt16.ofNat payload := by
  have hwords : layout.header.length = layout.octets.length := by
    have hbounds := layout.options.words_bounds
    have hsmall : layout.options.words < UInt8.size := by
      simp only [UInt8.size]
      omega
    rw [Tcp.Header.length, Tcp.Layout.header, UInt8.toNat_ofNat_of_lt' hsmall,
      layout.length_octets]
  rw [Tcp.Header.payloadLength, hwords, UInt16.toNat_ofNat_of_lt' hfits, Nat.add_sub_cancel_left]

/-- The length of a payload is what the transport header leaves of the segment. -/
theorem payloadLength?_header (transport : TransportLayout) {payload : Nat}
    (hfits : transport.octets.length + payload < UInt16.size) :
    transport.header.payloadLength? (UInt16.ofNat (transport.octets.length + payload)) =
      some (UInt16.ofNat payload) := by
  cases transport with
  | tcp layout => exact congrArg some (payloadLength_tcp layout hfits)
  | udp header =>
    rw [TransportLayout.header, Header.payloadLength?, Udp.Header.payloadLength,
      UInt16.toNat_ofNat_of_lt' hfits, octets, header.length_toOctets, Nat.add_sub_cancel_left]

end TransportLayout

/-- A frame as it is sent. -/
structure FrameLayout where
  /-- The framing. -/
  framing : Framing
  /-- The internet header. -/
  network : NetworkLayout
  /-- The transport header. -/
  transport : TransportLayout
  /-- What the transport carries. -/
  payload : Bytes
  /-- Framing without a type stands in front of IPv4 only. -/
  marked : framing.isMarked = true → network.etherType = Ethernet.typeIpv4
  /-- The datagram is no longer than its length field can tell. -/
  fits : network.lengthField (transport.octets.length + payload.length) < UInt16.size

namespace FrameLayout

variable (frame : FrameLayout)

/-- The length of what the internet header carries. -/
def segmentLength : Nat :=
  frame.transport.octets.length + frame.payload.length

/-- The header of the framing. -/
def linkHeader : Header :=
  frame.framing.header frame.network.etherType

/-- The internet header. -/
def networkHeader : Header :=
  frame.network.header frame.transport.protocol frame.segmentLength

/-- The octets of the frame. -/
def octets : Bytes :=
  frame.framing.octets frame.network.etherType ++
    (frame.network.octets frame.transport.protocol frame.segmentLength ++
      (frame.transport.octets ++ frame.payload))

/-- The length of the frame. -/
def length : UInt32 :=
  UInt32.ofNat frame.octets.length

/-- The segment is no longer than a length field can tell. -/
theorem segmentLength_lt : frame.segmentLength < UInt16.size := by
  have hfits := frame.fits
  have hle : frame.segmentLength ≤ frame.network.lengthField frame.segmentLength := by
    cases frame.network with
    | ipv4 layout => exact Nat.le_add_left _ _
    | ipv6 layout => exact Nat.le_refl _
  exact Nat.lt_of_le_of_lt hle hfits

/-- The length of a frame is told exactly. -/
theorem toNat_length : frame.length.toNat = frame.octets.length := by
  have hframing := frame.framing.length_octets_le frame.network.etherType
  have hnetwork := frame.network.length_octets_le frame.transport.protocol frame.segmentLength
  have hfits : frame.network.lengthField frame.segmentLength < UInt16.size := frame.fits
  apply UInt32.toNat_ofNat_of_lt'
  simp only [octets, List.length_append, segmentLength, UInt16.size, UInt32.size] at *
  omega

end FrameLayout

/-! ## Layer by layer -/

namespace Decoder

variable (decoder : Decoder)

/-- The header of a framing is found, and the datagram behind it. -/
theorem headers_framing {framing : Framing} (hlink : decoder.link = framing.link)
    {etherType : UInt16} (hmarked : framing.isMarked = true → etherType = Ethernet.typeIpv4)
    (htype : etherType ≠ 0) (rest : Bytes) :
    decoder.headers (framing.octets etherType ++ rest) =
      framing.header etherType :: decoder.networkHeaders etherType rest := by
  unfold headers
  cases framing with
  | ethernet destination source =>
    have hplain : Ethernet.Header.isCooked ⟨source, destination, etherType⟩ = false :=
      beq_eq_false_iff_ne.mpr htype
    simp only [hlink, Framing.link, Framing.octets, Framing.header,
      Ethernet.Header.parse_toOctets, hplain, Bool.false_eq_true, if_false]
  | marked destination source padding =>
    have hpadding : (padding.bytes ++ rest).drop Ethernet.cookedPadding = rest :=
      List.drop_left' padding.length_eq
    have hcooked : Ethernet.Header.isCooked ⟨source, destination, 0⟩ = true := rfl
    simp only [hlink, Framing.link, Framing.octets, Framing.header, List.append_assoc,
      Ethernet.Header.parse_toOctets, hcooked, if_true, hpadding, hmarked rfl]
  | cooked packetType deviceType addressLength room =>
    simp only [hlink, Framing.link, Framing.octets, Framing.header,
      Cooked.Header.parse_toOctets]

/-- An internet header is found, and the segment behind it. -/
theorem networkHeaders_octets (network : NetworkLayout) (protocol : UInt8) {payload : Nat}
    (hfits : network.lengthField payload < UInt16.size) (rest : Bytes) :
    decoder.networkHeaders network.etherType (network.octets protocol payload ++ rest) =
      network.header protocol payload ::
        decoder.transportHeaders protocol (UInt16.ofNat payload) rest := by
  unfold networkHeaders
  cases network with
  | ipv4 layout =>
    simp only [NetworkLayout.etherType, NetworkLayout.octets, NetworkLayout.header,
      layout.parse_octets protocol hfits, if_true]
    rfl
  | ipv6 layout =>
    have htype : Ethernet.typeIpv6 ≠ Ethernet.typeIpv4 := by decide
    simp only [NetworkLayout.etherType, NetworkLayout.octets, NetworkLayout.header,
      layout.parse_octets, if_neg htype, if_true]
    rfl

/-- A transport header is found, and the payload behind it. -/
theorem transportHeaders_octets (transport : TransportLayout) {payload : Nat}
    (hfits : transport.octets.length + payload < UInt16.size) (rest : Bytes) :
    decoder.transportHeaders transport.protocol
        (UInt16.ofNat (transport.octets.length + payload)) (transport.octets ++ rest) =
      transport.header :: (if transport.isTcp then
        decoder.applicationHeaders (UInt16.ofNat payload) rest else []) := by
  unfold transportHeaders
  cases transport with
  | tcp layout =>
    have hpayload := TransportLayout.payloadLength_tcp layout hfits
    simp only [TransportLayout.protocol, TransportLayout.octets, TransportLayout.header,
      TransportLayout.isTcp, layout.parse_octets, hpayload, if_true]
  | udp header =>
    have hprotocol : Udp.protocolNumber ≠ Tcp.protocolNumber := by decide
    simp only [TransportLayout.protocol, TransportLayout.octets, TransportLayout.header,
      TransportLayout.isTcp, header.parse_toOctets, if_neg hprotocol, if_true,
      Bool.false_eq_true, if_false]

/-- A payload is taken for a message if it is long enough and starts like one. -/
theorem applicationHeaders_payload {payload : Bytes} (hfits : payload.length < UInt16.size)
    (rest : Bytes) :
    decoder.applicationHeaders (UInt16.ofNat payload.length) (payload ++ rest) =
      (if decoder.sniffHttp ∧ decoder.httpThreshold < payload.length then
        Http.sniff payload else none).toList.map Header.http := by
  simp only [applicationHeaders, UInt16.toNat_ofNat_of_lt' hfits, List.take_left,
    Bool.and_eq_true, decide_eq_true_eq]
  split
  · cases Http.sniff payload <;> rfl
  · rfl

/-- The message that a decoder finds in a frame. -/
def message? (frame : FrameLayout) : Option Http.Header :=
  if frame.transport.isTcp ∧ decoder.sniffHttp ∧ decoder.httpThreshold < frame.payload.length then
    Http.sniff frame.payload
  else none

/-- The headers of a frame are found, whatever stands behind its payload. -/
theorem headers_octets (frame : FrameLayout) (hlink : decoder.link = frame.framing.link)
    (trailer : Bytes) :
    decoder.headers (frame.octets ++ trailer) =
      [frame.linkHeader, frame.networkHeader, frame.transport.header] ++
        (decoder.message? frame).toList.map Header.http := by
  have htype : frame.network.etherType ≠ 0 := by
    cases frame.network with
    | ipv4 layout => exact (by decide : Ethernet.typeIpv4 ≠ 0)
    | ipv6 layout => exact (by decide : Ethernet.typeIpv6 ≠ 0)
  have hfits : frame.network.lengthField frame.segmentLength < UInt16.size := frame.fits
  have hsegment := frame.segmentLength_lt
  have hpayload : frame.payload.length < UInt16.size :=
    Nat.lt_of_le_of_lt (Nat.le_add_left _ _) hsegment
  have hoctets : frame.octets ++ trailer = frame.framing.octets frame.network.etherType ++
      (frame.network.octets frame.transport.protocol frame.segmentLength ++
        (frame.transport.octets ++ (frame.payload ++ trailer))) := by
    simp only [FrameLayout.octets, List.append_assoc]
  rw [hoctets, decoder.headers_framing hlink frame.marked htype,
    decoder.networkHeaders_octets frame.network _ hfits, FrameLayout.segmentLength,
    decoder.transportHeaders_octets frame.transport hsegment,
    decoder.applicationHeaders_payload hpayload, message?]
  cases frame.transport.isTcp with
  | true => simp only [true_and, if_true]; rfl
  | false => simp only [Bool.false_eq_true, false_and, if_false]; rfl

end Decoder

namespace FrameLayout

/-- The payload behind the headers of a frame has the length that it was laid out with. -/
theorem payloadLength?_headers (frame : FrameLayout) (timestamp : Timestamp)
    (captured wire : UInt32) (behind : List Header) :
    Packet.payloadLength? ⟨timestamp, captured, wire,
        [frame.linkHeader, frame.networkHeader, frame.transport.header] ++ behind⟩ =
      some (UInt16.ofNat frame.payload.length) := by
  have hnetwork : Packet.ipPayloadLength? ⟨timestamp, captured, wire,
      [frame.linkHeader, frame.networkHeader, frame.transport.header] ++ behind⟩ =
        some (UInt16.ofNat frame.segmentLength) :=
    frame.network.payloadLength_header frame.transport.protocol frame.segmentLength
  rw [Packet.payloadLength?, hnetwork]
  exact frame.transport.payloadLength?_header frame.segmentLength_lt

/-- A frame that was captured whole is decoded to the headers that it was laid out with,
and its payload has the length that it was laid out with. A fourth header is the message
that a TCP payload of more than fourteen octets starts with. -/
theorem decode_octets (frame : FrameLayout) (timestamp : Timestamp) :
    ∃ (packet : Packet) (message : Option Http.Header),
      ({ link := frame.framing.link } : Decoder).decode timestamp frame.length frame.length
          frame.octets = .ok packet ∧
      packet = ⟨timestamp, frame.length, frame.length,
        [frame.linkHeader, frame.networkHeader, frame.transport.header] ++
          message.toList.map Header.http⟩ ∧
      packet.payloadLength?.map UInt16.toNat = some frame.payload.length ∧
      ∀ header, message = some header ↔ frame.transport.isTcp = true ∧
        14 < frame.payload.length ∧ Http.sniff frame.payload = some header := by
  have hwhole : frame.octets.take frame.length.toNat = frame.octets := by
    rw [frame.toNat_length, List.take_length]
  have hpayload : frame.payload.length < UInt16.size :=
    Nat.lt_of_le_of_lt (Nat.le_add_left _ _) frame.segmentLength_lt
  have hheaders := Decoder.headers_octets { link := frame.framing.link } frame rfl []
  rw [List.append_nil] at hheaders
  refine ⟨_, Decoder.message? { link := frame.framing.link } frame, ?_, rfl, ?_, ?_⟩
  · rw [Decoder.decode, if_neg (UInt32.lt_irrefl _), Decoder.decodePartial, hwhole, hheaders]
  · rw [frame.payloadLength?_headers, Option.map_some, UInt16.toNat_ofNat_of_lt' hpayload]
  · intro header
    rw [Decoder.message?]
    split
    · rename_i h
      exact ⟨fun hsniff => ⟨h.1, h.2.2, hsniff⟩, fun hsniff => hsniff.2.2⟩
    · rename_i h
      constructor
      · intro hnone
        cases hnone
      · rintro ⟨htcp, hlong, -⟩
        exact absurd ⟨htcp, rfl, hlong⟩ h

end FrameLayout

end CaptureFlow
