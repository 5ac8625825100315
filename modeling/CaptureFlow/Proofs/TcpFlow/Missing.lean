import CaptureFlow.Decoder
import CaptureFlow.Proofs.Passes
import CaptureFlow.Proofs.TcpFlow.Trail
import CaptureFlow.TcpFlow.Dump

/-!
# Packets that lack a header

The analysis and the dump of some packets need the network and the TCP header of each of them,
and both fail with the first packet that lacks one. Which header that is they tell by the length
of the payload, and this is not known of a packet without ports either. So a packet with a network
header and without a transport header is told to lack the former, where its pair of endpoints is
told to lack the latter.
-/

namespace CaptureFlow

/-! ## Packets with the headers of a segment -/

namespace Packet

/-- Whether a packet has the headers of a segment. -/
def IsSegment (packet : Packet) : Prop :=
  packet.network?.isSome ∧ packet.tcp?.isSome

instance (packet : Packet) : Decidable packet.IsSegment :=
  inferInstanceAs (Decidable (_ ∧ _))

/-- Why a packet that is no segment is refused: without ports its network header counts as
missing, too. -/
def refusal (packet : Packet) : FlowError :=
  if packet.network?.isSome ∧ packet.ports?.isSome then .transportMissing else .networkMissing

/-- The length of the payload is known of a packet with a network header and ports. -/
theorem isSome_payloadLength? (packet : Packet) :
    packet.payloadLength?.isSome ↔ packet.network?.isSome ∧ packet.ports?.isSome := by
  have hheader : ∀ (header : Header) (ipPayload : UInt16),
      (header.payloadLength? ipPayload).isSome = header.ports?.isSome := by
    intro header ipPayload
    cases header <;> rfl
  simp only [payloadLength?, ipPayloadLength?, ports?]
  cases packet.network? with
  | none => simp
  | some network =>
    cases packet.header? .transport with
    | none => simp
    | some header => simp [hheader]

/-- A packet that is no segment has no pair of endpoints, for want of the first of both headers
that is missing. -/
theorem ofPacket_of_not_isSegment {packet : Packet} (h : ¬packet.IsSegment) :
    EndpointPair.ofPacket packet =
      .error (if packet.network?.isSome then .transportMissing else .networkMissing) := by
  unfold IsSegment at h
  unfold EndpointPair.ofPacket
  cases hnetwork : packet.network? with
  | none => rfl
  | some network =>
    cases htcp : packet.tcp? with
    | none => rfl
    | some tcp => simp [hnetwork, htcp] at h

/-- The pair of endpoints of a packet is refused for the same reason, unless the packet has a
network header and no ports. -/
theorem ofPacket_eq_refusal_iff {packet : Packet} (h : ¬packet.IsSegment) :
    EndpointPair.ofPacket packet = .error packet.refusal ↔
      packet.network? = none ∨ packet.ports?.isSome := by
  rw [ofPacket_of_not_isSegment h, refusal]
  cases packet.network? with
  | none => simp
  | some network => cases packet.ports? <;> simp

end Packet

/-- A packet that is no segment is refused where the headers of a segment are looked for. -/
theorem Health.headersOf_of_not_isSegment {packet : Packet} (h : ¬packet.IsSegment) :
    headersOf packet = .error packet.refusal := by
  have hpayload := packet.isSome_payloadLength?
  unfold headersOf Packet.refusal
  cases hlength : packet.payloadLength? with
  | none =>
    rw [hlength] at hpayload
    rw [if_neg (fun hboth => nomatch hpayload.mpr hboth)]
  | some payload =>
    rw [hlength] at hpayload
    have hboth := hpayload.mp rfl
    rw [if_pos hboth]
    cases htcp : packet.tcp? with
    | none => rfl
    | some tcp => exact absurd ⟨hboth.1, by rw [htcp]; rfl⟩ h

/-- The line of a packet is written just if its headers are found. -/
theorem Dump.line_eq (packet : Packet) :
    ∃ text, Dump.line packet = (Health.headersOf packet).map text := by
  unfold Dump.line
  cases Health.headersOf packet with
  | error reason => exact ⟨fun _ => "", rfl⟩
  | ok headers => exact ⟨fun _ => _, rfl⟩

namespace Health

/-! ## Some packets -/

section Packets

variable {front rest members : List Member} {member : Member}

/-- Segments are analysed. -/
theorem exists_ofMembers_eq_ok (pair : EndpointPair)
    (h : ∀ member ∈ members, member.packet.IsSegment) :
    ∃ health, ofMembers pair members = .ok health :=
  ⟨_, ofMembers_eq_ok pair h⟩

/-- The analysis is refused for the first packet that is no segment. -/
theorem ofMembers_eq_error (pair : EndpointPair)
    (hfront : ∀ other ∈ front, other.packet.IsSegment) (hmember : ¬member.packet.IsSegment) :
    ofMembers pair (front ++ member :: rest) = .error member.packet.refusal := by
  rw [ofMembers, @foldlM_eq_error Member FlowError State _ front member member.packet.refusal]
  · rfl
  · intro other hother state
    obtain ⟨hnetwork, htcp⟩ := hfront other hother
    obtain ⟨tcp, payload, hheaders⟩ := exists_headersOf hnetwork htcp
    rw [hheaders]
    exact ⟨_, rfl⟩
  · intro state
    rw [headersOf_of_not_isSegment hmember]
    rfl

end Packets

end Health

namespace Dump

section Packets

variable {front rest members : List Member} {member : Member}

/-- A segment has a line. -/
theorem exists_line_eq_ok {packet : Packet} (h : packet.IsSegment) :
    ∃ text, line packet = .ok text := by
  obtain ⟨tcp, payload, hheaders⟩ := Health.exists_headersOf h.1 h.2
  obtain ⟨text, htext⟩ := line_eq packet
  rw [hheaders] at htext
  exact ⟨_, htext⟩

/-- A packet that is no segment has none. -/
theorem line_eq_error {packet : Packet} (h : ¬packet.IsSegment) :
    line packet = .error packet.refusal := by
  obtain ⟨text, htext⟩ := line_eq packet
  rw [htext, Health.headersOf_of_not_isSegment h]
  rfl

/-- A dump has a line for each packet, or none at all. -/
theorem lines_eq_ok_iff {texts : List String} :
    lines members = .ok texts ↔
      List.Forall₂ (fun member text => line member.packet = .ok text) members texts :=
  mapM_eq_ok_iff

/-- A dump succeeds just if all packets are segments. -/
theorem exists_lines_iff :
    (∃ texts, lines members = .ok texts) ↔ ∀ member ∈ members, member.packet.IsSegment := by
  rw [lines, exists_mapM_eq_ok_iff]
  refine forall₂_congr fun member _ => ⟨?_, exists_line_eq_ok⟩
  rintro ⟨text, htext⟩
  by_contra hnot
  rw [line_eq_error hnot] at htext
  cases htext

/-- The dump is refused for the first packet that is no segment. -/
theorem lines_eq_error (hfront : ∀ other ∈ front, other.packet.IsSegment)
    (hmember : ¬member.packet.IsSegment) :
    lines (front ++ member :: rest) = .error member.packet.refusal :=
  mapM_eq_error_iff.mpr ⟨front, member, rest, rfl,
    fun other hother => exists_line_eq_ok (hfront other hother), line_eq_error hmember⟩

end Packets

end Dump

namespace Health

/-- What the analysis and the dump of some packets tell about a packet that is no segment. -/
structure TellsFirstMissing (pair : EndpointPair) (members : List Member) : Prop where
  /-- The analysis succeeds just if all packets are segments. -/
  analysed_iff : (∃ health, ofMembers pair members = .ok health) ↔
    ∀ member ∈ members, member.packet.IsSegment
  /-- So does the dump. -/
  dumped_iff : (∃ texts, Dump.lines members = .ok texts) ↔
    ∀ member ∈ members, member.packet.IsSegment
  /-- Both tell why the first packet that is none is refused. The pair of that packet is refused
  for the same reason just if the packet has no network header, or has ports. -/
  refused : ∀ front member rest, members = front ++ member :: rest →
    (∀ other ∈ front, other.packet.IsSegment) → ¬member.packet.IsSegment →
      ofMembers pair members = .error member.packet.refusal ∧
        Dump.lines members = .error member.packet.refusal ∧
        (EndpointPair.ofPacket member.packet = .error member.packet.refusal ↔
          member.packet.network? = none ∨ member.packet.ports?.isSome)

/-- The first packet that is no segment decides about any packets. -/
theorem tellsFirstMissing (pair : EndpointPair) (members : List Member) :
    TellsFirstMissing pair members where
  analysed_iff := by
    constructor
    · rintro ⟨health, hhealth⟩
      by_contra hnot
      obtain ⟨front, member, rest, rfl, hfront, hmember⟩ := exists_first_of_not_forall hnot
      rw [ofMembers_eq_error pair hfront hmember] at hhealth
      cases hhealth
    · exact exists_ofMembers_eq_ok pair
  dumped_iff := Dump.exists_lines_iff
  refused := by
    rintro front member rest rfl hfront hmember
    exact ⟨ofMembers_eq_error pair hfront hmember, Dump.lines_eq_error hfront hmember,
      Packet.ofPacket_eq_refusal_iff hmember⟩

/-- An Ethernet frame with an echo request, which has no ports. -/
def echoFrame : Bytes :=
  [0x02, 0, 0, 0, 0, 2, 0x02, 0, 0, 0, 0, 1, 0x08, 0x00] ++
    [0x45, 0, 0, 28, 0, 1, 0, 0, 64, 1, 0, 0, 10, 0, 0, 1, 10, 0, 0, 2] ++
    [8, 0, 0, 0, 0, 0, 0, 0]

/-- The packet of that frame. -/
def echoRequest : Packet :=
  Decoder.decodePartial {} 1 42 42 echoFrame

/-- The network header of an echo request is told to be missing, by the analysis and by the dump,
where its pair is refused for want of a TCP header. -/
theorem echoRequest_misreported :
    echoRequest.network?.isSome = true ∧
      EndpointPair.ofPacket echoRequest = .error .transportMissing ∧
      Dump.lines [⟨0, echoRequest⟩] = .error .networkMissing ∧
      ∀ pair, ofMembers pair [⟨0, echoRequest⟩] = .error .networkMissing ∧
        ¬∃ reason, EndpointPair.ofPacket echoRequest = .error reason ∧
          ofMembers pair [⟨0, echoRequest⟩] = .error reason := by
  have hpair : EndpointPair.ofPacket echoRequest = .error .transportMissing := by
    decide +kernel
  have hnot : ¬echoRequest.IsSegment := by decide +kernel
  have hrefusal : echoRequest.refusal = .networkMissing := by decide +kernel
  have hnone : ∀ other ∈ ([] : List Member), other.packet.IsSegment := nofun
  refine ⟨by decide +kernel, hpair, ?_, fun pair => ?_⟩
  · rw [← hrefusal]
    exact Dump.lines_eq_error hnone hnot
  · have hhealth : ofMembers pair [⟨0, echoRequest⟩] = .error .networkMissing := by
      rw [← hrefusal]
      exact ofMembers_eq_error pair hnone hnot
    refine ⟨hhealth, ?_⟩
    rintro ⟨reason, hreason, hsame⟩
    rw [hpair] at hreason
    rw [hhealth] at hsame
    cases hreason
    cases hsame

end Health

end CaptureFlow
