import CaptureFlow.Header
import CaptureFlow.Proofs.Bytes

/-!
# Layouts of headers

A layout holds every field of a header as it is sent, those included that no reader
keeps. It can only hold what the format allows: options fill whole words and are no
longer than the length field can tell. Parsing the octets of a layout in front of a
rest gives the header with its fields, and the rest.
-/

namespace CaptureFlow

/-! ## Fields in network order -/

/-- A 16-bit number in network order. -/
def wordOctets (n : Nat) : Bytes :=
  ByteOrder.big.octets 2 n

/-- A 32-bit number in network order. -/
def longOctets (n : Nat) : Bytes :=
  ByteOrder.big.octets 4 n

/-- A 16-bit number is read from its octets. -/
theorem word_wordOctets (n : Nat) :
    UInt16.ofNat (ByteOrder.big.number (wordOctets n)) = UInt16.ofNat n :=
  wordAt_octets .big [] [] n

/-- A 16-bit field is read from its octets. -/
theorem word_field (value : UInt16) :
    UInt16.ofNat (ByteOrder.big.number (wordOctets value.toNat)) = value :=
  (word_wordOctets value.toNat).trans UInt16.ofNat_toNat

/-- A 32-bit field is read from its octets. -/
theorem long_field (value : UInt32) :
    UInt32.ofNat (ByteOrder.big.number (longOctets value.toNat)) = value :=
  (longAt_octets .big [] [] value.toNat).trans UInt32.ofNat_toNat

/-- A 16-bit field is read behind what stands in front of it. -/
theorem wordAt_field {offset : Nat} {front : Bytes} (h : front.length = offset)
    (value : UInt16) (behind : Bytes) :
    wordAt .big (front ++ (wordOctets value.toNat ++ behind)) offset = value := by
  subst h
  exact (wordAt_octets .big front behind value.toNat).trans UInt16.ofNat_toNat

/-- A string of octets is read behind what stands in front of it. -/
theorem Octets.readAt_append {n offset : Nat} {front : Bytes} (h : front.length = offset)
    (octets : Octets n) (behind : Bytes) :
    readAt n (front ++ (octets.bytes ++ behind)) offset = octets := by
  subst h
  apply Octets.ext
  apply List.ext_getElem
  · rw [(readAt n _ _).length_eq, octets.length_eq]
  · intro i _ hi
    have hread : octetAt (front ++ (octets.bytes ++ behind)) (front.length + i) =
        octets.bytes[i] := by
      rw [octetAt, List.getD_eq_getElem?_getD,
        List.getElem?_append_right (Nat.le_add_right _ _), Nat.add_sub_cancel_left,
        List.getElem?_append_left hi, List.getElem?_eq_getElem hi, Option.getD_some]
    simp only [readAt, List.getElem_map, List.getElem_range, hread]

/-- Options that fill whole words, forty octets at most. -/
structure HeaderOptions where
  /-- The octets of the options. -/
  bytes : Bytes
  /-- They fill whole words. -/
  aligned : 4 ∣ bytes.length
  /-- The header is no longer than its length field can tell. -/
  length_le : bytes.length ≤ 40

namespace HeaderOptions

/-- The length in words of a header with these options. -/
def words (options : HeaderOptions) : Nat :=
  5 + options.bytes.length / 4

/-- The words of a header hold its fixed part and its options. -/
theorem four_mul_words (options : HeaderOptions) :
    4 * options.words = 20 + options.bytes.length := by
  have haligned := options.aligned
  unfold words
  omega

/-- A header is longer than its fixed part by its options, and its length fits its field. -/
theorem words_bounds (options : HeaderOptions) : 5 ≤ options.words ∧ options.words < 16 := by
  have hlength := options.length_le
  unfold words
  omega

end HeaderOptions

/-! ## Framing -/

namespace Ethernet.Header

/-- The octets of an Ethernet header. -/
def toOctets (header : Header) : Bytes :=
  header.destination.bytes ++ (header.source.bytes ++ wordOctets header.etherType.toNat)

/-- An Ethernet header has a fixed length. -/
theorem length_toOctets (header : Header) : header.toOctets.length = headerLength := by
  rw [toOctets, List.length_append, List.length_append, header.destination.length_eq,
    header.source.length_eq]
  rfl

/-- An Ethernet header is split off what is behind it. -/
theorem parse_toOctets (header : Header) (rest : Bytes) :
    parse (header.toOctets ++ rest) = .ok (header, rest) := by
  have hoctets : header.toOctets ++ rest = header.destination.bytes ++
      (header.source.bytes ++ (wordOctets header.etherType.toNat ++ rest)) := by
    rw [toOctets, List.append_assoc, List.append_assoc]
  have hfront : (header.destination.bytes ++ header.source.bytes).length = 12 := by
    rw [List.length_append, header.destination.length_eq, header.source.length_eq]
  have hdestination : .readAt 6 (header.toOctets ++ rest) 0 = header.destination := by
    rw [hoctets]
    exact Octets.readAt_append List.length_nil header.destination _
  have hsource : .readAt 6 (header.toOctets ++ rest) 6 = header.source := by
    rw [hoctets]
    exact Octets.readAt_append header.destination.length_eq header.source _
  have htype : wordAt .big (header.toOctets ++ rest) 12 = header.etherType := by
    rw [hoctets, ← List.append_assoc]
    exact wordAt_field hfront header.etherType rest
  have hlong : ¬(header.toOctets ++ rest).length < headerLength := by
    rw [List.length_append, length_toOctets]
    omega
  rw [parse, if_neg hlong, hdestination, hsource, htype, ← header.length_toOctets,
    List.drop_left]

end Ethernet.Header

namespace Cooked.Header

/-- The octets in front of the room for the address. -/
def front (header : Header) : Bytes :=
  wordOctets header.packetType.toNat ++ (wordOctets header.deviceType.toNat ++
    wordOctets header.addressLength.toNat)

/-- The octets of a cooked header. -/
def toOctets (header : Header) : Bytes :=
  header.front ++ (header.room.bytes ++ wordOctets header.protocol.toNat)

/-- A cooked header has a fixed length. -/
theorem length_toOctets (header : Header) : header.toOctets.length = headerLength := by
  rw [toOctets, List.length_append, List.length_append, header.room.length_eq]
  rfl

/-- A cooked header is split off what is behind it. -/
theorem parse_toOctets (header : Header) (rest : Bytes) :
    parse (header.toOctets ++ rest) = .ok (header, rest) := by
  have hoctets : header.toOctets ++ rest = header.front ++
      (header.room.bytes ++ (wordOctets header.protocol.toNat ++ rest)) := by
    rw [toOctets, List.append_assoc, List.append_assoc]
  have hfront : (header.front ++ header.room.bytes).length = 14 := by
    rw [List.length_append, header.room.length_eq]
    rfl
  have hpacketType : wordAt .big (header.toOctets ++ rest) 0 = header.packetType := word_field _
  have hdeviceType : wordAt .big (header.toOctets ++ rest) 2 = header.deviceType := word_field _
  have haddressLength : wordAt .big (header.toOctets ++ rest) 4 = header.addressLength :=
    word_field _
  have hroom : .readAt 8 (header.toOctets ++ rest) 6 = header.room := by
    rw [hoctets]
    exact Octets.readAt_append rfl header.room _
  have hprotocol : wordAt .big (header.toOctets ++ rest) 14 = header.protocol := by
    rw [hoctets, ← List.append_assoc]
    exact wordAt_field hfront header.protocol rest
  have hlong : ¬(header.toOctets ++ rest).length < headerLength := by
    rw [List.length_append, length_toOctets]
    omega
  rw [parse, if_neg hlong, hpacketType, hdeviceType, haddressLength, hroom, hprotocol,
    ← header.length_toOctets, List.drop_left]

end Cooked.Header

/-! ## Datagrams -/

namespace Ipv4

/-- An IPv4 header as it is sent, but for what its payload tells. -/
structure Layout where
  /-- The kind of service asked for. -/
  service : UInt8
  /-- The number of the datagram. -/
  identification : UInt16
  /-- The flags and the offset of a fragment. -/
  fragment : UInt16
  /-- The hops left. -/
  hops : UInt8
  /-- The checksum. -/
  checksum : UInt16
  /-- The address of the sender. -/
  source : Address
  /-- The address of the receiver. -/
  destination : Address
  /-- The options. -/
  options : HeaderOptions

namespace Layout

/-- The octets in front of the options, for a payload of a protocol and length. -/
def fixed (layout : Layout) (protocol : UInt8) (payload : Nat) : Bytes :=
  [UInt8.ofNat (4 * 16 + layout.options.words), layout.service] ++
    (wordOctets (4 * layout.options.words + payload) ++
      (wordOctets layout.identification.toNat ++ (wordOctets layout.fragment.toNat ++
        ([layout.hops, protocol] ++ (wordOctets layout.checksum.toNat ++
          (layout.source.octets ++ layout.destination.octets))))))

/-- The octets of the header, for a payload of a protocol and length. -/
def octets (layout : Layout) (protocol : UInt8) (payload : Nat) : Bytes :=
  layout.fixed protocol payload ++ layout.options.bytes

/-- What is kept of the header. -/
def header (layout : Layout) (protocol : UInt8) (payload : Nat) : Header where
  version := 4
  words := UInt8.ofNat layout.options.words
  source := layout.source
  destination := layout.destination
  protocol := protocol
  totalLength := UInt16.ofNat (4 * layout.options.words + payload)
  payloadLength := UInt16.ofNat payload

/-- A header takes its words. -/
theorem length_octets (layout : Layout) (protocol : UInt8) (payload : Nat) :
    (layout.octets protocol payload).length = 4 * layout.options.words := by
  rw [octets, List.length_append, layout.options.four_mul_words]
  rfl

/-- An IPv4 header is split off what is behind it. -/
theorem parse_octets (layout : Layout) (protocol : UInt8) {payload : Nat}
    (hfits : 4 * layout.options.words + payload < UInt16.size) (rest : Bytes) :
    parse (layout.octets protocol payload ++ rest) = .ok (layout.header protocol payload, rest) := by
  have hbounds := layout.options.words_bounds
  have hfirst : (octetAt (layout.octets protocol payload ++ rest) 0).toNat =
      4 * 16 + layout.options.words :=
    UInt8.toNat_ofNat_of_lt' (by simp only [UInt8.size]; omega)
  have hversion : (4 * 16 + layout.options.words) / 16 = 4 := by omega
  have hwords : (4 * 16 + layout.options.words) % 16 = layout.options.words := by omega
  have hlength : (layout.octets protocol payload ++ rest).length =
      4 * layout.options.words + rest.length := by
    rw [List.length_append, length_octets]
  have hrest : (layout.octets protocol payload ++ rest).drop (4 * layout.options.words) = rest := by
    rw [← layout.length_octets protocol payload, List.drop_left]
  have htotal : wordAt .big (layout.octets protocol payload ++ rest) 2 =
      UInt16.ofNat (4 * layout.options.words + payload) := word_wordOctets _
  have hprotocol : octetAt (layout.octets protocol payload ++ rest) 9 = protocol := rfl
  have hsource : Address.readAt (layout.octets protocol payload ++ rest) 12 = layout.source := rfl
  have hdestination :
      Address.readAt (layout.octets protocol payload ++ rest) 16 = layout.destination := rfl
  unfold parse
  simp only [hfirst, hversion, hwords, htotal, hprotocol, hsource, hdestination, hrest,
    UInt16.toNat_ofNat_of_lt' hfits, Nat.add_sub_cancel_left]
  rw [if_neg (by rw [hlength, minHeaderLength]; omega), if_neg (by decide),
    if_neg (by omega), if_neg (by rw [hlength]; omega)]
  rfl

end Layout

end Ipv4

namespace Ipv6

/-- A group is read behind the groups in front of it. -/
theorem wordAt_groups {groups : List UInt16} {i : Nat} (hi : i < groups.length) (front : Bytes)
    (behind : Bytes) :
    wordAt .big (front ++ (groups.flatMap (fun g => wordOctets g.toNat) ++ behind))
      (front.length + 2 * i) = groups[i] := by
  induction groups generalizing i front with
  | nil => exact absurd hi (Nat.not_lt_zero i)
  | cons group groups ih =>
    rw [List.flatMap_cons, List.append_assoc]
    cases i with
    | zero => exact wordAt_field rfl group _
    | succ i =>
      have hlength : (front ++ wordOctets group.toNat).length = front.length + 2 :=
        List.length_append
      have hoffset : front.length + 2 + 2 * i = front.length + 2 * (i + 1) := by omega
      have hrest := ih (Nat.lt_of_succ_lt_succ hi) (front ++ wordOctets group.toNat)
      rw [hlength, List.append_assoc, hoffset] at hrest
      exact hrest

/-- An address takes sixteen octets. -/
theorem Address.length_octets (address : Address) : address.octets.length = 16 := by
  have hgroup : ∀ g : UInt16, (ByteOrder.big.octets 2 g.toNat).length = 2 := fun g => rfl
  simp only [octets, List.length_flatMap, hgroup, List.map_const', address.length_eq]
  rfl

/-- An address is read behind what stands in front of it. -/
theorem Address.readAt_append {offset : Nat} {front : Bytes} (h : front.length = offset)
    (address : Address) (behind : Bytes) :
    readAt (front ++ (address.octets ++ behind)) offset = address := by
  obtain ⟨groups, hgroups⟩ := address
  subst h
  simp only [readAt, octets, Address.mk.injEq]
  apply List.ext_getElem
  · rw [List.length_map, List.length_range, hgroups]
  · intro i _ hi
    rw [List.getElem_map, List.getElem_range]
    exact wordAt_groups hi front behind

/-- An IPv6 header as it is sent, but for what its payload tells. -/
structure Layout where
  /-- The class of traffic and the number of the flow. -/
  flow : Fin 268435456
  /-- The hops left. -/
  hops : UInt8
  /-- The address of the sender. -/
  source : Address
  /-- The address of the receiver. -/
  destination : Address

namespace Layout

/-- The octets in front of the addresses, for a payload of a protocol and length. -/
def fixed (layout : Layout) (protocol : UInt8) (payload : Nat) : Bytes :=
  longOctets (6 * 268435456 + layout.flow) ++ (wordOctets payload ++ [protocol, layout.hops])

/-- The octets of the header, for a payload of a protocol and length. -/
def octets (layout : Layout) (protocol : UInt8) (payload : Nat) : Bytes :=
  layout.fixed protocol payload ++ (layout.source.octets ++ layout.destination.octets)

/-- What is kept of the header. -/
def header (layout : Layout) (protocol : UInt8) (payload : Nat) : Header where
  source := layout.source
  destination := layout.destination
  nextHeader := protocol
  payloadLength := UInt16.ofNat payload

/-- A header has a fixed length. -/
theorem length_octets (layout : Layout) (protocol : UInt8) (payload : Nat) :
    (layout.octets protocol payload).length = headerLength := by
  rw [octets, List.length_append, List.length_append, layout.source.length_octets,
    layout.destination.length_octets]
  rfl

/-- An IPv6 header is split off what is behind it. -/
theorem parse_octets (layout : Layout) (protocol : UInt8) (payload : Nat) (rest : Bytes) :
    parse (layout.octets protocol payload ++ rest) = .ok (layout.header protocol payload, rest) := by
  have hflow := layout.flow.isLt
  have hoctets : layout.octets protocol payload ++ rest = layout.fixed protocol payload ++
      (layout.source.octets ++ (layout.destination.octets ++ rest)) := by
    rw [octets, List.append_assoc, List.append_assoc]
  have hfirst : octetAt (layout.octets protocol payload ++ rest) 0 =
      UInt8.ofNat ((6 * 268435456 + layout.flow) / 256 / 256 / 256 % 256) := rfl
  have hversion : (octetAt (layout.octets protocol payload ++ rest) 0).toNat / 16 = 6 := by
    have hsmall : (6 * 268435456 + layout.flow.val) / 256 / 256 / 256 < UInt8.size := by
      simp only [UInt8.size]
      omega
    rw [hfirst, Nat.mod_eq_of_lt hsmall, UInt8.toNat_ofNat_of_lt' hsmall]
    omega
  have hprotocol : octetAt (layout.octets protocol payload ++ rest) 6 = protocol := rfl
  have hpayload : wordAt .big (layout.octets protocol payload ++ rest) 4 =
      UInt16.ofNat payload := word_wordOctets _
  have hsource : Address.readAt (layout.octets protocol payload ++ rest) 8 = layout.source := by
    rw [hoctets]
    exact Address.readAt_append rfl layout.source _
  have hdestination :
      Address.readAt (layout.octets protocol payload ++ rest) 24 = layout.destination := by
    have hfront : (layout.fixed protocol payload ++ layout.source.octets).length = 24 := by
      rw [List.length_append, layout.source.length_octets]
      rfl
    rw [hoctets, ← List.append_assoc]
    exact Address.readAt_append hfront layout.destination rest
  have hlong : ¬(layout.octets protocol payload ++ rest).length < headerLength := by
    rw [List.length_append, length_octets]
    omega
  unfold parse
  simp only [hversion, hsource, hdestination, hprotocol, hpayload]
  rw [if_neg hlong, if_neg (by decide), ← layout.length_octets protocol payload, List.drop_left]
  rfl

end Layout

end Ipv6

/-! ## Segments -/

namespace Tcp

/-- A TCP header as it is sent. -/
structure Layout where
  /-- The port of the sender. -/
  sourcePort : UInt16
  /-- The port of the receiver. -/
  destinationPort : UInt16
  /-- The number of the first octet carried. -/
  seq : UInt32
  /-- The number of the next octet expected. -/
  ack : UInt32
  /-- Three bits without a meaning. -/
  reserved : Fin 8
  /-- The nine flags. -/
  flags : Fin 512
  /-- The octets that may be sent. -/
  window : UInt16
  /-- The checksum. -/
  checksum : UInt16
  /-- The offset of the last urgent octet. -/
  urgent : UInt16
  /-- The options. -/
  options : HeaderOptions

namespace Layout

/-- The word that tells the length of the header and its flags. -/
def control (layout : Layout) : Nat :=
  layout.options.words * 4096 + layout.reserved * 512 + layout.flags

/-- The octets in front of the options. -/
def fixed (layout : Layout) : Bytes :=
  wordOctets layout.sourcePort.toNat ++ (wordOctets layout.destinationPort.toNat ++
    (longOctets layout.seq.toNat ++ (longOctets layout.ack.toNat ++
      (wordOctets layout.control ++ (wordOctets layout.window.toNat ++
        (wordOctets layout.checksum.toNat ++ wordOctets layout.urgent.toNat))))))

/-- The octets of the header. -/
def octets (layout : Layout) : Bytes :=
  layout.fixed ++ layout.options.bytes

/-- What is kept of the header. -/
def header (layout : Layout) : Header where
  sourcePort := layout.sourcePort
  destinationPort := layout.destinationPort
  seq := layout.seq
  ack := layout.ack
  words := UInt8.ofNat layout.options.words
  flags := UInt16.ofNat layout.flags
  window := layout.window
  checksum := layout.checksum
  urgent := layout.urgent

/-- A header takes its words. -/
theorem length_octets (layout : Layout) : layout.octets.length = 4 * layout.options.words := by
  rw [octets, List.length_append, layout.options.four_mul_words]
  rfl

/-- The length of the header is told by the highest bits of its word. -/
theorem octetAt_control (layout : Layout) (rest : Bytes) :
    (octetAt (layout.octets ++ rest) 12).toNat / 16 = layout.options.words := by
  have hoctet : octetAt (layout.octets ++ rest) 12 =
      UInt8.ofNat (layout.control / 256 % 256) := rfl
  have hbounds := layout.options.words_bounds
  have hreserved := layout.reserved.isLt
  have hflags := layout.flags.isLt
  have hsmall : layout.control / 256 < UInt8.size := by
    simp only [control, UInt8.size]
    omega
  rw [hoctet, Nat.mod_eq_of_lt hsmall, UInt8.toNat_ofNat_of_lt' hsmall, control]
  omega

/-- The flags are told by the lowest nine bits of the word. -/
theorem control_and_flagMask (layout : Layout) :
    UInt16.ofNat layout.control &&& flagMask = UInt16.ofNat layout.flags := by
  have hflags := layout.flags.isLt
  have hbounds := layout.options.words_bounds
  have hreserved := layout.reserved.isLt
  have hmask : flagMask.toNat = 2 ^ 9 - 1 := rfl
  apply UInt16.toNat_inj.mp
  have hcontrol : layout.control < UInt16.size := by
    simp only [control, UInt16.size]
    omega
  rw [UInt16.toNat_and, hmask, Nat.and_two_pow_sub_one_eq_mod,
    UInt16.toNat_ofNat_of_lt' hcontrol, UInt16.toNat_ofNat_of_lt' (by simp only [UInt16.size]; omega)]
  simp only [control]
  omega

/-- A TCP header is split off what is behind it. -/
theorem parse_octets (layout : Layout) (rest : Bytes) :
    parse (layout.octets ++ rest) = .ok (layout.header, rest) := by
  have hbounds := layout.options.words_bounds
  have hwords := layout.octetAt_control rest
  have hlength : (layout.octets ++ rest).length = 4 * layout.options.words + rest.length := by
    rw [List.length_append, length_octets]
  have hrest : (layout.octets ++ rest).drop (4 * layout.options.words) = rest := by
    rw [← layout.length_octets, List.drop_left]
  have hsourcePort : wordAt .big (layout.octets ++ rest) 0 = layout.sourcePort := word_field _
  have hdestinationPort : wordAt .big (layout.octets ++ rest) 2 = layout.destinationPort :=
    word_field _
  have hseq : longAt .big (layout.octets ++ rest) 4 = layout.seq := long_field _
  have hack : longAt .big (layout.octets ++ rest) 8 = layout.ack := long_field _
  have hcontrol : wordAt .big (layout.octets ++ rest) 12 = UInt16.ofNat layout.control :=
    word_wordOctets _
  have hwindow : wordAt .big (layout.octets ++ rest) 14 = layout.window := word_field _
  have hchecksum : wordAt .big (layout.octets ++ rest) 16 = layout.checksum := word_field _
  have hurgent : wordAt .big (layout.octets ++ rest) 18 = layout.urgent := word_field _
  unfold parse
  simp only [hwords, hsourcePort, hdestinationPort, hseq, hack, hcontrol, hwindow, hchecksum,
    hurgent, control_and_flagMask, hrest]
  rw [if_neg (by rw [hlength, minHeaderLength]; omega), if_neg (by omega),
    if_neg (by rw [hlength]; omega)]
  rfl

/-- A segment that opens a connection, with options of one word. -/
example : octets ⟨51000, 80, 1, 0, 0, 2, 512, 0, 0, ⟨[2, 4, 5, 180], ⟨1, rfl⟩, by decide⟩⟩ =
    [199, 56, 0, 80, 0, 0, 0, 1, 0, 0, 0, 0, 96, 2, 2, 0, 0, 0, 0, 0, 2, 4, 5, 180] := by
  decide

end Layout

end Tcp

namespace Udp.Header

/-- The octets of a UDP header. -/
def toOctets (header : Header) : Bytes :=
  wordOctets header.sourcePort.toNat ++ (wordOctets header.destinationPort.toNat ++
    (wordOctets header.length.toNat ++ wordOctets header.checksum.toNat))

/-- A UDP header has a fixed length. -/
theorem length_toOctets (header : Header) : header.toOctets.length = headerLength :=
  rfl

/-- A UDP header is split off what is behind it. -/
theorem parse_toOctets (header : Header) (rest : Bytes) :
    parse (header.toOctets ++ rest) = .ok (header, rest) := by
  have hsourcePort : wordAt .big (header.toOctets ++ rest) 0 = header.sourcePort := word_field _
  have hdestinationPort : wordAt .big (header.toOctets ++ rest) 2 = header.destinationPort :=
    word_field _
  have hlength : wordAt .big (header.toOctets ++ rest) 4 = header.length := word_field _
  have hchecksum : wordAt .big (header.toOctets ++ rest) 6 = header.checksum := word_field _
  have hlong : ¬(header.toOctets ++ rest).length < headerLength := by
    rw [List.length_append, length_toOctets]
    omega
  rw [parse, if_neg hlong, hsourcePort, hdestinationPort, hlength, hchecksum,
    ← header.length_toOctets, List.drop_left]

end Udp.Header

end CaptureFlow
