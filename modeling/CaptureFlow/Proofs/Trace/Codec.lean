import CaptureFlow.Proofs.Address.Ipv6
import CaptureFlow.Proofs.Json.Record
import CaptureFlow.Trace.Codec

/-!
# Everything in a trace reads back

Addresses are told by their texts, headers by the names of their kinds, and all
other parts by the keys of their records. What of a trace has to read back by
assumption is the text of the instant at which it was made.
-/

namespace CaptureFlow

open Json

/-! ## Addresses and instants -/

/-- A type whose text is parsed back reads back. -/
theorem Json.readsBack_textual {α : Type} {name : String} {shown : α → String}
    {parse? : String → Option α} {value : α} (h : parse? (shown value) = some value) :
    (textual name shown parse?).ReadsBack value := by
  apply readsBack_textOf
  simp only [h]

/-- IPv4 addresses read back. -/
theorem Ipv4.Address.readsBack (address : Address) : codec.ReadsBack address :=
  readsBack_textual (parse?_text address)

/-- IPv6 addresses read back. -/
theorem Ipv6.Address.readsBack (address : Address) : codec.ReadsBack address :=
  readsBack_textual (parse?_text address)

/-- An instant reads back when its text is parsed back. -/
theorem Instant.readsBack {instant : Instant} (h : parse instant.text = .ok instant) :
    codec.ReadsBack instant := by
  apply readsBack_textOf
  rw [h]
  rfl

/-! ## Headers -/

/-- Ethernet headers read back. -/
theorem Ethernet.Header.readsBack (header : Header) : codec.ReadsBack header :=
  readsBack_record_iso (by decide)
    ⟨readsBack_octets _, readsBack_octets _, readsBack_uint16 _, trivial⟩ rfl

/-- Cooked headers read back. -/
theorem Cooked.Header.readsBack (header : Header) : codec.ReadsBack header :=
  readsBack_record_iso (by decide)
    ⟨readsBack_uint16 _, readsBack_uint16 _, readsBack_uint16 _, readsBack_octets _,
      readsBack_uint16 _, trivial⟩ rfl

/-- IPv4 headers read back. -/
theorem Ipv4.Header.readsBack (header : Header) : codec.ReadsBack header :=
  readsBack_record_iso (by decide)
    ⟨readsBack_uint8 _, readsBack_uint8 _, Address.readsBack _, Address.readsBack _,
      readsBack_uint8 _, readsBack_uint16 _, readsBack_uint16 _, trivial⟩ rfl

/-- IPv6 headers read back. -/
theorem Ipv6.Header.readsBack (header : Header) : codec.ReadsBack header :=
  readsBack_record_iso (by decide)
    ⟨Address.readsBack _, Address.readsBack _, readsBack_uint8 _, readsBack_uint16 _, trivial⟩ rfl

/-- TCP headers read back. -/
theorem Tcp.Header.readsBack (header : Header) : codec.ReadsBack header :=
  readsBack_record_iso (by decide)
    ⟨readsBack_uint16 _, readsBack_uint16 _, readsBack_uint32 _, readsBack_uint32 _,
      readsBack_uint8 _, readsBack_uint16 _, readsBack_uint16 _, readsBack_uint16 _,
      readsBack_uint16 _, trivial⟩ rfl

/-- UDP headers read back. -/
theorem Udp.Header.readsBack (header : Header) : codec.ReadsBack header :=
  readsBack_record_iso (by decide)
    ⟨readsBack_uint16 _, readsBack_uint16 _, readsBack_uint16 _, readsBack_uint16 _, trivial⟩ rfl

/-- Text or null reads back. -/
theorem Json.readsBack_optionalText (value : Option String) : (optional anyText).ReadsBack value :=
  readsBack_optional fun inner _ => ⟨readsBack_anyText inner, nofun⟩

/-- The heads of HTTP messages read back. -/
theorem Http.Header.readsBack (header : Header) : codec.ReadsBack header := by
  have hlength : (optional uint64).ReadsBack header.contentLength :=
    readsBack_optional fun inner _ => ⟨readsBack_uint64 inner, nofun⟩
  exact readsBack_record_iso (by decide)
    ⟨readsBack_boolean _, readsBack_uint16 _, readsBack_optionalText _, readsBack_anyText _,
      readsBack_uint8 _, readsBack_optionalText _, readsBack_optionalText _,
      readsBack_optionalText _, hlength, trivial⟩ rfl

/-- Headers of all kinds read back by the names of their kinds. -/
theorem Header.readsBack (header : Header) : codec.ReadsBack header := by
  intro rest _
  unfold codec
  cases header with
  | ethernet header =>
    exact readVariant_octetsOf rfl ((Ethernet.Header.readsBack header).reads Header.ethernet) rest
  | cooked header =>
    exact readVariant_octetsOf rfl ((Cooked.Header.readsBack header).reads Header.cooked) rest
  | ipv4 header =>
    exact readVariant_octetsOf rfl ((Ipv4.Header.readsBack header).reads Header.ipv4) rest
  | ipv6 header =>
    exact readVariant_octetsOf rfl ((Ipv6.Header.readsBack header).reads Header.ipv6) rest
  | tcp header =>
    exact readVariant_octetsOf rfl ((Tcp.Header.readsBack header).reads Header.tcp) rest
  | udp header =>
    exact readVariant_octetsOf rfl ((Udp.Header.readsBack header).reads Header.udp) rest
  | http header =>
    exact readVariant_octetsOf rfl ((Http.Header.readsBack header).reads Header.http) rest

/-! ## Traces -/

/-- Packets read back with any headers in any order. -/
theorem Packet.readsBack (packet : Packet) : codec.ReadsBack packet :=
  readsBack_record_iso (by decide)
    ⟨readsBack_int64 _, readsBack_uint32 _, readsBack_uint32 _,
      readsBack_list fun header _ => Header.readsBack header, trivial⟩ rfl

/-- The metadata of captures read back. -/
theorem CaptureMetadata.readsBack (metadata : CaptureMetadata) : codec.ReadsBack metadata :=
  readsBack_record_iso (by decide)
    ⟨readsBack_anyText _, readsBack_anyText _, readsBack_int32 _, readsBack_int32 _,
      readsBack_int32 _, readsBack_list fun filter _ => readsBack_anyText filter, trivial⟩ rfl

/-- The counters of captures read back. -/
theorem CaptureStats.readsBack (stats : CaptureStats) : codec.ReadsBack stats :=
  readsBack_record_iso (by decide)
    ⟨readsBack_uint32 _, readsBack_uint32 _, readsBack_uint32 _, readsBack_uint32 _, trivial⟩ rfl

/-- A trace reads back when the text of its instant is parsed back. -/
theorem Trace.readsBack {trace : Trace}
    (h : Instant.parse trace.createdAt.text = .ok trace.createdAt) :
    codec.ReadsBack trace := by
  have hstats : (optional CaptureStats.codec).ReadsBack trace.stats :=
    readsBack_optional fun inner _ => ⟨CaptureStats.readsBack inner, nofun⟩
  exact readsBack_record_iso (by decide)
    ⟨readsBack_anyText _, readsBack_anyText _, Instant.readsBack h, readsBack_anyText _,
      CaptureMetadata.readsBack _, hstats,
      readsBack_list fun packet _ => Packet.readsBack packet, trivial⟩ rfl

end CaptureFlow
