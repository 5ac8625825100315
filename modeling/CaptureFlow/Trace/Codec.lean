import CaptureFlow.Json.Codec
import CaptureFlow.Trace

/-!
# Archive form of traces

The codecs of everything that a trace holds. A header stands in an object whose
only key names its kind; addresses of hosts are texts, and those of devices are
arrays of numbers.
-/

namespace CaptureFlow

open Json

/-- The codec of a type with a text of its own. -/
def Json.textual {α : Type} (name : String) (shown : α → String) (parse? : String → Option α) :
    Codec α :=
  textOf s!"{name} address" shown fun text =>
    match parse? text with
    | some value => .ok value
    | none => .error s!"invalid {name} address syntax"

/-- The codec of IPv4 addresses. -/
def Ipv4.Address.codec : Codec Ipv4.Address :=
  textual "IPv4" text parse?

/-- The codec of IPv6 addresses. -/
def Ipv6.Address.codec : Codec Ipv6.Address :=
  textual "IPv6" text parse?

/-- The codec of instants. -/
def Instant.codec : Codec Instant :=
  textOf "an RFC 3339 formatted date and time string" text fun text =>
    (Instant.parse text).mapError Instant.Fault.message

/-- The codec of Ethernet headers. -/
def Ethernet.Header.codec : Codec Ethernet.Header :=
  (record "EthernetHeader" (
    .cons (required "src_mac" (octets 6)) <|
    .cons (required "dst_mac" (octets 6)) <|
    .cons (required "ether_type" uint16) .nil)).iso
    (fun (source, destination, etherType, ()) => ⟨source, destination, etherType⟩)
    (fun header => (header.source, header.destination, header.etherType, ()))

/-- The codec of cooked headers. -/
def Cooked.Header.codec : Codec Cooked.Header :=
  (record "LinuxSllHeader" (
    .cons (required "packet_type" uint16) <|
    .cons (required "arphrd_type" uint16) <|
    .cons (required "address_len" uint16) <|
    .cons (required "address" (octets 8)) <|
    .cons (required "protocol" uint16) .nil)).iso
    (fun (packetType, deviceType, addressLength, room, protocol, ()) =>
      ⟨packetType, deviceType, addressLength, room, protocol⟩)
    (fun header => (header.packetType, header.deviceType, header.addressLength, header.room,
      header.protocol, ()))

/-- The codec of IPv4 headers. -/
def Ipv4.Header.codec : Codec Ipv4.Header :=
  (record "Ipv4Header" (
    .cons (required "version" uint8) <|
    .cons (required "header_len_words" uint8) <|
    .cons (required "src_ip" Address.codec) <|
    .cons (required "dst_ip" Address.codec) <|
    .cons (required "protocol" uint8) <|
    .cons (required "total_len" uint16) <|
    .cons (required "payload_len" uint16) .nil)).iso
    (fun (version, words, source, destination, protocol, totalLength, payloadLength, ()) =>
      ⟨version, words, source, destination, protocol, totalLength, payloadLength⟩)
    (fun header => (header.version, header.words, header.source, header.destination,
      header.protocol, header.totalLength, header.payloadLength, ()))

/-- The codec of IPv6 headers. -/
def Ipv6.Header.codec : Codec Ipv6.Header :=
  (record "Ipv6Header" (
    .cons (required "src_ip" Address.codec) <|
    .cons (required "dst_ip" Address.codec) <|
    .cons (required "next_header" uint8) <|
    .cons (required "payload_len" uint16) .nil)).iso
    (fun (source, destination, nextHeader, payloadLength, ()) =>
      ⟨source, destination, nextHeader, payloadLength⟩)
    (fun header => (header.source, header.destination, header.nextHeader,
      header.payloadLength, ()))

/-- The codec of TCP headers. -/
def Tcp.Header.codec : Codec Tcp.Header :=
  (record "TcpHeader" (
    .cons (required "src_port" uint16) <|
    .cons (required "dst_port" uint16) <|
    .cons (required "seq" uint32) <|
    .cons (required "ack_seq" uint32) <|
    .cons (required "data_offset_words" uint8) <|
    .cons (required "flags" uint16) <|
    .cons (required "window" uint16) <|
    .cons (required "checksum" uint16) <|
    .cons (required "urgent_ptr" uint16) .nil)).iso
    (fun (sourcePort, destinationPort, seq, ack, words, flags, window, checksum, urgent, ()) =>
      ⟨sourcePort, destinationPort, seq, ack, words, flags, window, checksum, urgent⟩)
    (fun header => (header.sourcePort, header.destinationPort, header.seq, header.ack,
      header.words, header.flags, header.window, header.checksum, header.urgent, ()))

/-- The codec of UDP headers. -/
def Udp.Header.codec : Codec Udp.Header :=
  (record "UdpHeader" (
    .cons (required "src_port" uint16) <|
    .cons (required "dst_port" uint16) <|
    .cons (required "length" uint16) <|
    .cons (required "checksum" uint16) .nil)).iso
    (fun (sourcePort, destinationPort, length, checksum, ()) =>
      ⟨sourcePort, destinationPort, length, checksum⟩)
    (fun header => (header.sourcePort, header.destinationPort, header.length,
      header.checksum, ()))

/-- The codec of the heads of HTTP messages. -/
def Http.Header.codec : Codec Http.Header :=
  (record "HttpHeader" (
    .cons (required "is_response" boolean) <|
    .cons (required "status_code" uint16) <|
    .cons (nullable "method" anyText) <|
    .cons (required "request_uri" anyText) <|
    .cons (required "version" uint8) <|
    .cons (nullable "reason" anyText) <|
    .cons (nullable "host" anyText) <|
    .cons (nullable "content_type" anyText) <|
    .cons (nullable "content_length" uint64) .nil)).iso
    (fun (isResponse, status, method, uri, version, reason, host, contentType, contentLength,
        ()) =>
      ⟨isResponse, status, method, uri, version, reason, host, contentType, contentLength⟩)
    (fun header => (header.isResponse, header.status, header.method, header.uri,
      header.version, header.reason, header.host, header.contentType,
      header.contentLength, ()))

/-- The codec of headers of all kinds. -/
def Header.codec : Codec Header where
  write header := .object [(header.name, match header with
    | .ethernet header => Ethernet.Header.codec.write header
    | .cooked header => Cooked.Header.codec.write header
    | .ipv4 header => Ipv4.Header.codec.write header
    | .ipv6 header => Ipv6.Header.codec.write header
    | .tcp header => Tcp.Header.codec.write header
    | .udp header => Udp.Header.codec.write header
    | .http header => Http.Header.codec.write header)]
  read := readVariant [
    ("ethernet", Ethernet.Header.codec.reads .ethernet),
    ("linux_sll", Cooked.Header.codec.reads .cooked),
    ("ipv4", Ipv4.Header.codec.reads .ipv4),
    ("ipv6", Ipv6.Header.codec.reads .ipv6),
    ("tcp", Tcp.Header.codec.reads .tcp),
    ("udp", Udp.Header.codec.reads .udp),
    ("http", Http.Header.codec.reads .http)]

/-- The codec of packets. -/
def Packet.codec : Codec Packet :=
  (record "Packet" (
    .cons (required "timestamp_us" int64) <|
    .cons (required "captured_len" uint32) <|
    .cons (required "wire_len" uint32) <|
    .cons (required "headers" (list Header.codec)) .nil)).iso
    (fun (timestamp, captured, wire, headers, ()) => ⟨timestamp, captured, wire, headers⟩)
    (fun packet => (packet.timestamp, packet.captured, packet.wire, packet.headers, ()))

/-- The codec of the metadata of captures. -/
def CaptureMetadata.codec : Codec CaptureMetadata :=
  (record "CaptureMetadata" (
    .cons (required "device" anyText) <|
    .cons (required "file_name" anyText) <|
    .cons (required "snap_length" int32) <|
    .cons (required "promiscuous" int32) <|
    .cons (required "timeout_ms" int32) <|
    .cons (required "filters" (list anyText)) .nil)).iso
    (fun (device, fileName, snapLength, promiscuous, timeout, filters, ()) =>
      ⟨device, fileName, snapLength, promiscuous, timeout, filters⟩)
    (fun metadata => (metadata.device, metadata.fileName, metadata.snapLength,
      metadata.promiscuous, metadata.timeout, metadata.filters, ()))

/-- The codec of the counters of captures. -/
def CaptureStats.codec : Codec CaptureStats :=
  (record "CaptureStats" (
    .cons (required "captured" uint32) <|
    .cons (required "received" uint32) <|
    .cons (required "dropped" uint32) <|
    .cons (required "interface_dropped" uint32) .nil)).iso
    (fun (captured, received, dropped, deviceDropped, ()) =>
      ⟨captured, received, dropped, deviceDropped⟩)
    (fun stats => (stats.captured, stats.received, stats.dropped, stats.deviceDropped, ()))

/-- The codec of traces. -/
def Trace.codec : Codec Trace :=
  (record "PktTrace" (
    .cons (required "format_version" anyText) <|
    .cons (required "capture_library_version" anyText) <|
    .cons (required "created_at" Instant.codec) <|
    .cons (required "notes" anyText) <|
    .cons (required "capture_metadata" CaptureMetadata.codec) <|
    .cons (nullable "capture_stats" CaptureStats.codec) <|
    .cons (required "packets" (list Packet.codec)) .nil)).iso
    (fun (formatVersion, libraryVersion, createdAt, notes, metadata, stats, packets, ()) =>
      ⟨formatVersion, libraryVersion, createdAt, notes, metadata, stats, packets⟩)
    (fun trace => (trace.formatVersion, trace.libraryVersion, trace.createdAt, trace.notes,
      trace.metadata, trace.stats, trace.packets, ()))

end CaptureFlow
