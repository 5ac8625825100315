import CaptureFlow.Proofs.Decoder.Stack

/-!
# Decoding within bounds

A frame is cut at lengths that its own headers tell. Here decoding is written out with a
check wherever a range or an octet is taken and wherever a header is pushed onto the others,
and no check ever fails, whatever the octets are.
-/

namespace CaptureFlow

/-! ## Checked access -/

/-- The octets from `start` up to `stop`, if that range lies within them. -/
def range? (bytes : Bytes) (start stop : Nat) : Option Bytes :=
  if start ≤ stop ∧ stop ≤ bytes.length then some (slice bytes start (stop - start)) else none

/-- The 16-bit number whose octets stand at an offset, if both are there. -/
def word? (bytes : Bytes) (offset : Nat) : Option UInt16 := do
  let high ← bytes[offset]?
  let low ← bytes[offset + 1]?
  some (UInt16.ofNat (256 * high.toNat + low.toNat))

/-- The headers with one more, if its layer is that of the position behind them. Messages
may also stand further on. -/
def push? (headers : List Header) (header : Header) : Option (List Header) :=
  if header.layer.index = headers.length ∨
      (header.layer = .application ∧ Layer.application.index < headers.length) then
    some (headers ++ [header])
  else none

/-- A range within bounds is the part that stands there. -/
theorem range?_of_le {bytes : Bytes} {start stop : Nat} (hstart : start ≤ stop)
    (hstop : stop ≤ bytes.length) :
    range? bytes start stop = some (slice bytes start (stop - start)) :=
  if_pos ⟨hstart, hstop⟩

/-- The front of some octets is a range of them. -/
theorem range?_front (bytes : Bytes) (n : Nat) :
    range? bytes 0 (min bytes.length n) = some (bytes.take n) := by
  rw [range?_of_le (Nat.zero_le _) (Nat.min_le_left _ _), slice, Nat.sub_zero, List.drop_zero,
    Nat.min_comm, ← List.take_eq_take_min]

/-- What stands behind a front is a range. -/
theorem range?_behind {bytes : Bytes} {length : Nat} (h : length ≤ bytes.length) :
    range? bytes length bytes.length = some (bytes.drop length) := by
  rw [range?_of_le h (Nat.le_refl _), slice, List.take_of_length_le (by rw [List.length_drop])]

/-- As much as there is of a part behind a front is a range. -/
theorem range?_within {bytes : Bytes} {length : Nat} (h : length ≤ bytes.length) (n : Nat) :
    range? bytes length (min (length + n) bytes.length) =
      some ((bytes.drop length).take n) := by
  have htake : min (length + n) bytes.length - length = min n (bytes.drop length).length := by
    rw [List.length_drop]
    omega
  rw [range?_of_le (by omega) (Nat.min_le_right _ _), slice, htake, ← List.take_eq_take_min]

/-- A 16-bit number is there if its octets are. -/
theorem word?_eq {bytes : Bytes} {offset : Nat} (h : offset + 2 ≤ bytes.length) :
    word? bytes offset = some (wordAt .big bytes offset) := by
  have hslice : slice bytes offset 2 = [bytes[offset], bytes[offset + 1]] := by
    rw [slice, List.drop_eq_getElem_cons (by omega), List.drop_eq_getElem_cons (by omega)]
    rfl
  rw [word?, List.getElem?_eq_getElem (by omega), List.getElem?_eq_getElem (by omega), wordAt,
    hslice]
  have hnumber : ByteOrder.big.number [bytes[offset], bytes[offset + 1]] =
      bytes[offset + 1].toNat + 256 * (bytes[offset].toNat + 256 * 0) := rfl
  have hsum : bytes[offset + 1].toNat + 256 * (bytes[offset].toNat + 256 * 0) =
      256 * bytes[offset].toNat + bytes[offset + 1].toNat := by omega
  rw [hnumber, hsum]
  rfl

/-- A string of octets that lies within others is the part that stands there. -/
theorem Octets.ofBytes?_slice {n offset : Nat} {bytes : Bytes} (h : offset + n ≤ bytes.length) :
    ofBytes? n (slice bytes offset n) = some (readAt n bytes offset) := by
  have hlength : (slice bytes offset n).length = n := by
    rw [length_slice]
    omega
  rw [ofBytes?, dif_pos hlength]
  apply congrArg some
  apply Octets.ext
  apply List.ext_getElem
  · rw [hlength, (readAt n bytes offset).length_eq]
  · intro i hi _
    rw [hlength] at hi
    simp only [slice, readAt, List.getElem_take, List.getElem_drop, List.getElem_map,
      List.getElem_range, octetAt]
    rw [List.getD_eq_getElem?_getD, List.getElem?_eq_getElem (by omega), Option.getD_some]

/-- A header is pushed at the position of its layer. -/
theorem push?_of_index {headers : List Header} {header : Header}
    (h : header.layer.index = headers.length) :
    push? headers header = some (headers ++ [header]) :=
  if_pos (.inl h)

/-- What a header leaves is a range of what it was split off. -/
theorem SplitsOff.range?_rest {Header : Type} {length : Header → Nat}
    {parse : Bytes → Except DecodeError (Header × Bytes)} (h : SplitsOff length parse)
    {bytes rest : Bytes} {header : Header} (hparse : parse bytes = .ok (header, rest)) :
    range? bytes (length header) bytes.length = some rest := by
  rw [range?_behind (h.length_le hparse), h.rest_eq hparse]

/-! ## Headers -/

/-- A parser that checks what it takes finds each header with its length. -/
def KeepsBounds {Header : Type} (length : Header → Nat)
    (parse : Bytes → Except DecodeError (Header × Bytes))
    (checked : Bytes → Option (Except DecodeError (Header × Nat))) : Prop :=
  ∀ data, checked data = some ((parse data).map fun found => (found.1, length found.1))

/-- The cooked header of a frame and its length, each octet of it asked for. -/
def Cooked.checked (data : Bytes) : Option (Except DecodeError (Header × Nat)) :=
  if data.length < headerLength then some (.error (.tooShort .cooked headerLength data.length))
  else do
    let address ← range? data 6 14
    let room ← Octets.ofBytes? 8 address
    let packetType ← word? data 0
    let deviceType ← word? data 2
    let addressLength ← word? data 4
    let protocol ← word? data 14
    some (.ok (⟨packetType, deviceType, addressLength, room, protocol⟩, headerLength))

/-- The IPv4 header of a datagram and its length, with the version read once more. -/
def Ipv4.checked (data : Bytes) : Option (Except DecodeError (Header × Nat)) :=
  match parse data with
  | .error error => some (.error error)
  | .ok (header, _) => do
    let first ← data[0]?
    some (.ok ({ header with version := UInt8.ofNat (first.toNat / 16) }, header.length))

/-- The TCP header of a segment and its length, with the flags read once more. -/
def Tcp.checked (data : Bytes) : Option (Except DecodeError (Header × Nat)) :=
  match parse data with
  | .error error => some (.error error)
  | .ok (header, _) => do
    let word ← word? data 12
    some (.ok ({ header with flags := word &&& flagMask }, header.length))

/-- The octets of a cooked header are all there. -/
theorem Cooked.keepsBounds : KeepsBounds (fun _ => headerLength) parse checked := by
  intro data
  unfold checked parse
  split
  · rfl
  next hlength =>
    rw [headerLength] at hlength
    have hroom : Octets.ofBytes? 8 (slice data 6 (14 - 6)) = some (.readAt 8 data 6) :=
      Octets.ofBytes?_slice (by omega)
    rw [range?_of_le (by omega) (by omega), word?_eq (by omega), word?_eq (by omega),
      word?_eq (by omega), word?_eq (by omega), Option.bind_eq_bind, Option.bind_some, hroom]
    rfl

/-- The version of a datagram with a header is there. -/
theorem Ipv4.keepsBounds : KeepsBounds Header.length parse checked := by
  intro data
  unfold checked
  cases hparse : parse data with
  | error error => rfl
  | ok found =>
    obtain ⟨header, rest⟩ := found
    obtain ⟨hleast, -, -, hheader, -⟩ := (parse_eq_ok_iff data header rest).mp hparse
    rw [minHeaderLength] at hleast
    have hfirst : data[0]? = some (octetAt data 0) := by
      rw [octetAt, List.getD_eq_getElem?_getD, List.getElem?_eq_getElem (by omega),
        Option.getD_some]
    have hversion : UInt8.ofNat ((octetAt data 0).toNat / 16) = header.version := by
      rw [hheader]
      rfl
    simp only [hfirst, hversion, Option.bind_eq_bind, Option.bind_some]
    rfl

/-- The flags of a segment with a header are there. -/
theorem Tcp.keepsBounds : KeepsBounds Header.length parse checked := by
  intro data
  unfold checked
  cases hparse : parse data with
  | error error => rfl
  | ok found =>
    obtain ⟨header, rest⟩ := found
    obtain ⟨hleast, -, -, hheader, -⟩ := (parse_eq_ok_iff data header rest).mp hparse
    rw [minHeaderLength] at hleast
    have hflags : wordAt .big data 12 &&& flagMask = header.flags := by
      rw [hheader]
      rfl
    simp only [word?_eq (show 12 + 2 ≤ data.length by omega), hflags, Option.bind_eq_bind,
      Option.bind_some]
    rfl

/-! ## Decoding -/

namespace Decoder

variable (decoder : Decoder)

/-- The headers with the message that stands behind a TCP header of a length. -/
def pushApplication (headers : List Header) (length : Nat) (payloadLength : UInt16)
    (segment : Bytes) : Option (List Header) :=
  if decoder.sniffHttp && decoder.httpThreshold < payloadLength.toNat then do
    let stop := min (length + payloadLength.toNat) segment.length
    let payload ← range? segment length stop
    match Http.sniff payload with
    | some message => push? headers (.http message)
    | none => some headers
  else some headers

/-- The headers with those that stand behind a network header. -/
def pushTransport (headers : List Header) (protocol : UInt8) (ipPayload : UInt16)
    (segment : Bytes) : Option (List Header) :=
  if protocol = Tcp.protocolNumber then do
    match ← Tcp.checked segment with
    | .ok (header, length) =>
      let headers ← push? headers (.tcp header)
      decoder.pushApplication headers length (header.payloadLength ipPayload) segment
    | .error _ => some headers
  else if protocol = Udp.protocolNumber then
    match Udp.parse segment with
    | .ok (header, _) => push? headers (.udp header)
    | .error _ => some headers
  else some headers

/-- The headers with those that stand behind the framing. -/
def pushNetwork (headers : List Header) (etherType : UInt16) (datagram : Bytes) :
    Option (List Header) :=
  if etherType = Ethernet.typeIpv4 then do
    match ← Ipv4.checked datagram with
    | .ok (header, length) =>
      let headers ← push? headers (.ipv4 header)
      let segment ← range? datagram length datagram.length
      decoder.pushTransport headers header.protocol header.payloadLength segment
    | .error _ => some headers
  else if etherType = Ethernet.typeIpv6 then
    match Ipv6.parse datagram with
    | .ok (header, _) => do
      let headers ← push? headers (.ipv6 header)
      let segment ← range? datagram Ipv6.headerLength datagram.length
      decoder.pushTransport headers header.nextHeader header.payloadLength segment
    | .error _ => some headers
  else some headers

/-- The headers of a frame, pushed one by one. -/
def pushHeaders (frame : Bytes) : Option (List Header) :=
  match decoder.link with
  | .ethernet =>
    match Ethernet.parse frame with
    | .ok (header, _) => do
      let headers ← push? [] (.ethernet header)
      if header.isCooked then
        -- a frame that ends in the padding is cut, which is no failure
        match range? frame (Ethernet.headerLength + Ethernet.cookedPadding) frame.length with
        | some datagram => decoder.pushNetwork headers Ethernet.typeIpv4 datagram
        | none => some headers
      else
        let datagram ← range? frame Ethernet.headerLength frame.length
        decoder.pushNetwork headers header.etherType datagram
    | .error _ => some []
  | .cooked => do
    match ← Cooked.checked frame with
    | .ok (header, length) =>
      let headers ← push? [] (.cooked header)
      let datagram ← range? frame length frame.length
      decoder.pushNetwork headers header.protocol datagram
    | .error _ => some []

/-- Decodes a frame as far as it goes, with every check on the way. -/
def decodeChecked (timestamp : Timestamp) (captured wire : UInt32) (data : Bytes) :
    Option Packet := do
  let frame ← range? data 0 (min data.length captured.toNat)
  let headers ← decoder.pushHeaders frame
  some ⟨timestamp, captured, wire, headers⟩

/-- The payload of a segment lies within it. -/
theorem pushApplication_eq {headers : List Header} (hheaders : headers.length = 3) {length : Nat}
    {segment : Bytes} (hlength : length ≤ segment.length) (payloadLength : UInt16) :
    decoder.pushApplication headers length payloadLength segment =
      some (headers ++ decoder.applicationHeaders payloadLength (segment.drop length)) := by
  unfold pushApplication applicationHeaders
  dsimp only
  split
  · rw [range?_within hlength, Option.bind_eq_bind, Option.bind_some]
    cases Http.sniff ((segment.drop length).take payloadLength.toNat) with
    | none => exact congrArg some (List.append_nil headers).symm
    | some message => exact push?_of_index (by rw [hheaders]; rfl)
  · exact congrArg some (List.append_nil headers).symm

/-- What stands behind a network header lies within its datagram. -/
theorem pushTransport_eq {headers : List Header} (hheaders : headers.length = 2)
    (protocol : UInt8) (ipPayload : UInt16) (segment : Bytes) :
    decoder.pushTransport headers protocol ipPayload segment =
      some (headers ++ decoder.transportHeaders protocol ipPayload segment) := by
  have hnone : some headers = some (headers ++ []) := by rw [List.append_nil]
  unfold pushTransport transportHeaders
  split
  · rw [Tcp.keepsBounds]
    cases hparse : Tcp.parse segment with
    | error error => exact hnone
    | ok found =>
      obtain ⟨header, rest⟩ := found
      have hpush : push? headers (.tcp header) = some (headers ++ [.tcp header]) :=
        push?_of_index (by rw [hheaders]; rfl)
      have hthree : (headers ++ [Header.tcp header]).length = 3 := by
        rw [List.length_append, hheaders]
        rfl
      simp only [Except.map, Option.bind_eq_bind, Option.bind_some, hpush,
        decoder.pushApplication_eq hthree (Tcp.splitsOff.length_le hparse),
        ← Tcp.splitsOff.rest_eq hparse, List.append_assoc, List.singleton_append]
  · split
    · cases hparse : Udp.parse segment with
      | error error => exact hnone
      | ok found => exact push?_of_index (by rw [hheaders]; rfl)
    · exact hnone

/-- What stands behind the framing lies within the frame. -/
theorem pushNetwork_eq {headers : List Header} (hheaders : headers.length = 1)
    (etherType : UInt16) (datagram : Bytes) :
    decoder.pushNetwork headers etherType datagram =
      some (headers ++ decoder.networkHeaders etherType datagram) := by
  have hnone : some headers = some (headers ++ []) := by rw [List.append_nil]
  have htwo : ∀ header : Header, (headers ++ [header]).length = 2 := by
    intro header
    rw [List.length_append, hheaders]
    rfl
  unfold pushNetwork networkHeaders
  split
  · rw [Ipv4.keepsBounds]
    cases hparse : Ipv4.parse datagram with
    | error error => exact hnone
    | ok found =>
      obtain ⟨header, rest⟩ := found
      have hpush : push? headers (.ipv4 header) = some (headers ++ [.ipv4 header]) :=
        push?_of_index (by rw [hheaders]; rfl)
      simp only [Except.map, Option.bind_eq_bind, Option.bind_some, hpush,
        Ipv4.splitsOff.range?_rest hparse, decoder.pushTransport_eq (htwo _), List.append_assoc,
        List.singleton_append]
  · split
    · cases hparse : Ipv6.parse datagram with
      | error error => exact hnone
      | ok found =>
        obtain ⟨header, rest⟩ := found
        have hpush : push? headers (.ipv6 header) = some (headers ++ [.ipv6 header]) :=
          push?_of_index (by rw [hheaders]; rfl)
        simp only [Option.bind_eq_bind, Option.bind_some, hpush,
          Ipv6.splitsOff.range?_rest hparse, decoder.pushTransport_eq (htwo _), List.append_assoc,
          List.singleton_append]
    · exact hnone

/-- The datagram behind padding is a range of the frame, unless the padding is cut. -/
theorem pushPadded_eq {header : Ethernet.Header} {frame rest : Bytes}
    (hparse : Ethernet.parse frame = .ok (header, rest)) (etherType : UInt16) :
    (match range? frame (Ethernet.headerLength + Ethernet.cookedPadding) frame.length with
      | some datagram => decoder.pushNetwork [.ethernet header] etherType datagram
      | none => some [.ethernet header]) =
      some (.ethernet header ::
        decoder.networkHeaders etherType (rest.drop Ethernet.cookedPadding)) := by
  have hrest := Ethernet.splitsOff.rest_eq hparse
  by_cases hlong : Ethernet.headerLength + Ethernet.cookedPadding ≤ frame.length
  · have hone : [Header.ethernet header].length = 1 := rfl
    simp only [range?_behind hlong, decoder.pushNetwork_eq hone, hrest, List.drop_drop,
      List.singleton_append]
  · have hcut : range? frame (Ethernet.headerLength + Ethernet.cookedPadding) frame.length = none :=
      if_neg fun h => hlong h.1
    have hnothing : rest.drop Ethernet.cookedPadding = [] := by
      rw [hrest, List.drop_drop]
      exact List.drop_eq_nil_of_le (by omega)
    simp only [hcut, hnothing, networkHeaders_nil]

/-- No check of a frame's headers fails. -/
theorem pushHeaders_eq (frame : Bytes) :
    decoder.pushHeaders frame = some (decoder.headers frame) := by
  unfold pushHeaders headers
  cases decoder.link with
  | ethernet =>
    cases hparse : Ethernet.parse frame with
    | error error => rfl
    | ok found =>
      obtain ⟨header, rest⟩ := found
      have hpush : push? [] (.ethernet header) = some [.ethernet header] := push?_of_index rfl
      have hone : [Header.ethernet header].length = 1 := rfl
      simp only [Option.bind_eq_bind, Option.bind_some, hpush]
      by_cases hcooked : header.isCooked = true
      · rw [if_pos hcooked, if_pos hcooked]
        exact decoder.pushPadded_eq hparse _
      · rw [if_neg hcooked, if_neg hcooked, Ethernet.splitsOff.range?_rest hparse, Option.bind_some,
          decoder.pushNetwork_eq hone, List.singleton_append]
  | cooked =>
    rw [Cooked.keepsBounds]
    cases hparse : Cooked.parse frame with
    | error error => rfl
    | ok found =>
      obtain ⟨header, rest⟩ := found
      have hpush : push? [] (.cooked header) = some [.cooked header] := push?_of_index rfl
      have hone : [Header.cooked header].length = 1 := rfl
      simp only [Except.map, Option.bind_eq_bind, Option.bind_some, hpush,
        Cooked.splitsOff.range?_rest hparse, decoder.pushNetwork_eq hone, List.singleton_append]

end Decoder

/-! ## Packets -/

/-- A packet's headers stand each at the position of its layer, and lie within some number
of octets. -/
structure Packet.StackedWithin (packet : Packet) (octets : Nat) : Prop where
  /-- There are four headers at most. -/
  length_le : packet.headers.length ≤ 4
  /-- The position of a header is that of its layer. -/
  layer_index : ∀ {i : Nat} {header : Header}, packet.headers[i]? = some header → header.layer.index = i
  /-- A message stands on TCP. -/
  http_above : ∀ {i : Nat} {message : Http.Header}, packet.headers[i]? = some (.http message) →
    ∃ below tcp, i = below + 1 ∧ packet.headers[below]? = some (.tcp tcp)
  /-- Nothing stands on UDP. -/
  udp_last : ∀ {i : Nat} {udp : Udp.Header}, packet.headers[i]? = some (.udp udp) →
    i + 1 = packet.headers.length
  /-- The headers and the padding between them take no more octets. -/
  sizes_le : sizes packet.headers + paddingOf packet.headers ≤ octets

/-- Every check on the way to a packet passes, whatever is decoded, and the headers of the
packet are a stack within the octets that were captured. -/
theorem Decoder.decodeChecked_eq (decoder : Decoder) (timestamp : Timestamp)
    (captured wire : UInt32) (data : Bytes) :
    let packet := decoder.decodePartial timestamp captured wire data
    decoder.decodeChecked timestamp captured wire data = some packet ∧
      packet.StackedWithin (min data.length captured.toNat) := by
  have hstacked := decoder.stacked_headers (data.take captured.toNat)
  have hsizes := decoder.sizes_headers_le (data.take captured.toNat)
  constructor
  · rw [decodeChecked, range?_front, Option.bind_eq_bind, Option.bind_some, pushHeaders_eq]
    rfl
  · constructor
    · have hlength := hstacked.length_le (by decide)
      rwa [Nat.zero_add] at hlength
    · intro i header hi
      rw [hstacked.layer_index hi, Nat.zero_add]
    · intro i message hi
      rcases hstacked.http_above hi with rfl | habove
      · cases hstacked.layer_index hi
      · exact habove
    · intro i udp hi
      exact hstacked.udp_last hi
    · rw [List.length_take, Nat.min_comm] at hsizes
      exact hsizes

end CaptureFlow
