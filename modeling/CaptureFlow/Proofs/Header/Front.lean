import CaptureFlow.Header
import CaptureFlow.Proofs.Bytes
import Mathlib.Data.List.Infix

/-!
# Headers at the front

A header is split off the front of some octets: it lies within them, what is left stands
behind it, and nothing that follows it matters. So a parser that is given more octets finds
the same header and has more left, and one that is given fewer either does the same or
fails.
-/

namespace CaptureFlow

/-- A parser splits headers of some length off the front of what it is given. -/
structure SplitsOff {Header : Type} (length : Header → Nat)
    (parse : Bytes → Except DecodeError (Header × Bytes)) : Prop where
  /-- A header lies within what is given. -/
  length_le : ∀ {bytes header rest}, parse bytes = .ok (header, rest) →
    length header ≤ bytes.length
  /-- What is left stands behind the header. -/
  rest_eq : ∀ {bytes header rest}, parse bytes = .ok (header, rest) →
    rest = bytes.drop (length header)
  /-- What follows does not change the header. -/
  extend : ∀ {front bytes header rest}, front <+: bytes → parse front = .ok (header, rest) →
    parse bytes = .ok (header, bytes.drop (length header))

namespace SplitsOff

variable {Header : Type} {length : Header → Nat}
  {parse : Bytes → Except DecodeError (Header × Bytes)}

/-- A parser whose success hangs on the first octets, at least `least` of them, splits its
headers off if these are read from those octets. -/
theorem of_iff (least : Nat) (accepts : Bytes → Prop) (headerAt : Bytes → Header)
    (hparse : ∀ bytes header rest, parse bytes = .ok (header, rest) ↔
      least ≤ bytes.length ∧ accepts bytes ∧ length header ≤ bytes.length ∧
        header = headerAt bytes ∧ rest = bytes.drop (length header))
    (hlocal : ∀ {front bytes : Bytes}, front <+: bytes → least ≤ front.length →
      headerAt front = headerAt bytes ∧ (accepts front ↔ accepts bytes)) :
    SplitsOff length parse where
  length_le h := ((hparse _ _ _).mp h).2.2.1
  rest_eq h := ((hparse _ _ _).mp h).2.2.2.2
  extend hfront h := by
    obtain ⟨hleast, haccepts, hlength, hheader, -⟩ := (hparse _ _ _).mp h
    obtain ⟨hsame, hiff⟩ := hlocal hfront hleast
    have hlonger := hfront.length_le
    exact (hparse _ _ _).mpr ⟨by omega, hiff.mp haccepts, by omega, hheader.trans hsame, rfl⟩

/-- Behind a header there is more left if there was more given. -/
theorem extend_isPrefix (h : SplitsOff length parse) {front bytes rest : Bytes} {header : Header}
    (hfront : front <+: bytes) (hparse : parse front = .ok (header, rest)) :
    ∃ more, parse bytes = .ok (header, more) ∧ rest <+: more := by
  refine ⟨_, h.extend hfront hparse, ?_⟩
  rw [h.rest_eq hparse]
  exact List.IsPrefix.drop hfront _

end SplitsOff

/-- A string of octets that lies within a front is found there. -/
theorem Octets.readAt_of_isPrefix {front bytes : Bytes} (h : front <+: bytes) {n offset : Nat}
    (hwithin : offset + n ≤ front.length) : readAt n front offset = readAt n bytes offset := by
  apply Octets.ext
  apply List.map_congr_left
  intro i hi
  have hless := List.mem_range.mp hi
  exact octetAt_of_isPrefix h (by omega)

/-- An IPv4 address that lies within a front is found there. -/
theorem Ipv4.Address.readAt_of_isPrefix {front bytes : Bytes} (h : front <+: bytes)
    {offset : Nat} (hwithin : offset + 4 ≤ front.length) :
    readAt front offset = readAt bytes offset := by
  rw [readAt, readAt, octetAt_of_isPrefix h (by omega), octetAt_of_isPrefix h (by omega),
    octetAt_of_isPrefix h (by omega), octetAt_of_isPrefix h (by omega)]

/-- An IPv6 address that lies within a front is found there. -/
theorem Ipv6.Address.readAt_of_isPrefix {front bytes : Bytes} (h : front <+: bytes)
    {offset : Nat} (hwithin : offset + 16 ≤ front.length) :
    readAt front offset = readAt bytes offset := by
  simp only [readAt, mk.injEq]
  apply List.map_congr_left
  intro i hi
  have hless := List.mem_range.mp hi
  exact wordAt_of_isPrefix .big h (by omega)

/-! ## Framing -/

/-- An Ethernet header is split off the front of a frame. -/
theorem Ethernet.splitsOff : SplitsOff (fun _ => headerLength) parse := by
  apply SplitsOff.of_iff headerLength (fun _ => True)
    fun bytes => ⟨.readAt 6 bytes 6, .readAt 6 bytes 0, wordAt .big bytes 12⟩
  · intro bytes header rest
    unfold parse
    grind
  · intro front bytes h hleast
    rw [headerLength] at hleast
    rw [Octets.readAt_of_isPrefix h (by omega), Octets.readAt_of_isPrefix h (by omega),
      wordAt_of_isPrefix .big h (by omega)]
    exact ⟨rfl, Iff.rfl⟩

/-- A cooked header is split off the front of a frame. -/
theorem Cooked.splitsOff : SplitsOff (fun _ => headerLength) parse := by
  apply SplitsOff.of_iff headerLength (fun _ => True)
    fun bytes => ⟨wordAt .big bytes 0, wordAt .big bytes 2, wordAt .big bytes 4,
      .readAt 8 bytes 6, wordAt .big bytes 14⟩
  · intro bytes header rest
    unfold parse
    grind
  · intro front bytes h hleast
    rw [headerLength] at hleast
    rw [Octets.readAt_of_isPrefix h (by omega), wordAt_of_isPrefix .big h (by omega),
      wordAt_of_isPrefix .big h (by omega), wordAt_of_isPrefix .big h (by omega),
      wordAt_of_isPrefix .big h (by omega)]
    exact ⟨rfl, Iff.rfl⟩

/-! ## Datagrams -/

namespace Ipv4

/-- The header whose octets stand in front. -/
def headerAt (bytes : Bytes) : Header where
  version := UInt8.ofNat ((octetAt bytes 0).toNat / 16)
  words := UInt8.ofNat ((octetAt bytes 0).toNat % 16)
  source := .readAt bytes 12
  destination := .readAt bytes 16
  protocol := octetAt bytes 9
  totalLength := wordAt .big bytes 2
  payloadLength :=
    UInt16.ofNat ((wordAt .big bytes 2).toNat - 4 * ((octetAt bytes 0).toNat % 16))

/-- The length of a header is told by the lower half of its first octet. -/
theorem length_headerAt (bytes : Bytes) :
    (headerAt bytes).length = 4 * ((octetAt bytes 0).toNat % 16) := by
  have hwords : (octetAt bytes 0).toNat % 16 < UInt8.size := by
    simp only [UInt8.size]
    omega
  rw [Header.length, headerAt, UInt8.toNat_ofNat_of_lt' hwords]

/-- Whether the first octet of a datagram is that of an IPv4 header. -/
def Accepts (bytes : Bytes) : Prop :=
  (octetAt bytes 0).toNat / 16 = 4 ∧ 5 ≤ (octetAt bytes 0).toNat % 16

/-- An IPv4 header is found if its first octet says so and all of it is there. -/
theorem parse_eq_ok_iff (bytes : Bytes) (header : Header) (rest : Bytes) :
    parse bytes = .ok (header, rest) ↔
      minHeaderLength ≤ bytes.length ∧ Accepts bytes ∧ header.length ≤ bytes.length ∧
        header = headerAt bytes ∧ rest = bytes.drop header.length := by
  have hlength := length_headerAt bytes
  unfold parse Accepts
  grind [headerAt]

/-- An IPv4 header is split off the front of a datagram. -/
theorem splitsOff : SplitsOff Header.length parse := by
  apply SplitsOff.of_iff minHeaderLength Accepts headerAt
  · exact parse_eq_ok_iff
  · intro front bytes h hleast
    rw [minHeaderLength] at hleast
    have hfirst : octetAt front 0 = octetAt bytes 0 := octetAt_of_isPrefix h (by omega)
    constructor
    · rw [headerAt, hfirst, octetAt_of_isPrefix h (by omega), wordAt_of_isPrefix .big h (by omega),
        Address.readAt_of_isPrefix h (by omega), Address.readAt_of_isPrefix h (by omega)]
      rfl
    · rw [Accepts, Accepts, hfirst]

end Ipv4

/-- An IPv6 header is split off the front of a datagram. -/
theorem Ipv6.splitsOff : SplitsOff (fun _ => headerLength) parse := by
  apply SplitsOff.of_iff headerLength (fun bytes => (octetAt bytes 0).toNat / 16 = 6)
    fun bytes => ⟨.readAt bytes 8, .readAt bytes 24, octetAt bytes 6, wordAt .big bytes 4⟩
  · intro bytes header rest
    unfold parse
    grind
  · intro front bytes h hleast
    rw [headerLength] at hleast
    rw [Address.readAt_of_isPrefix h (by omega), Address.readAt_of_isPrefix h (by omega),
      octetAt_of_isPrefix h (by omega), wordAt_of_isPrefix .big h (by omega),
      octetAt_of_isPrefix h (by omega)]
    exact ⟨rfl, Iff.rfl⟩

/-! ## Segments -/

namespace Tcp

/-- The header whose octets stand in front. -/
def headerAt (bytes : Bytes) : Header where
  sourcePort := wordAt .big bytes 0
  destinationPort := wordAt .big bytes 2
  seq := longAt .big bytes 4
  ack := longAt .big bytes 8
  words := UInt8.ofNat ((octetAt bytes 12).toNat / 16)
  flags := wordAt .big bytes 12 &&& flagMask
  window := wordAt .big bytes 14
  checksum := wordAt .big bytes 16
  urgent := wordAt .big bytes 18

/-- The length of a header is told by the upper half of an octet. -/
theorem length_headerAt (bytes : Bytes) :
    (headerAt bytes).length = 4 * ((octetAt bytes 12).toNat / 16) := by
  have hoctet := (octetAt bytes 12).toNat_lt
  have hwords : (octetAt bytes 12).toNat / 16 < UInt8.size := by
    simp only [UInt8.size]
    omega
  rw [Header.length, headerAt, UInt8.toNat_ofNat_of_lt' hwords]

/-- A TCP header is found if it tells a length that it can have and all of it is there. -/
theorem parse_eq_ok_iff (bytes : Bytes) (header : Header) (rest : Bytes) :
    parse bytes = .ok (header, rest) ↔
      minHeaderLength ≤ bytes.length ∧ 5 ≤ (octetAt bytes 12).toNat / 16 ∧
        header.length ≤ bytes.length ∧ header = headerAt bytes ∧
          rest = bytes.drop header.length := by
  have hlength := length_headerAt bytes
  unfold parse
  grind [headerAt]

/-- A TCP header is split off the front of a segment. -/
theorem splitsOff : SplitsOff Header.length parse := by
  apply SplitsOff.of_iff minHeaderLength (fun bytes => 5 ≤ (octetAt bytes 12).toNat / 16) headerAt
  · exact parse_eq_ok_iff
  · intro front bytes h hleast
    rw [minHeaderLength] at hleast
    have hword : ∀ offset, offset + 2 ≤ 20 → wordAt .big front offset = wordAt .big bytes offset :=
      fun offset hoffset => wordAt_of_isPrefix .big h (by omega)
    have hlong : ∀ offset, offset + 4 ≤ 20 → longAt .big front offset = longAt .big bytes offset :=
      fun offset hoffset => longAt_of_isPrefix .big h (by omega)
    have hoctet : octetAt front 12 = octetAt bytes 12 := octetAt_of_isPrefix h (by omega)
    constructor
    · simp only [headerAt, hoctet, hword, hlong, Nat.reduceAdd, Nat.reduceLeDiff]
    · rw [hoctet]

end Tcp

/-- A UDP header is split off the front of a datagram. -/
theorem Udp.splitsOff : SplitsOff (fun _ => headerLength) parse := by
  apply SplitsOff.of_iff headerLength (fun _ => True)
    fun bytes => ⟨wordAt .big bytes 0, wordAt .big bytes 2, wordAt .big bytes 4,
      wordAt .big bytes 6⟩
  · intro bytes header rest
    unfold parse
    grind
  · intro front bytes h hleast
    rw [headerLength] at hleast
    rw [wordAt_of_isPrefix .big h (by omega), wordAt_of_isPrefix .big h (by omega),
      wordAt_of_isPrefix .big h (by omega), wordAt_of_isPrefix .big h (by omega)]
    exact ⟨rfl, Iff.rfl⟩

end CaptureFlow
