import CaptureFlow.Address.Octets
import CaptureFlow.Proofs.Bytes
import CaptureFlow.Proofs.Savefile.Walk

/-!
# Files of the classic format as they are written

A file header in either byte order, with micro- or nanoseconds, is followed by records.
The fields that no reader keeps may hold anything.
-/

namespace CaptureFlow.Savefile

/-- The header of a file in the classic format. -/
structure ClassicHeader where
  /-- The byte order of all numbers. -/
  order : ByteOrder
  /-- Whether the fractions of timestamps are nanoseconds. -/
  nanoseconds : Bool
  /-- The version and what is said of the clock. -/
  versions : Octets 12
  /-- The octets captured of a packet at most. -/
  snapLength : UInt32
  /-- The number of the framing, in the lower half. -/
  linkType : UInt32

namespace ClassicHeader

variable (header : ClassicHeader)

/-- The number that tells the format. -/
def magic : UInt32 :=
  if header.nanoseconds then 0xa1b23c4d else 0xa1b2c3d4

/-- The octets of a file header. -/
def octets : Bytes :=
  header.order.octets 4 header.magic.toNat ++ (header.versions.bytes ++
    (header.order.octets 4 header.snapLength.toNat ++
      header.order.octets 4 header.linkType.toNat))

/-- What is kept of a file header. -/
def fileHeader : FileHeader :=
  ⟨header.order, false, header.snapLength, header.linkType.toUInt16⟩

/-- A file header has a fixed length. -/
theorem length_octets : header.octets.length = fileHeaderLength := by
  simp only [octets, List.length_append, ByteOrder.length_octets, header.versions.length_eq]
  rfl

/-- The first octets are those of the number that tells the format. -/
theorem take_octets (rest : Bytes) :
    (header.octets ++ rest).take 4 = header.order.octets 4 header.magic.toNat := by
  rw [octets, List.append_assoc]
  exact List.take_left' (ByteOrder.length_octets _ _ _)

/-- A file header is read from its octets. -/
theorem read_octets (rest : Bytes) :
    FileHeader.read (header.octets ++ rest) = .ok header.fileHeader := by
  have htake : (header.octets ++ rest).take fileHeaderLength = header.octets :=
    List.take_left' header.length_octets
  have hmagic : magicTable.lookup (ByteOrder.little.number (header.octets.take 4)) =
      some (header.order, false) := by
    have hfront := header.take_octets []
    rw [List.append_nil] at hfront
    rw [hfront, magic]
    cases header.order <;> cases header.nanoseconds <;> rfl
  have hsnap : longAt header.order header.octets 16 = header.snapLength :=
    (longAt_behind (ByteOrder.length_octets _ _ _) _ _ 12).trans <|
      (longAt_behind header.versions.length_eq _ _ 0).trans (longAt_front _ _ _)
  have hlink : longAt header.order header.octets 20 = header.linkType := by
    have hfront := longAt_front header.order header.linkType []
    rw [List.append_nil] at hfront
    exact (longAt_behind (ByteOrder.length_octets _ _ _) _ _ 16).trans <|
      (longAt_behind header.versions.length_eq _ _ 4).trans <|
        (longAt_behind (ByteOrder.length_octets _ _ _) _ _ 0).trans hfront
  simp only [FileHeader.read, htake, hmagic, hsnap, hlink]
  rw [header.length_octets]
  rfl

end ClassicHeader

/-- A record as it is written. -/
structure ClassicRecord where
  /-- The seconds of its timestamp. -/
  seconds : UInt32
  /-- The fraction of its timestamp. -/
  fraction : UInt32
  /-- The octets on the wire. -/
  wire : UInt32
  /-- The data captured. -/
  data : Bytes
  /-- The record fits into a window. -/
  fits : 16 + data.length < capacity

namespace ClassicRecord

variable (record : ClassicRecord) (order : ByteOrder)

/-- The length of the data. -/
def captured : UInt32 :=
  UInt32.ofNat record.data.length

/-- The octets of the header of a record. -/
def head : Bytes :=
  order.octets 4 record.seconds.toNat ++ (order.octets 4 record.fraction.toNat ++
    (order.octets 4 record.captured.toNat ++ order.octets 4 record.wire.toNat))

/-- The octets of a record. -/
def octets : Bytes :=
  record.head order ++ record.data

/-- The record that is read. -/
def toRecord : Record :=
  ⟨record.seconds, record.fraction, record.captured, record.wire, record.data⟩

/-- The length of the data is told exactly. -/
theorem toNat_captured : record.captured.toNat = record.data.length := by
  have hfits := record.fits
  apply UInt32.toNat_ofNat_of_lt'
  simp only [capacity, UInt32.size] at *
  omega

/-- The header of a record has a fixed length. -/
theorem length_head : (record.head order).length = 16 := by
  simp only [head, List.length_append, ByteOrder.length_octets]

/-- The length of a record. -/
theorem length_octets : (record.octets order).length = 16 + record.data.length := by
  rw [octets, List.length_append, length_head]

/-- The fields of a record are read from its header. -/
theorem longAt_head :
    longAt order (record.head order) 0 = record.seconds ∧
      longAt order (record.head order) 4 = record.fraction ∧
      longAt order (record.head order) 8 = record.captured ∧
      longAt order (record.head order) 12 = record.wire := by
  have hlength := ByteOrder.length_octets order 4
  have hwire := longAt_front order record.wire []
  rw [List.append_nil] at hwire
  refine ⟨longAt_front _ _ _, ?_, ?_, ?_⟩
  · exact (longAt_behind (hlength _) _ order 0).trans (longAt_front _ _ _)
  · exact (longAt_behind (hlength _) _ order 4).trans <|
      (longAt_behind (hlength _) _ order 0).trans (longAt_front _ _ _)
  · exact (longAt_behind (hlength _) _ order 8).trans <|
      (longAt_behind (hlength _) _ order 4).trans <|
        (longAt_behind (hlength _) _ order 0).trans hwire

/-- A record is read from its octets. -/
theorem read_octets {header : FileHeader} (hplain : header.isExtended = false) (rest : Bytes) :
    Record.read header (record.octets header.order ++ rest) =
      .block record.toRecord (record.octets header.order).length := by
  have hlength : header.recordHeaderLength = 16 := by
    rw [FileHeader.recordHeaderLength, hplain]
    rfl
  have htake : (record.octets header.order ++ rest).take 16 = record.head header.order := by
    rw [octets, List.append_assoc]
    exact List.take_left' (record.length_head _)
  have hdata : slice (record.octets header.order ++ rest) 16 record.data.length =
      record.data := by
    have hslice := slice_append (record.head header.order) rest (Eq.refl record.data.length)
    rw [record.length_head, ← List.append_assoc] at hslice
    exact hslice
  obtain ⟨hseconds, hfraction, hcaptured, hwire⟩ := record.longAt_head header.order
  simp only [Record.read, hlength, htake, hseconds, hfraction, hcaptured, hwire, hdata,
    record.length_head, record.toNat_captured, Nat.lt_irrefl, if_false, record.length_octets]
  rfl

/-- A part of a record is incomplete. -/
theorem read_cut {header : FileHeader} (hplain : header.isExtended = false) {front : Bytes}
    (hfront : front <+: record.octets header.order) (hne : front ≠ record.octets header.order) :
    ∃ missing, Record.read header front = .incomplete missing ∧
      front.length + missing ≤ (record.octets header.order).length := by
  have hlength : header.recordHeaderLength = 16 := by
    rw [FileHeader.recordHeaderLength, hplain]
    rfl
  have hshorter : front.length < 16 + record.data.length := by
    rw [← record.length_octets header.order]
    exact Nat.lt_of_le_of_ne hfront.length_le fun heq => hne (hfront.eq_of_length heq)
  rw [record.length_octets]
  by_cases hhead : front.length < 16
  · refine ⟨16 - front.length, ?_, by omega⟩
    have htake : (front.take 16).length = front.length := by
      rw [List.length_take]
      omega
    simp only [Record.read, hlength, htake, hhead, if_true]
  · have htake : front.take 16 = record.head header.order := by
      have hprefix : record.head header.order <+: front := by
        apply List.prefix_of_prefix_length_le (List.prefix_append _ _) hfront
        rw [record.length_head]
        omega
      obtain ⟨behind, rfl⟩ := hprefix
      exact List.take_left' (record.length_head _)
    have hcaptured := (record.longAt_head header.order).2.2.1
    have hdata : (slice front 16 record.data.length).length = front.length - 16 := by
      rw [length_slice]
      omega
    have hcut : front.length - 16 < record.data.length := by omega
    refine ⟨record.data.length - (front.length - 16), ?_, by omega⟩
    simp only [Record.read, hlength, htake, hcaptured, record.length_head,
      record.toNat_captured, hdata, Nat.lt_irrefl, if_false, hcut, if_true]

/-- A record is written for its packet. -/
theorem writes {header : FileHeader} (hplain : header.isExtended = false)
    (told nanoseconds : Bool) :
    (Encoding.classic header told nanoseconds).Writes (record.octets header.order)
      (record.toRecord.block nanoseconds) where
  complete rest := by
    rw [Encoding.front, record.read_octets hplain]
    rfl
  cut front hfront hne := by
    obtain ⟨missing, hread, hbound⟩ := record.read_cut hplain hfront hne
    refine ⟨missing, ?_, hbound⟩
    rw [Encoding.front, hread]
    rfl
  fits := by
    rw [record.length_octets]
    exact record.fits

end ClassicRecord

end CaptureFlow.Savefile
