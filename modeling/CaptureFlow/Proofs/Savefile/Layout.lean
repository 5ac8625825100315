import CaptureFlow.Proofs.Savefile.Blocks
import CaptureFlow.Proofs.Savefile.Classic

/-!
# Capture files as they are written

A capture file is written in one of the classic formats, as a header and its records, or
in the format made of blocks, as sections of blocks of all kinds. Every such file can be
opened, and then holds the frames of its packets, in their order.
-/

namespace CaptureFlow.Savefile

/-! ## Blocks of a section -/

/-- A block of a kind that readers pass over, with a content that is well formed. -/
structure IsPassed (order : ByteOrder) (number : UInt32) (content : Bytes) : Prop where
  /-- It is none of those that readers know what to do with. -/
  kind_ne : BlockKind.ofNumber number ∉
    [BlockKind.sectionStart, .interface, .simplePacket, .packet]
  /-- It is no shorter than blocks of its kind are. -/
  minLength_le : (BlockKind.ofNumber number).minLength ≤ content.length + 12
  /-- Its content has the form that its kind asks for. -/
  content_eq : ∀ size, blockOfContent order (BlockKind.ofNumber number) size content =
    .block .other size
  /-- It fits into a window. -/
  fits : content.length + 12 < capacity

/-- The two halves of a timestamp make it up. -/
theorem timestamp_halves (timestamp : UInt64) :
    (timestamp >>> 32).toUInt32.toUInt64 <<< 32 + timestamp.toUInt32.toUInt64 = timestamp := by
  have hbound := timestamp.toNat_lt
  apply UInt64.toNat_inj.mp
  simp [UInt64.toNat_add, UInt64.toNat_shiftLeft, UInt64.toNat_shiftRight, Nat.shiftLeft_eq,
    Nat.shiftRight_eq_div_pow]
  omega

/-- A block behind the start of a section with a byte order. -/
inductive Item (order : ByteOrder) where
  /-- The description of an interface. -/
  | interface (linkType reserved : UInt16) (snapLength : UInt32) (options : Bytes)
      (fits : 20 + options.length < capacity)
  /-- A packet of the interface with a number, padded to whole words. -/
  | packet (device : UInt32) (timestamp : UInt64) (wire : UInt32)
      (data padding options : Bytes)
      (padded : data.length + padding.length = aligned data.length)
      (fits : 32 + aligned data.length + options.length < capacity)
  /-- A packet without a timestamp, whose data is padded already. -/
  | simplePacket (wire : UInt32) (data : Bytes) (fits : 16 + data.length < capacity)
  /-- A block that is passed over. -/
  | passed (number : UInt32) (content : Bytes) (isPassed : IsPassed order number content)

/-- What stands in front of the data of a packet: its interface, timestamp and lengths. -/
def packetHead (order : ByteOrder) (device : UInt32) (timestamp : UInt64)
    (captured wire : UInt32) : Bytes :=
  order.octets 4 device.toNat ++ (order.octets 4 (timestamp >>> 32).toUInt32.toNat ++
    (order.octets 4 timestamp.toUInt32.toNat ++
      (order.octets 4 captured.toNat ++ order.octets 4 wire.toNat)))

namespace Item

variable {order : ByteOrder}

/-- The type number of a block. -/
def number : Item order → UInt32
  | interface _ _ _ _ _ => 1
  | packet _ _ _ _ _ _ _ _ => 6
  | simplePacket _ _ _ => 3
  | passed number _ _ => number

/-- The content of a block. -/
def content : Item order → Bytes
  | interface linkType reserved snapLength options _ =>
    order.octets 2 linkType.toNat ++ (order.octets 2 reserved.toNat ++
      (order.octets 4 snapLength.toNat ++ options))
  | packet device timestamp wire data padding options _ _ =>
    packetHead order device timestamp (UInt32.ofNat data.length) wire ++
      ((data ++ padding) ++ options)
  | simplePacket wire data _ => order.octets 4 wire.toNat ++ data
  | passed _ content _ => content

/-- The octets of a block. -/
def octets (item : Item order) : Bytes :=
  blockOctets order item.number item.content

/-- What is kept of a block. -/
def block : Item order → Block
  | interface linkType _ snapLength _ _ => .interface linkType snapLength
  | packet _ timestamp wire data padding _ _ _ =>
    .packet timestamp.toInt64 (UInt32.ofNat data.length) wire (data ++ padding)
  | simplePacket wire data _ => .packet 0 (UInt32.ofNat data.length) wire data
  | passed _ _ _ => .other

end Item

/-! ## Reading the blocks of a section -/

section PacketHead

variable (order : ByteOrder) (device : UInt32) (timestamp : UInt64) (captured wire : UInt32)

/-- What stands in front of the data of a packet has a fixed length. -/
theorem length_packetHead : (packetHead order device timestamp captured wire).length = 20 := by
  simp only [packetHead, List.length_append, ByteOrder.length_octets]

/-- The timestamp and the lengths of a packet are read from what stands in front of its
data. -/
theorem longAt_packetHead (behind : Bytes) :
    longAt order (packetHead order device timestamp captured wire ++ behind) 4 =
        (timestamp >>> 32).toUInt32 ∧
      longAt order (packetHead order device timestamp captured wire ++ behind) 8 =
        timestamp.toUInt32 ∧
      longAt order (packetHead order device timestamp captured wire ++ behind) 12 = captured ∧
      longAt order (packetHead order device timestamp captured wire ++ behind) 16 = wire := by
  have hskip : ∀ (number : Nat) (behind : Bytes) (offset : Nat),
      longAt order (order.octets 4 number ++ behind) (4 + offset) =
        longAt order behind offset :=
    fun number behind offset =>
      longAt_behind (ByteOrder.length_octets order 4 number) behind order offset
  simp only [packetHead, List.append_assoc]
  refine ⟨?_, ?_, ?_, ?_⟩
  · exact (hskip _ _ 0).trans (longAt_front _ _ _)
  · exact (hskip _ _ 4).trans <| (hskip _ _ 0).trans (longAt_front _ _ _)
  · exact (hskip _ _ 8).trans <| (hskip _ _ 4).trans <|
      (hskip _ _ 0).trans (longAt_front _ _ _)
  · exact (hskip _ _ 12).trans <| (hskip _ _ 8).trans <| (hskip _ _ 4).trans <|
      (hskip _ _ 0).trans (longAt_front _ _ _)

end PacketHead

namespace Item

variable {order : ByteOrder}

/-- A block that does not start a section keeps the byte order. -/
theorem encoding_after (item : Item order) (heading : Heading) :
    (heading.after item.block).encoding = heading.encoding := by
  cases item <;> rfl

/-- A block fits into a window. -/
theorem fits (item : Item order) : item.content.length + 12 < capacity := by
  cases item with
  | interface linkType reserved snapLength options fits =>
    simp only [content, List.length_append, ByteOrder.length_octets]
    omega
  | packet device timestamp wire data padding options padded fits =>
    simp only [content, List.length_append, length_packetHead, padded]
    omega
  | simplePacket wire data fits =>
    simp only [content, List.length_append, ByteOrder.length_octets]
    omega
  | passed number content isPassed => exact isPassed.fits

/-- A block behind the start of a section does not start another one. -/
theorem ofNumber_ne (item : Item order) : BlockKind.ofNumber item.number ≠ .sectionStart := by
  cases item with
  | interface linkType reserved snapLength options fits =>
    rw [number]
    decide
  | packet device timestamp wire data padding options padded fits =>
    rw [number]
    decide
  | simplePacket wire data fits =>
    rw [number]
    decide
  | passed number content isPassed =>
    intro hkind
    apply isPassed.kind_ne
    rw [← hkind]
    exact List.mem_cons_self

/-- A block is no shorter than blocks of its kind are. -/
theorem minLength_le (item : Item order) :
    (BlockKind.ofNumber item.number).minLength ≤ item.content.length + 12 := by
  cases item with
  | interface linkType reserved snapLength options fits =>
    have hmin : (BlockKind.ofNumber 1).minLength = 20 := rfl
    simp only [number, content, List.length_append, ByteOrder.length_octets, hmin]
    omega
  | packet device timestamp wire data padding options padded fits =>
    have hmin : (BlockKind.ofNumber 6).minLength = 32 := rfl
    simp only [number, content, List.length_append, length_packetHead, hmin]
    omega
  | simplePacket wire data fits =>
    have hmin : (BlockKind.ofNumber 3).minLength = 16 := rfl
    simp only [number, content, List.length_append, ByteOrder.length_octets, hmin]
    omega
  | passed number content isPassed => exact isPassed.minLength_le

/-- A block is read from its content. -/
theorem blockOfContent_content (item : Item order) (size : Nat) :
    blockOfContent order (BlockKind.ofNumber item.number) size item.content =
      .block item.block size := by
  cases item with
  | interface linkType reserved snapLength options fits =>
    have hkind : BlockKind.ofNumber 1 = .interface := rfl
    have hsnap : longAt order (order.octets 2 linkType.toNat ++ (order.octets 2 reserved.toNat ++
        (order.octets 4 snapLength.toNat ++ options))) 4 = snapLength :=
      (longAt_behind (ByteOrder.length_octets _ _ _) _ _ 2).trans <|
        (longAt_behind (ByteOrder.length_octets _ _ _) _ _ 0).trans (longAt_front _ _ _)
    simp only [number, content, block, hkind, blockOfContent, wordAt_front, hsnap]
  | packet device timestamp wire data padding options padded fits =>
    have hkind : BlockKind.ofNumber 6 = .packet := rfl
    have hlength : (UInt32.ofNat data.length).toNat = data.length := by
      apply UInt32.toNat_ofNat_of_lt'
      simp only [aligned, capacity, UInt32.size] at *
      omega
    have hsmall : ¬roundingLimit ≤ data.length := by
      simp only [aligned, capacity, roundingLimit, UInt32.size] at *
      omega
    obtain ⟨hhigh, hlow, hcaptured, hwire⟩ := longAt_packetHead order device timestamp
      (UInt32.ofNat data.length) wire ((data ++ padding) ++ options)
    have hwhole : (data ++ padding).length = aligned data.length := by
      rw [List.length_append, padded]
    have hdata : slice (packetHead order device timestamp (UInt32.ofNat data.length) wire ++
        ((data ++ padding) ++ options)) 20 (aligned data.length) = data ++ padding := by
      have hslice := slice_append (packetHead order device timestamp
        (UInt32.ofNat data.length) wire) options hwhole
      rw [length_packetHead] at hslice
      exact hslice
    simp only [number, content, block, hkind, blockOfContent, alignedContent, hhigh, hlow,
      hcaptured, hwire, hlength, hsmall, if_false, hdata, hwhole, Nat.lt_irrefl,
      timestamp_halves]
  | simplePacket wire data fits =>
    have hkind : BlockKind.ofNumber 3 = .simplePacket := rfl
    have hdata : (order.octets 4 wire.toNat ++ data).drop 4 = data :=
      List.drop_left' (ByteOrder.length_octets _ _ _)
    simp only [number, content, block, hkind, blockOfContent, longAt_front, hdata]
  | passed number content isPassed => exact isPassed.content_eq size

/-- A block of a section is written for what is kept of it. -/
theorem writes (item : Item order) : (Encoding.blocks order).Writes item.octets item.block :=
  writes_blockOctets item.fits rfl item.ofNumber_ne item.minLength_le
    (item.blockOfContent_content _)

end Item

/-! ## Files -/

/-- A section, which starts with a block that tells its byte order. -/
structure Section where
  /-- The block that starts the section. -/
  head : SectionHead
  /-- The blocks behind it. -/
  items : List (Item head.order)

namespace Section

/-- The octets of a section. -/
def octets (written : Section) : Bytes :=
  written.head.octets ++ written.items.flatMap Item.octets

/-- What is kept of the blocks of a section. -/
def blocks (written : Section) : List Block :=
  .sectionStart written.head.order :: written.items.map Item.block

end Section

/-- A capture file as it is written. -/
inductive Layout where
  /-- A file in a classic format. -/
  | classic (header : ClassicHeader) (records : List ClassicRecord)
  /-- A file made of blocks, in one section at least. -/
  | sections (first : Section) (others : List Section)

namespace Layout

/-- The octets of a file. -/
def octets : Layout → Bytes
  | classic header records =>
    header.octets ++ records.flatMap fun record => record.octets header.order
  | sections first others => (first :: others).flatMap Section.octets

/-- What is kept of the blocks of a file. -/
def blocks : Layout → List Block
  | classic header records => records.map fun record => record.toRecord.block header.nanoseconds
  | sections first others => (first :: others).flatMap Section.blocks

/-- What is told of a file before its first block is read. -/
def heading : Layout → Heading
  | classic header _ =>
    ⟨.classic header.fileHeader true header.nanoseconds, header.linkType.toUInt16,
      header.snapLength⟩
  | sections _ _ => ⟨.blocks .little, 1, 65535⟩

end Layout

/-- The frames of blocks that are read one after the other. -/
def Heading.contents : Heading → List Block → List FrameContent
  | _, [] => []
  | heading, block :: blocks =>
    (block.content? heading.linkType).toList ++ (heading.after block).contents blocks

/-- The frames that a file holds. -/
def Layout.contents (layout : Layout) : List FrameContent :=
  layout.heading.contents layout.blocks

/-- Records hold the frames of their packets. -/
theorem contains_records (order : ByteOrder) (records : List ClassicRecord) {heading : Heading}
    {header : FileHeader} {nanoseconds : Bool} (horder : header.order = order)
    (hplain : header.isExtended = false)
    (hencoding : heading.encoding = .classic header true nanoseconds) :
    heading.Contains (records.flatMap fun record => record.octets order)
      (heading.contents (records.map fun record => record.toRecord.block nanoseconds)) := by
  subst horder
  induction records with
  | nil => exact .nil heading
  | cons record records ih =>
    rw [List.flatMap_cons, List.map_cons, Heading.contents]
    apply Heading.Contains.block
    · rw [hencoding]
      exact record.writes hplain true nanoseconds
    · exact ih

/-- The blocks of a section hold the frames of their packets, in front of others. -/
theorem contains_items {order : ByteOrder} (items : List (Item order)) {heading : Heading}
    (hencoding : heading.encoding = .blocks order) {bytes : Bytes} {blocks : List Block}
    (hrest : ∀ behind : Heading, behind.encoding = .blocks order →
      behind.Contains bytes (behind.contents blocks)) :
    heading.Contains (items.flatMap Item.octets ++ bytes)
      (heading.contents (items.map Item.block ++ blocks)) := by
  induction items generalizing heading with
  | nil => exact hrest heading hencoding
  | cons item items ih =>
    rw [List.flatMap_cons, List.append_assoc, List.map_cons, List.cons_append, Heading.contents]
    apply Heading.Contains.block
    · rw [hencoding]
      exact item.writes
    · apply ih
      rw [item.encoding_after, hencoding]

/-- Sections hold the frames of their packets, whatever the byte order before. -/
theorem contains_sections (sections : List Section) {heading : Heading} {order : ByteOrder}
    (hencoding : heading.encoding = .blocks order) :
    heading.Contains (sections.flatMap Section.octets)
      (heading.contents (sections.flatMap Section.blocks)) := by
  induction sections generalizing heading order with
  | nil => exact .nil heading
  | cons first others ih =>
    rw [List.flatMap_cons, List.flatMap_cons, Section.octets, Section.blocks, List.append_assoc,
      List.cons_append, Heading.contents]
    apply Heading.Contains.block
    · rw [hencoding]
      exact first.head.writes order
    · exact contains_items first.items rfl fun behind hbehind => ih hbehind

end CaptureFlow.Savefile
