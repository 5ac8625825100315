import CaptureFlow.Proofs.Savefile.Opening
import Mathlib.Algebra.Group.Int.Defs
import Mathlib.Data.List.Forall2

/-!
# Saved frames are read back

Frames are saved in a file of either kind: as the records of a classic format, in either
byte order, in microseconds or nanoseconds, or as packets behind the description of an
interface. Such a file is opened, whatever it is called, and hands out its frames in their
order and nothing else: each under its number, with its time in whole microseconds, its two
lengths, the framing of the file and its data.
-/

namespace CaptureFlow.Savefile

/-- The octets of a frame that a file keeps at most. -/
def savedLimit : Nat := 65535

/-- The nanoseconds in a microsecond. -/
def microNanos : Int := 1000

/-- A frame that is saved in a file. -/
structure SavedFrame where
  /-- Its time in nanoseconds. -/
  nanoseconds : Int
  /-- The octets on the wire. -/
  wire : UInt32
  /-- The data captured. -/
  data : Bytes
  /-- There are not more of them than a file keeps. -/
  length_le : data.length ≤ savedLimit

namespace SavedFrame

variable (saved : SavedFrame)

/-- Its time in microseconds, rounded down. -/
def micros : Int :=
  saved.nanoseconds / microNanos

/-- What a reader hands out is the frame, with the framing of its file. -/
structure HeldIn (linkType : UInt16) (saved : SavedFrame) (content : FrameContent) : Prop where
  /-- The time is that of the frame in whole microseconds. -/
  timestamp_eq : content.timestamp.toInt = saved.micros
  /-- The captured length is that of the data. -/
  captured_eq : content.captured.toNat = saved.data.length
  /-- The length on the wire is that of the frame. -/
  wire_eq : content.wire = saved.wire
  /-- The framing is that of the file. -/
  linkType_eq : content.linkType = linkType
  /-- The data is that of the frame, which padding may follow. -/
  data_eq : content.data.take content.captured.toNat = saved.data

/-- The captured length is told exactly. -/
theorem toNat_length {saved : SavedFrame} :
    (UInt32.ofNat saved.data.length).toNat = saved.data.length := by
  have hle := saved.length_le
  apply UInt32.toNat_ofNat_of_lt'
  simp only [savedLimit, UInt32.size] at *
  omega

end SavedFrame

/-! ## Files that save frames -/

/-- The time of a record, in units of which there are so many in a second. -/
def ClassicRecord.ticks (record : ClassicRecord) (perSecond : Nat) : Int :=
  (record.seconds.toNat * perSecond + record.fraction.toNat : Nat)

/-- A record saves a frame. Where fractions are microseconds, its time is rounded down. -/
structure ClassicRecord.Saves (nanoseconds : Bool) (record : ClassicRecord)
    (saved : SavedFrame) : Prop where
  /-- The time is that of the frame, as far as the format tells it. -/
  ticks_eq : if nanoseconds then record.ticks 1000000000 = saved.nanoseconds
    else record.ticks 1000000 = saved.micros
  /-- The length on the wire is that of the frame. -/
  wire_eq : record.wire = saved.wire
  /-- The data is that of the frame. -/
  data_eq : record.data = saved.data

/-- A block saves a frame: it is a packet with the frame's time, length and data. -/
inductive Item.Saves {order : ByteOrder} : Item order → SavedFrame → Prop where
  /-- A packet of any interface, with any padding and options. -/
  | packet {device : UInt32} {timestamp : UInt64} {padding options : Bytes} {saved : SavedFrame}
      {padded : saved.data.length + padding.length = aligned saved.data.length}
      {fits : 32 + aligned saved.data.length + options.length < capacity}
      (htime : timestamp.toInt64.toInt = saved.micros) :
      Saves (.packet device timestamp saved.wire saved.data padding options padded fits) saved

/-- A file saves frames under a framing. -/
inductive Layout.Saves (linkType : UInt16) (frames : List SavedFrame) : Layout → Prop where
  /-- A file in a classic format, with a record for each frame. -/
  | classic {header : ClassicHeader} {records : List ClassicRecord}
      (hlink : header.linkType.toUInt16 = linkType)
      (hrecords : List.Forall₂ (fun saved record => record.Saves header.nanoseconds saved)
        frames records) :
      Saves linkType frames (.classic header records)
  /-- A file of one section, with an interface and a packet for each frame. -/
  | sections {head : SectionHead} {reserved : UInt16} {snapLength : UInt32} {options : Bytes}
      {fits : 20 + options.length < capacity} {packets : List (Item head.order)}
      (hpackets : List.Forall₂ (fun saved packet => packet.Saves saved) frames packets) :
      Saves linkType frames
        (.sections ⟨head, .interface linkType reserved snapLength options fits :: packets⟩ [])

/-! ## Every list of frames is saved -/

/-- Twelve octets that no reader keeps. -/
def blankVersions : Octets 12 :=
  ⟨List.replicate 12 0, List.length_replicate⟩

/-- The end of the times that a record can tell, in nanoseconds. -/
def recordTimeEnd : Int :=
  UInt32.size * 1000000000

/-- The padding that makes up whole words completes them. -/
theorem padded_replicate (data : Bytes) :
    data.length + (List.replicate (aligned data.length - data.length) (0 : UInt8)).length =
      aligned data.length := by
  rw [List.length_replicate, aligned]
  omega

namespace SavedFrame

variable (saved : SavedFrame)

/-- The record of a frame. -/
def record (nanoseconds : Bool) : ClassicRecord where
  seconds := UInt32.ofNat (saved.nanoseconds / 1000000000).toNat
  fraction := UInt32.ofNat <|
    if nanoseconds then (saved.nanoseconds % 1000000000).toNat
    else (saved.nanoseconds % 1000000000).toNat / 1000
  wire := saved.wire
  data := saved.data
  fits := by
    have hle := saved.length_le
    simp only [savedLimit, capacity] at *
    omega

/-- The packet block of a frame fits into a window. -/
theorem fits_packet : 32 + aligned saved.data.length + ([] : Bytes).length < capacity := by
  have hle := saved.length_le
  simp only [savedLimit, capacity, aligned, List.length_nil] at *
  omega

/-- The packet block of a frame, in either byte order. -/
def packet (order : ByteOrder) : Item order :=
  .packet 0 (Int64.ofInt saved.micros).toUInt64 saved.wire saved.data
    (List.replicate (aligned saved.data.length - saved.data.length) 0) []
    (padded_replicate saved.data) saved.fits_packet

/-- The record of a frame saves it, if the format can tell its time. -/
theorem saves_record (hstart : 0 ≤ saved.nanoseconds) (hend : saved.nanoseconds < recordTimeEnd)
    (nanoseconds : Bool) : (saved.record nanoseconds).Saves nanoseconds saved where
  ticks_eq := by
    have hseconds : (saved.nanoseconds / 1000000000).toNat < UInt32.size := by
      simp only [recordTimeEnd, UInt32.size] at *
      omega
    unfold ClassicRecord.ticks
    cases nanoseconds with
    | false =>
      have hfraction : (saved.nanoseconds % 1000000000).toNat / 1000 < UInt32.size := by
        simp only [UInt32.size]
        omega
      simp only [record, Bool.false_eq_true, if_false, UInt32.toNat_ofNat_of_lt' hseconds,
        UInt32.toNat_ofNat_of_lt' hfraction, micros, microNanos]
      omega
    | true =>
      have hfraction : (saved.nanoseconds % 1000000000).toNat < UInt32.size := by
        simp only [UInt32.size]
        omega
      simp only [record, if_true, UInt32.toNat_ofNat_of_lt' hseconds,
        UInt32.toNat_ofNat_of_lt' hfraction]
      omega
  wire_eq := rfl
  data_eq := rfl

/-- The packet block of a frame saves it, if 64 bits hold its microseconds. -/
theorem saves_packet (hstart : -2 ^ 63 ≤ saved.micros) (hend : saved.micros < 2 ^ 63)
    (order : ByteOrder) : (saved.packet order).Saves saved :=
  .packet <| by rw [Int64.toInt64_toUInt64, Int64.toInt_ofInt_of_le hstart hend]

end SavedFrame

namespace Layout

/-- Frames whose times a record can tell are saved in every classic format. -/
theorem exists_saves_classic (order : ByteOrder) (nanoseconds : Bool) (linkType : UInt16)
    {frames : List SavedFrame}
    (htimes : ∀ saved ∈ frames, 0 ≤ saved.nanoseconds ∧ saved.nanoseconds < recordTimeEnd) :
    ∃ header records, header.order = order ∧ header.nanoseconds = nanoseconds ∧
      (classic header records).Saves linkType frames := by
  refine ⟨⟨order, nanoseconds, blankVersions, 65535, linkType.toUInt32⟩,
    frames.map fun saved => saved.record nanoseconds, rfl, rfl, .classic ?_ ?_⟩
  · exact UInt16.toUInt16_toUInt32 linkType
  · apply List.forall₂_map_right_iff.mpr
    apply List.forall₂_same.mpr
    intro saved hsaved
    obtain ⟨hstart, hend⟩ := htimes saved hsaved
    exact saved.saves_record hstart hend nanoseconds

/-- Frames whose microseconds 64 bits hold are saved in blocks of either byte order. -/
theorem exists_saves_sections (order : ByteOrder) (linkType : UInt16)
    {frames : List SavedFrame}
    (htimes : ∀ saved ∈ frames, -2 ^ 63 ≤ saved.micros ∧ saved.micros < 2 ^ 63) :
    ∃ first, first.head.order = order ∧ (sections first []).Saves linkType frames := by
  refine ⟨⟨⟨order, blankVersions, [], by decide⟩, .interface linkType 0 65535 [] (by decide) ::
    frames.map fun saved => saved.packet order⟩, rfl, .sections ?_⟩
  apply List.forall₂_map_right_iff.mpr
  apply List.forall₂_same.mpr
  intro saved hsaved
  obtain ⟨hstart, hend⟩ := htimes saved hsaved
  exact saved.saves_packet hstart hend order

end Layout

/-! ## What such a file holds -/

/-- A block is the packet of a frame, under a framing. -/
def SavedFrame.IsKeptBy (linkType : UInt16) (saved : SavedFrame) (block : Block) : Prop :=
  ∃ content, block.content? linkType = some content ∧ saved.HeldIn linkType content

/-- The blocks of frames hold these frames. -/
theorem Heading.forall₂_contents (heading : Heading) {frames : List SavedFrame}
    {blocks : List Block}
    (h : List.Forall₂ (SavedFrame.IsKeptBy heading.linkType) frames blocks) :
    List.Forall₂ (SavedFrame.HeldIn heading.linkType) frames (heading.contents blocks) := by
  induction h with
  | nil => exact .nil
  | @cons saved block frames blocks hblock _ ih =>
    obtain ⟨content, hcontent, hheld⟩ := hblock
    have hafter : heading.after block = heading := by
      cases block <;> first | rfl | cases hcontent
    rw [Heading.contents, hcontent, hafter]
    exact .cons hheld ih

/-- The microseconds of a record are those of the frame that it saves. -/
theorem ClassicRecord.Saves.micros_eq {nanoseconds : Bool} {record : ClassicRecord}
    {saved : SavedFrame} (h : record.Saves nanoseconds saved) :
    record.toRecord.micros nanoseconds = saved.micros := by
  have hticks := h.ticks_eq
  unfold Record.micros
  cases nanoseconds with
  | false =>
    simp only [Bool.false_eq_true, if_false, ticks] at hticks ⊢
    rw [← hticks]
    rfl
  | true =>
    simp only [if_true, ticks] at hticks ⊢
    rw [SavedFrame.micros, ← hticks, microNanos]
    simp only [ClassicRecord.toRecord]
    omega

/-- A record is the packet of the frame that it saves. -/
theorem ClassicRecord.Saves.isKeptBy {nanoseconds : Bool} {record : ClassicRecord}
    {saved : SavedFrame} (h : record.Saves nanoseconds saved) (linkType : UInt16) :
    saved.IsKeptBy linkType (record.toRecord.block nanoseconds) := by
  refine ⟨_, rfl, ?_, ?_, h.wire_eq, rfl, ?_⟩
  · have hmicros := h.micros_eq
    have hseconds := record.seconds.toNat_lt
    have hfraction := record.fraction.toNat_lt
    have hbound : 0 ≤ record.toRecord.micros nanoseconds ∧
        record.toRecord.micros nanoseconds < 2 ^ 63 := by
      simp only [Record.micros, ClassicRecord.toRecord]
      split <;> omega
    show (Int64.ofInt _).toInt = _
    rw [Int64.toInt_ofInt_of_le (by omega) hbound.2, hmicros]
  · rw [← h.data_eq]
    exact record.toNat_captured
  · have hall : record.data.take record.captured.toNat = record.data := by
      rw [record.toNat_captured, List.take_length]
    exact hall.trans h.data_eq

/-- A packet block is the packet of the frame that it saves. -/
theorem Item.Saves.isKeptBy {order : ByteOrder} {item : Item order} {saved : SavedFrame}
    (h : item.Saves saved) (linkType : UInt16) : saved.IsKeptBy linkType item.block := by
  cases h with
  | packet htime =>
    refine ⟨_, rfl, htime, saved.toNat_length, rfl, rfl, ?_⟩
    show (saved.data ++ _).take (UInt32.ofNat saved.data.length).toNat = saved.data
    rw [saved.toNat_length]
    exact List.take_left

/-- A file holds the frames that it saves. -/
theorem Layout.Saves.forall₂_contents {linkType : UInt16} {frames : List SavedFrame}
    {layout : Layout} (h : layout.Saves linkType frames) :
    List.Forall₂ (SavedFrame.HeldIn linkType) frames layout.contents := by
  cases h with
  | @classic header records hlink hrecords =>
    subst hlink
    apply (Layout.classic header records).heading.forall₂_contents
    exact List.forall₂_map_right_iff.mpr (hrecords.imp fun saved record h => h.isKeptBy _)
  | @sections head reserved snapLength options fits packets hpackets =>
    let heading : Heading := ⟨.blocks head.order, linkType, snapLength⟩
    have hcontents : Layout.contents (.sections
        ⟨head, .interface linkType reserved snapLength options fits :: packets⟩ []) =
          heading.contents (packets.map Item.block) := by
      simp only [Layout.contents, Layout.blocks, Layout.heading, List.flatMap_cons,
        List.flatMap_nil, List.append_nil, Section.blocks, List.map_cons, Heading.contents,
        Heading.after, Item.block, Block.content?, Option.toList_none, List.nil_append, heading]
    rw [hcontents]
    apply heading.forall₂_contents
    exact List.forall₂_map_right_iff.mpr (hpackets.imp fun saved packet h => h.isKeptBy _)

/-! ## Reading saved frames -/

namespace File

open CaptureSource

/-- A file that saves frames is opened and read: every receiver that refuses none is given
the frames, numbered from one, as far as it asks for them, and there are no others. -/
theorem openAt_saved {layout : Layout} {linkType : UInt16} {frames : List SavedFrame}
    (h : layout.Saves linkType frames) (path : String) :
    ∃ (file : File) (contents : List FrameContent),
      openAt path (.ok (.octets layout.octets)) = .ok file ∧
      List.Forall₂ (SavedFrame.HeldIn linkType) frames contents ∧
      ∀ max, ∃ ended : File,
        (∀ {β : Type} (step : β → Frame → β) (value : β),
          process (fun value frame => (step value frame, none)) max value file =
            ⟨(numberedFrom 1 (contents.take max)).foldl step value, ended,
              .ok (min max frames.length)⟩) ∧
        (frames.length ≤ max → (next ended).1 = .ok none) := by
  obtain ⟨file, hopen, hholds⟩ := openAt_octets layout path
  have hheld := h.forall₂_contents
  refine ⟨file, layout.contents, hopen, hheld, fun max => ?_⟩
  obtain ⟨ended, hreads, hended⟩ := handsOutHeld.exists_reads max hholds
  refine ⟨ended, fun step value => ?_, fun hmax => ?_⟩
  · rw [process_of_reads step hreads value, length_numberedFrom, List.length_take,
      hheld.length_eq]
  · rw [List.drop_eq_nil_of_le (by rw [← hheld.length_eq]; exact hmax)] at hended
    obtain ⟨final, hfinished, -⟩ := handsOutHeld.finished hended
    rw [next, hfinished]

/-- A frame of three octets, a bit more than a second after the start of time. -/
def instant : SavedFrame :=
  ⟨1234567891, 60, [1, 2, 3], by decide⟩

/-- A file in nanoseconds that saves a frame hands it out with its microseconds. -/
theorem openAt_instant :
    let layout := Layout.classic ⟨.big, true, blankVersions, 65535, 113⟩ [instant.record true]
    layout.Saves 113 [instant] ∧ ∃ (file : File) (content : FrameContent),
      openAt "instant.pcap" (.ok (.octets layout.octets)) = .ok file ∧
      instant.HeldIn 113 content ∧ content.timestamp.toInt = 1234567 ∧
      (batch 2 file).value = #[content.numbered 1] := by
  intro layout
  have hsaves : layout.Saves 113 [instant] :=
    .classic rfl (.cons (instant.saves_record (by decide) (by decide) true) .nil)
  obtain ⟨file, contents, hopen, hheld, hread⟩ := openAt_saved hsaves "instant.pcap"
  cases hheld with
  | @cons _ content _ _ hcontent hnone =>
    cases hnone
    obtain ⟨ended, hrun, -⟩ := hread 2
    refine ⟨hsaves, file, content, hopen, hcontent, hcontent.timestamp_eq, ?_⟩
    rw [batch, hrun]
    rfl

end File

end CaptureFlow.Savefile
