import CaptureFlow.Proofs.Savefile.Opening
import Mathlib.Data.List.Forall2

/-!
# Packets and their interfaces

A section describes interfaces, and its packets name theirs by its place among those
described in the section so far; a packet without a timestamp belongs to the first one. An
interface says in what units its packets are timed, and how much of them is captured at most.
A reader hands out the packets of all sections in their order, and passes on what stands in
their own blocks.
-/

namespace CaptureFlow.Savefile

/-- What an interface says of its packets. -/
structure Interface where
  /-- The byte order of its section. -/
  order : ByteOrder
  /-- The octets captured of a packet at most. -/
  snapLength : UInt32
  /-- Its options. -/
  options : Bytes

/-- A packet as it stands in its block. -/
inductive PacketBlock where
  /-- A packet with a count of ticks, padded to whole words. -/
  | enhanced (ticks : UInt64) (wire : UInt32) (data padding : Bytes)
      (fits : data.length < capacity)
  /-- A packet without a timestamp, whose data is padded already. -/
  | simple (wire : UInt32) (data : Bytes) (fits : data.length < capacity)

/-- What a reader makes of a packet block under a framing. -/
def PacketBlock.content (linkType : UInt16) : PacketBlock → FrameContent
  | enhanced ticks wire data padding _ =>
    ⟨ticks.toInt64, UInt32.ofNat data.length, wire, linkType, data ++ padding⟩
  | simple wire data _ => ⟨0, UInt32.ofNat data.length, wire, linkType, data⟩

/-- A packet of a file, and its interface if its section has described that. -/
structure Sent where
  /-- The interface. -/
  own : Option Interface
  /-- The packet. -/
  block : PacketBlock

/-- The packets among blocks of a section behind the descriptions of interfaces. -/
def sentBehind {order : ByteOrder} (described : List Interface) : List (Item order) → List Sent
  | [] => []
  | .interface _ _ snapLength options _ :: items =>
    sentBehind (described ++ [⟨order, snapLength, options⟩]) items
  | .packet device ticks wire data padding _ _ fits :: items =>
    ⟨described[device.toNat]?,
      .enhanced ticks wire data padding (by simp only [aligned] at fits; omega)⟩ ::
        sentBehind described items
  | .simplePacket wire data fits :: items =>
    ⟨described[0]?, .simple wire data (by omega)⟩ :: sentBehind described items
  | .passed _ _ _ :: items => sentBehind described items

/-- The packets of a section. -/
def Section.sent (written : Section) : List Sent :=
  sentBehind [] written.items

/-- The packets of the sections of a file. -/
def sentIn (sections : List Section) : List Sent :=
  sections.flatMap Section.sent

/-- A section block without options fits into a window. -/
theorem SectionHead.fits_plain : 28 + ([] : Bytes).length < capacity := by
  decide

/-- An interface block without options fits into a window. -/
theorem Interface.fits_plain : 20 + ([] : Bytes).length < capacity := by
  decide

/-- The block that starts a section in little-endian order, without a length or options. -/
def plainHead : SectionHead :=
  ⟨.little, ⟨[1, 0, 0, 0] ++ List.replicate 8 255, rfl⟩, [], SectionHead.fits_plain⟩

/-- A frame passes on a packet block, under its own number and some framing. -/
def Sent.PassedOn (frame : Frame) (sent : Sent) : Prop :=
  frame = (sent.block.content frame.linkType).numbered frame.number

/-! ## What a file holds -/

/-- The blocks of a section hold what stands in its packets. -/
theorem forall₂_items {order : ByteOrder} (items : List (Item order)) {blocks : List Block}
    {others : List Sent}
    (hrest : ∀ heading : Heading, List.Forall₂
      (fun content sent => content = sent.block.content content.linkType)
      (heading.contents blocks) others)
    (heading : Heading) (described : List Interface) :
    List.Forall₂ (fun content sent => content = sent.block.content content.linkType)
      (heading.contents (items.map Item.block ++ blocks))
      (sentBehind described items ++ others) := by
  induction items generalizing heading described with
  | nil => exact hrest heading
  | cons item items ih =>
    cases item with
    | interface linkType reserved snapLength options fits => exact ih _ _
    | packet device ticks wire data padding options padded fits =>
      exact .cons rfl (ih heading described)
    | simplePacket wire data fits => exact .cons rfl (ih heading described)
    | passed number content isPassed => exact ih heading described

/-- The sections of a file hold what stands in their packets. -/
theorem forall₂_sections (sections : List Section) (heading : Heading) :
    List.Forall₂ (fun content sent => content = sent.block.content content.linkType)
      (heading.contents (sections.flatMap Section.blocks)) (sentIn sections) := by
  induction sections generalizing heading with
  | nil => exact .nil
  | cons first others ih =>
    rw [sentIn, List.flatMap_cons, List.flatMap_cons]
    exact forall₂_items first.items ih { heading with encoding := .blocks first.head.order } []

/-- Frames that are numbered pass on what their contents do. -/
theorem forall₂_numberedFrom {contents : List FrameContent} {sent : List Sent}
    (h : List.Forall₂ (fun content sent => content = sent.block.content content.linkType)
      contents sent) (number : Nat) :
    List.Forall₂ Sent.PassedOn (numberedFrom number contents) sent := by
  induction h generalizing number with
  | nil => exact .nil
  | cons hcontent _ ih =>
    refine .cons ?_ (ih (number + 1))
    exact congrArg (FrameContent.numbered · number) hcontent

/-- A file made of blocks is opened, and the frames read from it pass on its packets. -/
theorem File.reads_sent (first : Section) (others : List Section) (path : String) (max : Nat) :
    ∃ file next frames,
      openAt path (.ok (.octets (Layout.sections first others).octets)) = .ok file ∧
      CaptureSource.Reads max file frames next ∧
      List.Forall₂ Sent.PassedOn frames ((sentIn (first :: others)).take max) := by
  obtain ⟨file, hopen, hholds⟩ := openAt_octets (.sections first others) path
  obtain ⟨next, hreads, -⟩ := File.handsOutHeld.exists_reads max hholds
  have hcontents := forall₂_sections (first :: others) ⟨.blocks .little, 1, 65535⟩
  exact ⟨file, next, _, hopen, hreads, forall₂_numberedFrom (List.forall₂_take max hcontents) 1⟩

end CaptureFlow.Savefile
