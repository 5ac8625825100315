import CaptureFlow.Proofs.Capture.Decoding
import CaptureFlow.Proofs.Savefile.Opening

/-!
# Framing of the packets of a section

A section describes interfaces, each with a framing, and its packets name theirs by its
place among those described in the section so far. A reader remembers the framing that was
described last in the whole file, and frames every packet by it. So a packet is framed, and
decoded, as its own interface says if that interface was described last, or if the framing
happens to be the same.
-/

namespace CaptureFlow.Savefile

/-- What a block of a file says of the framing of packets. -/
inductive Notice where
  /-- A section starts, in which no interface is described yet. -/
  | sectionStart
  /-- The next interface of the section has a framing. -/
  | interface (linkType : UInt16)
  /-- A packet belongs to the interface with a place in the section. -/
  | packet (device : Nat)

/-- What a block of a section says of the framing of packets. A packet that names no
interface belongs to the first one. -/
def Item.notice? {order : ByteOrder} : Item order → Option Notice
  | interface linkType _ _ _ _ => some (.interface linkType)
  | packet device _ _ _ _ _ _ _ => some (.packet device.toNat)
  | simplePacket _ _ _ => some (.packet 0)
  | passed _ _ _ => none

/-- What the blocks of a section say of the framing of packets. -/
def Section.notices (written : Section) : List Notice :=
  .sectionStart :: written.items.filterMap Item.notice?

/-- The framings that a packet can be taken to have. -/
structure PacketFraming where
  /-- The framing of its own interface, if its section has described it. -/
  own : Option UInt16
  /-- The framing that was described last. -/
  latest : UInt16
  deriving DecidableEq

/-- The framings of packets behind others of which `latest` was described last, in a section
that has described interfaces with the framings `described`. -/
def framings (latest : UInt16) (described : List UInt16) : List Notice → List PacketFraming
  | [] => []
  | .sectionStart :: notices => framings latest [] notices
  | .interface linkType :: notices => framings linkType (described ++ [linkType]) notices
  | .packet device :: notices => ⟨described[device]?, latest⟩ :: framings latest described notices

/-- The framings of the packets of a file. Before any interface is described, it is taken
for one of Ethernet. -/
def framingsOf (sections : List Section) : List PacketFraming :=
  framings 1 [] (sections.flatMap Section.notices)

/-! ## The framing described last -/

/-- The packets of a section are framed as was described last. -/
theorem linkType_items {order : ByteOrder} (items : List (Item order)) {blocks : List Block}
    {notices : List Notice}
    (hrest : ∀ (heading : Heading) (described : List UInt16),
      (heading.contents blocks).map FrameContent.linkType =
        (framings heading.linkType described notices).map PacketFraming.latest)
    (heading : Heading) (described : List UInt16) :
    (heading.contents (items.map Item.block ++ blocks)).map FrameContent.linkType =
      (framings heading.linkType described (items.filterMap Item.notice? ++ notices)).map
        PacketFraming.latest := by
  induction items generalizing heading described with
  | nil => exact hrest heading described
  | cons item items ih =>
    cases item with
    | interface linkType reserved snapLength options fits =>
      exact ih { heading with linkType, snapLength } (described ++ [linkType])
    | packet device timestamp wire data padding options padded fits =>
      exact congrArg (heading.linkType :: ·) (ih heading described)
    | simplePacket wire data fits =>
      exact congrArg (heading.linkType :: ·) (ih heading described)
    | passed number content isPassed => exact ih heading described

/-- The packets of a file made of blocks are framed as was described last. -/
theorem linkType_sections (sections : List Section) (heading : Heading)
    (described : List UInt16) :
    (heading.contents (sections.flatMap Section.blocks)).map FrameContent.linkType =
      (framings heading.linkType described (sections.flatMap Section.notices)).map
        PacketFraming.latest := by
  induction sections generalizing heading described with
  | nil => rfl
  | cons first others ih =>
    rw [List.flatMap_cons, List.flatMap_cons]
    exact linkType_items first.items ih { heading with encoding := .blocks first.head.order } []

/-- Numbering frames keeps their framing. -/
theorem linkType_numberedFrom (number : Nat) (contents : List FrameContent) :
    (numberedFrom number contents).map Frame.linkType =
      contents.map FrameContent.linkType := by
  induction contents generalizing number with
  | nil => rfl
  | cons content contents ih => exact congrArg (content.linkType :: ·) (ih (number + 1))

/-- The frames read from a file made of blocks are framed as was described last, and a
capture decodes each of them by that framing. They have the framings of their own
interfaces just if these are the ones described last. -/
theorem File.reads_latest (first : Section) (others : List Section) (path : String)
    (settings : Decoder) (max : Nat) :
    ∃ file next frames,
      openAt path (.ok (.octets (Layout.sections first others).octets)) = .ok file ∧
      CaptureSource.Reads max file frames next ∧
      frames.map Frame.linkType =
        ((framingsOf (first :: others)).take max).map PacketFraming.latest ∧
      (CaptureSource.capture settings max file).value.1.toList =
        frames.filterMap (fun frame => (settings.decodeFrame frame).toOption) ∧
      (frames.map (fun frame => some frame.linkType) =
          ((framingsOf (first :: others)).take max).map PacketFraming.own ↔
        ∀ framing ∈ (framingsOf (first :: others)).take max,
          framing.own = some framing.latest) := by
  obtain ⟨file, hopen, hholds⟩ := openAt_octets (.sections first others) path
  obtain ⟨next, hreads, -⟩ := File.handsOutHeld.exists_reads max hholds
  obtain ⟨packets, summary, hcapture, heach⟩ := CaptureSource.capture_of_reads settings hreads
  have hlatest : (numberedFrom 1 ((Layout.sections first others).contents.take max)).map
      Frame.linkType = ((framingsOf (first :: others)).take max).map PacketFraming.latest := by
    rw [linkType_numberedFrom, List.map_take, List.map_take]
    exact congrArg (List.take max) (linkType_sections (first :: others) ⟨.blocks .little, 1, 65535⟩ [])
  refine ⟨file, next, _, hopen, hreads, hlatest, ?_, ?_⟩
  · rw [hcapture]
    exact heach.packets_eq
  · have hsome : (numberedFrom 1 ((Layout.sections first others).contents.take max)).map
        (fun frame => some frame.linkType) =
          ((framingsOf (first :: others)).take max).map fun framing => some framing.latest := by
      have hmap := congrArg (List.map some) hlatest
      rw [List.map_map, List.map_map] at hmap
      exact hmap
    rw [hsome, List.map_inj_left]
    exact ⟨fun h framing hmem => (h framing hmem).symm, fun h framing hmem => (h framing hmem).symm⟩

/-- A section that describes an interface of Ethernet and a cooked one, in front of a packet
of the first. -/
def twoInterfaces : Section :=
  ⟨⟨.little, ⟨[1, 0, 0, 0, 255, 255, 255, 255, 255, 255, 255, 255], rfl⟩, [], by decide⟩,
    [.interface 1 0 65535 [] (by decide), .interface 113 0 65535 [] (by decide),
      .packet 0 7 16 (List.replicate 16 0) [] [] rfl (by decide)]⟩

/-- The packet of the first of two interfaces is framed and decoded as one of the second. -/
theorem twoInterfaces_latest :
    framingsOf [twoInterfaces] = [⟨some 1, 113⟩] ∧
      ∃ file next, File.openAt "two" (.ok (.octets (Layout.sections twoInterfaces []).octets)) =
          .ok file ∧
        CaptureSource.Reads 1 file [⟨1, 7, 16, 16, 113, List.replicate 16 0⟩] next ∧
        (CaptureSource.capture {} 1 file).value.1.toList =
          [⟨7, 16, 16, [.cooked ⟨0, 0, 0, ⟨List.replicate 8 0, rfl⟩, 0⟩]⟩] := by
  have hcontents : (Layout.sections twoInterfaces []).contents =
      [⟨7, 16, 16, 113, List.replicate 16 0⟩] := by
    decide
  obtain ⟨file, hopen, hholds⟩ := File.openAt_octets (.sections twoInterfaces []) "two"
  rw [hcontents] at hholds
  obtain ⟨next, hreads, -⟩ := File.handsOutHeld.exists_reads 1 hholds
  obtain ⟨packets, summary, hcapture, heach⟩ := CaptureSource.capture_of_reads {} hreads
  have hpackets : ([⟨1, 7, 16, 16, 113, List.replicate 16 0⟩] : List Frame).filterMap
      (fun frame => (Decoder.decodeFrame {} frame).toOption) =
        [⟨7, 16, 16, [.cooked ⟨0, 0, 0, ⟨List.replicate 8 0, rfl⟩, 0⟩]⟩] := by
    decide
  refine ⟨by decide, file, next, hopen, hreads, ?_⟩
  rw [hcapture]
  exact heach.packets_eq.trans hpackets

end CaptureFlow.Savefile
