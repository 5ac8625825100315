import CaptureFlow.Proofs.Capture.Alike
import CaptureFlow.Proofs.Savefile.Sight

/-!
# Readers that are alike

Two readers that have the same octets in front, have read the same headers and have handed
out as many frames, go on in the same way, however the octets come into view. There has to
be room wherever the blocks lead to; nothing else is asked of the octets, which need not be
those of a capture file.
-/

namespace CaptureFlow.Savefile

/-- What is told of a file once its header is. -/
def Heading.told : Heading → Heading
  | ⟨.classic header false nanoseconds, _, _⟩ =>
    ⟨.classic header true nanoseconds, header.linkType, header.snapLength⟩
  | heading => heading

/-- Telling the header changes nothing of how blocks are read. -/
theorem Heading.front_told (heading : Heading) :
    heading.told.encoding.front = heading.encoding.front := by
  unfold told
  split <;> rfl

namespace Reader

/-- A reader that has told the header has told it of its heading. -/
theorem tellHeader_eq (reader : Reader) :
    reader.tellHeader = reader.withHeading reader.heading.told := by
  obtain ⟨encoding, window, frames, linkType, snapLength⟩ := reader
  cases encoding with
  | classic header told nanoseconds => cases told <;> rfl
  | blocks order => rfl

/-! ## Steps of a walk -/

section

variable (reader : Reader)

/-- A block that contradicts its format is not read. -/
theorem advanceBlock_broken {fault : BlockFault}
    (h : reader.encoding.front reader.window.held = .broken fault) :
    reader.advanceBlock = reader.failed (.block fault) := by
  rw [advanceBlock]
  split
  all_goals
    rename_i hfront
    rw [h] at hfront
    cases hfront
  rfl

/-- A block for which there is no room is not read. -/
theorem advanceBlock_full {missing : Nat}
    (h : reader.encoding.front reader.window.held = .incomplete missing)
    (hexhausted : reader.window.isExhausted = false)
    (hfull : capacity ≤ reader.window.held.length + missing) :
    reader.advanceBlock = reader.failed (.block .tooLarge) := by
  rw [advanceBlock]
  split
  all_goals
    rename_i hfront
    rw [h] at hfront
    cases hfront
  rw [dif_neg (by rw [hexhausted]; exact Bool.false_ne_true), if_pos hfull]

end

/-- A reader has the octets behind a block in front once it has walked over it. -/
theorem Views.behind {reader : Reader} {bytes : Bytes} (h : reader.Views bytes) {block : Block}
    {size : Nat} (hfront : reader.encoding.front reader.window.held = .block block size)
    (heading : Heading) :
    ((reader.withHeading heading).behind size).Views (bytes.drop size) := by
  obtain ⟨hpositive, hsize⟩ := reader.encoding.readsOn.size_le (Nat.zero_le _) hfront
  refine ⟨h.shows.behind_of_le hpositive hsize, ?_, ?_⟩
  · exact Nat.le_trans (reader.window.length_behind_le size) h.length_le
  · intro hexhausted
    obtain ⟨missing, hmissing, -⟩ := h.ended hexhausted
    rw [h.shows.held_eq hexhausted, hmissing] at hfront
    cases hfront

/-- Two readers that cannot be told apart, and have some octets in front. -/
structure AlikeAt (bytes : Bytes) (reader other : Reader) : Prop where
  /-- They have read the same headers. -/
  heading_eq : reader.heading = other.heading
  /-- They have handed out as many frames. -/
  frames_eq : reader.frames = other.frames
  /-- The one has these octets in front. -/
  views : reader.Views bytes
  /-- So has the other. -/
  otherViews : other.Views bytes
  /-- There is room wherever the blocks lead to. -/
  roomy : reader.encoding.IsRoomy bytes

/-- Two readers that cannot be told apart. -/
def Alike (reader other : Reader) : Prop :=
  ∃ bytes, AlikeAt bytes reader other

namespace AlikeAt

variable {bytes : Bytes} {reader other : Reader} (h : AlikeAt bytes reader other)

include h

/-- Readers that are alike read blocks in the same way. -/
theorem encoding_eq : reader.encoding = other.encoding :=
  congrArg Heading.encoding h.heading_eq

/-- Readers that are alike have told the same framing. -/
theorem linkType_eq : reader.linkType = other.linkType :=
  congrArg Heading.linkType h.heading_eq

/-- Readers that are alike have told the same snap length. -/
theorem snapLength_eq : reader.snapLength = other.snapLength :=
  congrArg Heading.snapLength h.heading_eq

/-- Telling the headers of readers that are alike keeps them so. -/
theorem told : AlikeAt bytes reader.tellHeader other.tellHeader := by
  have htold : ∀ {reader : Reader}, reader.Views bytes →
      (reader.withHeading reader.heading.told).Views bytes := by
    intro reader hviews
    refine ⟨hviews.shows, hviews.length_le, ?_⟩
    intro hexhausted
    obtain ⟨missing, hmissing, hfits⟩ := hviews.ended hexhausted
    have hsame : reader.heading.told.encoding.front bytes = .incomplete missing := by
      rw [reader.heading.front_told]
      exact hmissing
    exact ⟨missing, hsame, hfits⟩
  have hheading : reader.heading.told = other.heading.told := congrArg Heading.told h.heading_eq
  rw [tellHeader_eq, tellHeader_eq]
  exact ⟨hheading, h.frames_eq, htold h.views, htold h.otherViews,
    h.roomy.of_front_eq reader.heading.front_told.symm⟩

/-- Counting a frame keeps readers alike. -/
theorem counted : AlikeAt bytes { reader with frames := reader.frames + 1 }
    { other with frames := other.frames + 1 } where
  heading_eq := h.heading_eq
  frames_eq := congrArg Nat.succ h.frames_eq
  views := ⟨h.views.shows, h.views.length_le, h.views.ended⟩
  otherViews := ⟨h.otherViews.shows, h.otherViews.length_le, h.otherViews.ended⟩
  roomy := h.roomy

/-- Walking over the same block keeps readers alike. -/
theorem behind {block : Block} {size : Nat}
    (hfront : reader.encoding.front reader.window.held = .block block size)
    (hfront' : other.encoding.front other.window.held = .block block size) :
    AlikeAt (bytes.drop size)
      ((reader.withHeading (reader.heading.after block)).behind size)
      ((other.withHeading (other.heading.after block)).behind size) where
  heading_eq := congrArg (Heading.after · block) h.heading_eq
  frames_eq := h.frames_eq
  views := h.views.behind hfront _
  otherViews := h.otherViews.behind hfront' _
  roomy := by
    show (reader.heading.after block).encoding.IsRoomy (bytes.drop size)
    rw [reader.heading.encoding_after]
    exact h.roomy.behind (h.views.front_take hfront rfl)

/-- Readers that are told the same packet hand out the same frame, and stay alike. -/
theorem deliver {timestamp : Timestamp} {captured wire : UInt32} {data : Bytes} {size : Nat}
    (hfront : reader.encoding.front reader.window.held =
      .block (.packet timestamp captured wire data) size)
    (hfront' : other.encoding.front other.window.held =
      .block (.packet timestamp captured wire data) size) :
    (reader.deliver timestamp captured wire data size).Corresponds Alike
      (other.deliver timestamp captured wire data size) := by
  have hframe : (⟨reader.frames + 1, timestamp, captured, wire, reader.linkType, data⟩ : Frame) =
      ⟨other.frames + 1, timestamp, captured, wire, other.linkType, data⟩ := by
    rw [h.frames_eq, h.linkType_eq]
  rw [Reader.deliver, Reader.deliver]
  dsimp only
  rw [hframe]
  exact .frame _ ⟨bytes, h.counted⟩ ⟨bytes.drop size, h.counted.behind hfront hfront'⟩

/-- Readers that are alike bring enough into view and stay alike. -/
theorem exists_settled : ∃ first second : Reader, AlikeAt bytes first second ∧
    (∃ sight, first.ComesTo bytes sight ∧ second.ComesTo bytes sight) ∧
    reader.advanceBlock = first.advanceBlock ∧ other.advanceBlock = second.advanceBlock := by
  have hroom := h.roomy _ _ (.here _ _)
  have hroom' := hroom
  rw [h.encoding_eq] at hroom'
  obtain ⟨window, hready, hsettled, hadvance⟩ := h.views.exists_settled
  obtain ⟨window', hready', hsettled', hadvance'⟩ := h.otherViews.exists_settled
  have hcomes := hready.comesTo_sight hsettled hroom
  have hcomes' : { other with window := window' }.ComesTo bytes (reader.encoding.sight bytes) := by
    rw [h.encoding_eq]
    exact hready'.comesTo_sight hsettled' hroom'
  exact ⟨{ reader with window }, { other with window := window' },
    ⟨h.heading_eq, h.frames_eq, hready, hready', h.roomy⟩, ⟨_, hcomes, hcomes'⟩, hadvance,
    hadvance'⟩

end AlikeAt

/-- Readers that are alike come to the same frame, end or fault, and stay alike. -/
theorem AlikeAt.advanceBlock {bytes : Bytes} {reader other : Reader}
    (h : AlikeAt bytes reader other) :
    reader.advanceBlock.Corresponds Alike other.advanceBlock := by
  -- every block that is passed leaves less in front
  induction hlength : bytes.length using Nat.strongRecOn generalizing reader other bytes with
  | _ length ih =>
    obtain ⟨first, second, hready, ⟨sight, hcomes, hcomes'⟩, hadvance, hadvance'⟩ :=
      h.exists_settled
    have halike : first.Alike second := ⟨bytes, hready⟩
    rw [hadvance, hadvance']
    cases hcomes with
    | @told parsed hfront htold =>
      cases hcomes' with
      | told hfront' _ =>
        cases parsed with
        | incomplete missing => cases htold
        | broken fault =>
          rw [advanceBlock_broken first hfront, advanceBlock_broken second hfront']
          exact .failed _ halike
        | block block size =>
          cases hpacket : block.isPacket with
          | true =>
            cases block with
            | packet timestamp captured wire data =>
              rw [advanceBlock_packet first hfront, advanceBlock_packet second hfront']
              exact hready.deliver hfront hfront'
            | sectionStart order => cases hpacket
            | interface linkType snapLength => cases hpacket
            | other => cases hpacket
          | false =>
            rw [advanceBlock_passed first hfront hpacket,
              advanceBlock_passed second hfront' hpacket]
            apply ih (bytes.drop size).length _ (hready.behind hfront hfront') rfl
            have hsize := first.encoding.readsOn.size_le (Nat.zero_le _) hfront
            have hheld := hready.views.shows.held_isPrefix.length_le
            rw [List.length_drop]
            omega
    | ended hfront hheld hexhausted =>
      cases hcomes' with
      | ended hfront' hheld' hexhausted' =>
        rw [← hheld] at hfront
        rw [← hheld'] at hfront'
        rw [advanceBlock_over first hfront hexhausted,
          advanceBlock_over second hfront' hexhausted', hheld, hheld']
        split
        · exact .finished halike
        · exact .failed _ halike
    | full hfront hexhausted hfull =>
      cases hcomes' with
      | full hfront' hexhausted' hfull' =>
        rw [advanceBlock_full first hfront hexhausted hfull,
          advanceBlock_full second hfront' hexhausted' hfull']
        exact .failed _ halike

/-- Readers that are alike take the same steps. -/
theorem stepsAlike : CaptureSource.StepsAlike Alike := by
  intro reader other h
  obtain ⟨bytes, hbytes⟩ := h
  exact hbytes.told.advanceBlock

end Reader

namespace File

/-- Two files of one path whose readers cannot be told apart. -/
def Alike (file other : File) : Prop :=
  file.path = other.path ∧ file.reader.Alike other.reader

/-- Files that are alike take the same steps. -/
theorem stepsAlike : CaptureSource.StepsAlike Alike := by
  intro file other ⟨hpath, hreader⟩
  have hstep : ((CaptureSource.advance file.reader).map file.withReader).Corresponds Alike
      ((CaptureSource.advance other.reader).map other.withReader) :=
    (Reader.stepsAlike hreader).map fun _ _ halike => ⟨hpath, halike⟩
  rw [← advance_withReader, ← advance_withReader] at hstep
  exact hstep

/-- Nothing that is read from files that are alike tells them apart. -/
theorem Alike.readsAlike {file other : File} (h : file.Alike other) :
    CaptureSource.ReadsAlike file other := by
  refine stepsAlike.readsAlike ?_ h
  intro file other ⟨hpath, bytes, hbytes⟩
  have hsnapLength := hbytes.snapLength_eq
  have hframes := hbytes.frames_eq
  refine ⟨hbytes.linkType_eq, ?_, ?_⟩
  · show CaptureMetadata.ofFile file.path file.reader.snapLength = _
    rw [hpath, hsnapLength]
    rfl
  · show CaptureStats.ofCount (min file.reader.frames (UInt32.size - 1)) = _
    rw [hframes]
    rfl

end File

end CaptureFlow.Savefile
