import CaptureFlow.Proofs.Capture.Numbering
import CaptureFlow.Proofs.Savefile.Window
import CaptureFlow.Savefile.File

/-!
# Walking over a capture file

A file is written block by block. A block is read whole from what stands in front of a
window, and any part of it that ends early asks for no more than the rest of it; so the
reader brings more of the file into view until the block is, and then walks over it. What
it hands out is told by the blocks alone, not by the window. A frame that is refused is
still in front.
-/

namespace CaptureFlow.Savefile

/-! ## Blocks in front -/

/-- The octets are written for a block. -/
structure Encoding.Writes (encoding : Encoding) (octets : Bytes) (block : Block) : Prop where
  /-- They are read as the block, whatever follows them. -/
  complete : ∀ rest, encoding.front (octets ++ rest) = .block block octets.length
  /-- A part of them is incomplete, and does not ask for more than there is. -/
  cut : ∀ front, front <+: octets → front ≠ octets →
    ∃ missing, encoding.front front = .incomplete missing ∧
      front.length + missing ≤ octets.length
  /-- They fit into a window. -/
  fits : octets.length < capacity

/-- No block is written without octets. -/
theorem Encoding.Writes.ne_nil {encoding : Encoding} {octets : Bytes} {block : Block}
    (h : encoding.Writes octets block) : octets ≠ [] := by
  intro hnil
  obtain ⟨missing, hfront⟩ := encoding.front_nil
  have hblock := h.complete []
  rw [hnil, List.append_nil, hfront] at hblock
  cases hblock

/-- Where nothing is in view, a reader asks for no more than the header of a block. -/
theorem Encoding.front_nil_lt (encoding : Encoding) :
    ∃ missing, encoding.front [] = .incomplete missing ∧ missing < capacity := by
  cases encoding with
  | classic header told nanoseconds =>
    refine ⟨header.recordHeaderLength, ?_, ?_⟩
    · cases h : header.isExtended <;>
        simp [front, Record.read, FileHeader.recordHeaderLength, h, Parsed.map]
    · unfold FileHeader.recordHeaderLength
      split <;> decide
  | blocks order => exact ⟨4, rfl, by decide⟩

/-- Whether a block holds a packet. -/
def Block.isPacket : Block → Bool
  | packet _ _ _ _ => true
  | sectionStart _ | interface _ _ | other => false

/-- The frame of a packet block whose framing has a number. -/
def Block.content? (linkType : UInt16) : Block → Option FrameContent
  | packet timestamp captured wire data => some ⟨timestamp, captured, wire, linkType, data⟩
  | sectionStart _ | interface _ _ | other => none

/-! ## Headings -/

/-- What the headers that were read tell. -/
structure Heading where
  /-- How the blocks are read. -/
  encoding : Encoding
  /-- The framing of the packets. -/
  linkType : UInt16
  /-- The octets captured of a packet at most. -/
  snapLength : UInt32

/-- What is told once a block is read. -/
def Heading.after (heading : Heading) : Block → Heading
  | .sectionStart order => { heading with encoding := .blocks order }
  | .interface linkType snapLength => { heading with linkType, snapLength }
  | .packet _ _ _ _ | .other => heading

/-- The octets hold blocks under a heading, with the packets of these frames. -/
inductive Heading.Contains : Heading → Bytes → List FrameContent → Prop where
  /-- There are no more blocks. -/
  | nil (heading : Heading) : Contains heading [] []
  /-- A block stands in front of others, which are read under what it tells. -/
  | block {heading : Heading} {octets bytes : Bytes} {block : Block}
      {contents : List FrameContent} (hblock : heading.encoding.Writes octets block)
      (hrest : Contains (heading.after block) bytes contents) :
      Contains heading (octets ++ bytes)
        ((block.content? heading.linkType).toList ++ contents)

/-- Whether the header of a file has been told. -/
def Encoding.isTold : Encoding → Bool
  | classic _ told _ => told
  | blocks _ => true

namespace Reader

/-- What the headers read up to now tell. -/
def heading (reader : Reader) : Heading :=
  ⟨reader.encoding, reader.linkType, reader.snapLength⟩

/-- The reader that has been told a heading. -/
def withHeading (reader : Reader) (heading : Heading) : Reader :=
  { reader with
    encoding := heading.encoding, linkType := heading.linkType
    snapLength := heading.snapLength }

/-- A header that has been told is not told again. -/
theorem tellHeader_of_isTold {reader : Reader} (h : reader.encoding.isTold = true) :
    reader.tellHeader = reader := by
  unfold tellHeader
  split
  · rename_i hencoding
    rw [hencoding] at h
    cases h
  · rfl

/-- What a block tells leaves the header told. -/
theorem isTold_after {heading : Heading} (h : heading.encoding.isTold = true) (block : Block) :
    (heading.after block).encoding.isTold = true := by
  cases block with
  | sectionStart order => rfl
  | interface linkType snapLength => exact h
  | packet timestamp captured wire data => exact h
  | other => exact h

/-! ## One step of a walk -/

variable (reader : Reader)

/-- The packet in front is handed out. -/
theorem advanceBlock_packet {timestamp : Timestamp} {captured wire : UInt32} {data : Bytes}
    {size : Nat} (h : reader.encoding.front reader.window.held =
      .block (.packet timestamp captured wire data) size) :
    reader.advanceBlock = reader.deliver timestamp captured wire data size := by
  rw [advanceBlock]
  split
  all_goals
    rename_i hfront
    rw [h] at hfront
    cases hfront
  rfl

/-- Any other block in front is passed over, and what it tells is kept. -/
theorem advanceBlock_passed {block : Block} {size : Nat}
    (h : reader.encoding.front reader.window.held = .block block size)
    (hblock : block.isPacket = false) :
    reader.advanceBlock =
      ((reader.withHeading (reader.heading.after block)).behind size).advanceBlock := by
  rw [advanceBlock]
  split
  all_goals
    rename_i hfront
    rw [h] at hfront
    cases hfront
  · cases hblock
  · rfl
  · rfl
  · rfl

/-- More is brought into view while the block in front is incomplete. -/
theorem advanceBlock_fill {missing : Nat} {window : Window}
    (h : reader.encoding.front reader.window.held = .incomplete missing)
    (hexhausted : reader.window.isExhausted = false)
    (hroom : reader.window.held.length + missing < capacity)
    (hfill : reader.window.fill = (.ok (), window)) :
    reader.advanceBlock = { reader with window }.advanceBlock := by
  rw [advanceBlock]
  split
  all_goals
    rename_i hfront
    rw [h] at hfront
    cases hfront
  rw [dif_neg (by rw [hexhausted]; exact Bool.false_ne_true), if_neg (Nat.not_le.mpr hroom)]
  split
  all_goals
    rename_i hfilled
    rw [hfill] at hfilled
    cases hfilled
  rfl

/-- At the end of the file there is nothing more to hand out. -/
theorem advanceBlock_end (hheld : reader.window.held = [])
    (hexhausted : reader.window.isExhausted = true) :
    reader.advanceBlock = .finished reader := by
  obtain ⟨missing, hnil⟩ := reader.encoding.front_nil
  rw [advanceBlock]
  split
  all_goals
    rename_i hfront
    rw [hheld, hnil] at hfront
    cases hfront
  rw [dif_pos hexhausted, hheld]
  rfl

/-- The block in front of what a window shows comes into view. -/
theorem exists_sight {octets rest : Bytes} {block : Block}
    (hblock : reader.encoding.Writes octets block) (h : reader.window.Shows (octets ++ rest)) :
    ∃ window : Window, octets <+: window.held ∧ window.Shows (octets ++ rest) ∧
      reader.advanceBlock = { reader with window }.advanceBlock := by
  -- the work left bounds how often the window can be filled
  induction hwork : reader.window.work using Nat.strongRecOn generalizing reader with
  | _ work ih =>
    by_cases hsight : octets <+: reader.window.held
    · exact ⟨reader.window, hsight, h, rfl⟩
    have hcut : reader.window.held <+: octets :=
      (List.prefix_or_prefix_of_prefix h.held_isPrefix (List.prefix_append octets rest)).resolve_right
        hsight
    have hne : reader.window.held ≠ octets := by
      intro heq
      exact hsight (heq ▸ List.prefix_rfl)
    obtain ⟨missing, hmissing, hbound⟩ := hblock.cut _ hcut hne
    have hroom : reader.window.held.length + missing < capacity :=
      Nat.lt_of_le_of_lt hbound hblock.fits
    have hexhausted : reader.window.isExhausted = false := by
      apply Bool.eq_false_iff.mpr
      intro hall
      exact hsight (h.held_eq hall ▸ List.prefix_append octets rest)
    obtain ⟨next, hfill, hnext⟩ := h.fill (by omega)
    have hless := Window.work_fill_lt hexhausted hfill
    rw [hwork] at hless
    rw [advanceBlock_fill reader hmissing hexhausted hroom hfill]
    exact ih next.work hless { reader with window := next } hblock hnext rfl

/-! ## The next frame -/

/-- The reader holds frames: its window shows blocks with their packets. -/
structure Holds (reader : Reader) (left : List FrameContent) (delivered : Nat) : Prop where
  /-- What the window shows are blocks with these packets. -/
  exists_shows : ∃ bytes, reader.window.Shows bytes ∧ reader.heading.Contains bytes left
  /-- The header of the file has been told. -/
  isTold : reader.encoding.isTold = true
  /-- The frames handed out are counted. -/
  frames_eq : reader.frames = delivered

/-- What comes of the walk to the next packet. -/
inductive WalksTo (delivered : Nat) : List FrameContent → Advance Reader → Prop where
  /-- There is no packet left. -/
  | finished {next : Reader} (h : next.Holds [] delivered) :
      WalksTo delivered [] (.finished next)
  /-- The first packet is handed out, and is still held if it is refused. -/
  | frame {content : FrameContent} {left : List FrameContent} {refused taken : Reader}
      (hrefused : refused.Holds (content :: left) (delivered + 1))
      (htaken : taken.Holds left (delivered + 1)) :
      WalksTo delivered (content :: left)
        (.frame (content.numbered (delivered + 1)) refused taken)

/-- A walk over nothing ends. -/
theorem walksTo_end (h : reader.window.Shows []) (htold : reader.encoding.isTold = true) :
    WalksTo reader.frames [] reader.advanceBlock := by
  induction hwork : reader.window.work using Nat.strongRecOn generalizing reader with
  | _ work ih =>
    have hheld : reader.window.held = [] := List.prefix_nil.mp h.held_isPrefix
    cases hexhausted : reader.window.isExhausted with
    | true =>
      rw [advanceBlock_end reader hheld hexhausted]
      exact .finished ⟨⟨[], h, .nil _⟩, htold, rfl⟩
    | false =>
      obtain ⟨missing, hnil, hroom⟩ := reader.encoding.front_nil_lt
      have hlength : reader.window.held.length = 0 := List.length_eq_zero_iff.mpr hheld
      obtain ⟨next, hfill, hnext⟩ := h.fill (by omega)
      have hless := Window.work_fill_lt hexhausted hfill
      rw [hwork] at hless
      rw [advanceBlock_fill reader (by rw [hheld, hnil]) hexhausted (by omega) hfill]
      exact ih next.work hless { reader with window := next } hnext htold rfl

/-- A walk over blocks goes to the first packet among them. -/
theorem walksTo_of_contains {heading : Heading} {bytes : Bytes} {left : List FrameContent}
    (h : heading.Contains bytes left) (hheading : reader.heading = heading)
    (hshows : reader.window.Shows bytes) (htold : reader.encoding.isTold = true) :
    WalksTo reader.frames left reader.advanceBlock := by
  induction h generalizing reader with
  | nil heading => exact walksTo_end reader hshows htold
  | block hblock hrest ih =>
    rename_i heading octets bytes block contents
    subst hheading
    obtain ⟨window, hsight, hwindow, hadvance⟩ := exists_sight reader hblock hshows
    have hfront : reader.encoding.front window.held = .block block octets.length := by
      obtain ⟨rest, hheld⟩ := hsight
      rw [← hheld]
      exact hblock.complete rest
    have hbehind := hwindow.behind hsight hblock.ne_nil
    rw [hadvance]
    cases hpacket : block.isPacket with
    | false =>
      have hnone : block.content? reader.heading.linkType = none := by
        cases block <;> first | rfl | cases hpacket
      rw [advanceBlock_passed { reader with window } hfront hpacket, hnone]
      exact ih (({ reader with window }.withHeading
        (reader.heading.after block)).behind octets.length) rfl hbehind
        (isTold_after htold block)
    | true =>
      cases block with
      | packet timestamp captured wire data =>
        rw [advanceBlock_packet { reader with window } hfront]
        exact .frame ⟨⟨_, hwindow, .block hblock hrest⟩, htold, rfl⟩
          ⟨⟨bytes, hbehind, hrest⟩, htold, rfl⟩
      | sectionStart order => cases hpacket
      | interface linkType snapLength => cases hpacket
      | other => cases hpacket

/-- A reader hands out the frames of the packets that its file holds, and keeps those that
are refused. -/
theorem handsOutHeld : HandsOutHeld true fun (reader : Reader) => reader.tellHeader.Holds where
  finished := by
    intro reader delivered h
    obtain ⟨bytes, hshows, hcontains⟩ := h.exists_shows
    have hwalks := walksTo_of_contains _ hcontains rfl hshows h.isTold
    rw [h.frames_eq] at hwalks
    have hadvance : CaptureSource.advance reader = reader.tellHeader.advanceBlock := rfl
    rw [hadvance]
    generalize reader.tellHeader.advanceBlock = step at hwalks
    cases hwalks with
    | finished hnext =>
      rename_i next
      refine ⟨next, rfl, ?_⟩
      rw [tellHeader_of_isTold hnext.isTold]
      exact hnext
  frame := by
    intro reader content left delivered h
    obtain ⟨bytes, hshows, hcontains⟩ := h.exists_shows
    have hwalks := walksTo_of_contains _ hcontains rfl hshows h.isTold
    rw [h.frames_eq] at hwalks
    have hadvance : CaptureSource.advance reader = reader.tellHeader.advanceBlock := rfl
    rw [hadvance]
    generalize reader.tellHeader.advanceBlock = step at hwalks
    cases hwalks with
    | frame hrefused htaken =>
      rename_i refused taken
      refine ⟨refused, taken, rfl, ?_, ?_⟩
      · rw [tellHeader_of_isTold hrefused.isTold]
        exact hrefused
      · rw [tellHeader_of_isTold htaken.isTold]
        exact htaken

end Reader

end CaptureFlow.Savefile
