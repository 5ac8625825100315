import CaptureFlow.Proofs.Savefile.Layout

/-!
# Opening capture files

A file that is written in one of the formats can be opened: its first octets tell that it
is not compressed and which format it has, and its first block is in view after one read.
The reader then holds the frames of the packets in the file and has handed out none.
-/

namespace CaptureFlow.Savefile

/-- A first read brings as much of a file into view as there is room for. -/
theorem Window.fill_ofBytes {bytes : Bytes} (hne : bytes ≠ []) :
    ∃ window, (ofStream (.ofBytes bytes)).fill = (.ok (), window) ∧ window.Shows bytes ∧
      window.held = bytes.take capacity := by
  have hroom : (ofStream (.ofBytes bytes)).held.length < capacity := by
    rw [ofStream, List.length_nil]
    decide
  obtain ⟨window, hfill, hshows⟩ :=
    (shows_ofStream (Stream.delivers_ofBytes bytes)).fill hroom
  refine ⟨window, hfill, hshows, ?_⟩
  cases bytes with
  | nil => exact absurd rfl hne
  | cons b bytes =>
    have hwindow := congrArg (fun result => result.2.held) hfill
    rw [← hwindow]
    simp only [fill, ofStream, Stream.ofBytes, Stream.read, shift, List.nil_append,
      List.length_nil, Nat.sub_zero, List.take_take, Nat.min_self]

namespace Layout

/-- The format in which a file is written. -/
def format : Layout → Format
  | classic header _ => .classic header.order header.nanoseconds
  | sections _ _ => .blocks

/-- The first four octets of a file. -/
def mark : Layout → Bytes
  | classic header _ => header.order.octets 4 header.magic.toNat
  | sections first _ => first.head.order.octets 4 sectionNumber.toNat

variable (layout : Layout)

/-- A file starts with the octets that tell its format. -/
theorem take_octets : layout.octets.take 4 = layout.mark := by
  cases layout with
  | classic header records => exact header.take_octets _
  | sections first others =>
    simp only [octets, mark, List.flatMap_cons, Section.octets, SectionHead.octets, blockOctets,
      List.append_assoc]
    exact List.take_left' (ByteOrder.length_octets _ _ _)

/-- The format of a file is told by its first octets. -/
theorem detect_take : Format.detect (layout.octets.take 4) = .ok layout.format := by
  rw [layout.take_octets]
  cases layout with
  | classic header records =>
    rw [mark, format, ClassicHeader.magic]
    cases header.order <;> cases header.nanoseconds <;> rfl
  | sections first others =>
    rw [mark, format]
    cases first.head.order <;> rfl

/-- A file is not taken for a compressed one. -/
theorem compression_take : Compression.detect (layout.octets.take 2) = .none := by
  have htake : layout.octets.take 2 = layout.mark.take 2 := by
    rw [← layout.take_octets, List.take_take]
    rfl
  rw [htake]
  cases layout with
  | classic header records =>
    rw [mark, ClassicHeader.magic]
    cases header.order <;> cases header.nanoseconds <;> rfl
  | sections first others =>
    rw [mark]
    cases first.head.order <;> rfl

/-- A file is not empty. -/
theorem octets_ne_nil : layout.octets ≠ [] := by
  intro hnil
  have hlength : layout.mark.length = 4 := by
    cases layout <;> exact ByteOrder.length_octets _ _ _
  rw [← layout.take_octets, hnil] at hlength
  cases hlength

/-- The encoding that a reader tells of a file when it is opened. -/
def opening : Layout → Encoding
  | classic header _ => .classic header.fileHeader false header.nanoseconds
  | sections _ _ => .blocks .little

/-- The first block of a file, which is read when it is opened. -/
def first : Layout → Bytes
  | classic header _ => header.octets
  | sections first _ => first.head.octets

/-- The first block stands in front and fits into a window. -/
theorem first_isPrefix : layout.first <+: layout.octets.take capacity := by
  cases layout with
  | classic header records =>
    have hfits : header.octets.length ≤ capacity := by
      rw [header.length_octets]
      decide
    rw [first, octets, List.take_append, List.take_of_length_le hfits]
    exact List.prefix_append _ _
  | sections first others =>
    have hfits : first.head.octets.length ≤ capacity := by
      have hbound := first.head.fits
      rw [first.head.length_octets]
      omega
    rw [Layout.first, octets, List.flatMap_cons, Section.octets, List.append_assoc,
      List.take_append, List.take_of_length_le hfits]
    exact List.prefix_append _ _

/-- The first block tells how a file is read. -/
theorem openEncoding_first (rest : Bytes) :
    Reader.openEncoding layout.format (layout.first ++ rest) = .ok layout.opening := by
  cases layout with
  | classic header records =>
    rw [format, first, Reader.openEncoding, header.read_octets]
    rfl
  | sections first others =>
    rw [format, Layout.first, Reader.openEncoding, first.head.readSection_octets]
    rfl

/-- A file is opened in its format, and its reader holds the frames of its packets. -/
theorem openAs_octets :
    ∃ reader, Reader.openAs layout.format (.ofBytes layout.octets) = .ok reader ∧
      reader.tellHeader.Holds layout.contents 0 := by
  obtain ⟨window, hfill, hshows, hheld⟩ := Window.fill_ofBytes layout.octets_ne_nil
  have hfirst := layout.first_isPrefix
  rw [← hheld] at hfirst
  have hencoding : Reader.openEncoding layout.format window.held = .ok layout.opening := by
    obtain ⟨rest, hrest⟩ := hfirst
    rw [← hrest]
    exact layout.openEncoding_first rest
  refine ⟨⟨layout.opening, Reader.behindHeader window layout.opening, 0, 1, 65535⟩, ?_, ?_⟩
  · rw [Reader.openAs, hfill]
    dsimp only
    rw [hencoding]
  · cases layout with
    | classic header records =>
      have hlength := header.length_octets
      have hne : header.octets ≠ [] := by
        intro hnil
        rw [hnil] at hlength
        cases hlength
      have hbehind := hshows.behind hfirst hne
      rw [hlength] at hbehind
      exact ⟨⟨_, hbehind, contains_records header.order records rfl rfl rfl⟩, rfl, rfl⟩
    | sections first others =>
      exact ⟨⟨_, hshows, contains_sections (first :: others) rfl⟩, rfl, rfl⟩

end Layout

/-- Nothing is made of the errors of what succeeds. -/
theorem mapError_ok {ε ε' α : Type} (f : ε → ε') (value : α) :
    (Except.ok value : Except ε α).mapError f = .ok value :=
  rfl

namespace File

/-- The file holds frames: its reader does once the header is told. -/
def Holds (file : File) : List FrameContent → Nat → Prop :=
  file.reader.tellHeader.Holds

/-- A file hands out the frames that it holds, and keeps those that are refused. -/
theorem handsOutHeld : HandsOutHeld true Holds where
  finished := by
    intro file delivered h
    obtain ⟨next, hadvance, hnext⟩ := Reader.handsOutHeld.finished h
    refine ⟨file.withReader next, ?_, hnext⟩
    have hreader : file.reader.advance = .finished next := hadvance
    show file.advance = _
    rw [advance, hreader]
  frame := by
    intro file content left delivered h
    obtain ⟨refused, taken, hadvance, hrefused, htaken⟩ := Reader.handsOutHeld.frame h
    refine ⟨file.withReader refused, file.withReader taken, ?_, hrefused, htaken⟩
    have hreader : file.reader.advance =
        .frame (content.numbered (delivered + 1)) refused taken := hadvance
    show file.advance = _
    rw [advance, hreader]

/-- The counters of a file tell how many frames it has handed out. -/
theorem stats_of_holds {file : File} {left : List FrameContent} {delivered : Nat}
    (h : file.Holds left delivered) :
    CaptureSource.stats file = .ofCount (min delivered (UInt32.size - 1)) := by
  have hframes : file.reader.tellHeader.frames = file.reader.frames := by
    unfold Reader.tellHeader
    split <;> rfl
  have hcount : file.reader.frames = delivered := hframes.symm.trans h.frames_eq
  rw [← hcount]
  rfl

/-- A file that is written in one of the formats is opened, and holds its frames. -/
theorem openAt_octets (layout : Layout) (path : String) :
    ∃ file, openAt path (.ok (.octets layout.octets)) = .ok file ∧
      file.Holds layout.contents 0 := by
  obtain ⟨reader, hopen, hholds⟩ := layout.openAs_octets
  have hfront : ∀ count, Stream.front count (Content.octets layout.octets).stream =
      .ok (layout.octets.take count) :=
    Stream.front_of_delivers (Stream.delivers_ofBytes layout.octets)
  refine ⟨⟨path, .none, reader⟩, ?_, hholds⟩
  have hplain : Stream.front 4 (Compression.none.stream (.octets layout.octets)) =
      .ok (layout.octets.take 4) := hfront 4
  have hreader : Reader.openAs layout.format (Compression.none.stream (.octets layout.octets)) =
      .ok reader := hopen
  simp only [openAt, hfront, hplain, hreader, mapError_ok, bind, Except.bind,
    layout.compression_take, layout.detect_take]

end File

end CaptureFlow.Savefile
