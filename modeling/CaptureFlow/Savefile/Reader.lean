import CaptureFlow.Capture.Source
import CaptureFlow.Savefile.Block
import CaptureFlow.Savefile.Window

/-!
# Reading capture files

A reader walks over the blocks of a file and hands out their packets. It has a
window on the file, in which a block must fit, and brings more of the file into
view when a block is incomplete. A frame that its receiver refuses is handed out
again, under the next number.
-/

namespace CaptureFlow.Savefile

/-- How the blocks of a file are read. -/
inductive Encoding where
  /-- The classic format with its header, which may not be told yet. -/
  | classic (header : FileHeader) (told nanoseconds : Bool)
  /-- The format made of blocks, in the byte order of the current section. -/
  | blocks (order : ByteOrder)
  deriving DecidableEq, Repr

/-- What the front of a file holds. -/
def Encoding.front : Encoding → Bytes → Parsed Block
  | classic header _ nanoseconds, bytes => (Record.read header bytes).map (Record.block nanoseconds)
  | blocks order, bytes => readBlock order bytes

/-- Nothing is too short for a block. -/
theorem Encoding.front_nil (encoding : Encoding) :
    ∃ missing, encoding.front [] = .incomplete missing := by
  cases encoding with
  | classic header told nanoseconds =>
    refine ⟨header.recordHeaderLength, ?_⟩
    cases h : header.isExtended <;>
      simp [front, Record.read, FileHeader.recordHeaderLength, h, Parsed.map]
  | blocks order => exact ⟨4, rfl⟩

/-- A capture file being read. -/
structure Reader where
  /-- How its blocks are read. -/
  encoding : Encoding
  /-- What is in view of it. -/
  window : Window
  /-- The number of frames handed out. -/
  frames : Nat
  /-- The framing that the latest header told. -/
  linkType : UInt16
  /-- The snap length that the latest header told. -/
  snapLength : UInt32

namespace Reader

/-- The encoding that the first block of a file tells. -/
def openEncoding (format : Format) (first : Bytes) : Except OpeningFault Encoding :=
  match format with
  | .classic _ nanoseconds => do
    let header ← FileHeader.read first
    .ok (.classic header false nanoseconds)
  | .blocks =>
    match readSection first with
    | .block _ _ => .ok (.blocks .little)
    | .incomplete missing => .error (.incomplete missing)
    | .broken .unrecognized => .error .unrecognized
    | .broken _ => .error .inconsistent

/-- The window once the header that is no block is taken off its front. -/
def behindHeader (window : Window) : Encoding → Window
  | .classic _ _ _ => window.behind fileHeaderLength
  | .blocks _ => window

/-- Opens a file of a given format, whose first block must be in view after a
single read. -/
def openAs (format : Format) (stream : Stream) : Except FormatFault Reader :=
  match (Window.ofStream stream).fill with
  | (.error _, _) => .error (.opening format.isBlocks .unreadable)
  | (.ok (), window) =>
    match openEncoding format window.held with
    | .error fault => .error (.opening format.isBlocks fault)
    | .ok encoding => .ok {
        encoding
        window := behindHeader window encoding
        frames := 0
        linkType := 1
        snapLength := 65535 }

/-- The reader behind a block. -/
def behind (reader : Reader) (size : Nat) : Reader :=
  { reader with window := reader.window.behind size }

/-- A reader that cannot go on. -/
def failed (reader : Reader) (fault : FormatFault) : Advance Reader :=
  .failed (.savefile (.invalid fault)) reader

/-- Hands out a frame that takes `size` octets of the file. -/
def deliver (reader : Reader) (timestamp : Timestamp) (captured wire : UInt32)
    (data : Bytes) (size : Nat) : Advance Reader :=
  let reader := { reader with frames := reader.frames + 1 }
  .frame ⟨reader.frames, timestamp, captured, wire, reader.linkType, data⟩ reader
    (reader.behind size)

/-- What is in view where a block is found is not empty. -/
theorem held_ne_nil {reader : Reader} {block : Block} {size : Nat}
    (h : reader.encoding.front reader.window.held = .block block size) :
    reader.window.held ≠ [] := by
  intro empty
  obtain ⟨missing, hfront⟩ := reader.encoding.front_nil
  rw [empty, hfront] at h
  cases h

/-- Hands out the packet of the next packet block. -/
def advanceBlock (reader : Reader) : Advance Reader :=
  match _front : reader.encoding.front reader.window.held with
  | .block (.packet timestamp captured wire data) size =>
    reader.deliver timestamp captured wire data size
  | .block (.sectionStart order) size =>
    advanceBlock ({ reader with encoding := .blocks order }.behind size)
  | .block (.interface linkType snapLength) size =>
    advanceBlock ({ reader with linkType, snapLength }.behind size)
  | .block .other size => advanceBlock (reader.behind size)
  | .broken fault => reader.failed (.block fault)
  | .incomplete missing =>
    if _over : reader.window.isExhausted then
      if reader.window.held.isEmpty then .finished reader
      else reader.failed (.block .endOfFile)
    else if capacity ≤ reader.window.held.length + missing then
      reader.failed (.block .tooLarge)
    else match _fill : reader.window.fill with
      | (.error _, window) => { reader with window }.failed .refill
      | (.ok (), window) => advanceBlock { reader with window }
termination_by reader.window.work
decreasing_by
  all_goals first
    | exact Window.work_behind_lt (held_ne_nil _front) _
    | exact Window.work_fill_lt (by simpa using _over) _fill

/-- The reader that has told the header of the classic format. -/
def tellHeader (reader : Reader) : Reader :=
  match reader.encoding with
  | .classic header false nanoseconds => { reader with
      encoding := .classic header true nanoseconds
      linkType := header.linkType
      snapLength := header.snapLength }
  | _ => reader

/-- Hands out the next frame; the header of the classic format is told first. -/
def advance (reader : Reader) : Advance Reader :=
  reader.tellHeader.advanceBlock

end Reader

instance : CaptureSource Reader where
  advance := Reader.advance
  metadata reader := .ofFile "" reader.snapLength
  stats reader := .ofCount (min reader.frames (UInt32.size - 1))
  linkType := Reader.linkType

end CaptureFlow.Savefile
