import CaptureFlow.Proofs.Gzip.Store
import CaptureFlow.Proofs.Savefile.Alike
import CaptureFlow.Proofs.Savefile.Refusals

/-!
# Compressed capture files

A gzip file is opened and read as a plain file with the data of its first member is: both
attempts to open them fail with the same error, or nothing that is read tells the files
apart. The members behind the first one are lost without an error. A compressed file comes
in stretches, though, and the first block has to be in view after the first of them; where
it is not, the file cannot be opened.
-/

namespace CaptureFlow

/-- Two attempts that fail with the same error, or succeed and make what is related. -/
inductive EndsAlike {ε α β : Type} (related : α → β → Prop) : Except ε α → Except ε β → Prop where
  /-- Both fail. -/
  | failed (error : ε) : EndsAlike related (.error error) (.error error)
  /-- Both succeed. -/
  | succeeded {made : α} {other : β} (h : related made other) :
      EndsAlike related (.ok made) (.ok other)

namespace Savefile

/-! ## The first block -/

/-- Once a file header is told, it stays so, whatever follows. -/
theorem FileHeader.read_of_isPrefix {front bytes : Bytes} (hstart : front <+: bytes)
    (htold : ∀ missing, read front ≠ .error (.incomplete missing)) : read bytes = read front := by
  have hle := hstart.length_le
  have hstarts : ∀ {length : Nat}, length ≤ front.length →
      bytes.take length = front.take length := by
    intro length hlength
    obtain ⟨rest, rfl⟩ := hstart
    exact List.take_append_of_le_length hlength
  by_cases hlong : fileHeaderLength ≤ front.length
  · rw [read, read, hstarts hlong]
  -- an incomplete header can only be told by its magic number
  have hall : front.take fileHeaderLength = front :=
    List.take_of_length_le (Nat.le_of_not_le hlong)
  have hshort : front.length < fileHeaderLength := Nat.lt_of_not_le hlong
  by_cases hmagic : front.length < 4
  · refine absurd ?_ (htold (missingOfFileHeader front.length))
    simp only [read, hall, if_pos hmagic]
  cases hlookup : magicTable.lookup (ByteOrder.little.number (front.take 4)) with
  | some entry =>
    refine absurd ?_ (htold (missingOfFileHeader front.length))
    simp only [read, hall, if_neg hmagic, hlookup, if_pos hshort]
  | none =>
    have hfour : (bytes.take fileHeaderLength).take 4 = front.take 4 := by
      rw [List.take_take, ← hstarts (Nat.le_of_not_lt hmagic)]
      rfl
    have hbytes : ¬(bytes.take fileHeaderLength).length < 4 := by
      rw [List.length_take, fileHeaderLength]
      omega
    simp only [read, hall, if_neg hmagic, if_neg hbytes, hfour, hlookup]

/-- A file header that is read is there. -/
theorem FileHeader.length_le_of_read {bytes : Bytes} {header : FileHeader}
    (h : read bytes = .ok header) : fileHeaderLength ≤ bytes.length := by
  simp only [read] at h
  split at h
  · cases h
  · split at h
    · cases h
    · split at h
      · cases h
      · rename_i hlong
        rw [List.length_take] at hlong
        omega

namespace Reader

/-- Once the encoding of a file is told, it stays so, whatever follows. -/
theorem openEncoding_of_isPrefix {format : Format} {front bytes : Bytes}
    (hstart : front <+: bytes)
    (htold : ∀ missing, openEncoding format front ≠ .error (.incomplete missing)) :
    openEncoding format bytes = openEncoding format front := by
  cases format with
  | classic order nanoseconds =>
    have hread : ∀ missing, FileHeader.read front ≠ .error (.incomplete missing) := by
      intro missing hmissing
      apply htold missing
      rw [openEncoding, hmissing]
      rfl
    rw [openEncoding, openEncoding, FileHeader.read_of_isPrefix hstart hread]
  | blocks =>
    have hread : (readSection front).isTold = true := by
      cases hfront : readSection front with
      | block block size => rfl
      | broken fault => rfl
      | incomplete missing =>
        refine absurd ?_ (htold missing)
        rw [openEncoding, hfront]
    rw [openEncoding, openEncoding, readSection_readsOn.told (Nat.zero_le _) hstart hread]

end Reader

/-- The octets behind the header of a file that is no block. -/
def Encoding.behindHeader : Encoding → Bytes → Bytes
  | classic _ _ _, bytes => bytes.drop fileHeaderLength
  | blocks _, bytes => bytes

/-- Wherever the blocks of a file lead to, there is room. -/
def Format.IsRoomy (format : Format) (bytes : Bytes) : Prop :=
  ∀ encoding, Reader.openEncoding format (bytes.take capacity) = .ok encoding →
    encoding.IsRoomy (encoding.behindHeader bytes)

/-- In files that fit with one more octet there is room everywhere. -/
theorem Format.isRoomy_of_length_lt (format : Format) {bytes : Bytes}
    (h : bytes.length < capacity) : format.IsRoomy bytes := by
  intro encoding _
  apply encoding.isRoomy_of_length_lt
  cases encoding with
  | classic header told nanoseconds =>
    rw [Encoding.behindHeader, List.length_drop]
    omega
  | blocks order => exact h

/-- A stream hands out less of the octets than there is room for in its first read, and the
first block is not told by that. -/
structure CutShort (format : Format) (stream : Stream) (bytes : Bytes) (missing : Nat) : Prop where
  /-- The octets tell a format. -/
  detect_eq : Format.detect bytes = .ok format
  /-- The first read is cut short. -/
  exists_fill : ∃ window, (Window.ofStream stream).fill = (.ok (), window) ∧
    window.held ≠ bytes.take capacity ∧
    Reader.openEncoding format window.held = .error (.incomplete missing)

/-- A first read brings a part of what a stream delivers into view, and the file is not over
unless that is nothing. -/
theorem Window.fill_ofStream {stream : Stream} {bytes : Bytes} (h : stream.Delivers bytes) :
    ∃ window, (ofStream stream).fill = (.ok (), window) ∧ window.Shows bytes ∧
      window.held <+: bytes.take capacity ∧ window.isExhausted = window.held.isEmpty := by
  have hroom : (ofStream stream).held.length < capacity := by
    rw [ofStream, List.length_nil]
    decide
  obtain ⟨window, hfill, hshows⟩ := (shows_ofStream h).fill hroom
  refine ⟨window, hfill, hshows, ?_, ?_⟩
  · rw [List.prefix_take_iff]
    exact ⟨hshows.held_isPrefix, length_fill_le hfill (Nat.le_of_lt hroom)⟩
  · obtain ⟨behind, ahead, rfl⟩ := exists_shift hfill
    rfl

namespace Reader

/-- The reader of a file that is opened. -/
def opened (window : Window) (encoding : Encoding) : Reader :=
  ⟨encoding, behindHeader window encoding, 0, 1, 65535⟩

/-- A reader that is opened has the blocks of its file in front. -/
theorem views_opened {format : Format} {window : Window} {bytes : Bytes} {encoding : Encoding}
    (hshows : window.Shows bytes) (hheld : window.held <+: bytes.take capacity)
    (hmore : window.isExhausted = window.held.isEmpty)
    (hopen : openEncoding format window.held = .ok encoding) :
    (opened window encoding).Views (encoding.behindHeader bytes) := by
  have hlength := hheld.length_le
  have hroom := List.length_take_le capacity bytes
  cases format with
  | classic order nanoseconds =>
    cases hread : FileHeader.read window.held with
    | error fault =>
      rw [openEncoding, hread] at hopen
      cases hopen
    | ok header =>
      rw [openEncoding, hread] at hopen
      cases hopen
      have henough := FileHeader.length_le_of_read hread
      refine ⟨hshows.behind_of_le (by decide) henough, ?_, ?_⟩
      · exact Nat.le_trans (window.length_behind_le fileHeaderLength) (Nat.le_trans hlength hroom)
      · intro hexhausted
        have hnil : window.held.isEmpty = true := hmore.symm.trans hexhausted
        rw [List.isEmpty_iff.mp hnil, List.length_nil] at henough
        exact absurd henough (by decide)
  | blocks =>
    have hencoding : encoding = .blocks .little := by
      rw [openEncoding] at hopen
      split at hopen <;> cases hopen
      rfl
    subst hencoding
    refine ⟨hshows, Nat.le_trans hlength hroom, ?_⟩
    intro hexhausted
    have hnil : window.held.isEmpty = true := hmore.symm.trans hexhausted
    rw [List.isEmpty_iff.mp hnil] at hopen
    cases hopen

/-- A first read that is not cut short tells what all octets tell. -/
theorem openEncoding_of_not_cutShort {format : Format} {stream : Stream} {bytes : Bytes}
    (hformat : Format.detect bytes = .ok format) {window : Window}
    (hfill : (Window.ofStream stream).fill = (.ok (), window))
    (hheld : window.held <+: bytes.take capacity)
    (h : ∀ missing, ¬CutShort format stream bytes missing) :
    openEncoding format window.held = openEncoding format (bytes.take capacity) := by
  by_cases htold : ∃ missing, openEncoding format window.held = .error (.incomplete missing)
  · obtain ⟨missing, hmissing⟩ := htold
    have hall : window.held = bytes.take capacity := by
      apply Decidable.byContradiction
      intro hpart
      exact h missing ⟨hformat, window, hfill, hpart, hmissing⟩
    rw [hall]
  · exact (openEncoding_of_isPrefix hheld fun missing hmissing => htold ⟨missing, hmissing⟩).symm

/-- Streams of the same octets are opened alike if no first read is cut short. -/
theorem openAs_endsAlike {format : Format} {stream other : Stream} {bytes : Bytes}
    (hstream : stream.Delivers bytes) (hother : other.Delivers bytes)
    (hformat : Format.detect bytes = .ok format) (hroomy : format.IsRoomy bytes)
    (hcut : ∀ missing, ¬CutShort format stream bytes missing)
    (hcut' : ∀ missing, ¬CutShort format other bytes missing) :
    EndsAlike Alike (openAs format stream) (openAs format other) := by
  obtain ⟨window, hfill, hshows, hheld, hmore⟩ := Window.fill_ofStream hstream
  obtain ⟨window', hfill', hshows', hheld', hmore'⟩ := Window.fill_ofStream hother
  have hopen := openEncoding_of_not_cutShort hformat hfill hheld hcut
  have hopen' := openEncoding_of_not_cutShort hformat hfill' hheld' hcut'
  rw [openAs, openAs, hfill, hfill']
  dsimp only
  cases hencoding : openEncoding format (bytes.take capacity) with
  | error fault =>
    rw [hopen, hopen', hencoding]
    exact .failed _
  | ok encoding =>
    rw [hencoding] at hopen hopen'
    rw [hopen, hopen']
    have hviews := views_opened hshows hheld hmore hopen
    have hviews' := views_opened hshows' hheld' hmore' hopen'
    exact .succeeded ⟨_, rfl, rfl, hviews, hviews', hroomy encoding hencoding⟩

/-- A file that is cut short cannot be opened. -/
theorem openAs_cutShort {format : Format} {stream : Stream} {bytes : Bytes} {missing : Nat}
    (h : CutShort format stream bytes missing) :
    openAs format stream = .error (.opening format.isBlocks (.incomplete missing)) := by
  obtain ⟨window, hfill, -, hopen⟩ := h.exists_fill
  rw [openAs, hfill]
  dsimp only
  rw [hopen]

end Reader

/-- A stream whose first read hands out all that it is asked for is not cut short. -/
theorem not_cutShort_of_read {format : Format} {stream : Stream} {bytes : Bytes}
    (h : (stream.read capacity).1 = .ok (bytes.take capacity)) (missing : Nat) :
    ¬CutShort format stream bytes missing := by
  intro hcut
  obtain ⟨window, hfill, hpart, -⟩ := hcut.exists_fill
  apply hpart
  simp only [Window.fill, Window.ofStream] at hfill
  generalize stream.read capacity = result at h hfill
  obtain ⟨handed, next⟩ := result
  dsimp only at h
  subst h
  cases hfill
  simp only [Window.shift, List.nil_append, List.length_nil, Nat.sub_zero, List.take_take,
    Nat.min_self]

/-- Octets that lie ready as a whole are not cut short. -/
theorem not_cutShort_ofBytes (format : Format) (bytes : Bytes) (missing : Nat) :
    ¬CutShort format (.ofBytes bytes) bytes missing := by
  apply not_cutShort_of_read
  cases bytes <;> rfl

/-- A gzip file that is looked at in one piece is not cut short. -/
theorem not_cutShort_of_length_le {file first rest : Bytes} (h : Gzip.IsMember file first rest)
    (hpiece : file.length ≤ Gzip.pieceLength) (format : Format) (missing : Nat) :
    ¬CutShort format (Gzip.stream (.octets file)) first missing :=
  not_cutShort_of_read (h.read_of_length_le hpiece capacity) missing

/-! ## Files -/

namespace Format

/-- The format of a file is told by its first four octets. -/
theorem detect_take (bytes : Bytes) : detect (bytes.take 4) = detect bytes := by
  rw [detect, detect, List.take_take]
  rfl

/-- A format that is told stays so, whatever follows. -/
theorem detect_append {bytes : Bytes} {format : Format} (h : detect bytes = .ok format)
    (rest : Bytes) : detect (bytes ++ rest) = .ok format := by
  have hlong : 4 ≤ bytes.length := by
    apply Nat.le_of_not_lt
    intro hshort
    have hfront : (bytes.take 4).length < 4 := by
      rw [List.length_take]
      omega
    rw [detect, if_pos hfront] at h
    cases h
  rw [← detect_take, List.take_append_of_le_length hlong, detect_take, h]

/-- A file whose format is told is not taken for a compressed one. -/
theorem compression_of_detect {front rest : Bytes} {format : Format}
    (h : detect (front ++ rest) = .ok format) : Compression.detect (front.take 2) = .none := by
  rw [Compression.detect, if_neg]
  intro hmagic
  obtain ⟨behind, hbehind⟩ := List.isPrefixOf_iff_prefix.mp hmagic
  have hfront : front = Gzip.magic ++ (behind ++ front.drop 2) := by
    rw [← List.append_assoc, hbehind, List.take_append_drop]
  rw [hfront, List.append_assoc] at h
  simp only [detect, Gzip.magic, List.cons_append, List.nil_append, List.take_succ_cons,
    List.cons.injEq] at h
  split at h
  · cases h
  · simp at h

end Format

namespace File

/-- Opening a file whose stream delivers octets behind its compression depends on these, and
on how they are read. -/
theorem openAt_of_delivers (path : String) {file : Content} {front bytes : Bytes}
    {compression : Compression} (hfront : file.stream.front 2 = .ok front)
    (hcompression : Compression.detect front = compression)
    (hstream : (compression.stream file).Delivers bytes) :
    openAt path (.ok file) = ((Format.detect bytes).bind fun format =>
      (Reader.openAs format (compression.stream file)).map fun reader =>
        ⟨path, compression, reader⟩).mapError fun fault => .savefile (.invalid fault) := by
  have hmagic := Stream.front_of_delivers hstream 4
  simp only [openAt, hfront, hcompression, hmagic, mapError_ok, bind, Except.bind,
    Format.detect_take]
  cases Format.detect bytes with
  | error fault => rfl
  | ok format =>
    simp only [mapError_ok]
    cases Reader.openAs format (compression.stream file) with
    | error fault => rfl
    | ok reader => rfl

section

variable (path : String) {file first rest : Bytes} (hmember : Gzip.IsMember file first rest)

include hmember

/-- Opening a compressed file depends on the data of its first member, and on how they are
read. -/
theorem openAt_compressed : openAt path (.ok (.octets file)) =
    ((Format.detect first).bind fun format =>
      (Reader.openAs format (Gzip.stream (.octets file))).map fun reader =>
        ⟨path, .gzip, reader⟩).mapError fun fault => .savefile (.invalid fault) := by
  have hfront : (Content.octets file).stream.front 2 = .ok (file.take 2) :=
    Stream.front_of_delivers (Stream.delivers_ofBytes file) 2
  have hcompression : Compression.detect (file.take 2) = .gzip :=
    if_pos hmember.magic_isPrefixOf
  exact openAt_of_delivers path hfront hcompression hmember.delivers

/-- A compressed file that is cut short cannot be opened. -/
theorem openAt_cutShort {format : Format} {missing : Nat}
    (hcut : CutShort format (Gzip.stream (.octets file)) first missing) :
    openAt path (.ok (.octets file)) =
      .error (.savefile (.invalid (.opening format.isBlocks (.incomplete missing)))) := by
  rw [openAt_compressed path hmember, hcut.detect_eq]
  simp only [Except.bind, Reader.openAs_cutShort hcut]
  rfl

/-- A compressed file that is not cut short is opened and read as the data of its first
member. -/
theorem openAt_endsAlike {behind : Bytes} {format : Format}
    (hformat : Format.detect (first ++ behind) = .ok format) (hroomy : format.IsRoomy first)
    (hcut : ∀ missing, ¬CutShort format (Gzip.stream (.octets file)) first missing) :
    EndsAlike CaptureSource.ReadsAlike (openAt path (.ok (.octets file)))
      (openAt path (.ok (.octets first))) := by
  have hplain := Stream.delivers_ofBytes first
  have hfront : (Content.octets first).stream.front 2 = .ok (first.take 2) :=
    Stream.front_of_delivers hplain 2
  have hopen := openAt_of_delivers path hfront (Format.compression_of_detect hformat) hplain
  rw [openAt_compressed path hmember, hopen]
  cases hdetect : Format.detect first with
  | error fault => exact .failed _
  | ok found =>
    have hsame : found = format := by
      rw [Format.detect_append hdetect] at hformat
      exact Except.ok.inj hformat
    subst hsame
    have hends := Reader.openAs_endsAlike hmember.delivers hplain hdetect hroomy hcut
      (not_cutShort_ofBytes found first)
    simp only [Except.bind, Compression.stream, Content.stream]
    generalize Reader.openAs found (Gzip.stream (.octets file)) = opened at hends
    generalize Reader.openAs found (.ofBytes first) = plain at hends
    cases hends with
    | failed fault => exact .failed _
    | succeeded halike => exact .succeeded (Alike.readsAlike ⟨rfl, halike⟩)

end

/-- A gzip file of any members cannot be opened if the first block is not in view after the
first read. Otherwise it is opened and read as a plain file with the data of its first member
is, whatever the others hold. A file that is looked at in one piece is not cut short. -/
theorem openAt_members (path : String) {file first : Bytes} {others : List Bytes}
    {format : Format} (hholds : Gzip.Holds file (first :: others))
    (hformat : Format.detect (first :: others).flatten = .ok format)
    (hroomy : format.IsRoomy first) :
    (∀ missing, CutShort format (Gzip.stream (.octets file)) first missing →
      openAt path (.ok (.octets file)) =
        .error (.savefile (.invalid (.opening format.isBlocks (.incomplete missing))))) ∧
    ((∀ missing, ¬CutShort format (Gzip.stream (.octets file)) first missing) →
      EndsAlike CaptureSource.ReadsAlike (openAt path (.ok (.octets file)))
        (openAt path (.ok (.octets first)))) ∧
    (file.length ≤ Gzip.pieceLength →
      ∀ missing, ¬CutShort format (Gzip.stream (.octets file)) first missing) := by
  obtain ⟨rest, hmember⟩ := hholds.exists_isMember
  rw [List.flatten_cons] at hformat
  refine ⟨?_, ?_, ?_⟩
  · intro missing hcut
    exact openAt_cutShort path hmember hcut
  · intro hcut
    exact openAt_endsAlike path hmember hformat hroomy hcut
  · intro hpiece missing
    exact not_cutShort_of_length_le hmember hpiece format missing

/-- A file with the header of two records and the first of them. -/
def oneRecord : Layout :=
  match twoRecords with
  | .classic header records => .classic header (records.take 1)
  | .sections first others => .sections first others

/-- The octets of the second of two records. -/
def secondRecord : Bytes :=
  twoRecords.octets.drop oneRecord.octets.length

/-- Two records, each in a member of its own. -/
def twoMembers : Bytes :=
  [oneRecord.octets, secondRecord].flatMap Gzip.store

/-- Two records that are compressed in two members are read as the first of them. -/
theorem openAt_twoMembers :
    Gzip.Holds twoMembers [oneRecord.octets, secondRecord] ∧
      Format.detect [oneRecord.octets, secondRecord].flatten = .ok (.classic .little false) ∧
      (Format.classic .little false).IsRoomy oneRecord.octets ∧
      EndsAlike CaptureSource.ReadsAlike (openAt "two" (.ok (.octets twoMembers)))
        (openAt "two" (.ok (.octets oneRecord.octets))) := by
  have hholds : Gzip.Holds twoMembers [oneRecord.octets, secondRecord] :=
    Gzip.holds_store oneRecord.octets [secondRecord]
  have hformat : Format.detect [oneRecord.octets, secondRecord].flatten =
      .ok (.classic .little false) := rfl
  have hroomy : (Format.classic .little false).IsRoomy oneRecord.octets :=
    Format.isRoomy_of_length_lt _ (by decide)
  have hpiece : twoMembers.length ≤ Gzip.pieceLength := by decide
  obtain ⟨-, hends, hwhole⟩ := openAt_members "two" hholds hformat hroomy
  exact ⟨hholds, hformat, hroomy, hends (hwhole hpiece)⟩

/-- Two records that are compressed in two members are not read as both of them: a plain file
with the same data is opened as well, but hands out one frame more. -/
theorem twoMembers_lost :
    Gzip.Holds twoMembers [oneRecord.octets, secondRecord] ∧
      [oneRecord.octets, secondRecord].flatten = twoRecords.octets ∧
      Format.detect twoRecords.octets = .ok (.classic .little false) ∧
      ¬EndsAlike CaptureSource.ReadsAlike (openAt "two" (.ok (.octets twoMembers)))
        (openAt "two" (.ok (.octets twoRecords.octets))) := by
  have hholds : Gzip.Holds twoMembers [oneRecord.octets, secondRecord] :=
    Gzip.holds_store oneRecord.octets [secondRecord]
  have hwhole : [oneRecord.octets, secondRecord].flatten = twoRecords.octets := by decide
  have hformat : Format.detect twoRecords.octets = .ok (.classic .little false) := rfl
  refine ⟨hholds, hwhole, hformat, ?_⟩
  intro hends
  obtain ⟨rest, hmember⟩ := hholds.exists_isMember
  have hroomy : (Format.classic .little false).IsRoomy oneRecord.octets :=
    Format.isRoomy_of_length_lt _ (by decide)
  have hpiece : twoMembers.length ≤ Gzip.pieceLength := by decide
  have hfirst := openAt_endsAlike "two" hmember (hwhole ▸ hformat) hroomy
    (not_cutShort_of_length_le hmember hpiece (.classic .little false))
  obtain ⟨one, hone, honeHolds⟩ := openAt_octets oneRecord "two"
  obtain ⟨two, htwo, htwoHolds⟩ := openAt_octets twoRecords "two"
  obtain ⟨oneNext, honeReads, -⟩ := handsOutHeld.exists_reads 2 honeHolds
  obtain ⟨twoNext, htwoReads, -⟩ := handsOutHeld.exists_reads 2 htwoHolds
  rw [hone] at hfirst
  rw [htwo] at hends
  generalize openAt "two" (.ok (.octets twoMembers)) = opened at hfirst hends
  cases hends with
  | succeeded htwoAlike =>
    cases hfirst with
    | succeeded honeAlike =>
      have hframes := (honeAlike.of_common htwoAlike).frames_eq honeReads htwoReads
      have hcount := congrArg List.length hframes
      rw [length_numberedFrom, length_numberedFrom] at hcount
      exact absurd hcount (by decide)

end File

end Savefile

end CaptureFlow
