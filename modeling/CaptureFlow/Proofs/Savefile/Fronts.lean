import CaptureFlow.Proofs.Savefile.Blocks
import CaptureFlow.Savefile.Reader

/-!
# What the front of a file tells

A block is read from the front of a file, of which more and more comes into view. Once it
is told what stands there, it stays so. Until then octets are missing, and those of which a
reader says that they are missing are needed for every longer front as well. This holds
for any octets, whether or not they were written as a capture file.
-/

namespace CaptureFlow.Savefile

namespace Parsed

variable {α β : Type}

/-- Whether it is told what stands in front. -/
def isTold : Parsed α → Bool
  | block _ _ | broken _ => true
  | incomplete _ => false

/-- The number of octets that are needed, as far as a front of some length says. -/
def needed (length : Nat) : Parsed α → Nat
  | incomplete missing => length + missing
  | block _ _ | broken _ => length

/-- As many octets are needed as there are. -/
theorem le_needed (length : Nat) (parsed : Parsed α) : length ≤ parsed.needed length := by
  cases parsed with
  | block value size => exact Nat.le_refl length
  | incomplete missing => exact Nat.le_add_right length missing
  | broken fault => exact Nat.le_refl length

/-- Where it is told what stands in front, no more octets are needed. -/
theorem needed_of_isTold {parsed : Parsed α} (h : parsed.isTold = true) (length : Nat) :
    parsed.needed length = length := by
  cases parsed with
  | block value size => rfl
  | incomplete missing => cases h
  | broken fault => rfl

/-- What is not told is incomplete. -/
theorem exists_incomplete {parsed : Parsed α} (h : parsed.isTold = false) :
    ∃ missing, parsed = .incomplete missing := by
  cases parsed with
  | block value size => cases h
  | incomplete missing => exact ⟨missing, rfl⟩
  | broken fault => cases h

/-- Making something of a block tells neither more nor less. -/
@[simp] theorem isTold_map (f : α → β) (parsed : Parsed α) :
    (parsed.map f).isTold = parsed.isTold := by
  cases parsed <;> rfl

/-- Making something of a block needs no other octets. -/
@[simp] theorem needed_map (f : α → β) (length : Nat) (parsed : Parsed α) :
    (parsed.map f).needed length = parsed.needed length := by
  cases parsed <;> rfl

end Parsed

/-! ## Readers that are given more -/

/-- A reader is given fronts of `least` octets and more. -/
structure ReadsOn {α : Type} (least : Nat) (read : Bytes → Parsed α) : Prop where
  /-- What is told stays so, whatever follows. -/
  told : ∀ {front bytes : Bytes}, least ≤ front.length → front <+: bytes →
    (read front).isTold = true → read bytes = read front
  /-- What is needed for a front is needed for a longer one. -/
  needed_le : ∀ {front bytes : Bytes}, least ≤ front.length → front <+: bytes →
    (read front).needed front.length ≤ (read bytes).needed bytes.length
  /-- A block takes some of the octets, and no more than there are. -/
  size_le : ∀ {bytes : Bytes} {block : α} {size : Nat}, least ≤ bytes.length →
    read bytes = .block block size → 0 < size ∧ size ≤ bytes.length

/-- Reading that waits for `length` octets and then goes on by what they are. -/
def awaiting {α : Type} (length : Nat) (next : Bytes → Bytes → Parsed α) (bytes : Bytes) :
    Parsed α :=
  if bytes.length < length then .incomplete (length - bytes.length)
  else next (bytes.take length) bytes

namespace ReadsOn

variable {α β : Type} {least : Nat} {read : Bytes → Parsed α}

/-- Fronts that are longer than needed will do. -/
theorem mono (h : ReadsOn least read) {more : Nat} (hle : least ≤ more) : ReadsOn more read where
  told hlong := h.told (Nat.le_trans hle hlong)
  needed_le hlong := h.needed_le (Nat.le_trans hle hlong)
  size_le hlong := h.size_le (Nat.le_trans hle hlong)

/-- An answer that hangs on nothing stays so; a block is no longer than what was waited
for. -/
theorem const {parsed : Parsed α}
    (hsize : ∀ block size, parsed = .block block size → 0 < size ∧ size ≤ least) :
    ReadsOn least fun _ => parsed where
  told _ _ _ := rfl
  needed_le _ hprefix := by
    have hlength := hprefix.length_le
    cases parsed with
    | block value size => exact hlength
    | incomplete missing => exact Nat.add_le_add_right hlength missing
    | broken fault => exact hlength
  size_le hlong hblock :=
    ⟨(hsize _ _ hblock).1, Nat.le_trans (hsize _ _ hblock).2 hlong⟩

/-- An answer that is no block stays so. -/
theorem broken (fault : BlockFault) : ReadsOn least fun _ => (.broken fault : Parsed α) :=
  const fun _ _ hblock => nomatch hblock

/-- Something is made of the blocks that are read. -/
theorem map (h : ReadsOn least read) (f : α → β) :
    ReadsOn least fun bytes => (read bytes).map f where
  told hlong hprefix htold := by
    rw [h.told hlong hprefix (by rw [← Parsed.isTold_map f]; exact htold)]
  needed_le hlong hprefix := by
    rw [Parsed.needed_map, Parsed.needed_map]
    exact h.needed_le hlong hprefix
  size_le {bytes block size} hlong hblock := by
    cases hread : read bytes with
    | block value length =>
      rw [hread] at hblock
      cases hblock
      exact h.size_le hlong hread
    | incomplete missing =>
      rw [hread] at hblock
      cases hblock
    | broken fault =>
      rw [hread] at hblock
      cases hblock

/-- A reader that waits for octets is given more, if it is so whatever they are. -/
theorem awaiting {length : Nat} {next : Bytes → Bytes → Parsed α}
    (h : ∀ head : Bytes, head.length = length → ReadsOn length (next head)) :
    ReadsOn least (Savefile.awaiting length next) where
  told {front bytes} _ hprefix htold := by
    have hle := hprefix.length_le
    rw [Savefile.awaiting] at htold ⊢
    split at htold
    · cases htold
    · rename_i hlong
      have hhead : (front.take length).length = length := by
        rw [List.length_take]
        omega
      have hsame : bytes.take length = front.take length := by
        obtain ⟨rest, rfl⟩ := hprefix
        exact List.take_append_of_le_length (Nat.le_of_not_lt hlong)
      rw [if_neg (by omega), Savefile.awaiting, if_neg hlong, hsame]
      exact (h _ hhead).told (Nat.le_of_not_lt hlong) hprefix htold
  needed_le {front bytes} _ hprefix := by
    have hle := hprefix.length_le
    by_cases hlong : front.length < length
    · have hneeded : (Savefile.awaiting length next front).needed front.length = length := by
        rw [Savefile.awaiting, if_pos hlong, Parsed.needed]
        omega
      rw [hneeded]
      by_cases hmore : bytes.length < length
      · rw [Savefile.awaiting, if_pos hmore, Parsed.needed]
        omega
      · exact Nat.le_trans (Nat.le_of_not_lt hmore) (Parsed.le_needed _ _)
    · have hhead : (front.take length).length = length := by
        rw [List.length_take]
        omega
      have hsame : bytes.take length = front.take length := by
        obtain ⟨rest, rfl⟩ := hprefix
        exact List.take_append_of_le_length (Nat.le_of_not_lt hlong)
      rw [Savefile.awaiting, Savefile.awaiting, if_neg hlong, if_neg (by omega), hsame]
      exact (h _ hhead).needed_le (Nat.le_of_not_lt hlong) hprefix
  size_le {bytes block size} _ hblock := by
    rw [Savefile.awaiting] at hblock
    split at hblock
    · cases hblock
    · rename_i hlong
      have hhead : (bytes.take length).length = length := by
        rw [List.length_take]
        omega
      exact (h _ hhead).size_le (Nat.le_of_not_lt hlong) hblock

end ReadsOn

/-! ## The readers of blocks -/

/-- A front is as long as it is asked to be, or all that there is. -/
theorem length_take_lt_iff {bytes : Bytes} {length : Nat} :
    (bytes.take length).length < length ↔ bytes.length < length := by
  rw [List.length_take]
  omega

/-- What is missing of a front is missing of the octets. -/
theorem sub_length_take {bytes : Bytes} {length : Nat} :
    length - (bytes.take length).length = length - bytes.length := by
  rw [List.length_take]
  omega

/-- A part that lies within the first octets is found in them. -/
theorem slice_take {bytes : Bytes} {start width length : Nat} (hlong : length ≤ bytes.length)
    (hwithin : start + width ≤ length) :
    slice (bytes.take length) start width = slice bytes start width := by
  apply slice_of_isPrefix (List.take_prefix length bytes)
  rw [List.length_take]
  omega

/-- A record is read in two steps: its header, and as much data as that tells. -/
theorem Record.read_eq_awaiting (header : FileHeader) :
    Record.read header = awaiting header.recordHeaderLength fun head =>
      awaiting (header.recordHeaderLength + (longAt header.order head 8).toNat) fun whole _ =>
        .block ⟨longAt header.order head 0, longAt header.order head 4,
          longAt header.order head 8, longAt header.order head 12,
          slice whole header.recordHeaderLength (longAt header.order head 8).toNat⟩
          (header.recordHeaderLength + (longAt header.order head 8).toNat) := by
  funext bytes
  rw [Record.read, awaiting]
  simp only [length_take_lt_iff, sub_length_take]
  split
  · rfl
  · rename_i hlong
    generalize hhead : bytes.take header.recordHeaderLength = head
    have hdata := length_slice bytes header.recordHeaderLength
      (longAt header.order head 8).toNat
    rw [awaiting]
    split
    · rename_i hshort
      rw [if_pos (by omega)]
      congr 1
      omega
    · rename_i hall
      rw [if_neg (by omega), slice_take (by omega) (Nat.le_refl _)]

/-- Records are read on. -/
theorem Record.readsOn (header : FileHeader) : ReadsOn 0 (Record.read header) := by
  rw [Record.read_eq_awaiting]
  apply ReadsOn.awaiting
  intro head hhead
  apply ReadsOn.awaiting
  intro whole hwhole
  apply ReadsOn.const
  intro block size hblock
  cases hblock
  have hpositive : 0 < header.recordHeaderLength := by
    rw [FileHeader.recordHeaderLength]
    split <;> decide
  exact ⟨by omega, Nat.le_refl _⟩

/-- A block that is read from its content has the length that was told. -/
theorem size_of_blockOfContent {order : ByteOrder} {kind : BlockKind} {size length : Nat}
    {content : Bytes} {block : Block}
    (h : blockOfContent order kind size content = .block block length) : length = size := by
  have haligned : ∀ (start count : Nat) (use : Bytes → Parsed Block),
      (∀ data, ∃ made, use data = .block made size) →
      alignedContent content start count use = .block block length → length = size := by
    intro start count use huse hblock
    rw [alignedContent] at hblock
    split at hblock
    · cases hblock
    · dsimp only at hblock
      split at hblock
      · cases hblock
      · obtain ⟨made, hmade⟩ := huse (slice content start (aligned count))
        rw [hmade] at hblock
        cases hblock
        rfl
  cases kind with
  | sectionStart => cases h; rfl
  | interface => cases h; rfl
  | simplePacket => cases h; rfl
  | names =>
    rw [blockOfContent] at h
    split at h
    · cases h
      rfl
    · cases h
    · cases h
  | statistics => cases h; rfl
  | packet => exact haligned _ _ _ (fun data => ⟨_, rfl⟩) h
  | secrets => exact haligned _ _ _ (fun data => ⟨_, rfl⟩) h
  | custom => cases h; rfl
  | process =>
    rw [blockOfContent] at h
    split at h
    · cases h
    · cases h
      rfl
  | unknown => cases h; rfl

/-- What comes of all octets of a block whose length is told in front. -/
def ofWhole (order : ByteOrder) (kind : BlockKind) (size : Nat) (whole : Bytes) : Parsed Block :=
  match blockOfContent order kind size (slice whole 8 (size - 12)) with
  | .block block length =>
    if kind.comparesLengths ∧
        longAt order (slice whole (size - 4) 4) 0 ≠ longAt order whole 4 then
      .broken .inconsistent
    else .block block length
  | parsed => parsed

/-- A block is read in three steps: its type and length, its content, and its second
length. -/
theorem readBlockOf_eq_awaiting (order : ByteOrder) (kind : BlockKind) :
    readBlockOf order kind = awaiting kind.minLength fun head =>
      if (longAt order head 4).toNat < kind.minLength ∨
          BlockKind.ofNumber (longAt order head 0) ≠ kind then
        fun _ => .broken .inconsistent
      else awaiting ((longAt order head 4).toNat - 4) fun _ =>
        awaiting (longAt order head 4).toNat fun whole _ =>
          ofWhole order kind (longAt order head 4).toNat whole := by
  funext bytes
  have hmin := kind.twelve_le_minLength
  rw [readBlockOf, awaiting]
  simp only [length_take_lt_iff, sub_length_take]
  split
  · rfl
  · rename_i hlong
    generalize hhead : bytes.take kind.minLength = head
    have hfirst : ∀ whole, whole = bytes.take (longAt order head 4).toNat →
        kind.minLength ≤ whole.length → longAt order whole 4 = longAt order head 4 := by
      intro whole hwhole henough
      have hpart : head <+: bytes := hhead ▸ List.take_prefix _ _
      have hlength : head.length = kind.minLength := by
        rw [← hhead, List.length_take]
        omega
      rw [longAt_of_isPrefix order (hwhole ▸ List.take_prefix _ bytes) (by omega),
        ← longAt_of_isPrefix order hpart (by omega)]
    generalize hsize : (longAt order head 4).toNat = size at *
    split
    · rfl
    · rename_i hfits
      have hle : kind.minLength ≤ size := Nat.le_of_not_lt (not_or.mp hfits).1
      have hcontent := length_slice bytes 8 (size - 12)
      have hsecond := length_slice bytes (size - 4) 4
      rw [awaiting, awaiting]
      by_cases hshort : bytes.length < size - 4
      · rw [if_pos (by omega), if_pos hshort]
        congr 1
        omega
      rw [if_neg (by omega), if_neg hshort]
      by_cases hcut : bytes.length < size
      · rw [if_pos (by omega), if_pos hcut]
        congr 1
        omega
      rw [if_neg (by omega), if_neg hcut]
      have hwhole : kind.minLength ≤ (bytes.take size).length := by
        rw [List.length_take]
        omega
      have hinner : slice (bytes.take size) 8 (size - 12) = slice bytes 8 (size - 12) :=
        slice_take (by omega) (by omega)
      have hlast : slice (bytes.take size) (size - 4) 4 = slice bytes (size - 4) 4 :=
        slice_take (by omega) (by omega)
      have hagain : longAt order (bytes.take size) 4 = longAt order head 4 :=
        hfirst _ rfl hwhole
      rewrite [ofWhole, hinner, hlast, hagain]
      rfl

/-- Blocks of a kind are read on. -/
theorem readBlockOf_readsOn (order : ByteOrder) (kind : BlockKind) :
    ReadsOn 0 (readBlockOf order kind) := by
  have hmin := kind.twelve_le_minLength
  rw [readBlockOf_eq_awaiting]
  apply ReadsOn.awaiting
  intro head hhead
  split
  · exact ReadsOn.broken .inconsistent
  · rename_i hfits
    have hle : kind.minLength ≤ (longAt order head 4).toNat :=
      Nat.le_of_not_lt (not_or.mp hfits).1
    apply ReadsOn.awaiting
    intro front hfront
    apply ReadsOn.awaiting
    intro whole hwhole
    apply ReadsOn.const
    intro block size hblock
    rw [ofWhole] at hblock
    split at hblock
    · rename_i made length hmade
      have hlength := size_of_blockOfContent hmade
      split at hblock
      · cases hblock
      · cases hblock
        omega
    · rename_i hother
      exact absurd hblock (hother block size)

/-- A section block is read in two steps: the mark of its byte order, and the block. -/
theorem readSection_eq_awaiting :
    readSection = awaiting 12 fun head =>
      match sectionOrder? head with
      | some order => readBlockOf order .sectionStart
      | none => fun _ => .broken .unrecognized := by
  funext bytes
  rw [readSection, awaiting]
  simp only [length_take_lt_iff, sub_length_take]
  split
  · rfl
  · cases sectionOrder? (bytes.take 12) <;> rfl

/-- Section blocks are read on. -/
theorem readSection_readsOn : ReadsOn 0 readSection := by
  rw [readSection_eq_awaiting]
  apply ReadsOn.awaiting
  intro head hhead
  split
  · rename_i order _
    exact (readBlockOf_readsOn order .sectionStart).mono (Nat.zero_le 12)
  · exact ReadsOn.broken .unrecognized

/-- A block is read in two steps: its type, and what that asks for. -/
theorem readBlock_eq_awaiting (order : ByteOrder) :
    readBlock order = awaiting 4 fun head =>
      match BlockKind.ofNumber (longAt order head 0) with
      | .sectionStart => readSection
      | kind => readBlockOf order kind := by
  funext bytes
  rw [readBlock, awaiting]
  simp only [length_take_lt_iff, sub_length_take]
  split
  · rfl
  · generalize BlockKind.ofNumber (longAt order (bytes.take 4) 0) = kind
    cases kind <;> rfl

/-- Blocks are read on. -/
theorem readBlock_readsOn (order : ByteOrder) : ReadsOn 0 (readBlock order) := by
  rw [readBlock_eq_awaiting]
  apply ReadsOn.awaiting
  intro head hhead
  split
  · exact readSection_readsOn.mono (Nat.zero_le 4)
  · exact (readBlockOf_readsOn order _).mono (Nat.zero_le 4)

/-- Whatever the encoding, the front of a file is read on. -/
theorem Encoding.readsOn (encoding : Encoding) : ReadsOn 0 encoding.front := by
  cases encoding with
  | classic header told nanoseconds => exact (Record.readsOn header).map _
  | blocks order => exact readBlock_readsOn order

end CaptureFlow.Savefile
