import CaptureFlow.Address.Octets
import CaptureFlow.Proofs.Bytes
import CaptureFlow.Proofs.Savefile.Walk

/-!
# Files made of blocks as they are written

A block is its type, its length, its content and its length again. A file is made of
sections, each in a byte order of its own, and a section of blocks of any kinds in any
order. Reading a block of a section gives what is kept of it, whatever follows it, and a
part of it is incomplete.
-/

namespace CaptureFlow.Savefile

/-! ## Framing of blocks -/

/-- The octets of a block with a type number and a content. -/
def blockOctets (order : ByteOrder) (number : UInt32) (content : Bytes) : Bytes :=
  order.octets 4 number.toNat ++ (order.octets 4 (UInt32.ofNat (content.length + 12)).toNat ++
    (content ++ order.octets 4 (UInt32.ofNat (content.length + 12)).toNat))

section Framing

variable {order : ByteOrder} {number : UInt32} {content : Bytes}

/-- A block has twelve octets more than its content. -/
theorem length_blockOctets : (blockOctets order number content).length = content.length + 12 := by
  simp only [blockOctets, List.length_append, ByteOrder.length_octets]
  omega

/-- The type of a block is read from its front. -/
theorem longAt_blockOctets_zero : longAt order (blockOctets order number content) 0 = number :=
  longAt_front _ _ _

/-- The content of a block stands behind its type and length. -/
theorem slice_blockOctets_content :
    slice (blockOctets order number content) 8 content.length = content := by
  have hlength := ByteOrder.length_octets order 4
  exact (slice_behind (hlength _) _ 4 _).trans <|
    (slice_behind (hlength _) _ 0 _).trans (slice_append [] _ rfl)

/-- The length of a block is repeated at its end. -/
theorem slice_blockOctets_length :
    slice (blockOctets order number content) (content.length + 8) 4 =
      order.octets 4 (UInt32.ofNat (content.length + 12)).toNat := by
  have hlength := ByteOrder.length_octets order 4
  have hend := slice_append content [] (hlength (UInt32.ofNat (content.length + 12)).toNat)
  rw [List.append_nil] at hend
  have hoffset : content.length + 8 = 4 + (4 + content.length) := by omega
  rw [hoffset]
  exact (slice_behind (hlength _) _ _ _).trans <| (slice_behind (hlength _) _ _ _).trans hend

/-- The length of a block is read behind its type. -/
theorem longAt_blockOctets_four :
    longAt order (blockOctets order number content) 4 = UInt32.ofNat (content.length + 12) :=
  (longAt_behind (ByteOrder.length_octets _ _ _) _ _ 0).trans (longAt_front _ _ _)

/-- A block takes twelve octets at least. -/
theorem BlockKind.twelve_le_minLength (kind : BlockKind) : 12 ≤ kind.minLength := by
  cases kind <;> decide

/-- The type and the length of a block are read from the least that a block of its kind
takes. -/
theorem longAt_take_minLength {kind : BlockKind} {bytes : Bytes}
    (hlong : kind.minLength ≤ bytes.length) (hnumber : longAt order bytes 0 = number)
    (hsize : longAt order bytes 4 = UInt32.ofNat (content.length + 12)) :
    (bytes.take kind.minLength).length = kind.minLength ∧
      longAt order (bytes.take kind.minLength) 0 = number ∧
      longAt order (bytes.take kind.minLength) 4 = UInt32.ofNat (content.length + 12) := by
  have htwelve := kind.twelve_le_minLength
  have hlength : (bytes.take kind.minLength).length = kind.minLength := by
    rw [List.length_take]
    omega
  have hprefix : bytes.take kind.minLength <+: bytes := List.take_prefix _ _
  rw [longAt_of_isPrefix order hprefix (by omega), longAt_of_isPrefix order hprefix (by omega)]
  exact ⟨hlength, hnumber, hsize⟩

variable (hfits : content.length + 12 < capacity)

include hfits

/-- The length of a block is told exactly. -/
theorem toNat_blockLength :
    (UInt32.ofNat (content.length + 12)).toNat = content.length + 12 := by
  apply UInt32.toNat_ofNat_of_lt'
  simp only [capacity, UInt32.size] at *
  omega

variable {kind : BlockKind} (hkind : BlockKind.ofNumber number = kind)
  (hmin : kind.minLength ≤ content.length + 12)

include hkind hmin

/-- A block is read once all of it is in front, if its content is. -/
theorem readBlockOf_octets {block : Block}
    (hcontent : blockOfContent order kind (content.length + 12) content =
      .block block (content.length + 12)) (rest : Bytes) :
    readBlockOf order kind (blockOctets order number content ++ rest) =
      .block block (content.length + 12) := by
  have hlength : (blockOctets order number content).length = content.length + 12 :=
    length_blockOctets
  have hprefix : blockOctets order number content <+: blockOctets order number content ++ rest :=
    List.prefix_append _ _
  have hlong : kind.minLength ≤ (blockOctets order number content ++ rest).length := by
    rw [List.length_append]
    omega
  have hnumber : longAt order (blockOctets order number content ++ rest) 0 = number := by
    rw [← longAt_of_isPrefix order hprefix (by omega), longAt_blockOctets_zero]
  have hsize : longAt order (blockOctets order number content ++ rest) 4 =
      UInt32.ofNat (content.length + 12) := by
    rw [← longAt_of_isPrefix order hprefix (by omega), longAt_blockOctets_four]
  have hinner : slice (blockOctets order number content ++ rest) 8 content.length = content := by
    rw [← slice_of_isPrefix hprefix (by omega), slice_blockOctets_content]
  have hsecond : slice (blockOctets order number content ++ rest) (content.length + 8) 4 =
      order.octets 4 (UInt32.ofNat (content.length + 12)).toNat := by
    rw [← slice_of_isPrefix hprefix (by omega), slice_blockOctets_length]
  have hagain := longAt_front order (UInt32.ofNat (content.length + 12)) []
  rw [List.append_nil, toNat_blockLength hfits] at hagain
  have hbehind : content.length + 12 - 4 = content.length + 8 := by omega
  obtain ⟨hleast, hfrontNumber, hfrontSize⟩ := longAt_take_minLength hlong hnumber hsize
  simp only [readBlockOf, hleast, hfrontNumber, hfrontSize, toNat_blockLength hfits, hkind,
    Nat.not_lt.mpr hmin, Nat.add_sub_cancel, hbehind, hinner, hsecond, hcontent, hagain,
    ByteOrder.length_octets, Nat.lt_irrefl, if_false, ne_eq, not_true_eq_false, or_self,
    and_false]

/-- A part of a block is incomplete. -/
theorem readBlockOf_cut {front : Bytes} (hfront : front <+: blockOctets order number content)
    (hne : front ≠ blockOctets order number content) :
    ∃ missing, readBlockOf order kind front = .incomplete missing ∧
      front.length + missing ≤ content.length + 12 := by
  have htwelve := kind.twelve_le_minLength
  have hlength : (blockOctets order number content).length = content.length + 12 :=
    length_blockOctets
  have hshorter : front.length < content.length + 12 := by
    rw [← hlength]
    exact Nat.lt_of_le_of_ne hfront.length_le fun heq => hne (hfront.eq_of_length heq)
  by_cases hlong : kind.minLength ≤ front.length
  · have hnumber : longAt order front 0 = number := by
      rw [longAt_of_isPrefix order hfront (by omega), longAt_blockOctets_zero]
    have hsize : longAt order front 4 = UInt32.ofNat (content.length + 12) := by
      rw [longAt_of_isPrefix order hfront (by omega), longAt_blockOctets_four]
    have hinner := length_slice front 8 content.length
    have hsecond := length_slice front (content.length + 8) 4
    have hbehind : content.length + 12 - 4 = content.length + 8 := by omega
    obtain ⟨hleast, hfrontNumber, hfrontSize⟩ := longAt_take_minLength hlong hnumber hsize
    simp only [readBlockOf, hleast, hfrontNumber, hfrontSize, toNat_blockLength hfits, hkind,
      Nat.not_lt.mpr hmin, Nat.add_sub_cancel, hbehind, Nat.lt_irrefl, if_false, ne_eq,
      not_true_eq_false, or_self]
    split
    · exact ⟨_, rfl, by omega⟩
    · rw [if_pos (by omega)]
      exact ⟨_, rfl, by omega⟩
  · have htake : (front.take kind.minLength).length = front.length := by
      rw [List.length_take]
      omega
    refine ⟨kind.minLength - front.length, ?_, by omega⟩
    simp only [readBlockOf, htake, Nat.lt_of_not_le hlong, if_true]

end Framing

/-! ## Reading blocks in a section -/

/-- The type of a block in front tells how it is read. -/
theorem readBlock_of_le {order : ByteOrder} {kind : BlockKind} {bytes : Bytes}
    (hlong : 4 ≤ bytes.length) (hkind : BlockKind.ofNumber (longAt order bytes 0) = kind) :
    readBlock order bytes =
      if kind = .sectionStart then readSection bytes else readBlockOf order kind bytes := by
  have htake : (bytes.take 4).length = 4 := by
    rw [List.length_take]
    omega
  have hfront : longAt order (bytes.take 4) 0 = longAt order bytes 0 :=
    longAt_of_isPrefix order (List.take_prefix 4 bytes) (by omega)
  simp only [readBlock, htake, Nat.lt_irrefl, if_false, hfront, hkind]
  cases kind <;> rfl

/-- Octets are written for a block if they are read as such once their type is in front. -/
theorem writes_of_type {order : ByteOrder} {octets : Bytes} {block : Block}
    (kind : BlockKind) (read : Bytes → Parsed Block) (hlong : 4 ≤ octets.length)
    (hkind : BlockKind.ofNumber (longAt order octets 0) = kind)
    (hread : ∀ bytes, (if kind = .sectionStart then readSection bytes
      else readBlockOf order kind bytes) = read bytes)
    (hcomplete : ∀ rest, read (octets ++ rest) = .block block octets.length)
    (hcut : ∀ front, front <+: octets → front ≠ octets →
      ∃ missing, read front = .incomplete missing ∧ front.length + missing ≤ octets.length)
    (hfits : octets.length < capacity) : (Encoding.blocks order).Writes octets block := by
  constructor
  · intro rest
    have hprefix : octets <+: octets ++ rest := List.prefix_append _ _
    have hsame : longAt order (octets ++ rest) 0 = longAt order octets 0 :=
      (longAt_of_isPrefix order hprefix (by omega)).symm
    rw [Encoding.front, readBlock_of_le (Nat.le_trans hlong hprefix.length_le)
      (by rw [hsame, hkind]), hread, hcomplete]
  · intro front hfront hne
    rw [Encoding.front]
    by_cases hfour : 4 ≤ front.length
    · have hsame : longAt order front 0 = longAt order octets 0 :=
        longAt_of_isPrefix order hfront (by omega)
      rw [readBlock_of_le hfour (by rw [hsame, hkind]), hread]
      exact hcut front hfront hne
    · have htake : (front.take 4).length = front.length := by
        rw [List.length_take]
        omega
      refine ⟨4 - front.length, ?_, by omega⟩
      simp only [readBlock, htake, Nat.lt_of_not_le hfour, if_true]
  · exact hfits

/-- A block of any kind but the start of a section is written for what its content holds. -/
theorem writes_blockOctets {order : ByteOrder} {number : UInt32} {content : Bytes}
    {kind : BlockKind} {block : Block} (hfits : content.length + 12 < capacity)
    (hkind : BlockKind.ofNumber number = kind) (hsection : kind ≠ .sectionStart)
    (hmin : kind.minLength ≤ content.length + 12)
    (hcontent : blockOfContent order kind (content.length + 12) content =
      .block block (content.length + 12)) :
    (Encoding.blocks order).Writes (blockOctets order number content) block := by
  have hlength : (blockOctets order number content).length = content.length + 12 :=
    length_blockOctets
  apply writes_of_type kind (readBlockOf order kind)
  · omega
  · rw [longAt_blockOctets_zero, hkind]
  · intro bytes
    exact if_neg hsection
  · intro rest
    rw [readBlockOf_octets hfits hkind hmin hcontent, hlength]
  · intro front hfront hne
    rw [hlength]
    exact readBlockOf_cut hfits hkind hmin hfront hne
  · rw [hlength]
    exact hfits

/-- The number that tells the byte order of a section. -/
def orderMark : UInt32 := 0x1a2b3c4d

/-- The type number of a section block, which reads the same in either byte order. -/
def sectionNumber : UInt32 := 0x0a0d0d0a

/-- The block that starts a section, as it is written. -/
structure SectionHead where
  /-- The byte order of the section. -/
  order : ByteOrder
  /-- The version of the format and the length of the section. -/
  versions : Octets 12
  /-- The options of the section. -/
  options : Bytes
  /-- The block fits into a window. -/
  fits : 28 + options.length < capacity

namespace SectionHead

variable (head : SectionHead)

/-- The content of the block. -/
def content : Bytes :=
  head.order.octets 4 orderMark.toNat ++ (head.versions.bytes ++ head.options)

/-- The octets of the block. -/
def octets : Bytes :=
  blockOctets head.order sectionNumber head.content

/-- The length of the content. -/
theorem length_content : head.content.length = 16 + head.options.length := by
  rw [content, List.length_append, List.length_append, ByteOrder.length_octets,
    head.versions.length_eq]
  omega

/-- The length of the block. -/
theorem length_octets : head.octets.length = 28 + head.options.length := by
  rw [octets, length_blockOctets, length_content]
  omega

/-- The byte order is told behind the type and the length. -/
theorem sectionOrder?_of_slice {order : ByteOrder} {bytes : Bytes}
    (h : slice bytes 8 4 = order.octets 4 orderMark.toNat) : sectionOrder? bytes = some order := by
  rw [sectionOrder?, h]
  cases order <;> rfl

/-- The mark of the byte order is found in front. -/
theorem slice_octets : slice head.octets 8 4 = head.order.octets 4 orderMark.toNat := by
  have hlength := ByteOrder.length_octets head.order 4
  rw [octets, blockOctets, content, List.append_assoc]
  exact (slice_behind (hlength _) _ 4 4).trans <|
    (slice_behind (hlength _) _ 0 4).trans (slice_append [] _ (hlength _))

/-- Once the byte order is in front, a section block is read in it. -/
theorem readSection_of_slice {order : ByteOrder} {bytes : Bytes} (hlong : 12 ≤ bytes.length)
    (h : slice bytes 8 4 = order.octets 4 orderMark.toNat) :
    readSection bytes = readBlockOf order .sectionStart bytes := by
  have htake : (bytes.take 12).length = 12 := by
    rw [List.length_take]
    omega
  have hmark : slice (bytes.take 12) 8 4 = order.octets 4 orderMark.toNat := by
    rw [slice_of_isPrefix (List.take_prefix 12 bytes) (by omega), h]
  simp only [readSection, htake, Nat.lt_irrefl, if_false, sectionOrder?_of_slice hmark]

/-- The type number of a section block tells its kind. -/
theorem ofNumber_sectionNumber : BlockKind.ofNumber sectionNumber = .sectionStart :=
  rfl

/-- A section block is read from its octets. -/
theorem readSection_octets (rest : Bytes) :
    readSection (head.octets ++ rest) =
      .block (.sectionStart head.order) head.octets.length := by
  have hfits := head.fits
  have hcontent := head.length_content
  have hlength := head.length_octets
  have hmark : slice (head.octets ++ rest) 8 4 = head.order.octets 4 orderMark.toNat := by
    rw [← slice_of_isPrefix (List.prefix_append head.octets rest) (by omega), slice_octets]
  have hmin : BlockKind.minLength .sectionStart ≤ head.content.length + 12 := by
    rw [BlockKind.minLength]
    omega
  rw [readSection_of_slice (by rw [List.length_append]; omega) hmark, octets,
    readBlockOf_octets (by omega) ofNumber_sectionNumber hmin rfl,
    length_blockOctets]

/-- A part of a section block is incomplete. -/
theorem readSection_cut {front : Bytes} (hfront : front <+: head.octets)
    (hne : front ≠ head.octets) :
    ∃ missing, readSection front = .incomplete missing ∧
      front.length + missing ≤ head.octets.length := by
  have hfits := head.fits
  have hcontent := head.length_content
  have hlength := head.length_octets
  by_cases hlong : 12 ≤ front.length
  · have hmark : slice front 8 4 = head.order.octets 4 orderMark.toNat := by
      rw [slice_of_isPrefix hfront (by omega), slice_octets]
    have hmin : BlockKind.minLength .sectionStart ≤ head.content.length + 12 := by
      rw [BlockKind.minLength]
      omega
    rw [readSection_of_slice hlong hmark, hlength]
    obtain ⟨missing, hread, hbound⟩ := readBlockOf_cut (by omega) ofNumber_sectionNumber hmin hfront hne
    exact ⟨missing, hread, by omega⟩
  · have htake : (front.take 12).length = front.length := by
      rw [List.length_take]
      omega
    refine ⟨12 - front.length, ?_, by omega⟩
    simp only [readSection, htake, Nat.lt_of_not_le hlong, if_true]

/-- The type number of a section block reads the same in either byte order. -/
theorem longAt_octets_zero (order : ByteOrder) : longAt order head.octets 0 = sectionNumber := by
  have hsame : head.order.octets 4 sectionNumber.toNat = order.octets 4 sectionNumber.toNat := by
    cases head.order <;> cases order <;> rfl
  rw [octets, blockOctets, hsame]
  exact longAt_front _ _ _

/-- A section block is written for its byte order, whatever the order of the section before. -/
theorem writes (order : ByteOrder) :
    (Encoding.blocks order).Writes head.octets (.sectionStart head.order) := by
  have hlength := head.length_octets
  apply writes_of_type .sectionStart readSection
  · omega
  · rw [head.longAt_octets_zero]
    rfl
  · intro bytes
    exact if_pos rfl
  · exact head.readSection_octets
  · intro front hfront hne
    exact head.readSection_cut hfront hne
  · rw [hlength]
    exact head.fits

end SectionHead

end CaptureFlow.Savefile
