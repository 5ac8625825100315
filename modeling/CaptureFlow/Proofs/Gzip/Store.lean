import CaptureFlow.Proofs.Gzip.Members

/-!
# Gzip files of plain octets

A file that holds data in blocks of plain octets yields that data: its header has no
optional parts, every block is read up to its end, and the trailer fits.
-/

namespace CaptureFlow.Gzip

/-! ## Blocks of plain octets -/

/-- The octets of a block of plain octets behind its first octet, in front of a rest. -/
def sized (here rest : Bytes) : Bytes :=
  ByteOrder.little.octets 2 here.length ++
    (ByteOrder.little.octets 2 (0xffff - here.length) ++ (here ++ rest))

/-- Data is written block by block, each but the last one with as much as it can hold. -/
theorem plainBlocks_succ (n : Nat) (data : Bytes) :
    plainBlocks (n + 1) data = (if (data.drop 0xffff).isEmpty then 1 else 0) ::
      sized (data.take 0xffff)
        (if (data.drop 0xffff).isEmpty then [] else plainBlocks n (data.drop 0xffff)) := by
  simp only [plainBlocks, sized, List.cons_append, List.append_assoc]

/-- What stands behind the last octet of a block belongs to the rest. -/
theorem sized_append (here rest behind : Bytes) :
    sized here rest ++ behind = sized here (rest ++ behind) := by
  simp only [sized, List.append_assoc]

/-- A block of plain octets is longer than what is behind it. -/
theorem length_le_length_sized (here rest : Bytes) : rest.length ≤ (sized here rest).length := by
  simp only [sized, List.length_append]
  omega

/-- The octet in front of a block of plain octets tells whether it is the last one,
and that it is plain. -/
theorem blockHead_plain (last : Bool) (rest : Bytes) (reached : Nat) :
    ∃ pending, blockHead ⟨[], (if last then 1 else 0) :: rest, reached⟩ =
      .ok ((last, 0), ⟨pending, rest, reached + 1⟩) := by
  cases last with
  | false => exact ⟨[false, false, false, false, false], rfl⟩
  | true => exact ⟨[false, false, false, false, false], rfl⟩

/-- A block of plain octets puts out its octets and ends behind them. -/
theorem plainBlock_sized {here : Bytes} (h : here.length ≤ 0xffff) (out : Array Output)
    (pending : List Bool) (rest : Bytes) (reached : Nat) :
    ∃ outputs reached', plainBlock out ⟨pending, sized here rest, reached⟩ =
      (outputs, .ok ⟨[], rest, reached'⟩) ∧
      octetsOf outputs.toList = octetsOf out.toList ++ here := by
  have hfirstSize : here.length < UInt16.size := Nat.lt_succ_of_le h
  have hsecondSize : 0xffff - here.length < UInt16.size := Nat.lt_succ_of_le (Nat.sub_le _ _)
  unfold sized
  generalize hlength : ByteOrder.little.octets 2 here.length = length
  generalize hinverse : ByteOrder.little.octets 2 (0xffff - here.length) = inverse
  have hlength2 : length.length = 2 := hlength ▸ ByteOrder.length_octets _ _ _
  have hinverse2 : inverse.length = 2 := hinverse ▸ ByteOrder.length_octets _ _ _
  have hhead : (length ++ inverse).length = 4 := by
    rw [List.length_append, hlength2, hinverse2]
  have hfirst : (wordAt .little (length ++ inverse) 0).toNat = here.length := by
    have hword := wordAt_octets .little [] inverse here.length
    rw [hlength, List.nil_append, List.length_nil] at hword
    rw [hword, UInt16.toNat_ofNat_of_lt' hfirstSize]
  have hsecond : (wordAt .little (length ++ inverse) 2).toNat = 0xffff - here.length := by
    have hword := wordAt_octets .little length [] (0xffff - here.length)
    rw [hinverse, List.append_nil, hlength2] at hword
    rw [hword, UInt16.toNat_ofNat_of_lt' hsecondSize]
  have hsum : here.length + (0xffff - here.length) = 0xffff := by omega
  have hbehind : (length ++ inverse ++ (here ++ rest)).drop (4 + here.length) = rest := by
    rw [← List.append_assoc]
    apply List.drop_left'
    rw [List.length_append, hhead]
  rw [← List.append_assoc]
  simp only [plainBlock, List.take_left' hhead, List.drop_left' hhead, hfirst, hsecond,
    List.take_left, hhead, hsum, hbehind, Nat.lt_irrefl, ne_eq, not_true, if_false]
  refine ⟨_, _, rfl, ?_⟩
  rw [octetsOf, Array.toList_appendList, List.map_append, List.map_map]
  exact congrArg _ (List.zipIdx_map_fst 0 here)

/-- Reading goes on behind a block of plain octets unless it is the last one. -/
theorem blocks_sized (last : Bool) {here : Bytes} (h : here.length ≤ 0xffff) (fuel : Nat)
    (out : Array Output) (rest : Bytes) (reached : Nat) :
    ∃ outputs reached', blocks (fuel + 1) out
        ⟨[], (if last then 1 else 0) :: sized here rest, reached⟩ =
      (if last then (outputs, .ok ⟨[], rest, reached'⟩)
        else blocks fuel outputs ⟨[], rest, reached'⟩) ∧
      octetsOf outputs.toList = octetsOf out.toList ++ here := by
  obtain ⟨pending, hhead⟩ := blockHead_plain last (sized here rest) reached
  obtain ⟨outputs, reached', hblock, hout⟩ := plainBlock_sized h out pending rest (reached + 1)
  refine ⟨outputs, reached', ?_, hout⟩
  simp only [blocks, hhead, block, if_true, hblock]

/-- Blocks of plain octets put out the data that they hold. The reader has fuel for
as many blocks as there are octets, and every block takes an octet at least. -/
theorem blocks_plainBlocks {n : Nat} {data : Bytes} (hdata : data.length < n) {fuel : Nat}
    (hfuel : (plainBlocks n data).length ≤ fuel) (out : Array Output) (rest : Bytes)
    (reached : Nat) :
    ∃ outputs reached', blocks fuel out ⟨[], plainBlocks n data ++ rest, reached⟩ =
      (outputs, .ok ⟨[], rest, reached'⟩) ∧
      octetsOf outputs.toList = octetsOf out.toList ++ data := by
  induction n generalizing data fuel out reached with
  | zero => exact absurd hdata (Nat.not_lt_zero _)
  | succ n ih =>
    have hlength := List.length_take_le 0xffff data
    have hparts := List.take_append_drop 0xffff data
    rw [plainBlocks_succ, List.length_cons] at hfuel
    obtain ⟨fuel, rfl⟩ := Nat.exists_eq_add_of_le' (Nat.le_trans (Nat.le_add_left 1 _) hfuel)
    rw [plainBlocks_succ, List.cons_append, sized_append]
    cases hbehind : (data.drop 0xffff).isEmpty with
    | true =>
      obtain ⟨outputs, reached', hblocks, hout⟩ :=
        blocks_sized true hlength fuel out rest reached
      rw [List.isEmpty_iff.mp hbehind, List.append_nil] at hparts
      rw [hparts] at hblocks hout ⊢
      exact ⟨outputs, reached', hblocks, hout⟩
    | false =>
      rw [hbehind, if_neg Bool.false_ne_true] at hfuel
      have hleft : (data.drop 0xffff).length < n := by
        have hsome := List.length_pos_iff.mpr (List.isEmpty_eq_false_iff.mp hbehind)
        rw [List.length_drop] at hsome ⊢
        omega
      have hless := length_le_length_sized (data.take 0xffff) (plainBlocks n (data.drop 0xffff))
      obtain ⟨outputs, reached', hblocks, hout⟩ := blocks_sized false hlength fuel out
        (plainBlocks n (data.drop 0xffff) ++ rest) reached
      obtain ⟨outputs', reached'', hothers, hout'⟩ :=
        ih hleft (Nat.le_trans hless (Nat.le_of_succ_le_succ hfuel)) outputs reached'
      refine ⟨outputs', reached'', hblocks.trans hothers, ?_⟩
      rw [hout', hout, List.append_assoc, hparts]

/-! ## Files -/

/-- A part that is there is split off. -/
theorem splitOff_append {front : Bytes} {count : Nat} (h : front.length = count) (rest : Bytes) :
    splitOff count (front ++ rest) = .ok (front, rest) := by
  have hle : ¬ (front ++ rest).length < count := by
    rw [List.length_append]
    omega
  rw [splitOff, if_neg hle, List.splitAt_eq, List.take_left' h, List.drop_left' h]

/-- A header without optional parts is dropped. -/
theorem behindHeader_append (rest : Bytes) :
    behindHeader (magic ++ [8, 0, 0, 0, 0, 0, 0, 0xff] ++ rest) = .ok rest := by
  have hfixed : splitOff 10 (magic ++ [8, 0, 0, 0, 0, 0, 0, 0xff] ++ rest) =
    .ok (magic ++ [8, 0, 0, 0, 0, 0, 0, 0xff], rest) := splitOff_append rfl rest
  rw [behindHeader, hfixed]
  rfl

/-- The checksum and the length in the trailer fit the data. -/
theorem trailerEnding_octets (data : Bytes) :
    trailerEnding data (ByteOrder.little.octets 4 (checksum data).toNat ++
      ByteOrder.little.octets 4 data.length) = .clean := by
  have hlength := ByteOrder.length_octets .little 4 (checksum data).toNat
  have hsum := longAt_octets .little [] (ByteOrder.little.octets 4 data.length) (checksum data).toNat
  have hsize := longAt_octets .little (ByteOrder.little.octets 4 (checksum data).toNat) []
    data.length
  rw [hlength, List.append_nil] at hsize
  rw [List.nil_append, List.length_nil, UInt32.ofNat_toNat] at hsum
  rw [trailerEnding, List.length_append, ByteOrder.length_octets, ByteOrder.length_octets,
    if_neg (Nat.lt_irrefl 8), if_pos ⟨hsum, hsize⟩]

/-- What is written here is a member, in front of any rest. -/
theorem isMember_store (data rest : Bytes) : IsMember (store data ++ rest) data rest := by
  obtain ⟨trailer, htrailer⟩ : ∃ trailer, trailer = ByteOrder.little.octets 4
    (checksum data).toNat ++ ByteOrder.little.octets 4 data.length := ⟨_, rfl⟩
  obtain ⟨body, hbody⟩ : ∃ body, body =
    plainBlocks (data.length + 1) data ++ (trailer ++ rest) := ⟨_, rfl⟩
  have hlength : trailer.length = 8 := by
    rw [htrailer, List.length_append, ByteOrder.length_octets, ByteOrder.length_octets]
  have hheader : behindHeader (store data ++ rest) = .ok body := by
    rw [hbody, htrailer, store]
    simp only [List.append_assoc]
    rw [← List.append_assoc magic, behindHeader_append]
  have hfuel : (plainBlocks (data.length + 1) data).length ≤ 8 * body.length + 1 := by
    rw [hbody, List.length_append]
    omega
  obtain ⟨outputs, reached, hblocks, hout⟩ := blocks_plainBlocks (Nat.lt_succ_self data.length)
    hfuel #[] (trailer ++ rest) ((store data ++ rest).length - body.length)
  rw [← hbody] at hblocks
  have hending : trailerEnding data (trailer ++ rest) = .clean := by
    rw [trailerEnding_append data rest hlength, htrailer, trailerEnding_octets]
  exact .mk hheader hblocks hout hending (List.drop_left' hlength)

/-- Data that is divided anywhere can be written in as many members. -/
theorem holds_store (first : Bytes) (others : List Bytes) :
    Holds ((first :: others).flatMap store) (first :: others) := by
  induction others generalizing first with
  | nil => exact .last (isMember_store first [])
  | cons second others ih => exact .more (isMember_store first _) (ih second)

/-- Decompressing what is written here gives the data back. -/
theorem drain_store (data : Bytes) :
    (stream (.octets (store data))).drain 1 = (data, none) := by
  have hmember := isMember_store data []
  rw [List.append_nil] at hmember
  exact Stream.drain_of_delivers Nat.one_pos hmember.delivers

end CaptureFlow.Gzip
