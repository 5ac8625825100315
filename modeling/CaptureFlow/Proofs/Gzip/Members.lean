import CaptureFlow.Gzip.Member
import CaptureFlow.Proofs.Bytes
import CaptureFlow.Proofs.Gzip.Delivery
import CaptureFlow.Proofs.Gzip.Reach

/-!
# The members of a gzip file

A gzip file is a row of members, each a header, compressed data and a trailer, and it holds
the data of all of them, one after the other. The members may divide the data anywhere. A
stream of the file delivers the data of the first member, whatever follows it. A file that
is looked at in one piece delivers them without a break.
-/

namespace CaptureFlow.Gzip

/-- A member with some data stands in front of a rest. -/
inductive IsMember (file data rest : Bytes) : Prop where
  /-- The header is read, the data is decompressed up to its end, and the trailer fits. -/
  | mk {body : Bytes} {outputs : Array Output} {bits : Bits}
      (hheader : behindHeader file = .ok body)
      (hinflate : inflate (file.length - body.length) body = (outputs, .ok bits))
      (hdata : octetsOf outputs.toList = data)
      (htrailer : trailerEnding data bits.rest = .clean)
      (hrest : bits.rest.drop 8 = rest)

/-- A gzip file is made of members with these data. -/
inductive Holds : Bytes → List Bytes → Prop where
  /-- A member that is the last one. -/
  | last {file data : Bytes} (h : IsMember file data []) : Holds file [data]
  /-- A member in front of others. -/
  | more {file data rest : Bytes} {others : List Bytes} (h : IsMember file data rest)
      (hrest : Holds rest others) : Holds file (data :: others)

/-- The first member of a file stands in front of a rest. -/
theorem Holds.exists_isMember {file first : Bytes} {others : List Bytes}
    (h : Holds file (first :: others)) : ∃ rest, IsMember file first rest := by
  cases h with
  | last h => exact ⟨[], h⟩
  | more h hrest => exact ⟨_, h⟩

/-- What stands behind a trailer does not matter. -/
theorem trailerEnding_append (data rest : Bytes) {trailer : Bytes} (h : trailer.length = 8) :
    trailerEnding data (trailer ++ rest) = trailerEnding data trailer := by
  have hprefix := List.prefix_append trailer rest
  have hlong : ¬(trailer ++ rest).length < 8 := by
    rw [List.length_append]
    omega
  have hexact : ¬trailer.length < 8 := by omega
  rw [trailerEnding, trailerEnding, if_neg hlong, if_neg hexact,
    longAt_of_isPrefix .little hprefix (by omega),
    longAt_of_isPrefix .little hprefix (by omega)]

/-- What ends well has a trailer. -/
theorem length_of_trailerEnding {data trailer : Bytes} (h : trailerEnding data trailer = .clean) :
    8 ≤ trailer.length := by
  unfold trailerEnding at h
  split at h
  · cases h
  · omega

/-! ## Headers -/

/-- The parts that are split off make up the whole. -/
theorem eq_of_splitOff {count : Nat} {bytes front rest : Bytes}
    (h : splitOff count bytes = .ok (front, rest)) :
    front = bytes.take count ∧ rest = bytes.drop count := by
  unfold splitOff at h
  split at h
  · cases h
  · rw [List.splitAt_eq] at h
    cases h
    exact ⟨rfl, rfl⟩

/-- What is left once a part is split off is no longer. -/
theorem length_splitOff_le {count : Nat} {bytes front rest : Bytes}
    (h : splitOff count bytes = .ok (front, rest)) : rest.length ≤ bytes.length := by
  rw [(eq_of_splitOff h).2, List.length_drop]
  omega

/-- What is left once a text is dropped is no longer. -/
theorem length_skipText_le {bytes rest : Bytes} (h : skipText bytes = .ok rest) :
    rest.length ≤ bytes.length := by
  unfold skipText at h
  dsimp only at h
  split at h
  · cases h
  split at h
  · rename_i zero behind hdrop
    have hlength := congrArg List.length hdrop
    rw [List.length_drop, List.length_cons] at hlength
    cases h
    omega
  · cases h

/-- What is left once the extra field is dropped is no longer. -/
theorem length_skipExtra_le {bytes rest : Bytes} (h : skipExtra bytes = .ok rest) :
    rest.length ≤ bytes.length := by
  obtain ⟨⟨length, next⟩, hlength, h⟩ := exists_of_bind_ok h
  obtain ⟨⟨field, behind⟩, hfield, h⟩ := exists_of_bind_ok h
  cases h
  exact Nat.le_trans (length_splitOff_le hfield) (length_splitOff_le hlength)

/-- What is left once the checksum of the header is dropped is no longer. -/
theorem length_skipHeaderChecksum_le {file bytes rest : Bytes}
    (h : skipHeaderChecksum file bytes = .ok rest) : rest.length ≤ bytes.length := by
  obtain ⟨⟨found, next⟩, hfound, h⟩ := exists_of_bind_ok h
  dsimp only at h
  split at h
  · cases h
    exact length_splitOff_le hfound
  · cases h

/-- A reading goes on behind a part that need not be there, with no more than there was. -/
theorem exists_of_optional {present : Bool} {skip : Bytes → Except ReadFault Bytes}
    (hskip : ∀ {bytes rest : Bytes}, skip bytes = .ok rest → rest.length ≤ bytes.length)
    {next : Bytes → Except ReadFault Bytes} {bytes made : Bytes}
    (h : (if present then skip bytes >>= next else .ok bytes >>= next) = .ok made) :
    ∃ rest : Bytes, rest.length ≤ bytes.length ∧ next rest = .ok made := by
  split at h
  · obtain ⟨rest, hrest, hnext⟩ := exists_of_bind_ok h
    exact ⟨rest, hskip hrest, hnext⟩
  · exact ⟨bytes, Nat.le_refl _, h⟩

/-- What is left behind the header is no longer than the file. -/
theorem length_behindHeader_le {file body : Bytes} (h : behindHeader file = .ok body) :
    body.length ≤ file.length := by
  obtain ⟨⟨fixed, first⟩, hfixed, h⟩ := exists_of_bind_ok h
  have hfirst := length_splitOff_le hfixed
  dsimp only at h
  split at h
  · cases h
  obtain ⟨second, hsecond, h⟩ := exists_of_optional length_skipExtra_le h
  obtain ⟨third, hthird, h⟩ := exists_of_optional length_skipText_le h
  obtain ⟨fourth, hfourth, h⟩ := exists_of_optional length_skipText_le h
  split at h
  · have hsum := length_skipHeaderChecksum_le h
    omega
  · cases h
    omega

/-! ## Pieces -/

/-- A short file is looked at in one piece. -/
theorem pieceEnds_of_length_le {start length : Nat} (hstart : start < length)
    (hpiece : length ≤ pieceLength) : pieceEnds start length = [length] := by
  have hcount : (length + pieceLength - 1) / pieceLength = 1 := by
    unfold pieceLength at *
    omega
  have hend : min length pieceLength = length := Nat.min_eq_left hpiece
  simp only [pieceEnds, hcount, List.range_one, List.map_cons, List.map_nil, Nat.zero_add,
    Nat.one_mul, hend, List.filter_cons, List.filter_nil, decide_eq_true hstart, if_true]

/-- Output that is told by a piece of the file makes no stretch that uses up the piece. -/
theorem isReady_supplyFrom {reached limit : Nat} (hreached : reached ≤ limit)
    {outputs : List Output}
    (h : ∀ output ∈ outputs, output.reached ≤ limit ∧ output.held < limit)
    (gathered : Array UInt8) (room : Nat) :
    (supplyFrom (.complete reached .clean) gathered room [limit] outputs).IsReady := by
  induction outputs generalizing gathered room with
  | nil =>
    have hclose : (Close.complete reached .clean).reached?.any (· ≤ limit) = true :=
      decide_eq_true hreached
    rw [supplyFrom, if_pos hclose]
    exact .last _ _
  | cons output outputs ih =>
    obtain ⟨htold, hheld⟩ := h output List.mem_cons_self
    have hothers : ∀ output ∈ outputs, output.reached ≤ limit ∧ output.held < limit :=
      fun output hmem => h output (List.mem_cons_of_mem _ hmem)
    have hmore : ¬(limit < output.reached ∨ room = 0 ∧ output.held = limit) := by omega
    rw [supplyFrom, if_neg hmore]
    split
    · exact .stretch _ (ih hothers _ _)
    · exact ih hothers _ _

section

variable {file data rest : Bytes} (h : IsMember file data rest)

include h

/-- A stream delivers the data of the first member. -/
theorem IsMember.delivers : (stream (.octets file)).Delivers data := by
  obtain ⟨hheader, hinflate, rfl, htrailer, -⟩ := h
  rw [stream, streamOfBytes, hheader]
  exact ⟨_, delivers_supply hinflate htrailer, rfl⟩

/-- A file that starts with a member starts with the two octets of every gzip file. -/
theorem IsMember.magic_isPrefixOf : magic.isPrefixOf (file.take 2) = true := by
  obtain ⟨hheader, -, -, -, -⟩ := h
  obtain ⟨⟨fixed, body⟩, hsplit, hheader⟩ := exists_of_bind_ok hheader
  have hfixed := (eq_of_splitOff hsplit).1
  have hthree : fixed.take 3 = magic ++ [8] := by
    apply Decidable.byContradiction
    intro hother
    simp only [hother, ne_eq, not_false_eq_true, true_or, if_true] at hheader
    cases hheader
  have htwo : file.take 2 = magic := by
    have htake : file.take 2 = (fixed.take 3).take 2 := by
      rw [hfixed, List.take_take, List.take_take]
      rfl
    rw [htake, hthree]
    rfl
  rw [htwo]
  rfl

/-- A read of a file that is looked at in one piece hands out all that is asked for. -/
theorem IsMember.read_of_length_le (hpiece : file.length ≤ pieceLength) (request : Nat) :
    ((stream (.octets file)).read request).1 = .ok (data.take request) := by
  obtain ⟨hheader, hinflate, rfl, htrailer, -⟩ := h
  rename_i body outputs bits
  have hbody := length_behindHeader_le hheader
  obtain ⟨hstart, htotal, hwithin⟩ := inflates_inflate hinflate
  have hbehind := length_of_trailerEnding htrailer
  have hreached : bits.reached + 8 ≤ file.length := by omega
  have hends : pieceEnds (file.length - body.length) (file.length - body.length + body.length) =
      [file.length] := by
    rw [Nat.sub_add_cancel hbody]
    exact pieceEnds_of_length_le (by omega) hpiece
  have hready : (supply trailerEnding (file.length - body.length) body).IsReady := by
    unfold octetsOf at htrailer
    simp only [supply, hinflate, htrailer, hends]
    apply isReady_supplyFrom (by omega)
    intro output hmem
    have hbounds := hwithin output (Array.mem_toList_iff.mp hmem)
    omega
  rw [stream, streamOfBytes, hheader]
  exact Stream.gather_of_isReady (delivers_supply hinflate htrailer) hready []

end

end CaptureFlow.Gzip
