import CaptureFlow.Proofs.TcpFlow.Calls
import CaptureFlow.Proofs.TcpFlow.Rates
import CaptureFlow.TcpFlow.Progress

/-!
# Record highs of a direction

The progress of a direction has a sample for each packet whose number is above those of all
packets before it. It is found in one pass that keeps the last sample only, which is the
highest number so far. So the values increase, the differences between neighbours never wrap
around, and the bits counted over them add up to those from the first sample to the last one.
-/

namespace CaptureFlow

namespace Sample

/-- The sample of a number in the TCP header of a packet. -/
def ofMember? (number : Tcp.Header → UInt32) (member : Member) : Option Sample :=
  member.packet.tcp?.map fun tcp => ⟨member.packet.timestamp, number tcp⟩

/-- The packet at a position has a TCP header, and the sample tells its time and its number. -/
def IsAt (number : Tcp.Header → UInt32) (members : List Member) (position : Nat)
    (sample : Sample) : Prop :=
  ∃ member, members[position]? = some member ∧ ofMember? number member = some sample

/-- The number of the packet at a position is above those of all packets before it. -/
structure IsHighAt (number : Tcp.Header → UInt32) (members : List Member) (position : Nat)
    (sample : Sample) : Prop where
  /-- The sample is that of the packet at the position. -/
  isAt : IsAt number members position sample
  /-- Every packet before it has a lower number. -/
  above : ∀ earlier other, earlier < position → IsAt number members earlier other →
    other.value < sample.value

/-- The bits between neighbours by the differences of their values. -/
def differences (samples : List Sample) : List UInt64 :=
  (neighbours samples).map fun pair => Rate.differenceBits pair.1 pair.2

/-- Samples are the record highs of the numbers of some packets, and their throughput counts
what lies between them. -/
structure IsProgress (number : Tcp.Header → UInt32) (members : List Member)
    (samples : List Sample) : Prop where
  /-- There is a sample for each packet with a number above those of all packets before it, in
  the order of the packets, and no other. -/
  highs : ∃ positions : List Nat, positions.Pairwise (· < ·) ∧
    (∀ position, position ∈ positions ↔ ∃ sample, IsHighAt number members position sample) ∧
    List.Forall₂ (IsHighAt number members) positions samples
  /-- The values increase. -/
  increasing : samples.Pairwise fun earlier later => earlier.value < later.value
  /-- The difference of neighbours does not wrap around, nor do the bits that it stands for. -/
  unwrapped : ∀ pair ∈ neighbours samples,
    (pair.2.value - pair.1.value).toNat = pair.2.value.toNat - pair.1.value.toNat ∧
      (Rate.differenceBits pair.1 pair.2).toNat =
        8 * (pair.2.value.toNat - pair.1.value.toNat)
  /-- The throughput has the rates of these differences, unless a time overflows. -/
  throughput_eq : ∀ unit, Rate.throughput unit samples =
    if TimesFit samples then .ok (Rate.ofCounts unit samples (differences samples))
    else .error .elapsed
  /-- The differences add up to the one from the first sample to the last. -/
  sum_differences : ∀ first last, samples.head? = some first → samples.getLast? = some last →
    first.value ≤ last.value ∧ ((differences samples).map UInt64.toNat).sum =
      8 * (last.value.toNat - first.value.toNat)

variable {number : Tcp.Header → UInt32} {members : List Member} {samples : List Sample}
  {position : Nat} {sample : Sample}

/-! ## Samples above all before them -/

/-- A sample that is kept has a value above the highest one at the start. -/
theorem lt_of_mem_recordHighs {highest : Option UInt32} (h : sample ∈ recordHighs highest samples) :
    highest.all (· < sample.value) = true := by
  induction samples generalizing highest with
  | nil => cases h
  | cons first rest ih =>
    rw [recordHighs] at h
    split at h
    next hfirst =>
      rcases List.mem_cons.mp h with rfl | hrest
      · exact hfirst
      · have hbetween : first.value < sample.value := of_decide_eq_true (ih hrest)
        cases highest with
        | none => rfl
        | some value =>
          exact decide_eq_true (UInt32.lt_trans (of_decide_eq_true hfirst) hbetween)
    · exact ih h

/-- The values of the samples that are kept increase. -/
theorem pairwise_recordHighs (highest : Option UInt32) (samples : List Sample) :
    (recordHighs highest samples).Pairwise fun earlier later => earlier.value < later.value := by
  induction samples generalizing highest with
  | nil => exact .nil
  | cons first rest ih =>
    rw [recordHighs]
    split
    · exact List.pairwise_cons.mpr
        ⟨fun later hlater => of_decide_eq_true (lt_of_mem_recordHighs hlater), ih _⟩
    · exact ih highest

/-- A value is above the highest one and the next one just if it is above the greater of them. -/
theorem all_lt_and_lt_iff (highest : Option UInt32) (first last : UInt32) :
    highest.all (· < last) = true ∧ first < last ↔
      (if highest.all (· < first) = true then some first else highest).all (· < last) = true := by
  cases highest with
  | none => simp
  | some value =>
    simp only [Option.all_some, decide_eq_true_eq]
    split
    next hlt =>
      rw [Option.all_some, decide_eq_true_eq]
      exact and_iff_right_of_imp fun h => UInt32.lt_trans hlt h
    next hle =>
      rw [Option.all_some, decide_eq_true_eq]
      exact and_iff_left_of_imp fun h => UInt32.lt_of_le_of_lt (UInt32.not_lt.mp hle) h

/-- One more sample is kept if its value is above all values before it. -/
theorem recordHighs_concat (highest : Option UInt32) (samples : List Sample) (last : Sample) :
    recordHighs highest (samples ++ [last]) = recordHighs highest samples ++
      if highest.all (· < last.value) = true ∧ ∀ other ∈ samples, other.value < last.value then
        [last] else [] := by
  induction samples generalizing highest with
  | nil => simp [recordHighs]
  | cons first rest ih =>
    simp only [List.forall_mem_cons, ← and_assoc, all_lt_and_lt_iff]
    rw [List.cons_append, recordHighs, recordHighs]
    split
    · rw [ih, List.cons_append]
    · rw [ih]

/-! ## Packets with numbers above all before them -/

/-- Packets have their samples at their positions. -/
theorem isAt_append_iff {others : List Member} (h : position < members.length) :
    IsAt number (members ++ others) position sample ↔ IsAt number members position sample := by
  rw [IsAt, IsAt, List.getElem?_append_left h]

/-- One more packet has its sample behind the others. -/
theorem isAt_concat_length_iff {member : Member} :
    IsAt number (members ++ [member]) members.length sample ↔
      ofMember? number member = some sample := by
  rw [IsAt, List.getElem?_concat_length]
  simp

/-- Samples are told at positions of packets. -/
theorem IsAt.lt_length (h : IsAt number members position sample) : position < members.length := by
  obtain ⟨member, hmember, -⟩ := h
  exact (List.getElem?_eq_some_iff.mp hmember).1

/-- The samples of some packets are those at their positions. -/
theorem exists_isAt_iff : (∃ position, IsAt number members position sample) ↔
    sample ∈ members.filterMap (ofMember? number) := by
  rw [List.mem_filterMap]
  constructor
  · rintro ⟨position, member, hmember, hsample⟩
    exact ⟨member, List.mem_of_getElem? hmember, hsample⟩
  · rintro ⟨member, hmember, hsample⟩
    obtain ⟨position, hposition⟩ := List.mem_iff_getElem?.mp hmember
    exact ⟨position, member, hposition, hsample⟩

/-- One more packet leaves the record highs before it what they are, and is one if its number is
above all numbers before it. -/
theorem isHighAt_concat_iff {member : Member} :
    IsHighAt number (members ++ [member]) position sample ↔
      IsHighAt number members position sample ∨ position = members.length ∧
        ofMember? number member = some sample ∧
          ∀ other ∈ members.filterMap (ofMember? number), other.value < sample.value := by
  constructor
  · rintro ⟨hat, habove⟩
    have hlt := hat.lt_length
    rw [List.length_append, List.length_singleton] at hlt
    rcases Nat.lt_or_eq_of_le (Nat.le_of_lt_succ hlt) with hbefore | rfl
    · refine .inl ⟨(isAt_append_iff hbefore).mp hat, fun earlier other hearlier hother => ?_⟩
      exact habove earlier other hearlier ((isAt_append_iff (by omega)).mpr hother)
    · refine .inr ⟨rfl, isAt_concat_length_iff.mp hat, fun other hother => ?_⟩
      obtain ⟨earlier, hearlier⟩ := exists_isAt_iff.mpr hother
      exact habove earlier other hearlier.lt_length
        ((isAt_append_iff hearlier.lt_length).mpr hearlier)
  · rintro (⟨hat, habove⟩ | ⟨rfl, hsample, habove⟩)
    · have hlt := hat.lt_length
      refine ⟨(isAt_append_iff hlt).mpr hat, fun earlier other hearlier hother => ?_⟩
      exact habove earlier other hearlier ((isAt_append_iff (by omega)).mp hother)
    · refine ⟨isAt_concat_length_iff.mpr hsample, fun earlier other hearlier hother => ?_⟩
      exact habove other (exists_isAt_iff.mp ⟨earlier, (isAt_append_iff hearlier).mp hother⟩)

/-- The number of one more packet is above all numbers before it just if its sample is kept. -/
theorem recordHighs_filterMap_concat (members : List Member) (member : Member) :
    (∃ last, IsHighAt number (members ++ [member]) members.length last ∧
        recordHighs none ((members ++ [member]).filterMap (ofMember? number)) =
          recordHighs none (members.filterMap (ofMember? number)) ++ [last]) ∨
      (∀ last, ¬IsHighAt number (members ++ [member]) members.length last) ∧
        recordHighs none ((members ++ [member]).filterMap (ofMember? number)) =
          recordHighs none (members.filterMap (ofMember? number)) := by
  have hhigh : ∀ last, IsHighAt number (members ++ [member]) members.length last ↔
      ofMember? number member = some last ∧
        ∀ other ∈ members.filterMap (ofMember? number), other.value < last.value := by
    intro last
    rw [isHighAt_concat_iff]
    constructor
    · rintro (hbefore | ⟨-, hlast⟩)
      · exact absurd hbefore.isAt.lt_length (Nat.lt_irrefl _)
      · exact hlast
    · exact fun hlast => .inr ⟨rfl, hlast⟩
  simp only [hhigh, List.filterMap_append, List.filterMap_cons, List.filterMap_nil]
  cases ofMember? number member with
  | none =>
    rw [List.append_nil]
    exact .inr ⟨fun last h => (nomatch h.1), rfl⟩
  | some last =>
    dsimp only
    rw [recordHighs_concat]
    by_cases habove : ∀ other ∈ members.filterMap (ofMember? number), other.value < last.value
    · exact .inl ⟨last, ⟨rfl, habove⟩, by rw [if_pos ⟨rfl, habove⟩]⟩
    · refine .inr ⟨?_, by rw [if_neg fun h => habove h.2, List.append_nil]⟩
      rintro other ⟨hother, hhighest⟩
      rw [Option.some.inj hother] at habove
      exact habove hhighest

/-- The record highs of some packets have positions in order, one for each sample. -/
theorem exists_positions (number : Tcp.Header → UInt32) (members : List Member) :
    ∃ positions : List Nat, positions.Pairwise (· < ·) ∧
      (∀ position, position ∈ positions ↔ ∃ sample, IsHighAt number members position sample) ∧
      List.Forall₂ (IsHighAt number members) positions
        (recordHighs none (members.filterMap (ofMember? number))) := by
  induction members using List.reverseRecOn with
  | nil =>
    refine ⟨[], .nil, fun position => ⟨nofun, ?_⟩, .nil⟩
    rintro ⟨sample, hhigh⟩
    exact absurd hhigh.isAt.lt_length (Nat.not_lt_zero position)
  | append_singleton members member ih =>
    obtain ⟨positions, hsorted, hmem, hsamples⟩ := ih
    have hbefore : ∀ position ∈ positions, position < members.length := by
      intro position hposition
      obtain ⟨sample, hhigh⟩ := (hmem position).mp hposition
      exact hhigh.isAt.lt_length
    have hstay : List.Forall₂ (IsHighAt number (members ++ [member])) positions
        (recordHighs none (members.filterMap (ofMember? number))) :=
      hsamples.imp fun _ _ hhigh => isHighAt_concat_iff.mpr (.inl hhigh)
    -- a record high stands at an old position or is that of the last packet
    have hold : ∀ position, position ≠ members.length → (position ∈ positions ↔
        ∃ sample, IsHighAt number (members ++ [member]) position sample) := by
      intro position hne
      rw [hmem]
      simp only [isHighAt_concat_iff, hne, false_and, or_false]
    rcases recordHighs_filterMap_concat members member with ⟨last, hlast, hkept⟩ | ⟨hnone, hkept⟩
    · rw [hkept]
      refine ⟨positions ++ [members.length], ?_, fun position => ?_,
        List.rel_append hstay (.cons hlast .nil)⟩
      · refine List.pairwise_append.mpr ⟨hsorted, List.pairwise_singleton _ _, ?_⟩
        intro position hposition behind hbehind
        rw [List.mem_singleton.mp hbehind]
        exact hbefore position hposition
      · rw [List.mem_append, List.mem_singleton]
        by_cases hposition : position = members.length
        · rw [hposition]
          exact ⟨fun _ => ⟨last, hlast⟩, fun _ => .inr rfl⟩
        · rw [← hold position hposition]
          exact or_iff_left hposition
    · rw [hkept]
      refine ⟨positions, hsorted, fun position => ?_, hstay⟩
      by_cases hposition : position = members.length
      · rw [hposition]
        constructor
        · intro hin
          exact absurd (hbefore _ hin) (Nat.lt_irrefl _)
        · rintro ⟨sample, hhigh⟩
          exact absurd hhigh (hnone sample)
      · exact hold position hposition

/-! ## Differences of neighbours -/

/-- Neighbours of samples whose values increase have increasing values. -/
theorem lt_of_mem_neighbours
    (h : samples.Pairwise fun earlier later => earlier.value < later.value)
    {pair : Sample × Sample} (hpair : pair ∈ neighbours samples) :
    pair.1.value < pair.2.value := by
  induction samples with
  | nil => cases hpair
  | cons first rest ih =>
    cases rest with
    | nil => cases hpair
    | cons second rest =>
      obtain ⟨hfirst, hrest⟩ := List.pairwise_cons.mp h
      rw [neighbours_cons] at hpair
      rcases List.mem_cons.mp hpair with rfl | hbehind
      · exact hfirst second List.mem_cons_self
      · exact ih hrest hbehind

/-- The bits of a difference that does not wrap around are counted in full. -/
theorem toNat_differenceBits {earlier later : Sample} (h : earlier.value < later.value) :
    (later.value - earlier.value).toNat = later.value.toNat - earlier.value.toNat ∧
      (Rate.differenceBits earlier later).toNat =
        8 * (later.value.toNat - earlier.value.toNat) := by
  have hdifference := UInt32.toNat_sub_of_le _ _ (UInt32.le_of_lt h)
  have hbound := later.value.toNat_lt
  refine ⟨hdifference, ?_⟩
  rw [Rate.differenceBits, UInt64.toNat_mul, UInt32.toNat_toUInt64, hdifference]
  have hoctet : (8 : UInt64).toNat = 8 := rfl
  rw [hoctet, Nat.mod_eq_of_lt (by omega), Nat.mul_comm]

/-- The bits between neighbours add up from the first sample to the last one. -/
theorem add_sum_differences {first last : Sample} {rest : List Sample}
    (h : (first :: rest).Pairwise fun earlier later => earlier.value < later.value)
    (hlast : (first :: rest).getLast? = some last) :
    8 * first.value.toNat + ((differences (first :: rest)).map UInt64.toNat).sum =
      8 * last.value.toNat := by
  induction rest generalizing first with
  | nil =>
    cases hlast
    rfl
  | cons second rest ih =>
    obtain ⟨hfirst, hrest⟩ := List.pairwise_cons.mp h
    have hlt := hfirst second List.mem_cons_self
    rw [List.getLast?_cons_cons] at hlast
    have hbehind := ih hrest hlast
    have hbits := (toNat_differenceBits hlt).2
    have hle := UInt32.lt_iff_toNat_lt.mp hlt
    rw [differences] at hbehind ⊢
    rw [neighbours_cons, List.map_cons, List.map_cons, List.sum_cons, hbits]
    omega

/-- The samples that are kept of some packets are the record highs of their numbers. -/
theorem isProgress_recordHighs (number : Tcp.Header → UInt32) (members : List Member) :
    IsProgress number members (recordHighs none (members.filterMap (ofMember? number))) := by
  have hincreasing := pairwise_recordHighs none (members.filterMap (ofMember? number))
  refine ⟨exists_positions number members, hincreasing, fun pair hpair => ?_,
    fun unit => Rate.throughput_eq unit _, fun first last hfirst hlast => ?_⟩
  · exact toNat_differenceBits (lt_of_mem_neighbours hincreasing hpair)
  · generalize recordHighs none _ = samples at hincreasing hfirst hlast ⊢
    cases samples with
    | nil => cases hfirst
    | cons head rest =>
      cases hfirst
      have hsum := add_sum_differences hincreasing hlast
      rw [UInt32.le_iff_toNat_le]
      omega

end Sample

namespace TcpFlow

/-- The acknowledgements and the sequence numbers of a direction, whose packets all have TCP
headers, progress by their record highs. -/
theorem ofMembers_isProgress (pair : EndpointPair) (members : List Member)
    (direction : Direction) :
    let flow := ofMembers pair members
    let sent := (flow.side direction).members.toList
    (∀ member ∈ sent, member.packet.tcp?.isSome) ∧
      Sample.IsProgress Tcp.Header.ack sent (flow.ackProgress direction) ∧
      Sample.IsProgress Tcp.Header.seq sent (flow.seqProgress direction) := by
  have hrecord := (isRecord_ofMembers pair members).sides direction
  refine ⟨?_, Sample.isProgress_recordHighs _ _, Sample.isProgress_recordHighs _ _⟩
  rw [hrecord.members_eq]
  exact hrecord.segments

end TcpFlow

end CaptureFlow
