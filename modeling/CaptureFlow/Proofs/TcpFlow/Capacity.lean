import CaptureFlow.Proofs.TcpFlow.Accounting
import CaptureFlow.Proofs.TcpFlow.Chain
import CaptureFlow.Proofs.TcpFlow.Progress

/-!
# Rates by payloads and by differences

The rates of a direction are told by the differences of its sequence numbers, or by the
payloads of the segments between them. The sequence numbers that are told increase, so that a
chain of segments leads over at least the difference of two of them, and beyond the second one
by one payload at most. So where payloads are told for all neighbours, they give as many rates
at the same offsets, and count as many bits or more.
-/

namespace CaptureFlow

namespace Rate

/-- The bits between two samples by the payloads of the chain of segments from the first to
the second. -/
def chainBits (bySeq : Table UInt32 Member) (earlier later : Sample) : Except FlowError UInt64 :=
  (chainBytes bySeq later.value earlier.value).map fun count => UInt64.ofNat count * 8

/-- Rates by payloads count at least the bits of the differences. -/
structure Dominates (unit : RateUnit) (bySeq : Table UInt32 Member) (samples : List Sample)
    (rates : List Rate) : Prop where
  /-- There are as many rates as by the differences, at the same offsets. -/
  offsets_eq : (throughput unit samples).map (List.map offset) = .ok (rates.map offset)
  /-- Both are told by the bits between neighbours. In every interval the payloads count at
  least the bits of the difference, and at most those of the longest payload more. -/
  counted : ∃ counts, AreCounts (chainBits bySeq) samples counts ∧
    rates = ofCounts unit samples counts ∧
    throughput unit samples = .ok (ofCounts unit samples (Sample.differences samples)) ∧
    List.Forall₂ (fun difference count =>
        difference.toNat ≤ count.toNat ∧ count.toNat ≤ difference.toNat + 8 * 65535)
      (Sample.differences samples) counts

variable {unit : RateUnit} {bySeq : Table UInt32 Member} {samples : List Sample}
  {rates : List Rate}

/-- The bits of octets that fit in a word are counted in full. -/
theorem toNat_ofNat_mul_eight {total : Nat} (h : total * 8 < UInt64.size) :
    (UInt64.ofNat total * 8).toNat = 8 * total := by
  have hword : (UInt64.ofNat total).toNat = total := UInt64.toNat_ofNat_of_lt (by omega)
  have hoctet : (8 : UInt64).toNat = 8 := rfl
  rw [UInt64.toNat_mul, hword, hoctet, Nat.mod_eq_of_lt h, Nat.mul_comm]

/-- Between increasing numbers a chain counts at least the bits of their difference, and at most
those of the longest payload more. -/
theorem chainBits_bounds {earlier later : Sample} {count : UInt64}
    (hlt : earlier.value < later.value) (h : chainBits bySeq earlier later = .ok count) :
    (differenceBits earlier later).toNat ≤ count.toNat ∧
      count.toNat ≤ (differenceBits earlier later).toNat + 8 * 65535 := by
  rw [chainBits] at h
  cases htotal : chainBytes bySeq later.value earlier.value with
  | error reason =>
    rw [htotal] at h
    cases h
  | ok total =>
    rw [htotal] at h
    cases h
    obtain ⟨hlower, hupper⟩ := chainBytes_bounds (UInt32.le_of_lt hlt) htotal
    have hbound := later.value.toNat_lt
    have hfits : total * 8 < UInt64.size := by
      have hsize : UInt64.size = 2 ^ 64 := rfl
      omega
    have hdifference := (Sample.toNat_differenceBits hlt).2
    rw [toNat_ofNat_mul_eight hfits, hdifference]
    omega

/-- Where the numbers increase, every count of payloads is bounded by the difference. -/
theorem forall₂_differences {counts : List UInt64}
    (hincreasing : samples.Pairwise fun earlier later => earlier.value < later.value)
    (h : AreCounts (chainBits bySeq) samples counts) :
    List.Forall₂ (fun difference count =>
        difference.toNat ≤ count.toNat ∧ count.toNat ≤ difference.toNat + 8 * 65535)
      (Sample.differences samples) counts := by
  rw [Sample.differences, List.forall₂_map_left_iff]
  obtain ⟨hlength, hcount⟩ := List.forall₂_iff_zip.mp h
  refine List.forall₂_iff_zip.mpr ⟨hlength, fun {pair count} hmem => ?_⟩
  have hlt := Sample.lt_of_mem_neighbours hincreasing (List.of_mem_zip hmem).1
  exact chainBits_bounds hlt (hcount hmem)

end Rate

namespace TcpFlow

/-- The rates of a direction by its payloads are those of the chains between its record highs,
where the times fit. -/
theorem capacity_eq_ok_iff {flow : TcpFlow} {direction : Direction} {unit : RateUnit}
    {rates : List Rate} : flow.capacity direction unit = .ok rates ↔
      Sample.TimesFit (flow.seqProgress direction) ∧
        ∃ counts, Rate.AreCounts (Rate.chainBits (flow.side direction).bySeq)
            (flow.seqProgress direction) counts ∧
          rates = Rate.ofCounts unit (flow.seqProgress direction) counts :=
  Rate.series_eq_ok_iff

/-- They overflow where a time does not fit in front of the first chain that breaks. -/
theorem capacity_eq_overflow_iff {flow : TcpFlow} {direction : Direction} {unit : RateUnit} :
    flow.capacity direction unit = .error (.overflow .elapsed) ↔ ∃ first pair,
      Rate.ComesTo (Rate.chainBits (flow.side direction).bySeq) (flow.seqProgress direction)
        first pair ∧ ¬Sample.PairFits first.timestamp pair :=
  Rate.series_eq_overflow_iff

/-- Where the rates of a direction by its payloads are told, in any flow and in any unit, they
have the offsets of the rates by the differences of its sequence numbers and count at least as
many bits. -/
theorem capacity_dominates (flow : TcpFlow) (direction : Direction) (unit : RateUnit)
    {rates : List Rate} (h : flow.capacity direction unit = .ok rates) :
    Rate.Dominates unit (flow.side direction).bySeq (flow.seqProgress direction) rates := by
  obtain ⟨hfits, counts, hcounts, rfl⟩ := capacity_eq_ok_iff.mp h
  have hincreasing := Sample.pairwise_recordHighs none (flow.samples direction Tcp.Header.seq)
  have hthroughput := Rate.throughput_eq unit (flow.seqProgress direction)
  rw [if_pos hfits] at hthroughput
  refine ⟨?_, counts, hcounts, rfl, hthroughput, Rate.forall₂_differences hincreasing hcounts⟩
  rw [hthroughput, Except.map, Rate.map_offset_ofCounts hcounts.length_eq,
    Rate.map_offset_ofCounts (List.length_map _)]

/-- A server sends three segments, the second one of them again with half its payload. -/
def shortenedTransfer : TcpFlow :=
  let data (timestamp : Timestamp) (seq : UInt32) (payload : UInt16) : Packet :=
    { Health.retransmissionPacket ⟨10, 0, 0, 1⟩ ⟨10, 0, 0, 2⟩ 80 51000 seq 1 payload with
      timestamp }
  ofMembers Health.retransmissionPair
    (Member.ofBatch [data 1000 0 100, data 2000 100 100, data 2500 100 50, data 3000 150 30])

/-- In both intervals the payloads count more bits than the difference, for the segment that
starts at the end of an interval counts as well. -/
theorem shortenedTransfer_dominates :
    shortenedTransfer.seqProgress .forward = [⟨1000, 0⟩, ⟨2000, 100⟩, ⟨3000, 150⟩] ∧
      shortenedTransfer.capacity .forward .megabits = .ok (Rate.ofCounts .megabits
        (shortenedTransfer.seqProgress .forward) [1200, 640]) ∧
      Sample.differences (shortenedTransfer.seqProgress .forward) = [800, 400] ∧
      Rate.Dominates .megabits (shortenedTransfer.side .forward).bySeq
        (shortenedTransfer.seqProgress .forward)
        (Rate.ofCounts .megabits (shortenedTransfer.seqProgress .forward) [1200, 640]) := by
  have hsamples : shortenedTransfer.seqProgress .forward =
      [⟨1000, 0⟩, ⟨2000, 100⟩, ⟨3000, 150⟩] := by
    decide
  have hcapacity : shortenedTransfer.capacity .forward .megabits =
      .ok (Rate.ofCounts .megabits (shortenedTransfer.seqProgress .forward) [1200, 640]) := by
    rw [capacity_eq_ok_iff, hsamples]
    exact ⟨by decide, [1200, 640], .cons (by decide +kernel) (.cons (by decide +kernel) .nil), rfl⟩
  exact ⟨hsamples, hcapacity, by decide,
    capacity_dominates shortenedTransfer .forward .megabits hcapacity⟩

end TcpFlow

end CaptureFlow
