import CaptureFlow.TcpFlow.Rate
import Mathlib.Algebra.GroupWithZero.Nat
import Mathlib.Logic.Relation

/-!
# Chains of segments

The octets between two sequence numbers are counted along a chain: each segment leads to the
number behind its payload. A chain ends where it has passed the last number, or has come to it
and finds no segment there, or would wrap around; it breaks where a segment is missing before
that, or has no payload. Every step goes on to a greater number, so a chain is finite, and what
is counted up to a number is the distance to it.
-/

namespace CaptureFlow

section Chain

variable (bySeq : Table UInt32 Member) (stop : UInt32)

/-- The payload of the segment at a number, zero where there is none. -/
def payloadAt (seq : UInt32) : UInt16 :=
  ((bySeq.find? seq).bind fun member => member.packet.payloadLength?).getD 0

/-- A chain finds a segment with a payload at a number up to the last one. -/
def Finds (seq : UInt32) : Prop :=
  seq ≤ stop ∧ payloadAt bySeq seq ≠ 0

/-- A chain leads from a segment that it finds to the number behind the payload, which does not
wrap around. -/
def Follows (seq next : UInt32) : Prop :=
  Finds bySeq stop seq ∧ next.toNat = seq.toNat + (payloadAt bySeq seq).toNat

/-- The numbers that a chain comes to. -/
abbrev Reaches : UInt32 → UInt32 → Prop :=
  Relation.ReflTransGen (Follows bySeq stop)

/-- The numbers at which a chain finds a segment. -/
def Visits (start seq : UInt32) : Prop :=
  Reaches bySeq stop start seq ∧ Finds bySeq stop seq

/-- A chain ends where it has passed the last number, or has come to it and finds no segment
there. -/
def Ends (seq : UInt32) : Prop :=
  stop < seq ∨ seq = stop ∧ bySeq.find? seq = none

/-- A chain breaks where it finds no segment in front of the last number, or a segment without a
payload. -/
def Breaks (seq : UInt32) : Prop :=
  seq ≤ stop ∧ (bySeq.find? seq = none ∧ seq ≠ stop ∨
    (bySeq.find? seq).isSome ∧ payloadAt bySeq seq = 0)

/-- What is counted along a chain from one number up to another one. -/
structure CountsChain (start : UInt32) : Prop where
  /-- Nothing is counted behind the last number. -/
  behind : stop < start → chainBytes bySeq stop start = .ok 0
  /-- Nothing is counted when the chain breaks, and the number where it does so is told; else
  something is counted. -/
  broken_iff : ∀ reason, chainBytes bySeq stop start = .error reason ↔
    ∃ seq, reason = .sequenceMissing seq ∧ Reaches bySeq stop start seq ∧ Breaks bySeq stop seq
  /-- The chain visits finitely many numbers, each of them once, and their payloads are counted. -/
  visited : ∃ visited : List UInt32, visited.Pairwise (· < ·) ∧
    (∀ seq, seq ∈ visited ↔ Visits bySeq stop start seq) ∧
    visited.length ≤ stop.toNat + 1 - start.toNat ∧
    ∀ total, chainBytes bySeq stop start = .ok total →
      total = (visited.map fun seq => (payloadAt bySeq seq).toNat).sum
  /-- The count is at least the distance to the last number, and greater by one payload at most,
  so that eight times as much fits in two words. -/
  bounds : start ≤ stop → ∀ total, chainBytes bySeq stop start = .ok total →
    stop.toNat - start.toNat ≤ total ∧ total ≤ stop.toNat - start.toNat + 65535 ∧
      (UInt64.ofNat total * 8).toNat = total * 8
  /-- A number that the chain comes to divides it in two: the distance to it is counted, and what
  is counted from there, or it is told where the chain breaks behind it. -/
  divided : ∀ middle, Reaches bySeq stop start middle → start ≤ middle ∧
    chainBytes bySeq stop start =
      (chainBytes bySeq stop middle).map (middle.toNat - start.toNat + ·)

end Chain

variable {bySeq : Table UInt32 Member} {stop : UInt32}

/-! ## One segment -/

/-- A chain goes on to greater numbers. -/
theorem Follows.lt {seq next : UInt32} (h : Follows bySeq stop seq next) : seq < next := by
  obtain ⟨⟨-, hpayload⟩, hnext⟩ := h
  have hpositive : (payloadAt bySeq seq).toNat ≠ 0 := fun hzero =>
    hpayload (UInt16.toNat_inj.mp hzero)
  rw [UInt32.lt_iff_toNat_lt, hnext]
  omega

/-- A chain leads to one number at most. -/
theorem Follows.unique {seq next other : UInt32} (h : Follows bySeq stop seq next)
    (hother : Follows bySeq stop seq other) : other = next := by
  apply UInt32.toNat_inj.mp
  rw [h.2, hother.2]

/-- At any number a chain ends, breaks, would wrap around or goes on, and what is counted is told
by that. -/
theorem chainBytes_cases (bySeq : Table UInt32 Member) (stop seq : UInt32) :
    (Ends bySeq stop seq ∧ chainBytes bySeq stop seq = .ok 0) ∨
      (Breaks bySeq stop seq ∧ chainBytes bySeq stop seq = .error (.sequenceMissing seq)) ∨
      (Finds bySeq stop seq ∧ UInt32.size ≤ seq.toNat + (payloadAt bySeq seq).toNat ∧
        chainBytes bySeq stop seq = .ok (payloadAt bySeq seq).toNat) ∨
      ∃ next, Follows bySeq stop seq next ∧ chainBytes bySeq stop seq =
        (chainBytes bySeq stop next).map ((payloadAt bySeq seq).toNat + ·) := by
  rw [chainBytes]
  by_cases hbehind : stop < seq
  · exact .inl ⟨.inl hbehind, if_pos hbehind⟩
  · have hle : seq ≤ stop := UInt32.not_lt.mp hbehind
    rw [if_neg hbehind]
    cases hfind : bySeq.find? seq with
    | none =>
      by_cases hlast : seq = stop
      · exact .inl ⟨.inr ⟨hlast, hfind⟩, if_pos hlast⟩
      · exact .inr (.inl ⟨⟨hle, .inl ⟨hfind, hlast⟩⟩, if_neg hlast⟩)
    | some member =>
      have hpayload : member.packet.payloadLength?.getD 0 = payloadAt bySeq seq := by
        rw [payloadAt, hfind, Option.bind_some]
      dsimp only
      rw [hpayload]
      by_cases hzero : payloadAt bySeq seq = 0
      · have hbreaks : Breaks bySeq stop seq :=
          ⟨hle, .inr ⟨by rw [hfind]; rfl, hzero⟩⟩
        exact .inr (.inl ⟨hbreaks, by rw [hzero]; rfl⟩)
      · have hword : (payloadAt bySeq seq).toUInt32 ≠ 0 := by
          rwa [ne_eq, ← UInt32.toNat_inj, UInt16.toNat_toUInt32, ← UInt16.toNat_inj] at *
        rw [dif_neg hword]
        by_cases hfits : seq.toNat + (payloadAt bySeq seq).toNat < UInt32.size
        · refine .inr (.inr (.inr ⟨seq + (payloadAt bySeq seq).toUInt32,
            ⟨⟨hle, hzero⟩, ?_⟩, ?_⟩))
          · rw [UInt32.toNat_add, UInt16.toNat_toUInt32]
            exact Nat.mod_eq_of_lt hfits
          · exact dif_pos hfits
        · exact .inr (.inr (.inl ⟨⟨hle, hzero⟩, Nat.not_lt.mp hfits, dif_neg hfits⟩))

/-- Nothing is counted behind the last number. -/
theorem chainBytes_of_lt {seq : UInt32} (h : stop < seq) : chainBytes bySeq stop seq = .ok 0 := by
  rw [chainBytes, if_pos h]

/-- There is no payload where no segment is. -/
theorem payloadAt_of_none {seq : UInt32} (h : bySeq.find? seq = none) :
    payloadAt bySeq seq = 0 := by
  rw [payloadAt, h]
  rfl

/-- There is no payload where a chain breaks. -/
theorem Breaks.payloadAt_eq_zero {seq : UInt32} (h : Breaks bySeq stop seq) :
    payloadAt bySeq seq = 0 := by
  obtain ⟨-, ⟨hnone, -⟩ | ⟨-, hzero⟩⟩ := h
  · exact payloadAt_of_none hnone
  · exact hzero

/-- A chain that ends does not break. -/
theorem Ends.not_breaks {seq : UInt32} (h : Ends bySeq stop seq) : ¬Breaks bySeq stop seq := by
  rintro ⟨hle, hbroken⟩
  rcases h with hbehind | ⟨hlast, hnone⟩
  · exact UInt32.not_lt.mpr hle hbehind
  · rcases hbroken with ⟨-, hother⟩ | ⟨hsome, -⟩
    · exact hother hlast
    · rw [hnone] at hsome
      cases hsome

/-- No segment is found where a chain ends. -/
theorem Ends.not_finds {seq : UInt32} (h : Ends bySeq stop seq) : ¬Finds bySeq stop seq := by
  rintro ⟨hle, hpayload⟩
  rcases h with hbehind | ⟨-, hnone⟩
  · exact UInt32.not_lt.mpr hle hbehind
  · exact hpayload (payloadAt_of_none hnone)

/-- No segment is found where a chain breaks. -/
theorem Breaks.not_finds {seq : UInt32} (h : Breaks bySeq stop seq) : ¬Finds bySeq stop seq :=
  fun hfinds => hfinds.2 h.payloadAt_eq_zero

/-- A chain that finds no segment goes no further. -/
theorem not_follows_of_not_finds {seq : UInt32} (h : ¬Finds bySeq stop seq) (next : UInt32) :
    ¬Follows bySeq stop seq next :=
  fun hfollows => h hfollows.1

/-- A chain that would wrap around goes no further. -/
theorem not_follows_of_wraps {seq : UInt32}
    (h : UInt32.size ≤ seq.toNat + (payloadAt bySeq seq).toNat) (next : UInt32) :
    ¬Follows bySeq stop seq next := by
  rintro ⟨-, hnext⟩
  have hlt := next.toNat_lt_size
  rw [hnext] at hlt
  exact Nat.not_lt.mpr h hlt

/-- A chain that goes on counts a payload and what is counted from the next number. -/
theorem chainBytes_of_follows {seq next : UInt32} (h : Follows bySeq stop seq next) :
    chainBytes bySeq stop seq =
      (chainBytes bySeq stop next).map ((payloadAt bySeq seq).toNat + ·) := by
  obtain ⟨hends, -⟩ | ⟨hbreaks, -⟩ | ⟨-, hwraps, -⟩ | ⟨other, hother, hcount⟩ :=
    chainBytes_cases bySeq stop seq
  · exact absurd h.1 hends.not_finds
  · exact absurd h.1 hbreaks.not_finds
  · exact absurd h (not_follows_of_wraps hwraps next)
  · rw [hcount, h.unique hother]

/-- What holds where a chain ends, breaks or would wrap around, and is kept by its steps back,
holds of every number. -/
theorem chainInduction (bySeq : Table UInt32 Member) (stop : UInt32) {motive : UInt32 → Prop}
    (ends : ∀ seq, Ends bySeq stop seq → chainBytes bySeq stop seq = .ok 0 → motive seq)
    (breaks : ∀ seq, Breaks bySeq stop seq →
      chainBytes bySeq stop seq = .error (.sequenceMissing seq) → motive seq)
    (wraps : ∀ seq, Finds bySeq stop seq →
      UInt32.size ≤ seq.toNat + (payloadAt bySeq seq).toNat →
      chainBytes bySeq stop seq = .ok (payloadAt bySeq seq).toNat → motive seq)
    (step : ∀ seq next, Follows bySeq stop seq next → chainBytes bySeq stop seq =
      (chainBytes bySeq stop next).map ((payloadAt bySeq seq).toNat + ·) →
      motive next → motive seq) (seq : UInt32) : motive seq := by
  -- the induction is on how many numbers are left, as a chain goes on to greater ones only
  induction hleft : UInt32.size - seq.toNat using Nat.strongRecOn generalizing seq with
  | ind left ih =>
    obtain ⟨hends, hcount⟩ | ⟨hbreaks, hcount⟩ | ⟨hfinds, hwraps, hcount⟩ |
      ⟨next, hfollows, hcount⟩ := chainBytes_cases bySeq stop seq
    · exact ends seq hends hcount
    · exact breaks seq hbreaks hcount
    · exact wraps seq hfinds hwraps hcount
    · have hlt := UInt32.lt_iff_toNat_lt.mp hfollows.lt
      have hbound := next.toNat_lt_size
      exact step seq next hfollows hcount (ih _ (by omega) next rfl)

/-! ## The numbers that a chain comes to -/

/-- A chain that does not go on comes to its start only. -/
theorem reaches_iff_eq {seq : UInt32} (h : ∀ next, ¬Follows bySeq stop seq next) (other : UInt32) :
    Reaches bySeq stop seq other ↔ other = seq := by
  constructor
  · intro hreaches
    rcases hreaches.cases_head with hsame | ⟨next, hfollows, -⟩
    · exact hsame.symm
    · exact absurd hfollows (h next)
  · rintro rfl
    exact .refl

/-- A chain that does not go on visits its start only, if it finds a segment there. -/
theorem visits_iff_eq {start : UInt32} (h : ∀ next, ¬Follows bySeq stop start next)
    (seq : UInt32) : Visits bySeq stop start seq ↔ seq = start ∧ Finds bySeq stop start := by
  rw [Visits, reaches_iff_eq h]
  apply and_congr_right
  rintro rfl
  exact Iff.rfl

/-- A chain that finds no segment at its start visits nothing. -/
theorem mem_nil_iff_visits {start : UInt32} (h : ¬Finds bySeq stop start) (seq : UInt32) :
    seq ∈ ([] : List UInt32) ↔ Visits bySeq stop start seq := by
  rw [visits_iff_eq (not_follows_of_not_finds h)]
  exact ⟨nofun, fun hvisits => absurd hvisits.2 h⟩

/-- A chain that goes on comes to its start, and to what it comes to from the next number. -/
theorem reaches_iff_of_follows {seq next : UInt32} (h : Follows bySeq stop seq next)
    (other : UInt32) :
    Reaches bySeq stop seq other ↔ other = seq ∨ Reaches bySeq stop next other := by
  constructor
  · intro hreaches
    rcases hreaches.cases_head with hsame | ⟨next', hfollows, hrest⟩
    · exact .inl hsame.symm
    · rw [h.unique hfollows] at hrest
      exact .inr hrest
  · rintro (rfl | hrest)
    · exact .refl
    · exact .head h hrest

/-- A chain comes to no number in front of its start. -/
theorem Reaches.le {start seq : UInt32} (h : Reaches bySeq stop start seq) : start ≤ seq := by
  induction h with
  | refl => exact UInt32.le_refl _
  | tail _ hfollows ih => exact UInt32.le_trans ih (UInt32.le_of_lt hfollows.lt)

/-! ## What is counted -/

/-- A count that is added to fails as it did before. -/
theorem map_add_eq_error_iff {count : Except FlowError Nat} {octets : Nat} {reason : FlowError} :
    count.map (octets + ·) = .error reason ↔ count = .error reason := by
  cases count with
  | error other => rfl
  | ok total => exact ⟨nofun, nofun⟩

/-- A count that is added to succeeds with more. -/
theorem exists_of_map_add_eq_ok {count : Except FlowError Nat} {octets total : Nat}
    (h : count.map (octets + ·) = .ok total) : ∃ rest, count = .ok rest ∧ total = octets + rest := by
  cases count with
  | error other => cases h
  | ok rest => exact ⟨rest, rfl, (Except.ok.inj h).symm⟩

/-- A chain that does not go on breaks at its start or nowhere. -/
theorem exists_breaks_iff {start : UInt32} {reason : FlowError}
    (h : ∀ next, ¬Follows bySeq stop start next) :
    (∃ seq, reason = .sequenceMissing seq ∧ Reaches bySeq stop start seq ∧
        Breaks bySeq stop seq) ↔
      reason = .sequenceMissing start ∧ Breaks bySeq stop start := by
  simp only [reaches_iff_eq h]
  constructor
  · rintro ⟨seq, hreason, rfl, hbreaks⟩
    exact ⟨hreason, hbreaks⟩
  · rintro ⟨hreason, hbreaks⟩
    exact ⟨start, hreason, rfl, hbreaks⟩

/-- The count fails with the number where the chain breaks. -/
theorem chainBytes_eq_error_iff (start : UInt32) (reason : FlowError) :
    chainBytes bySeq stop start = .error reason ↔
      ∃ seq, reason = .sequenceMissing seq ∧ Reaches bySeq stop start seq ∧
        Breaks bySeq stop seq := by
  induction start using chainInduction bySeq stop with
  | ends start hends hcount =>
    rw [hcount, exists_breaks_iff (not_follows_of_not_finds hends.not_finds)]
    exact ⟨nofun, fun h => absurd h.2 hends.not_breaks⟩
  | breaks start hbreaks hcount =>
    rw [hcount, exists_breaks_iff (not_follows_of_not_finds hbreaks.not_finds),
      Except.error.injEq, eq_comm]
    exact ⟨fun hreason => ⟨hreason, hbreaks⟩, fun h => h.1⟩
  | wraps start hfinds hwraps hcount =>
    rw [hcount, exists_breaks_iff (not_follows_of_wraps hwraps)]
    exact ⟨nofun, fun h => absurd hfinds h.2.not_finds⟩
  | step start next hfollows hcount ih =>
    have hhere : ¬Breaks bySeq stop start := fun hbreaks => hbreaks.not_finds hfollows.1
    rw [hcount, map_add_eq_error_iff, ih]
    apply exists_congr
    intro seq
    apply and_congr_right
    intro _
    rw [reaches_iff_of_follows hfollows]
    constructor
    · rintro ⟨hrest, hbreaks⟩
      exact ⟨.inr hrest, hbreaks⟩
    · rintro ⟨rfl | hrest, hbreaks⟩
      · exact absurd hbreaks hhere
      · exact ⟨hrest, hbreaks⟩

/-- The numbers that a chain visits are listed in order, each once, and what is counted is the
sum of their payloads. -/
theorem exists_visited (start : UInt32) : ∃ visited : List UInt32, visited.Pairwise (· < ·) ∧
    (∀ seq, seq ∈ visited ↔ Visits bySeq stop start seq) ∧
    visited.length ≤ stop.toNat + 1 - start.toNat ∧
    ∀ total, chainBytes bySeq stop start = .ok total →
      total = (visited.map fun seq => (payloadAt bySeq seq).toNat).sum := by
  induction start using chainInduction bySeq stop with
  | ends start hends hcount =>
    refine ⟨[], .nil, mem_nil_iff_visits hends.not_finds, Nat.zero_le _, fun total htotal => ?_⟩
    rw [hcount] at htotal
    exact (Except.ok.inj htotal).symm
  | breaks start hbreaks hcount =>
    refine ⟨[], .nil, mem_nil_iff_visits hbreaks.not_finds, Nat.zero_le _, fun total htotal => ?_⟩
    rw [hcount] at htotal
    cases htotal
  | wraps start hfinds hwraps hcount =>
    refine ⟨[start], List.pairwise_singleton _ _, fun seq => ?_, ?_, fun total htotal => ?_⟩
    · rw [visits_iff_eq (not_follows_of_wraps hwraps), List.mem_singleton, and_iff_left hfinds]
    · have hbound := UInt32.le_iff_toNat_le.mp hfinds.1
      rw [List.length_singleton]
      omega
    · rw [hcount] at htotal
      rw [List.map_singleton, List.sum_singleton]
      exact (Except.ok.inj htotal).symm
  | step start next hfollows hcount ih =>
    obtain ⟨visited, hsorted, hmem, hlength, hsum⟩ := ih
    have hlt := UInt32.lt_iff_toNat_lt.mp hfollows.lt
    have hle := UInt32.le_iff_toNat_le.mp hfollows.1.1
    refine ⟨start :: visited, List.pairwise_cons.mpr ⟨fun seq hseq => ?_, hsorted⟩,
      fun seq => ?_, ?_, fun total htotal => ?_⟩
    · exact UInt32.lt_of_lt_of_le hfollows.lt ((hmem seq).mp hseq).1.le
    · rw [List.mem_cons, hmem, Visits, Visits, reaches_iff_of_follows hfollows]
      constructor
      · rintro (rfl | ⟨hrest, hfinds⟩)
        · exact ⟨.inl rfl, hfollows.1⟩
        · exact ⟨.inr hrest, hfinds⟩
      · rintro ⟨hfirst | hrest, hfinds⟩
        · exact .inl hfirst
        · exact .inr ⟨hrest, hfinds⟩
    · rw [List.length_cons]
      omega
    · rw [hcount] at htotal
      obtain ⟨rest, hrest, rfl⟩ := exists_of_map_add_eq_ok htotal
      rw [List.map_cons, List.sum_cons, ← hsum rest hrest]

/-- The count is at least the distance to the last number, and greater by one payload at most. -/
theorem chainBytes_bounds {start : UInt32} {total : Nat} (h : start ≤ stop)
    (htotal : chainBytes bySeq stop start = .ok total) :
    stop.toNat - start.toNat ≤ total ∧ total ≤ stop.toNat - start.toNat + 65535 := by
  induction start using chainInduction bySeq stop generalizing total with
  | ends start hends hcount =>
    rw [hcount] at htotal
    cases htotal
    rcases hends with hbehind | ⟨rfl, -⟩
    · exact absurd h (UInt32.not_le.mpr hbehind)
    · omega
  | breaks start hbreaks hcount =>
    rw [hcount] at htotal
    cases htotal
  | wraps start hfinds hwraps hcount =>
    have hlast := stop.toNat_lt_size
    have hoctets := (payloadAt bySeq start).toNat_lt
    rw [hcount] at htotal
    cases htotal
    omega
  | step start next hfollows hcount ih =>
    have hle := UInt32.le_iff_toNat_le.mp h
    have hnext := hfollows.2
    have hoctets := (payloadAt bySeq start).toNat_lt
    rw [hcount] at htotal
    obtain ⟨rest, hrest, rfl⟩ := exists_of_map_add_eq_ok htotal
    by_cases hinside : next ≤ stop
    · obtain ⟨hlower, hupper⟩ := ih hinside hrest
      have hbound := UInt32.le_iff_toNat_le.mp hinside
      omega
    · have hbehind := UInt32.not_le.mp hinside
      have hbound := UInt32.lt_iff_toNat_lt.mp hbehind
      rw [chainBytes_of_lt hbehind] at hrest
      cases hrest
      omega

/-- Up to a number that the chain comes to, the distance to it is counted. -/
theorem chainBytes_of_reaches {start middle : UInt32} (h : Reaches bySeq stop start middle) :
    chainBytes bySeq stop start =
      (chainBytes bySeq stop middle).map (middle.toNat - start.toNat + ·) := by
  -- from the head, for the number counted from is the one that changes
  induction h using Relation.ReflTransGen.head_induction_on with
  | refl =>
    cases chainBytes bySeq stop middle with
    | error reason => rfl
    | ok total => simp [Except.map]
  | @head start next hfollows hrest ih =>
    have hle := UInt32.le_iff_toNat_le.mp (Reaches.le hrest)
    have hdistance : (payloadAt bySeq start).toNat + (middle.toNat - next.toNat) =
        middle.toNat - start.toNat := by
      have hnext := hfollows.2
      omega
    rw [chainBytes_of_follows hfollows, ih, ← hdistance]
    cases chainBytes bySeq stop middle with
    | error reason => rfl
    | ok total => simp [Except.map, Nat.add_assoc]

/-- The octets that are counted along any chain are told by the segments that it visits. -/
theorem countsChain (bySeq : Table UInt32 Member) (stop start : UInt32) :
    CountsChain bySeq stop start where
  behind := chainBytes_of_lt
  broken_iff := chainBytes_eq_error_iff start
  visited := exists_visited start
  bounds hle total htotal := by
    obtain ⟨hlower, hupper⟩ := chainBytes_bounds hle htotal
    have hlast := stop.toNat_lt
    have hbits : total * 8 < 2 ^ 64 := by omega
    have hword : (UInt64.ofNat total).toNat = total := by
      apply UInt64.toNat_ofNat_of_lt
      change total < 2 ^ 64
      omega
    refine ⟨hlower, hupper, ?_⟩
    rw [UInt64.toNat_mul, hword]
    exact Nat.mod_eq_of_lt hbits
  divided middle hreaches := ⟨hreaches.le, chainBytes_of_reaches hreaches⟩

end CaptureFlow
