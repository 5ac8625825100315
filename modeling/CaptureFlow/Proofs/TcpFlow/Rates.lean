import CaptureFlow.Proofs.Passes
import CaptureFlow.TcpFlow.Rate

/-!
# Rates told by counts of bits

Between two samples that stand next to each other some bits are counted, and a rate is the
count by the time between the two. So a series of rates is told by its counts and its times:
there is a count for every two neighbours and all times fit in 64 bits, or the series fails at
the first neighbours where one of them is missing. The offsets are told by the samples alone,
whatever is counted between them.
-/

namespace CaptureFlow

namespace Sample

/-- The first of two samples, and what stands next to each other behind it. -/
theorem neighbours_cons (first second : Sample) (rest : List Sample) :
    neighbours (first :: second :: rest) = (first, second) :: neighbours (second :: rest) :=
  rfl

/-- The second ones of neighbours are all samples but the first. -/
theorem map_snd_neighbours (samples : List Sample) :
    (neighbours samples).map Prod.snd = samples.tail := by
  rw [neighbours, List.map_snd_zip]
  rw [List.length_tail]
  omega

/-- The times of some samples since the first one. -/
def offsets (samples : List Sample) : List Int64 :=
  match samples with
  | [] => []
  | first :: _ => samples.map fun sample => sample.timestamp - first.timestamp

/-- The times by which a rate is told, the one between its samples and the one from the start,
fit in 64 bits. -/
def PairFits (start : Timestamp) (pair : Sample × Sample) : Prop :=
  Timestamp.ElapsedFits pair.1.timestamp pair.2.timestamp ∧
    Timestamp.ElapsedFits start pair.2.timestamp

instance (start : Timestamp) (pair : Sample × Sample) : Decidable (PairFits start pair) :=
  inferInstanceAs (Decidable (_ ∧ _))

/-- All times by which the rates of some samples are told fit in 64 bits. -/
def TimesFit (samples : List Sample) : Prop :=
  ∀ first ∈ samples.head?, ∀ pair ∈ neighbours samples, PairFits first.timestamp pair

instance (samples : List Sample) : Decidable (TimesFit samples) :=
  inferInstanceAs (Decidable (∀ first ∈ samples.head?, _))

/-- The times of the rates of some samples are those from the first of them. -/
theorem timesFit_cons_iff {first : Sample} {rest : List Sample} : TimesFit (first :: rest) ↔
    ∀ pair ∈ neighbours (first :: rest), PairFits first.timestamp pair := by
  simp [TimesFit]

/-- Where all of them fit, so does the time from the first sample to any other. -/
theorem TimesFit.elapsedFits {first sample : Sample} {rest : List Sample}
    (h : TimesFit (first :: rest)) (hsample : sample ∈ first :: rest) :
    Timestamp.ElapsedFits first.timestamp sample.timestamp := by
  rcases List.mem_cons.mp hsample with rfl | hlater
  · have hzero : (0 : Int64).toInt = sample.timestamp.toInt - sample.timestamp.toInt :=
      (Int.sub_self _).symm
    exact Timestamp.elapsedFits_of_toInt_eq hzero
  · -- every sample but the first is the second one of two neighbours
    have hsecond : sample ∈ (neighbours (first :: rest)).map Prod.snd := by
      rwa [map_snd_neighbours, List.tail_cons]
    obtain ⟨pair, hpair, rfl⟩ := List.mem_map.mp hsecond
    exact (timesFit_cons_iff.mp h pair hpair).2

end Sample

namespace Rate

open Sample

/-- The rate of a count of bits between two samples. -/
def ofCount (unit : RateUnit) (start : Timestamp) (pair : Sample × Sample) (count : UInt64) :
    Rate where
  offset := pair.2.timestamp - start
  value := unit.rate (Timestamp.nanoseconds (pair.2.timestamp - pair.1.timestamp)) count

/-- The rates of the counts of bits between neighbours, behind a zero rate at the first
sample. -/
def ofCounts (unit : RateUnit) (samples : List Sample) (counts : List UInt64) : List Rate :=
  match samples with
  | [] => []
  | first :: _ =>
    ⟨0, 0⟩ :: List.zipWith (ofCount unit first.timestamp) (Sample.neighbours samples) counts

/-- Some counts are those of the bits between neighbours. -/
def AreCounts (bits : Sample → Sample → Except FlowError UInt64) (samples : List Sample)
    (counts : List UInt64) : Prop :=
  List.Forall₂ (fun pair count => bits pair.1 pair.2 = .ok count) (Sample.neighbours samples)
    counts

/-- A series of rates comes as far as two neighbours: the times in front of them fit, and the
bits in front of them are known. -/
structure ComesTo (bits : Sample → Sample → Except FlowError UInt64) (samples : List Sample)
    (first : Sample) (pair : Sample × Sample) : Prop where
  /-- The offsets are told from the first sample. -/
  head?_eq : samples.head? = some first
  /-- Nothing stops the series in front of the neighbours. -/
  exists_front : ∃ front behind, neighbours samples = front ++ pair :: behind ∧
    ∀ other ∈ front, PairFits first.timestamp other ∧ ∃ count, bits other.1 other.2 = .ok count

variable {unit : RateUnit} {bits : Sample → Sample → Except FlowError UInt64}
  {samples : List Sample} {rates : List Rate} {start : Timestamp} {pair : Sample × Sample}
  {fault : Fault}

/-! ## One rate -/

/-- The rate between two neighbours has to wait for its times before its bits are counted. -/
theorem between_eq (unit : RateUnit) (bits : Sample → Sample → Except FlowError UInt64)
    (start : Timestamp) (pair : Sample × Sample) :
    between unit bits start pair =
      if PairFits start pair then
        ((bits pair.1 pair.2).mapError .flow).map (ofCount unit start pair)
      else .error (.overflow .elapsed) := by
  by_cases hpair : Timestamp.ElapsedFits pair.1.timestamp pair.2.timestamp
  · have helapsed : Timestamp.elapsed pair.1.timestamp pair.2.timestamp =
        .ok (pair.2.timestamp - pair.1.timestamp) := if_pos hpair
    by_cases hstart : Timestamp.ElapsedFits start pair.2.timestamp
    · have hoffset : Timestamp.elapsed start pair.2.timestamp =
          .ok (pair.2.timestamp - start) := if_pos hstart
      rw [between, helapsed, hoffset, if_pos ⟨hpair, hstart⟩]
      cases bits pair.1 pair.2 <;> rfl
    · rw [between, helapsed, Timestamp.elapsed_eq_error_iff.mpr hstart,
        if_neg fun h => hstart h.2]
      rfl
  · rw [between, Timestamp.elapsed_eq_error_iff.mpr hpair, if_neg fun h => hpair h.1]
    rfl

/-- It is told just if its times fit and its bits are known. -/
theorem between_eq_ok_iff {rate : Rate} : between unit bits start pair = .ok rate ↔
    PairFits start pair ∧ ∃ count, bits pair.1 pair.2 = .ok count ∧
      rate = ofCount unit start pair count := by
  rw [between_eq]
  split
  next hfits => cases bits pair.1 pair.2 <;> simp [Except.mapError, Except.map, hfits, eq_comm]
  next hnot => simp [hnot]

/-- It overflows just if its times do not fit, and fails otherwise for want of bits. -/
theorem between_eq_error_iff : between unit bits start pair = .error fault ↔
    ¬PairFits start pair ∧ fault = .overflow .elapsed ∨
      PairFits start pair ∧ ∃ error, bits pair.1 pair.2 = .error error ∧ fault = .flow error := by
  rw [between_eq]
  split
  next hfits => cases bits pair.1 pair.2 <;> simp [Except.mapError, Except.map, hfits, eq_comm]
  next hnot => simp [hnot, eq_comm]

/-! ## Series of rates -/

/-- Rates between pairs of samples are those of the counts between these, where the times fit. -/
theorem forall₂_between_iff {pairs : List (Sample × Sample)} :
    List.Forall₂ (fun pair rate => between unit bits start pair = .ok rate) pairs rates ↔
      (∀ pair ∈ pairs, PairFits start pair) ∧ ∃ counts,
        List.Forall₂ (fun pair count => bits pair.1 pair.2 = .ok count) pairs counts ∧
          rates = List.zipWith (ofCount unit start) pairs counts := by
  induction pairs generalizing rates with
  | nil => simp
  | cons pair pairs ih =>
    simp only [List.forall₂_cons_left_iff, ih, List.forall_mem_cons]
    simp only [between_eq_ok_iff]
    constructor
    · rintro ⟨_, _, ⟨hfits, count, hcount, rfl⟩, ⟨hothers, counts, hcounts, rfl⟩, rfl⟩
      exact ⟨⟨hfits, hothers⟩, count :: counts, ⟨count, counts, hcount, hcounts, rfl⟩, rfl⟩
    · rintro ⟨⟨hfits, hothers⟩, _, ⟨count, counts, hcount, hcounts, rfl⟩, rfl⟩
      exact ⟨_, _, ⟨hfits, count, hcount, rfl⟩, ⟨hothers, counts, hcounts, rfl⟩, rfl⟩

/-- A series of rates is told by the counts of bits between neighbours, where the times fit. -/
theorem series_eq_ok_iff : series unit bits samples = .ok rates ↔
    TimesFit samples ∧ ∃ counts, AreCounts bits samples counts ∧
      rates = ofCounts unit samples counts := by
  cases samples with
  | nil =>
    constructor
    · intro h
      cases h
      exact ⟨nofun, [], .nil, rfl⟩
    · rintro ⟨-, counts, -, rfl⟩
      rfl
  | cons first rest =>
    rw [timesFit_cons_iff]
    constructor
    · intro h
      obtain ⟨others, hothers, h⟩ := exists_of_bind_ok h
      cases h
      obtain ⟨hfits, counts, hcounts, rfl⟩ := forall₂_between_iff.mp (mapM_eq_ok_iff.mp hothers)
      exact ⟨hfits, counts, hcounts, rfl⟩
    · rintro ⟨hfits, counts, hcounts, rfl⟩
      rw [series, mapM_eq_ok_iff.mpr (forall₂_between_iff.mpr ⟨hfits, counts, hcounts, rfl⟩)]
      rfl

/-- It fails at the first neighbours whose times do not fit or whose bits are not known. -/
theorem series_eq_error_iff : series unit bits samples = .error fault ↔
    ∃ first pair, ComesTo bits samples first pair ∧
      (¬PairFits first.timestamp pair ∧ fault = .overflow .elapsed ∨
        PairFits first.timestamp pair ∧
          ∃ error, bits pair.1 pair.2 = .error error ∧ fault = .flow error) := by
  cases samples with
  | nil =>
    constructor
    · nofun
    · rintro ⟨first, pair, ⟨hfirst, -⟩, -⟩
      cases hfirst
  | cons first rest =>
    have hseries : series unit bits (first :: rest) = .error fault ↔
        (neighbours (first :: rest)).mapM (between unit bits first.timestamp) = .error fault := by
      rw [series]
      cases (neighbours (first :: rest)).mapM (between unit bits first.timestamp) with
      | error other => rfl
      | ok others => exact ⟨nofun, nofun⟩
    have htold : ∀ other, (∃ rate, between unit bits first.timestamp other = .ok rate) ↔
        PairFits first.timestamp other ∧ ∃ count, bits other.1 other.2 = .ok count := by
      intro other
      simp only [between_eq_ok_iff]
      exact ⟨fun ⟨_, hfits, count, hcount, _⟩ => ⟨hfits, count, hcount⟩,
        fun ⟨hfits, count, hcount⟩ => ⟨_, hfits, count, hcount, rfl⟩⟩
    rw [hseries, mapM_eq_error_iff]
    simp only [htold, between_eq_error_iff]
    constructor
    · rintro ⟨front, pair, behind, hsplit, hfront, hpair⟩
      exact ⟨first, pair, ⟨rfl, front, behind, hsplit, hfront⟩, hpair⟩
    · rintro ⟨_, pair, ⟨⟨⟩, front, behind, hsplit, hfront⟩, hpair⟩
      exact ⟨front, pair, behind, hsplit, hfront, hpair⟩

/-- It overflows just if the times of the first neighbours that it fails at do not fit. -/
theorem series_eq_overflow_iff : series unit bits samples = .error (.overflow .elapsed) ↔
    ∃ first pair, ComesTo bits samples first pair ∧ ¬PairFits first.timestamp pair := by
  simp only [series_eq_error_iff, and_true, reduceCtorEq, and_false, exists_false, or_false]

/-- There are as many counts as neighbours. -/
theorem AreCounts.length_eq {counts : List UInt64} (h : AreCounts bits samples counts) :
    counts.length = (Sample.neighbours samples).length :=
  (List.Forall₂.length_eq h).symm

/-- The offsets of rates are those of their samples, whatever the counts are. -/
theorem map_offset_ofCounts {counts : List UInt64}
    (h : counts.length = (Sample.neighbours samples).length) :
    (ofCounts unit samples counts).map offset = Sample.offsets samples := by
  cases samples with
  | nil => rfl
  | cons first rest =>
    let since (sample : Sample) := sample.timestamp - first.timestamp
    have hothers : (List.zipWith (ofCount unit first.timestamp)
        (Sample.neighbours (first :: rest)) counts).map offset = rest.map since := by
      calc (List.zipWith (ofCount unit first.timestamp)
            (Sample.neighbours (first :: rest)) counts).map offset
          = ((Sample.neighbours (first :: rest)).zip counts).map
              ((since ∘ Prod.snd) ∘ Prod.fst) := by
            rw [← List.map_uncurry_zip_eq_zipWith, List.map_map]
            rfl
        _ = ((Sample.neighbours (first :: rest)).map Prod.snd).map since := by
            rw [← List.map_map, List.map_fst_zip (Nat.le_of_eq h.symm), List.map_map]
        _ = rest.map since := by rw [Sample.map_snd_neighbours, List.tail_cons]
    have hfirst : since first = 0 := Int64.sub_self first.timestamp
    rw [ofCounts, Sample.offsets, List.map_cons, List.map_cons, hothers]
    exact congrArg (· :: rest.map since) hfirst.symm

/-- Throughput is told by the differences between neighbours, where the times fit. -/
theorem throughput_eq (unit : RateUnit) (samples : List Sample) :
    throughput unit samples =
      if TimesFit samples then
        .ok (ofCounts unit samples
          ((Sample.neighbours samples).map fun pair => differenceBits pair.1 pair.2))
      else .error .elapsed := by
  have hcounts : AreCounts (fun earlier later => .ok (differenceBits earlier later)) samples
      ((Sample.neighbours samples).map fun pair => differenceBits pair.1 pair.2) :=
    List.forall₂_map_right_iff.mpr (List.forall₂_same.mpr fun _ _ => rfl)
  by_cases hfits : TimesFit samples
  · rw [if_pos hfits, throughput, series_eq_ok_iff.mpr ⟨hfits, _, hcounts, rfl⟩]
  · rw [if_neg hfits]
    cases hseries : series unit (fun earlier later => .ok (differenceBits earlier later))
        samples with
    | ok rates => exact absurd (series_eq_ok_iff.mp hseries).1 hfits
    | error fault =>
      -- no bits are missing, so a time is
      obtain ⟨first, pair, -, ⟨-, rfl⟩ | ⟨-, error, herror, -⟩⟩ := series_eq_error_iff.mp hseries
      · rw [throughput, hseries]
      · cases herror

end Rate

end CaptureFlow
