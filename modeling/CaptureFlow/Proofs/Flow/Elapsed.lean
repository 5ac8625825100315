import CaptureFlow.Proofs.Http.Hint
import CaptureFlow.Proofs.IpFlow
import CaptureFlow.Proofs.TcpFlow.Capacity
import CaptureFlow.Proofs.TcpFlow.Grouping

/-!
# Times between packets

The time from one packet to another is told in 64 bits, as are the timestamps themselves. Where
it is told, it is the difference of the timestamps. Packets may be further apart than 64 bits
tell, for any 64 bits are a timestamp: then the time overflows. This is so for the durations of
flows, the times of responses, and the offsets and intervals of rates.
-/

namespace CaptureFlow

/-- The time from one timestamp to another is told exactly, or overflows. -/
structure TellsTime (told : Except Overflow Int64) (earlier later : Timestamp) : Prop where
  /-- A time is told just if it is the difference of the timestamps. -/
  ok_iff : ∀ time, told = .ok time ↔ time.toInt = later.toInt - earlier.toInt
  /-- It overflows just if the difference does not fit in 64 bits. -/
  error_iff : told = .error .elapsed ↔ ¬Timestamp.ElapsedFits earlier later

/-- The duration of a flow is the time from the earliest to the latest of its packets. It is not
negative, and overflows just if it is too long. -/
def Lasts (duration : Except Overflow Int64) (taken : List Member) : Prop :=
  taken ≠ [] → ∃ earliest latest,
    (taken.map fun member => member.packet.timestamp).min? = some earliest ∧
      (taken.map fun member => member.packet.timestamp).max? = some latest ∧
      TellsTime duration earliest latest ∧
      (∀ time, duration = .ok time → 0 ≤ time.toInt) ∧
      (duration = .error .elapsed ↔ Int64.maxValue.toInt < latest.toInt - earliest.toInt)

/-- Rates tell the times of their samples. -/
structure Rate.TellTimes (unit : RateUnit) (samples : List Sample) (rates : List Rate) :
    Prop where
  /-- The offset of a rate is the time from the first sample to its own. -/
  offsets : ∀ first, samples.head? = some first →
    List.Forall₂ (fun sample rate =>
        rate.offset.toInt = sample.timestamp.toInt - first.timestamp.toInt)
      samples rates
  /-- Every rate but the first is one over the time from the sample before its own. -/
  intervals : List.Forall₂ (fun pair rate => ∃ elapsed count,
      elapsed.toInt = pair.2.timestamp.toInt - pair.1.timestamp.toInt ∧
        rate.value = unit.rate (Timestamp.nanoseconds elapsed) count)
    (Sample.neighbours samples) rates.tail

/-- The time between two timestamps is told exactly, or overflows. -/
theorem tellsTime_elapsed (earlier later : Timestamp) :
    TellsTime (Timestamp.elapsed earlier later) earlier later :=
  ⟨fun _ => Timestamp.elapsed_eq_ok_iff, Timestamp.elapsed_eq_error_iff⟩

/-- Forward in time, the time between two timestamps fits just if it is not too long. -/
theorem Timestamp.elapsedFits_iff_of_le {earlier later : Timestamp} (h : earlier ≤ later) :
    ElapsedFits earlier later ↔ later.toInt - earlier.toInt ≤ Int64.maxValue.toInt := by
  have hle := Int64.le_iff_toInt_le.mp h
  have hmin : Int64.minValue.toInt ≤ 0 := by decide
  exact and_iff_right (by omega)

/-! ## Flows -/

/-- The span of some packets lasts from the earliest to the latest of them. -/
theorem Span.IsSpanOf.lasts {span : Option Span} {taken : List Member}
    (h : IsSpanOf span (taken.map Member.packet)) : Lasts (durationOf span) taken := by
  intro hne
  obtain ⟨hstart, hstop⟩ := h
  rw [List.map_map] at hstart hstop
  cases span with
  | none =>
    have hnone := List.min?_eq_none_iff.mp hstart.symm
    exact absurd (List.map_eq_nil_iff.mp hnone) hne
  | some span =>
    have hstopped := (List.max?_eq_some_iff.mp hstop.symm).1
    have hle := (List.min?_eq_some_iff.mp hstart.symm).2 span.stop hstopped
    have htells := tellsTime_elapsed span.start span.stop
    refine ⟨span.start, span.stop, hstart.symm, hstop.symm, htells, fun time htime => ?_, ?_⟩
    · rw [(htells.ok_iff time).mp htime]
      exact Int.sub_nonneg_of_le (Int64.le_iff_toInt_le.mp hle)
    · exact htells.error_iff.trans
        ((not_congr (Timestamp.elapsedFits_iff_of_le hle)).trans Int.not_le)

/-- A flow of packets from one address to another lasts as long as they do. -/
theorem IpFlow.lasts_ofMembers (pair : AddressPair) (members : List Member) :
    Lasts (ofMembers pair members).duration (ofMembers pair members).members.toList := by
  have hrecords := records_ofMembers pair members
  rw [hrecords.members_eq]
  exact hrecords.span.lasts

/-- A flow of the packets of a connection lasts as long as they do. -/
theorem TcpFlow.lasts_ofMembers (pair : EndpointPair) (members : List Member) :
    Lasts (ofMembers pair members).duration (ofMembers pair members).members.toList := by
  have hrecord := isRecord_ofMembers pair members
  rw [hrecord.members_eq]
  exact hrecord.span.lasts

/-! ## Exchanges -/

/-- The time of a response is told from the first packet to the one with the response. -/
theorem Http.Exchange.exists_responseTime {exchange : Exchange} {header : Header}
    (h : exchange.response? = some header) : ∃ request response told,
      exchange.members.head? = some request ∧ exchange.responsePacket? = some response ∧
      exchange.responseTime? = told.map some ∧
      TellsTime told request.packet.timestamp response.timestamp := by
  rw [response?, Option.bind_eq_some_iff] at h
  obtain ⟨response, hresponse, -⟩ := h
  obtain ⟨request, hrequest, htime⟩ := exists_of_responsePacket? hresponse
  exact ⟨request, response, _, hrequest, hresponse, htime, tellsTime_elapsed _ _⟩

/-! ## Rates -/

/-- Rates of counts between pairs of samples are told over the times between these. -/
theorem Rate.forall₂_ofCount {unit : RateUnit} {start : Timestamp}
    {pairs : List (Sample × Sample)} {counts : List UInt64}
    (hfits : ∀ pair ∈ pairs, Sample.PairFits start pair) (h : counts.length = pairs.length) :
    List.Forall₂ (fun pair rate => ∃ elapsed count,
        elapsed.toInt = pair.2.timestamp.toInt - pair.1.timestamp.toInt ∧
          rate.value = unit.rate (Timestamp.nanoseconds elapsed) count) pairs
      (List.zipWith (ofCount unit start) pairs counts) := by
  induction pairs generalizing counts with
  | nil => exact .nil
  | cons pair rest ih =>
    obtain ⟨hpair, hrest⟩ := List.forall_mem_cons.mp hfits
    cases counts with
    | nil => cases h
    | cons count others =>
      exact .cons ⟨_, count, Timestamp.toInt_sub_of_fits hpair.1, rfl⟩
        (ih hrest (Nat.succ.inj h))

/-- The rates of counts of bits tell the times of their samples, where these fit. -/
theorem Rate.tellTimes_ofCounts {unit : RateUnit} {samples : List Sample} {counts : List UInt64}
    (hfits : Sample.TimesFit samples) (h : counts.length = (Sample.neighbours samples).length) :
    TellTimes unit samples (ofCounts unit samples counts) := by
  have hoffsets : (ofCounts unit samples counts).map offset = Sample.offsets samples :=
    map_offset_ofCounts h
  cases samples with
  | nil => exact ⟨nofun, .nil⟩
  | cons first rest =>
    refine ⟨?_, forall₂_ofCount (Sample.timesFit_cons_iff.mp hfits) h⟩
    rintro _ ⟨⟩
    have htold : List.Forall₂ (fun (sample : Sample) (offset : Int64) =>
        offset.toInt = sample.timestamp.toInt - first.timestamp.toInt) (first :: rest)
        ((ofCounts unit (first :: rest) counts).map Rate.offset) := by
      rw [hoffsets, Sample.offsets, List.forall₂_map_right_iff, List.forall₂_same]
      exact fun sample hsample => Timestamp.toInt_sub_of_fits (hfits.elapsedFits hsample)
    exact List.forall₂_map_right_iff.mp htold

/-! ## All of them -/

/-- What is told of the times between the packets of a batch. -/
structure TellsTimes (members : List Member) : Prop where
  /-- A flow of packets from one address to another, which the batch builds for a pair or is
  grouped into, lasts as long as its packets do. -/
  ipFlows : ∀ flow : IpFlow, (∃ pair, flow = IpFlow.ofMembers pair members) ∨
    (∃ entry ∈ IpFlow.group members, flow = entry.2) → Lasts flow.duration flow.members.toList
  /-- A flow of the packets of a connection does as well. -/
  tcpFlows : ∀ flow : TcpFlow, (∃ pair, flow = TcpFlow.ofMembers pair members) ∨
    (∃ port, ∃ entry ∈ TcpFlow.group port members, flow = entry.2) →
      Lasts flow.duration flow.members.toList
  /-- The time of a response is told from the request to the response. -/
  responses : ∀ (exchange : Http.Exchange) (header : Http.Header),
    (∃ start hint, Http.Exchange.ofMembers members start hint = .ok exchange) ∨
      (∃ entry ∈ Http.exchanges members, exchange = entry.2) →
    exchange.response? = some header → ∃ request response told,
      exchange.members.head? = some request ∧ exchange.responsePacket? = some response ∧
      exchange.responseTime? = told.map some ∧
      TellsTime told request.packet.timestamp response.timestamp
  /-- The rates by differences tell the times of their samples, and overflow just if one of these
  does not fit. -/
  throughput : ∀ unit samples,
    (∀ rates, Rate.throughput unit samples = .ok rates → Rate.TellTimes unit samples rates) ∧
      (Rate.throughput unit samples = .error .elapsed ↔ ¬Sample.TimesFit samples)
  /-- The rates by payloads do as well, as far as no chain breaks in front of it. -/
  capacity : ∀ (flow : TcpFlow) direction unit,
    (∀ rates, flow.capacity direction unit = .ok rates →
        Rate.TellTimes unit (flow.seqProgress direction) rates) ∧
      (flow.capacity direction unit = .error (.overflow .elapsed) ↔ ∃ first pair,
        Rate.ComesTo (Rate.chainBits (flow.side direction).bySeq) (flow.seqProgress direction)
          first pair ∧ ¬Sample.PairFits first.timestamp pair)

/-- Whatever the timestamps of a batch are, the times between its packets are their differences,
or overflow because these do not fit in 64 bits. -/
theorem tellsTimes (members : List Member) : TellsTimes members where
  ipFlows := by
    rintro flow (⟨pair, rfl⟩ | ⟨entry, hentry, rfl⟩)
    · exact IpFlow.lasts_ofMembers pair members
    · rw [(IpFlow.eq_of_mem_group hentry).2]
      exact IpFlow.lasts_ofMembers _ members
  tcpFlows := by
    rintro flow (⟨pair, rfl⟩ | ⟨port, entry, hentry, rfl⟩)
    · exact TcpFlow.lasts_ofMembers pair members
    · rw [(TcpFlow.eq_of_mem_group hentry).2]
      exact TcpFlow.lasts_ofMembers _ members
  responses _ _ _ h := Http.Exchange.exists_responseTime h
  throughput unit samples := by
    rw [Rate.throughput_eq]
    split
    next hfits =>
      refine ⟨?_, nofun, fun hnot => absurd hfits hnot⟩
      rintro rates ⟨⟩
      exact Rate.tellTimes_ofCounts hfits (List.length_map _)
    next hnot => exact ⟨nofun, fun _ => hnot, fun _ => rfl⟩
  capacity flow direction unit := by
    refine ⟨fun rates h => ?_, TcpFlow.capacity_eq_overflow_iff⟩
    obtain ⟨hfits, counts, hcounts, rfl⟩ := TcpFlow.capacity_eq_ok_iff.mp h
    exact Rate.tellTimes_ofCounts hfits hcounts.length_eq

/-- The earliest request that there can be, and at the latest time a further packet of the
client and the response of the server. -/
def distantBatch : List Member :=
  let client (timestamp : Timestamp) (seq : UInt32) : Packet :=
    { Health.retransmissionPacket ⟨10, 0, 0, 2⟩ ⟨10, 0, 0, 1⟩ 51000 80 seq 1 20 with timestamp }
  let server (timestamp : Timestamp) : Packet :=
    { Health.retransmissionPacket ⟨10, 0, 0, 1⟩ ⟨10, 0, 0, 2⟩ 80 51000 1 21 20 with timestamp }
  let carrying (packet : Packet) (header : Http.Header) : Packet :=
    { packet with headers := packet.headers ++ [.http header] }
  Member.ofBatch [carrying (client Int64.minValue 1) (.request "GET" "/" 1),
    client Int64.maxValue 21, carrying (server Int64.maxValue) (.response 200 none 1)]

/-- The client and the server of this batch. -/
def distantPair : EndpointPair :=
  ⟨⟨.v4 ⟨10, 0, 0, 2⟩, 51000⟩, ⟨.v4 ⟨10, 0, 0, 1⟩, 80⟩⟩

/-- The packets are as far apart as any can be. The durations of their flows, the time of the
response and the rates overflow, as no 64-bit number is the difference of their timestamps. -/
theorem distantBatch_overflows :
    let times (taken : Array Member) := taken.toList.map fun member => member.packet.timestamp
    let flow := TcpFlow.ofMembers distantPair distantBatch
    let sent := IpFlow.ofMembers
      ⟨distantPair.source.address, distantPair.destination.address⟩ distantBatch
    let exchange := Http.Exchange.ofMembers distantBatch 0 none
    times flow.members = [Int64.minValue, Int64.maxValue, Int64.maxValue] ∧
      flow.duration = .error .elapsed ∧
      times sent.members = [Int64.minValue, Int64.maxValue] ∧ sent.duration = .error .elapsed ∧
      exchange.toOption.bind Http.Exchange.responseIndex? = some 2 ∧
      exchange.toOption.map Http.Exchange.responseTime? = some (.error .elapsed) ∧
      flow.seqProgress .forward = [⟨Int64.minValue, 1⟩, ⟨Int64.maxValue, 21⟩] ∧
      (Rate.throughput .megabits (flow.seqProgress .forward)).map (List.map Rate.offset) =
        .error .elapsed ∧
      ∀ time : Int64, time.toInt ≠ Int64.maxValue.toInt - Int64.minValue.toInt := by
  refine ⟨by decide, by decide, by decide, by decide, by decide, by decide, by decide, by decide,
    fun time htime => ?_⟩
  exact absurd (Timestamp.elapsedFits_of_toInt_eq htime) (by decide)

end CaptureFlow
