import CaptureFlow.TcpFlow.Progress

/-!
# Rates of TCP flows

A rate is the number of bits between two samples by the time between them. The
bits are the difference of the values, or the payloads of the chain of segments
that leads from one value to the other. A series of rates stops at a time that
overflows.
-/

namespace CaptureFlow

/-- The units in which rates are told. -/
inductive RateUnit where
  /-- Bits in a nanosecond. -/
  | bitsPerNanosecond
  /-- Millions of bits in a second. -/
  | megabits
  /-- Thousands of millions of bits in a second. -/
  | gigabits
  deriving DecidableEq, Repr

namespace RateUnit

/-- The name of a unit. -/
def suffix : RateUnit → String
  | bitsPerNanosecond => "bit/ns"
  | megabits => "Mbps"
  | gigabits => "Gbps"

/-- The rate of a number of bits in a time, zero unless the time is positive. -/
def rate (unit : RateUnit) (elapsed : Int64) (bits : UInt64) : Float :=
  if elapsed ≤ 0 then 0
  else
    let perNanosecond := bits.toFloat / elapsed.toUInt64.toFloat
    match unit with
    | bitsPerNanosecond => perNanosecond
    | megabits => perNanosecond * 1000
    | gigabits => perNanosecond

end RateUnit

/-- The samples that stand next to each other. -/
def Sample.neighbours (samples : List Sample) : List (Sample × Sample) :=
  samples.zip samples.tail

/-- A rate at a time. -/
structure Rate where
  /-- Microseconds since the first sample. -/
  offset : Int64
  /-- The rate. -/
  value : Float

namespace Rate

/-- Why rates are not told. -/
inductive Fault where
  /-- A time between two samples overflows. -/
  | overflow (overflow : Overflow)
  /-- The bits between two samples are not known. -/
  | flow (error : FlowError)
  deriving DecidableEq, Repr

/-- The rate between two neighbours, by the bits between them. -/
def between (unit : RateUnit) (bits : Sample → Sample → Except FlowError UInt64)
    (start : Timestamp) (pair : Sample × Sample) : Except Fault Rate := do
  let elapsed ← (Timestamp.elapsed pair.1.timestamp pair.2.timestamp).mapError .overflow
  let offset ← (Timestamp.elapsed start pair.2.timestamp).mapError .overflow
  let count ← (bits pair.1 pair.2).mapError .flow
  .ok ⟨offset, unit.rate (Timestamp.nanoseconds elapsed) count⟩

/-- A zero rate at the first sample, and the rates between neighbours. -/
def series (unit : RateUnit) (bits : Sample → Sample → Except FlowError UInt64)
    (samples : List Sample) : Except Fault (List Rate) :=
  match samples with
  | [] => .ok []
  | first :: _ => do
    let others ← (Sample.neighbours samples).mapM (between unit bits first.timestamp)
    .ok (⟨0, 0⟩ :: others)

/-- The bits between two samples by the difference of their values. -/
def differenceBits (earlier later : Sample) : UInt64 :=
  (later.value - earlier.value).toUInt64 * 8

/-- The rates by the differences of the values. -/
def throughput (unit : RateUnit) (samples : List Sample) : Except Overflow (List Rate) :=
  match series unit (fun earlier later => .ok (differenceBits earlier later)) samples with
  | .ok rates => .ok rates
  | .error (.overflow overflow) => .error overflow
  | .error (.flow _) => .ok []

end Rate

/-- The payload octets of the chain of segments from `seq` up to `stop`, each
starting where the one before it ends. A segment at `stop` counts as well; any
other gap, or a segment without a payload, breaks the chain. -/
def chainBytes (bySeq : Table UInt32 Member) (stop seq : UInt32) : Except FlowError Nat :=
  if stop < seq then .ok 0
  else match bySeq.find? seq with
    | none => if seq = stop then .ok 0 else .error (.sequenceMissing seq)
    | some member =>
      let length := (member.packet.payloadLength?.getD 0).toUInt32
      if _hzero : length = 0 then .error (.sequenceMissing seq)
      else if _hfits : seq.toNat + length.toNat < UInt32.size then
        (chainBytes bySeq stop (seq + length)).map (length.toNat + ·)
      else .ok length.toNat
termination_by UInt32.size - seq.toNat
decreasing_by
  change UInt32.size - (seq + length).toNat < UInt32.size - seq.toNat
  clear_value length
  have hpositive : length.toNat ≠ 0 := fun h => _hzero (UInt32.toNat_inj.mp h)
  have hsum : (seq + length).toNat = seq.toNat + length.toNat := by
    rw [UInt32.toNat_add]
    exact Nat.mod_eq_of_lt _hfits
  omega

/-- The rates of a direction by the payloads of its segments. -/
def TcpFlow.capacity (flow : TcpFlow) (direction : Direction) (unit : RateUnit) :
    Except Rate.Fault (List Rate) :=
  let bits := fun (earlier later : Sample) =>
    (chainBytes (flow.side direction).bySeq later.value earlier.value).map
      fun count => UInt64.ofNat count * 8
  Rate.series unit bits (flow.seqProgress direction)

end CaptureFlow
