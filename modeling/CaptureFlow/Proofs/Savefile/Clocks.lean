import CaptureFlow.Proofs.Savefile.Packets
import Mathlib.Algebra.Group.Int.Defs
import Mathlib.Algebra.Group.Nat.Defs

/-!
# Clocks of interfaces

The timestamp of a packet counts ticks of the clock of its interface, which says in an option
how many of them make up a second: a power of ten or of two. A reader takes every count for
one of microseconds. So a frame has the time of its packet, rounded down to microseconds, if
its interface counts microseconds, which is so where it does not say otherwise; and where it
counts anything else, only those counts come out right that both units tell with the same
number.
-/

namespace CaptureFlow.Savefile

/-! ## Options -/

/-- The value of the first option with a code, in front of the option that ends them. Every
option takes four octets at least, and `fuel` bounds the octets. -/
def findOption (order : ByteOrder) (code : UInt16) : (fuel : Nat) → Bytes → Option Bytes
  | 0, _ => none
  | fuel + 1, options =>
    let found := wordAt order options 0
    let length := (wordAt order options 2).toNat
    if options.length < 4 ∨ found = 0 then none
    else if found = code then some (slice options 4 length)
    else findOption order code fuel (options.drop (4 + aligned length))

/-- How many ticks of a clock make up a second, as a power. -/
structure TickRate where
  /-- The base of the power. -/
  base : Nat
  /-- The exponent of the power. -/
  exponent : Nat
  deriving DecidableEq

namespace TickRate

/-- The ticks of a clock that counts microseconds. -/
def microseconds : TickRate := ⟨10, 6⟩

/-- The rate that an octet tells: with its highest bit a power of two, else one of ten. -/
def ofOctet (octet : UInt8) : TickRate :=
  if octet.toNat < 128 then ⟨10, octet.toNat⟩ else ⟨2, octet.toNat - 128⟩

/-- The microseconds of a count of ticks, rounded down. -/
def micros (rate : TickRate) (ticks : UInt64) : Nat :=
  ticks.toNat * 1000000 / rate.base ^ rate.exponent

/-- Microseconds are counted as they are. -/
theorem micros_microseconds (ticks : UInt64) : microseconds.micros ticks = ticks.toNat :=
  Nat.mul_div_cancel _ (by decide)

end TickRate

/-- The code of the option that tells the rate of a clock. -/
def tickRateCode : UInt16 := 9

/-- The rate of the clock of an interface, which counts microseconds unless it says
otherwise. -/
def Interface.tickRate (own : Interface) : TickRate :=
  match findOption own.order tickRateCode own.options.length own.options with
  | some (octet :: _) => .ofOctet octet
  | _ => .microseconds

/-! ## Times of frames -/

/-- The count of ticks of a packet, if it has one. -/
def PacketBlock.ticks? : PacketBlock → Option UInt64
  | enhanced ticks _ _ _ _ => some ticks
  | simple _ _ _ => none

/-- What the time of a frame says of a packet with a count of ticks, and of its interface. -/
structure TimedBy (timestamp : Timestamp) (own : Option Interface) (ticks : UInt64) : Prop where
  /-- The time is the count of ticks, whatever these are. -/
  timestamp_eq : timestamp = ticks.toInt64
  /-- Where the interface counts microseconds, the time is that of the packet. -/
  micros_eq : ∀ described, own = some described → described.tickRate = .microseconds →
    described.tickRate.micros ticks < 2 ^ 63 →
    timestamp.toInt = described.tickRate.micros ticks
  /-- Whatever it counts, the time is that of the packet just if there are as many
  microseconds as ticks. -/
  micros_iff : ∀ described, own = some described →
    described.tickRate.micros ticks < 2 ^ 63 →
    (timestamp.toInt = described.tickRate.micros ticks ↔
      described.tickRate.micros ticks = ticks.toNat)

/-- A count of ticks is taken for one with a sign, which no count of microseconds that fits
has unless it is the same. -/
theorem toInt_toInt64_eq_iff {ticks : UInt64} {micros : Nat} (h : micros < 2 ^ 63) :
    ticks.toInt64.toInt = micros ↔ micros = ticks.toNat := by
  have hbound := ticks.toNat_lt
  have hsigned : ticks.toInt64.toInt = if 2 * ticks.toNat < 2 ^ 64 then (ticks.toNat : Int)
      else ticks.toNat - (2 ^ 64 : Nat) :=
    BitVec.toInt_eq_toNat_cond ticks.toBitVec
  rw [hsigned]
  split <;> omega

/-- A count of ticks that is passed on as it is times a frame. -/
theorem timedBy_toInt64 (own : Option Interface) (ticks : UInt64) :
    TimedBy ticks.toInt64 own ticks where
  timestamp_eq := rfl
  micros_eq := by
    intro described _ hrate hfits
    have hmicros : described.tickRate.micros ticks = ticks.toNat := by
      rw [hrate, TickRate.micros_microseconds]
    exact (toInt_toInt64_eq_iff hfits).mpr hmicros
  micros_iff _ _ hfits := toInt_toInt64_eq_iff hfits

/-- The frames read from a file made of blocks have the counts of ticks of their packets as
times, which are those of the packets just if their interfaces count so many microseconds. -/
theorem File.reads_ticks (first : Section) (others : List Section) (path : String) (max : Nat) :
    ∃ file next frames,
      openAt path (.ok (.octets (Layout.sections first others).octets)) = .ok file ∧
      CaptureSource.Reads max file frames next ∧
      List.Forall₂ (fun frame sent => ∀ ticks, sent.block.ticks? = some ticks →
          TimedBy frame.timestamp sent.own ticks)
        frames ((sentIn (first :: others)).take max) := by
  obtain ⟨file, next, frames, hopen, hreads, hsent⟩ := reads_sent first others path max
  refine ⟨file, next, frames, hopen, hreads, hsent.imp ?_⟩
  intro frame sent hpassed ticks hticks
  obtain ⟨own, block⟩ := sent
  cases block with
  | simple wire data fits => cases hticks
  | enhanced count wire data padding fits =>
    cases hticks
    have htimestamp : frame.timestamp = ticks.toInt64 := congrArg Frame.timestamp hpassed
    rw [htimestamp]
    exact timedBy_toInt64 own ticks

/-- An interface that counts nanoseconds. -/
def nanosecondInterface : Interface :=
  ⟨.little, 65535, [9, 0, 1, 0, 9, 0, 0, 0, 0, 0, 0, 0]⟩

/-- A section with a packet of an interface that counts nanoseconds. -/
def nanosecondSection : Section :=
  ⟨plainHead, [.interface 1 0 65535 nanosecondInterface.options (by decide),
    .packet 0 1500000 4 [0, 1, 2, 3] [] [] rfl (by decide)]⟩

/-- A packet at a millisecond and a half has a second and a half as its time. -/
theorem nanosecondSection_unscaled :
    sentIn [nanosecondSection] =
        [⟨some nanosecondInterface, .enhanced 1500000 4 [0, 1, 2, 3] [] (by decide)⟩] ∧
      nanosecondInterface.tickRate.micros 1500000 = 1500 ∧
      (1500000 : Timestamp).toInt ≠ 1500 ∧ ∃ file next,
        File.openAt "nano" (.ok (.octets (Layout.sections nanosecondSection []).octets)) =
          .ok file ∧
        CaptureSource.Reads 1 file [⟨1, 1500000, 4, 4, 1, [0, 1, 2, 3]⟩] next := by
  have hcontents : (Layout.sections nanosecondSection []).contents =
      [⟨1500000, 4, 4, 1, [0, 1, 2, 3]⟩] := by
    decide
  obtain ⟨file, hopen, hholds⟩ := File.openAt_octets (.sections nanosecondSection []) "nano"
  rw [hcontents] at hholds
  obtain ⟨next, hreads, -⟩ := File.handsOutHeld.exists_reads 1 hholds
  exact ⟨rfl, by decide, by decide, file, next, hopen, hreads⟩

end CaptureFlow.Savefile
