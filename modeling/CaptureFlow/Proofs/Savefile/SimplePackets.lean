import CaptureFlow.Decoder
import CaptureFlow.Proofs.Savefile.Packets

/-!
# Captured lengths of simple packets

A packet without a timestamp does not tell how much of it was captured: as much as it had on
the wire, but no more than the snap length of its interface. Its data is padded to whole
words. A reader takes the length of the padded data for the captured length, so that this
comes out right for whole words only. Elsewhere padding counts as captured, and a packet that
was cut by less than its padding passes as complete.
-/

namespace CaptureFlow.Savefile

/-- The octets captured of a packet of an interface; without a snap length all of them. -/
def Interface.kept (own : Interface) (wire : UInt32) : Nat :=
  if own.snapLength = 0 then wire.toNat else min wire.toNat own.snapLength.toNat

/-- Padding to whole words adds nothing just to whole words. -/
theorem aligned_eq_iff (n : Nat) : aligned n = n ↔ n % 4 = 0 := by
  rw [aligned]
  omega

/-- The padded data of a packet is shorter than the packet just if there is a snap length, and
it is shorter when rounded up. -/
theorem Interface.aligned_kept_lt_iff (own : Interface) (wire : UInt32) :
    aligned (own.kept wire) < wire.toNat ↔
      own.snapLength ≠ 0 ∧ aligned own.snapLength.toNat < wire.toNat := by
  unfold kept
  split
  · rename_i hnone
    have hlong : ¬aligned wire.toNat < wire.toNat := by
      rw [aligned]
      omega
    exact ⟨fun hshort => absurd hshort hlong, fun hsome => absurd hnone hsome.1⟩
  · rename_i hsome
    have hmin : aligned (min wire.toNat own.snapLength.toNat) < wire.toNat ↔
        aligned own.snapLength.toNat < wire.toNat := by
      simp only [aligned]
      omega
    rw [hmin]
    exact ⟨fun hshort => ⟨hsome, hshort⟩, And.right⟩

/-- What is passed on of a packet with so many octets on the wire, of which an interface has
captured as many as it keeps. -/
structure CapturedBy (frame : Frame) (own : Interface) (wire : UInt32) : Prop where
  /-- The length on the wire is that of the packet. -/
  wire_eq : frame.wire = wire
  /-- The captured length is that of the padded data. -/
  captured_eq : frame.captured.toNat = aligned (own.kept wire)
  /-- It is the length captured just if that is one of whole words. -/
  captured_iff : frame.captured.toNat = own.kept wire ↔ own.kept wire % 4 = 0
  /-- A strict decoder takes the frame for an incomplete one just if there is a snap length,
  and the packet is longer than this rounded up. -/
  strict_iff : ∀ settings : Decoder,
    settings.decode frame.timestamp frame.captured frame.wire frame.data =
        .error (.incomplete frame.captured frame.wire) ↔
      own.snapLength ≠ 0 ∧ aligned own.snapLength.toNat < wire.toNat

/-- A strict decoder fails just if less was captured than there was on the wire. -/
theorem decode_eq_error_iff (settings : Decoder) (timestamp : Timestamp)
    (captured wire : UInt32) (data : Bytes) :
    settings.decode timestamp captured wire data = .error (.incomplete captured wire) ↔
      captured.toNat < wire.toNat := by
  rw [Decoder.decode, ← UInt32.lt_iff_toNat_lt]
  split
  · rename_i hcut
    exact ⟨fun _ => hcut, fun _ => rfl⟩
  · rename_i hall
    exact ⟨nofun, fun hcut => absurd hcut hall⟩

/-- The frames of simple packets that are read from a file have the lengths of their padded
data as captured lengths. These are the lengths captured just if they are whole words, and a
strict decoder misses what is cut by less than the padding. -/
theorem File.reads_simplePackets (first : Section) (others : List Section) (path : String)
    (max : Nat) :
    ∃ file next frames,
      openAt path (.ok (.octets (Layout.sections first others).octets)) = .ok file ∧
      CaptureSource.Reads max file frames next ∧
      List.Forall₂ (fun frame sent => ∀ own wire data fits,
          sent = ⟨some own, .simple wire data fits⟩ →
          data.length = aligned (own.kept wire) → CapturedBy frame own wire)
        frames ((sentIn (first :: others)).take max) := by
  obtain ⟨file, next, frames, hopen, hreads, hsent⟩ := reads_sent first others path max
  refine ⟨file, next, frames, hopen, hreads, hsent.imp ?_⟩
  intro frame sent hpassed own wire data fits hsimple hpadded
  subst hsimple
  have hwire : frame.wire = wire := congrArg Frame.wire hpassed
  have hcaptured : frame.captured = UInt32.ofNat data.length := congrArg Frame.captured hpassed
  have hlength : frame.captured.toNat = aligned (own.kept wire) := by
    have hbound : data.length < UInt32.size := Nat.lt_trans fits (by decide)
    rw [hcaptured, UInt32.toNat_ofNat_of_lt' hbound, hpadded]
  refine ⟨hwire, hlength, ?_, ?_⟩
  · rw [hlength, aligned_eq_iff]
  · intro settings
    rw [decode_eq_error_iff, hlength, hwire, own.aligned_kept_lt_iff]

/-- An interface that captures thirteen octets of a packet. -/
def shortInterface : Interface :=
  ⟨.little, 13, []⟩

/-- Thirteen octets of a packet, padded to sixteen. -/
def shortData : Bytes :=
  [1, 2, 3, 4, 5, 6, 7, 8, 9, 10, 11, 12, 13, 0, 0, 0]

/-- A section with a simple packet of fifteen octets, of which thirteen were captured. -/
def shortSection : Section :=
  ⟨plainHead,
    [.interface 1 0 13 [] Interface.fits_plain, .simplePacket 15 shortData (by decide)]⟩

/-- A packet of fifteen octets, of which thirteen were captured, is handed out with sixteen
captured octets, and a strict decoder takes it for a complete one. -/
theorem shortSection_overcounted :
    sentIn [shortSection] = [⟨some shortInterface, .simple 15 shortData (by decide)⟩] ∧
      shortData.length = aligned (shortInterface.kept 15) ∧ shortInterface.kept 15 = 13 ∧
      ∃ file next,
        File.openAt "short" (.ok (.octets (Layout.sections shortSection []).octets)) =
          .ok file ∧
        CaptureSource.Reads 1 file [⟨1, 0, 16, 15, 1, shortData⟩] next ∧
        ∃ packet, Decoder.decode {} 0 16 15 shortData = .ok packet := by
  have hcontents : (Layout.sections shortSection []).contents =
      [⟨0, 16, 15, 1, shortData⟩] := by
    decide
  obtain ⟨file, hopen, hholds⟩ := File.openAt_octets (.sections shortSection []) "short"
  rw [hcontents] at hholds
  obtain ⟨next, hreads, -⟩ := File.handsOutHeld.exists_reads 1 hholds
  exact ⟨rfl, by decide, by decide, file, next, hopen, hreads, _, rfl⟩

end CaptureFlow.Savefile
