import CaptureFlow.Flow.Member
import Mathlib.Algebra.GroupWithZero.Nat

/-!
# Totals of packets

The octet counts and the span of time of a flow are those of its packets. One more
packet changes them by what it has itself, and the order of the packets does not
matter.
-/

namespace CaptureFlow

namespace Packet

/-- The octets of a packet on the wire. -/
def wireOctets (packet : Packet) : Nat :=
  packet.wire.toNat

/-- The octets of the IP payload of a packet, none without a network header. -/
def ipPayloadOctets (packet : Packet) : Nat :=
  (packet.ipPayloadLength?.getD 0).toNat

/-- The octets behind the transport header of a packet, none without one. -/
def payloadOctets (packet : Packet) : Nat :=
  (packet.payloadLength?.getD 0).toNat

/-- The sum of a measure over some packets. -/
def total (measure : Packet → Nat) (packets : List Packet) : Nat :=
  (packets.map measure).sum

/-- One more packet adds its own measure. -/
theorem total_concat (measure : Packet → Nat) (packets : List Packet) (packet : Packet) :
    total measure (packets ++ [packet]) = total measure packets + measure packet := by
  simp [total]

/-- The order of the packets does not matter. -/
theorem total_perm (measure : Packet → Nat) {packets others : List Packet}
    (h : packets.Perm others) : total measure packets = total measure others :=
  (h.map measure).sum_nat

end Packet

/-! ## Spans -/

/-- The least of a list with one more element. -/
theorem min?_concat {α : Type} [Min α] (xs : List α) (x : α) :
    (xs ++ [x]).min? = some (xs.min?.elim x fun least => min least x) := by
  cases xs with
  | nil => rfl
  | cons y rest =>
    rw [List.cons_append, List.min?_cons', List.min?_cons', List.foldl_append]
    rfl

/-- The greatest of a list with one more element. -/
theorem max?_concat {α : Type} [Max α] (xs : List α) (x : α) :
    (xs ++ [x]).max? = some (xs.max?.elim x fun greatest => max greatest x) := by
  cases xs with
  | nil => rfl
  | cons y rest =>
    rw [List.cons_append, List.max?_cons', List.max?_cons', List.foldl_append]
    rfl

namespace Timestamp

/-- The later of two timestamps is the least bound of both. -/
instance : Std.LawfulOrderMax Timestamp :=
  .of_max_le_iff
    (fun a b c => by
      have hmax : max a b = if a ≤ b then b else a := rfl
      rw [hmax]
      split
      · rename_i hle
        exact ⟨fun h => ⟨Int64.le_trans hle h, h⟩, And.right⟩
      · rename_i hle
        have hge : b ≤ a := (Int64.le_total a b).resolve_left hle
        exact ⟨fun h => ⟨h, Int64.le_trans hge h⟩, And.left⟩)
    (fun a b => by
      have hmax : max a b = if a ≤ b then b else a := rfl
      rw [hmax]
      split
      · exact .inr rfl
      · exact .inl rfl)

/-- The earliest of some timestamps does not depend on their order. -/
theorem min?_perm {timestamps others : List Timestamp} (h : timestamps.Perm others) :
    timestamps.min? = others.min? := by
  apply Option.ext
  intro least
  simp only [List.min?_eq_some_iff, h.mem_iff]

/-- The latest of some timestamps does not depend on their order. -/
theorem max?_perm {timestamps others : List Timestamp} (h : timestamps.Perm others) :
    timestamps.max? = others.max? := by
  apply Option.ext
  intro greatest
  simp only [List.max?_eq_some_iff, h.mem_iff]

end Timestamp

namespace Span

/-- A span goes from the earliest to the latest timestamp of some packets; there is none
without packets. -/
def IsSpanOf (span : Option Span) (packets : List Packet) : Prop :=
  span.map Span.start = (packets.map Packet.timestamp).min? ∧
    span.map Span.stop = (packets.map Packet.timestamp).max?

/-- No packets have no span. -/
theorem isSpanOf_nil : IsSpanOf none [] :=
  ⟨rfl, rfl⟩

/-- One more packet belongs to the span that includes its timestamp. -/
theorem IsSpanOf.concat {span : Option Span} {packets : List Packet} (h : IsSpanOf span packets)
    (packet : Packet) :
    IsSpanOf (some (including packet.timestamp span)) (packets ++ [packet]) := by
  obtain ⟨hstart, hstop⟩ := h
  rw [IsSpanOf, List.map_append, List.map_singleton, min?_concat, max?_concat, ← hstart, ← hstop]
  cases span <;> exact ⟨rfl, rfl⟩

/-- Packets have one span, in whatever order they stand. -/
theorem IsSpanOf.eq_of_perm {span other : Option Span} {packets others : List Packet}
    (h : IsSpanOf span packets) (hother : IsSpanOf other others) (hperm : packets.Perm others) :
    span = other := by
  have hmap := hperm.map Packet.timestamp
  have hstart := (h.1.trans (Timestamp.min?_perm hmap)).trans hother.1.symm
  have hstop := (h.2.trans (Timestamp.max?_perm hmap)).trans hother.2.symm
  cases span with
  | none =>
    cases other with
    | none => rfl
    | some other => cases hstart
  | some span =>
    cases other with
    | none => cases hstart
    | some other =>
      obtain ⟨start, stop⟩ := span
      obtain ⟨start', stop'⟩ := other
      cases hstart
      cases hstop
      rfl

end Span

end CaptureFlow
