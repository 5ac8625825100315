import CaptureFlow.Proofs.Address.Forms
import CaptureFlow.Proofs.Flow.Pair

/-!
# Keys of flows

Flows are found by the texts of their pairs. A pair is written as the addresses or endpoints of its
sides with a mark between them, whatever versions the addresses have, and no two pairs are written
alike.
-/

namespace CaptureFlow

/-- Texts are names of the values that they are written for. -/
structure AreNames {α : Type} (writtenAs : α → String → Prop) (text : α → String) : Prop where
  /-- A value is written as its text and as no other one. -/
  writtenAs_iff : ∀ value name, writtenAs value name ↔ text value = name
  /-- No other value has the same text. -/
  eq_of_text_eq : ∀ left right, text left = text right → left = right

/-- Two sides are written with a mark between them. -/
def WrittenAround {α : Type} (writtenAs : α → String → Prop) (mark : String)
    (source destination : α) (text : String) : Prop :=
  ∃ first second, writtenAs source first ∧ writtenAs destination second ∧
    text = first ++ mark ++ second

/-- Where sides are named by their texts, a mark between two of them is written in one way. -/
theorem writtenAround_iff {α : Type} {writtenAs : α → String → Prop} {textOf : α → String}
    (h : AreNames writtenAs textOf) {mark text : String} {source destination : α} :
    WrittenAround writtenAs mark source destination text ↔
      textOf source ++ mark ++ textOf destination = text := by
  constructor
  · rintro ⟨first, second, hfirst, hsecond, rfl⟩
    rw [(h.writtenAs_iff source first).mp hfirst, (h.writtenAs_iff destination second).mp hsecond]
  · rintro rfl
    exact ⟨_, _, (h.writtenAs_iff source _).mpr rfl, (h.writtenAs_iff destination _).mpr rfl, rfl⟩

/-- The text as which a pair of addresses is written. -/
def AddressPair.WrittenAs (pair : AddressPair) : String → Prop :=
  WrittenAround IpAddress.WrittenAs "->" pair.source pair.destination

/-- The text as which a pair of endpoints is written. -/
def EndpointPair.WrittenAs (pair : EndpointPair) : String → Prop :=
  WrittenAround Endpoint.WrittenAs "<->" pair.source pair.destination

/-- Addresses are named by their texts. -/
theorem IpAddress.areNames : AreNames IpAddress.WrittenAs IpAddress.text where
  writtenAs_iff _ _ := writtenAs_iff
  eq_of_text_eq _ _ h := text_injective h

/-- Endpoints are named by their texts. -/
theorem Endpoint.areNames : AreNames Endpoint.WrittenAs Endpoint.text where
  writtenAs_iff _ _ := writtenAs_iff
  eq_of_text_eq _ _ h := text_injective h

/-- Addresses, endpoints and pairs of both are named by their texts. -/
theorem texts_areNames :
    AreNames IpAddress.WrittenAs IpAddress.text ∧ AreNames Endpoint.WrittenAs Endpoint.text ∧
      AreNames AddressPair.WrittenAs AddressPair.text ∧
      AreNames EndpointPair.WrittenAs EndpointPair.text :=
  ⟨IpAddress.areNames, Endpoint.areNames,
    { writtenAs_iff := fun _ _ => writtenAround_iff IpAddress.areNames
      eq_of_text_eq := fun _ _ h => AddressPair.text_injective h },
    { writtenAs_iff := fun _ _ => writtenAround_iff Endpoint.areNames
      eq_of_text_eq := fun _ _ h => EndpointPair.text_injective h }⟩

-- A mapped address is not written as the address that it maps.
example :
    EndpointPair.text ⟨⟨.v6 ⟨[0, 0, 0, 0, 0, 0xffff, 0x0a00, 1], rfl⟩, 80⟩,
      ⟨.v6 ⟨[0x2001, 0xdb8, 0, 0, 1, 0, 0, 1], rfl⟩, 4000⟩⟩ =
        "[::ffff:10.0.0.1]:80<->[2001:db8::1:0:0:1]:4000" ∧
      AddressPair.text ⟨.v4 ⟨10, 0, 0, 1⟩, .v6 ⟨[0, 0, 0, 0, 0, 0, 0, 1], rfl⟩⟩ =
        "10.0.0.1->::1" := by
  decide +kernel

end CaptureFlow
