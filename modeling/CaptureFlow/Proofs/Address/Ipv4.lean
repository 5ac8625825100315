import CaptureFlow.Address.Ipv4
import CaptureFlow.Proofs.Text.Numeral

/-!
# Reading dotted decimal addresses back

The text of an IPv4 address reads back as the address, also where more text
follows that does not go on with a digit. Different addresses have different texts.
-/

namespace CaptureFlow.Ipv4

/-- The dotted decimal text, character by character. -/
theorem Address.toList_text (address : Address) :
    address.text.toList =
      Nat.toDigits 10 address.a.toNat ++ '.' :: (Nat.toDigits 10 address.b.toNat ++
        '.' :: (Nat.toDigits 10 address.c.toNat ++ '.' :: Nat.toDigits 10 address.d.toNat)) := by
  simp [text, octets]

/-- A dotted decimal text is made of digits and dots. -/
theorem Address.mem_toList_text {address : Address} {c : Char}
    (h : c ∈ address.text.toList) : (∃ d < 10, c = d.digitChar) ∨ c = '.' := by
  rw [toList_text] at h
  simp only [List.mem_append, List.mem_cons] at h
  rcases h with h | h | h | h | h | h | h
  all_goals first
    | exact .inl (Numeral.exists_of_mem_toDigits (by omega) h)
    | exact .inr h

/-- A decimal octet has at most three digits and no zero in front. -/
theorem octet_digits (b : UInt8) :
    (Nat.toDigits 10 b.toNat).length ≤ 3 ∧
      ¬(1 < (Nat.toDigits 10 b.toNat).length ∧ (Nat.toDigits 10 b.toNat).head? = some '0') := by
  have hb := b.toNat_lt
  refine ⟨(Nat.length_toDigits_le_iff (by omega) (by omega)).mpr (by omega), ?_⟩
  rintro ⟨hlong, hzero⟩
  by_cases hpos : 0 < b.toNat
  · exact Numeral.head?_toDigits_ne_zero (by omega) hpos hzero
  · have hz : b.toNat = 0 := by omega
    rw [hz, Nat.toDigits_zero] at hlong
    simp at hlong

/-- A decimal octet reads back in front of anything but a digit. -/
theorem splitOctet_toDigits (b : UInt8) {rest : List Char} (hrest : Stops Char.isDigit rest) :
    splitOctet (Nat.toDigits 10 b.toNat ++ rest) = some (b, rest) := by
  have hdigits : ∀ c ∈ Nat.toDigits 10 b.toNat, c.isDigit = true :=
    fun c hc => Numeral.isDigit_of_mem_toDigits hc
  obtain ⟨hlength, hpadded⟩ := octet_digits b
  have hb := b.toNat_lt
  rw [splitOctet, hrest.takeWhile_append hdigits, hrest.dropWhile_append hdigits,
    Numeral.value?_toDigits (by omega) (by omega)]
  rw [if_neg]
  · simp [Option.filter, hb]
  · simp only [Bool.or_eq_true, List.isEmpty_iff, Nat.toDigits_ne_nil, decide_eq_true_eq,
      Bool.and_eq_true, beq_iff_eq, false_or, not_or]
    exact ⟨by omega, hpadded⟩

/-- An address reads back in front of anything but a digit. -/
theorem splitAddress_text (address : Address) {rest : List Char}
    (hrest : Stops Char.isDigit rest) :
    splitAddress (address.text.toList ++ rest) = some (address, rest) := by
  have hdot : ∀ more : List Char, Stops Char.isDigit ('.' :: more) := by
    intro more
    rw [Stops.cons_iff]
    rfl
  rw [Address.toList_text]
  simp only [List.append_assoc, List.cons_append, splitAddress, splitDottedOctet,
    splitOctet_toDigits _ (hdot _), splitOctet_toDigits _ hrest, Option.bind_eq_bind,
    Option.bind_some, Option.pure_def]

/-- The text of an address reads back as the address. -/
theorem Address.parse?_text (address : Address) : parse? address.text = some address := by
  have h := splitAddress_text address Stops.nil
  rw [List.append_nil] at h
  rw [parse?, h]

/-- Different addresses have different texts. -/
theorem Address.text_injective : Function.Injective Address.text := by
  intro left right h
  have hparse := parse?_text left
  rw [h, parse?_text right] at hparse
  exact (Option.some.inj hparse).symm

end CaptureFlow.Ipv4
