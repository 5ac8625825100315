import CaptureFlow.Text.Utf8

/-!
# Text and its octets

Text reads back from its octets. The octets of a text are those of its characters
in order; a character below 128 is one octet, and the octets of any other one are
not below 128.
-/

namespace CaptureFlow.Utf8

/-- The octets of a text are those of its characters. -/
theorem encode_eq_flatMap (text : String) :
    encode text = text.toList.flatMap String.utf8EncodeChar := by
  rw [encode, ← String.utf8Encode_toList, List.utf8Encode, List.data_toByteArray]

/-- The octets of a text given by its characters. -/
theorem encode_ofList (characters : List Char) :
    encode (String.ofList characters) = characters.flatMap String.utf8EncodeChar := by
  rw [encode_eq_flatMap, String.toList_ofList]

/-- The octets of two texts follow each other. -/
@[simp] theorem encode_append (left right : String) :
    encode (left ++ right) = encode left ++ encode right := by
  rw [encode_eq_flatMap, String.toList_append, List.flatMap_append, ← encode_eq_flatMap,
    ← encode_eq_flatMap]

/-- Text reads back from its octets. -/
theorem decode?_encode (text : String) : decode? (encode text) = some text := by
  have hbytes : (⟨(encode text).toArray⟩ : ByteArray) = text.toByteArray := rfl
  rw [decode?, hbytes, String.fromUTF8?, dif_pos text.isValidUTF8]
  rfl

/-- A text is read from its octets only. -/
theorem decode?_eq_some_iff {bytes : Bytes} {text : String} :
    decode? bytes = some text ↔ encode text = bytes := by
  constructor
  · intro h
    rw [decode?, String.fromUTF8?] at h
    split at h
    next hvalid =>
      cases h
      rfl
    · cases h
  · rintro rfl
    exact decode?_encode text

/-- Different texts have different octets. -/
theorem encode_inj {left right : String} : encode left = encode right ↔ left = right := by
  constructor
  · intro h
    rw [← decode?_eq_some_iff, decode?_encode, Option.some.injEq] at h
    exact h.symm
  · exact congrArg encode

/-- A character below 128 is one octet. -/
theorem utf8EncodeChar_of_lt {c : Char} (h : c.toNat < 0x80) :
    String.utf8EncodeChar c = [UInt8.ofNat c.toNat] := by
  have hle : c.val.toNat ≤ 0x7f := Nat.le_of_lt_succ h
  rw [String.utf8EncodeChar]
  exact if_pos hle

/-- The octets of any other character are not below 128. -/
theorem le_of_mem_utf8EncodeChar {c : Char} {b : UInt8} (h : 0x80 ≤ c.toNat)
    (hb : b ∈ String.utf8EncodeChar c) : 0x80 ≤ b := by
  have hnot : ¬ c.val.toNat ≤ 0x7f := Nat.not_le_of_lt h
  have hoctet : ∀ n : Nat, 0x80 ≤ n → n < 0x100 → (0x80 : UInt8) ≤ UInt8.ofNat n := by
    intro n hlow hhigh
    rw [UInt8.le_iff_toNat_le, UInt8.toNat_ofNat', Nat.mod_eq_of_lt hhigh]
    exact hlow
  rw [String.utf8EncodeChar] at hb
  simp only [hnot, if_false] at hb
  split at hb
  · simp only [List.mem_cons, List.not_mem_nil, or_false] at hb
    rcases hb with rfl | rfl <;> exact hoctet _ (by omega) (by omega)
  · split at hb
    · simp only [List.mem_cons, List.not_mem_nil, or_false] at hb
      rcases hb with rfl | rfl | rfl <;> exact hoctet _ (by omega) (by omega)
    · simp only [List.mem_cons, List.not_mem_nil, or_false] at hb
      rcases hb with rfl | rfl | rfl | rfl <;> exact hoctet _ (by omega) (by omega)

/-- The octet of a character below 128 is one of a text just if the character is. -/
theorem mem_encode_iff {text : String} {c : Char} (hc : c.toNat < 0x80) :
    UInt8.ofNat c.toNat ∈ encode text ↔ c ∈ text.toList := by
  rw [encode_eq_flatMap, List.mem_flatMap]
  constructor
  · rintro ⟨d, hd, hmem⟩
    have hlt : UInt8.ofNat c.toNat < 0x80 := by
      rw [UInt8.lt_iff_toNat_lt, UInt8.toNat_ofNat', Nat.mod_eq_of_lt (by omega)]
      exact hc
    by_cases hsmall : d.toNat < 0x80
    · rw [utf8EncodeChar_of_lt hsmall, List.mem_singleton] at hmem
      have hnat := congrArg UInt8.toNat hmem
      rw [UInt8.toNat_ofNat', UInt8.toNat_ofNat', Nat.mod_eq_of_lt (by omega),
        Nat.mod_eq_of_lt (by omega)] at hnat
      rwa [Char.ext (UInt32.toNat_inj.mp hnat)]
    · have hle := le_of_mem_utf8EncodeChar (Nat.le_of_not_lt hsmall) hmem
      exact absurd hlt (UInt8.not_lt.mpr hle)
  · intro hmem
    refine ⟨c, hmem, ?_⟩
    rw [utf8EncodeChar_of_lt hc]
    exact List.mem_singleton_self _

/-- A character below 128 is in no text whose octets belong to a class without its own. -/
theorem notMem_of_encode {text : String} {isMember : UInt8 → Bool}
    (h : ∀ b ∈ encode text, isMember b = true) {c : Char} (hc : c.toNat < 0x80)
    (hother : isMember (UInt8.ofNat c.toNat) = false) : c ∉ text.toList := by
  intro hmem
  rw [h _ ((mem_encode_iff hc).mpr hmem)] at hother
  cases hother

end CaptureFlow.Utf8
