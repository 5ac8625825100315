import CaptureFlow.Json.Codec
import CaptureFlow.Proofs.Text.Numeral
import CaptureFlow.Proofs.Text.Utf8

/-!
# The octets of JSON values

The text of a value as octets: words, digits, quoted strings, and items between
brackets that commas separate. The first octet tells what kind of value follows,
and is never a blank or the end of an array.
-/

namespace CaptureFlow.Json

/-- The octets of a value's text. -/
def octetsOf (value : Json) : Bytes :=
  Utf8.encode value.render

/-- The octets of an escaped string, without its quotes. -/
def escapedOctets (characters : List Char) : Bytes :=
  characters.flatMap fun c => Utf8.encode (escaped c)

/-- Items one after another; a comma stands before each but the first one. -/
def separated : (first : Bool) → List Bytes → Bytes
  | _, [] => []
  | first, item :: rest => (if first then [] else [comma]) ++ (item ++ separated false rest)

/-- The octets of a field. -/
def fieldOctets (field : String × Json) : Bytes :=
  octetsOf (.text field.1) ++ 0x3a :: octetsOf field.2

/-- The octets of a decimal numeral. -/
def decimalOctets (n : Nat) : Bytes :=
  (Nat.toDigits 10 n).map fun c => UInt8.ofNat c.toNat

/-! ## Parts -/

/-- The null value. -/
theorem octetsOf_null : octetsOf .null = [0x6e, 0x75, 0x6c, 0x6c] := by
  decide

/-- The true value. -/
theorem octetsOf_true : octetsOf (.bool true) = [0x74, 0x72, 0x75, 0x65] := by
  decide

/-- The false value. -/
theorem octetsOf_false : octetsOf (.bool false) = [0x66, 0x61, 0x6c, 0x73, 0x65] := by
  decide

/-- A numeral is written in octets below 128. -/
theorem encode_decimal (n : Nat) : Utf8.encode (Numeral.decimal n) = decimalOctets n := by
  have hascii : ∀ c ∈ Nat.toDigits 10 n,
      String.utf8EncodeChar c = [UInt8.ofNat c.toNat] := by
    intro c hc
    apply Utf8.utf8EncodeChar_of_lt
    obtain ⟨d, hd, rfl⟩ := Numeral.exists_of_mem_toDigits (by omega) hc
    have hall : ∀ d < 10, d.digitChar.toNat < 0x80 := by decide
    exact hall d hd
  rw [Numeral.decimal, Utf8.encode_ofList, decimalOctets, List.flatMap_def,
    List.map_congr_left hascii, ← List.flatMap_def]
  exact List.map_eq_flatMap.symm

/-- A natural number is its numeral. -/
theorem octetsOf_ofNat (n : Nat) : octetsOf (.number (.ofNat n)) = decimalOctets n := by
  rw [octetsOf, render, Numeral.signed, encode_decimal]

/-- A negative number has a sign in front of its numeral. -/
theorem octetsOf_negSucc (n : Nat) :
    octetsOf (.number (.negSucc n)) = 0x2d :: decimalOctets (n + 1) := by
  have hsign : Utf8.encode "-" = [0x2d] := rfl
  rw [octetsOf, render, Numeral.signed, Utf8.encode_append, hsign, encode_decimal]
  rfl

/-- A string stands between quotes. -/
theorem octetsOf_text (value : String) :
    octetsOf (.text value) = quoteMark :: (escapedOctets value.toList ++ [quoteMark]) := by
  have hquote : Utf8.encode "\"" = [quoteMark] := rfl
  have hjoin : ∀ texts : List String,
      Utf8.encode (String.join texts) = texts.flatMap Utf8.encode := by
    intro texts
    induction texts with
    | nil => rfl
    | cons text rest ih =>
      rw [String.join_cons, Utf8.encode_append, ih, List.flatMap_cons]
  rw [octetsOf, render, quoted, Utf8.encode_append, Utf8.encode_append, hquote, hjoin,
    List.flatMap_map, escapedOctets, List.append_assoc]
  rfl

/-- Texts that commas join are separated by commas. -/
theorem encode_intercalate (texts : List String) :
    Utf8.encode (",".intercalate texts) = separated true (texts.map Utf8.encode) := by
  have hcomma : Utf8.encode "," = [comma] := rfl
  induction texts with
  | nil => rfl
  | cons text rest ih =>
    cases rest with
    | nil => simp [separated]
    | cons next rest =>
      rw [String.intercalate_cons_cons, Utf8.encode_append, Utf8.encode_append, ih, hcomma]
      simp [separated]

/-- An array stands between brackets. -/
theorem octetsOf_array (items : List Json) :
    octetsOf (.array items) =
      openList :: (separated true (items.map octetsOf) ++ [closeList]) := by
  have hopen : Utf8.encode "[" = [openList] := rfl
  have hclose : Utf8.encode "]" = [closeList] := rfl
  have hitems : (renderItems items).map Utf8.encode = items.map octetsOf := by
    induction items with
    | nil => rfl
    | cons item rest ih => rw [renderItems, List.map_cons, ih, List.map_cons, octetsOf]
  rw [octetsOf, render, Utf8.encode_append, Utf8.encode_append, hopen, hclose,
    encode_intercalate, hitems, List.append_assoc]
  rfl

/-- An object stands between braces. -/
theorem octetsOf_object (fields : List (String × Json)) :
    octetsOf (.object fields) =
      openObject :: (separated true (fields.map fieldOctets) ++ [closeObject]) := by
  have hopen : Utf8.encode "\x7b" = [openObject] := rfl
  have hclose : Utf8.encode "\x7d" = [closeObject] := rfl
  have hcolon : Utf8.encode ":" = [0x3a] := rfl
  have hfields : (renderFields fields).map Utf8.encode = fields.map fieldOctets := by
    induction fields with
    | nil => rfl
    | cons field rest ih =>
      obtain ⟨key, value⟩ := field
      rw [renderFields, List.map_cons, ih, List.map_cons, fieldOctets, octetsOf, octetsOf, render,
        Utf8.encode_append, Utf8.encode_append, hcolon, List.append_assoc]
      rfl
  rw [octetsOf, render, Utf8.encode_append, Utf8.encode_append, hopen, hclose,
    encode_intercalate, hfields, List.append_assoc]
  rfl

/-! ## The first octet -/

/-- The digits of a numeral are digits. -/
theorem isDigit_of_mem_decimalOctets {n : Nat} {b : UInt8} (h : b ∈ decimalOctets n) :
    isDigit b = true := by
  rw [decimalOctets, List.mem_map] at h
  obtain ⟨c, hc, rfl⟩ := h
  obtain ⟨d, hd, rfl⟩ := Numeral.exists_of_mem_toDigits (by omega) hc
  have hall : ∀ d < 10, isDigit (UInt8.ofNat d.digitChar.toNat) = true := by decide
  exact hall d hd

/-- A digit starts no other token. -/
theorem ne_of_isDigit {b c : UInt8} (h : isDigit b = true) (hc : isDigit c = false) : b ≠ c := by
  rintro rfl
  rw [h] at hc
  cases hc

/-- A digit is no blank. -/
theorem isBlankOctet_of_isDigit {b : UInt8} (h : isDigit b = true) : isBlankOctet b = false := by
  have hspace := ne_of_isDigit h (by decide : isDigit 0x20 = false)
  have hline := ne_of_isDigit h (by decide : isDigit 0x0a = false)
  have htab := ne_of_isDigit h (by decide : isDigit 0x09 = false)
  have hreturn := ne_of_isDigit h (by decide : isDigit 0x0d = false)
  simp only [isBlankOctet, beq_eq_false_iff_ne.mpr hspace, beq_eq_false_iff_ne.mpr hline,
    beq_eq_false_iff_ne.mpr htab, beq_eq_false_iff_ne.mpr hreturn, Bool.or_self]

/-- A numeral has a first digit. -/
theorem exists_head_decimalOctets (n : Nat) :
    ∃ b rest, decimalOctets n = b :: rest ∧ isDigit b = true := by
  cases hdigits : decimalOctets n with
  | nil => exact absurd (List.map_eq_nil_iff.mp hdigits) Nat.toDigits_ne_nil
  | cons b rest =>
    exact ⟨b, rest, rfl, isDigit_of_mem_decimalOctets (by rw [hdigits]; exact List.mem_cons_self)⟩

/-- What a value may start with. A blank or the end of an array would hide the value, and
the letter of the null value tells that one. -/
def IsHeadOf (value : Json) (b : UInt8) : Prop :=
  isBlankOctet b = false ∧ b ≠ closeList ∧ (b = 0x6e → value = .null)

/-- A digit may start any value. -/
theorem isHeadOf_of_isDigit (value : Json) {b : UInt8} (h : isDigit b = true) :
    IsHeadOf value b := by
  have hclose : b ≠ closeList := ne_of_isDigit h rfl
  have hletter : b ≠ 0x6e := ne_of_isDigit h rfl
  exact ⟨isBlankOctet_of_isDigit h, hclose, fun hnull => absurd hnull hletter⟩

/-- A value starts with an octet that tells its kind. -/
theorem exists_head_octetsOf (value : Json) :
    ∃ b rest, octetsOf value = b :: rest ∧ IsHeadOf value b := by
  unfold IsHeadOf
  cases value with
  | null => exact ⟨_, _, octetsOf_null, rfl, by decide, fun _ => rfl⟩
  | bool value =>
    cases value with
    | false => exact ⟨_, _, octetsOf_false, rfl, by decide, nofun⟩
    | true => exact ⟨_, _, octetsOf_true, rfl, by decide, nofun⟩
  | number value =>
    cases value with
    | ofNat n =>
      obtain ⟨b, rest, hdigits, hb⟩ := exists_head_decimalOctets n
      exact ⟨b, rest, (octetsOf_ofNat n).trans hdigits, isHeadOf_of_isDigit _ hb⟩
    | negSucc n => exact ⟨_, _, octetsOf_negSucc n, rfl, by decide, nofun⟩
  | text value => exact ⟨_, _, octetsOf_text value, rfl, by decide, nofun⟩
  | array items => exact ⟨_, _, octetsOf_array items, rfl, by decide, nofun⟩
  | object fields => exact ⟨_, _, octetsOf_object fields, rfl, by decide, nofun⟩

end CaptureFlow.Json
