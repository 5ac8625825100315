import CaptureFlow.Proofs.Json.Render

/-!
# Scanning what was written

A written string reads back character by character: escapes stand for the
characters that they were put in place of, and every other octet for itself. A
written number within 64 bits reads back where the text does not go on with
another octet of a number.
-/

namespace CaptureFlow.Json

/-! ## Strings -/

/-- An octet that stands for itself inside a string. -/
def IsPlain (b : UInt8) : Prop :=
  b ≠ 0x22 ∧ b ≠ 0x5c ∧ 0x20 ≤ b

/-- Octets that stand for themselves are taken as they are. -/
theorem stringOctets_plain {bytes : Bytes} (h : ∀ b ∈ bytes, IsPlain b)
    (fault : Option ReadFault) (done rest : Bytes) :
    stringOctets fault done (bytes ++ rest) = stringOctets fault (bytes.reverse ++ done) rest := by
  induction bytes generalizing done with
  | nil => rfl
  | cons b bytes ih =>
    obtain ⟨hquote, hslash, hcontrol⟩ := h b List.mem_cons_self
    rw [List.cons_append, stringOctets, if_neg hquote, if_neg hslash,
      if_neg (UInt8.not_lt.mpr hcontrol), ih fun b hb => h b (List.mem_cons_of_mem _ hb)]
    simp

/-- An escape is taken for the octets that it stands for. -/
theorem stringOctets_escape {fault : Option ReadFault} {text octets : Bytes} {left : Shorter text}
    (h : escape fault text = .ok (octets, left)) (done : Bytes) :
    stringOctets fault done (0x5c :: text) =
      stringOctets fault (octets.reverse ++ done) left.val := by
  rw [stringOctets, if_neg (by decide), if_pos rfl, h]

/-- A letter behind a backslash stands for one octet. -/
theorem stringOctets_simple {b octet : UInt8} (hb : b ≠ 0x75) (h : simpleEscape b = some octet)
    (fault : Option ReadFault) (done rest : Bytes) :
    stringOctets fault done (0x5c :: b :: rest) = stringOctets fault (octet :: done) rest := by
  have hle : rest.length ≤ (b :: rest).length := by simp
  have hescape : escape fault (b :: rest) = .ok ([octet], ⟨rest, hle⟩) := by
    rw [escape, if_neg hb]
    simp only [h]
  exact stringOctets_escape hescape done

/-- Four hexadecimal digits stand for a character below the surrogates. -/
theorem stringOctets_hex {a b c d : UInt8} {n : Nat} (h : hexQuad a b c d = some n)
    (hn : n < 0xd800) (fault : Option ReadFault) (done rest : Bytes) :
    stringOctets fault done (0x5c :: 0x75 :: a :: b :: c :: d :: rest) =
      stringOctets fault ((codePointOctets n).reverse ++ done) rest := by
  have hle : rest.length ≤ (0x75 :: a :: b :: c :: d :: rest).length := by
    simp only [List.length_cons]
    omega
  have hescape : escape fault (0x75 :: a :: b :: c :: d :: rest) =
      .ok (codePointOctets n, ⟨rest, hle⟩) := by
    rw [escape, if_pos rfl, hexFour]
    simp only [h, bind, Except.bind]
    rw [if_neg (by omega), if_neg (by omega)]
  exact stringOctets_escape hescape done

/-- The octet of a hexadecimal digit. -/
def hexOctet (d : Nat) : UInt8 :=
  UInt8.ofNat d.digitChar.toNat

/-- The escape of a control character without a letter has four digits. -/
theorem encode_controlEscape {n : Nat} (h : n < 0x20) :
    Utf8.encode ("\\u" ++ Numeral.zeroPadded 4 (Numeral.hexadecimal n)) =
      [0x5c, 0x75, 0x30, 0x30, hexOctet (n / 16), hexOctet (n % 16)] := by
  have hall : ∀ n < 0x20, Utf8.encode ("\\u" ++ Numeral.zeroPadded 4 (Numeral.hexadecimal n)) =
      [0x5c, 0x75, 0x30, 0x30, hexOctet (n / 16), hexOctet (n % 16)] := by decide
  exact hall n h

/-- The four digits of a control character read back. -/
theorem hexQuad_control {n : Nat} (h : n < 0x20) :
    hexQuad 0x30 0x30 (hexOctet (n / 16)) (hexOctet (n % 16)) = some n := by
  have hall : ∀ n < 0x20,
      hexQuad 0x30 0x30 (hexOctet (n / 16)) (hexOctet (n % 16)) = some n := by decide
  exact hall n h

/-- A character is written behind a backslash by a letter, or by its number, or as
it is. -/
theorem escaped_cases (c : Char) :
    (∃ letter octet, letter ≠ 0x75 ∧ simpleEscape letter = some octet ∧
      String.utf8EncodeChar c = [octet] ∧ Utf8.encode (escaped c) = [0x5c, letter]) ∨
    (c.toNat < 0x20 ∧
      escaped c = "\\u" ++ Numeral.zeroPadded 4 (Numeral.hexadecimal c.toNat)) ∨
    (c ≠ '"' ∧ c ≠ '\\' ∧ 0x20 ≤ c.toNat ∧ escaped c = String.ofList [c]) := by
  by_cases hquote : c = '"'
  · subst hquote
    exact .inl ⟨0x22, 0x22, by decide⟩
  by_cases hslash : c = '\\'
  · subst hslash
    exact .inl ⟨0x5c, 0x5c, by decide⟩
  by_cases hcontrol : c.toNat < 0x20
  · by_cases hback : c = Char.ofNat 0x08
    · subst hback
      exact .inl ⟨0x62, 0x08, by decide⟩
    by_cases htab : c = '\t'
    · subst htab
      exact .inl ⟨0x74, 0x09, by decide⟩
    by_cases hline : c = '\n'
    · subst hline
      exact .inl ⟨0x6e, 0x0a, by decide⟩
    by_cases hfeed : c = Char.ofNat 0x0c
    · subst hfeed
      exact .inl ⟨0x66, 0x0c, by decide⟩
    by_cases hreturn : c = '\r'
    · subst hreturn
      exact .inl ⟨0x72, 0x0d, by decide⟩
    refine .inr (.inl ⟨hcontrol, ?_⟩)
    rw [escaped, if_neg hquote, if_neg hslash, if_pos hcontrol, if_neg hback, if_neg htab,
      if_neg hline, if_neg hfeed, if_neg hreturn]
  · refine .inr (.inr ⟨hquote, hslash, Nat.le_of_not_lt hcontrol, ?_⟩)
    rw [escaped, if_neg hquote, if_neg hslash, if_neg hcontrol]

/-- The octets of a character that is written as it is stand for themselves. -/
theorem isPlain_of_mem_utf8EncodeChar {c : Char} (hquote : c ≠ '"') (hslash : c ≠ '\\')
    (hcontrol : 0x20 ≤ c.toNat) : ∀ b ∈ String.utf8EncodeChar c, IsPlain b := by
  intro b hb
  by_cases hascii : c.toNat < 0x80
  · rw [Utf8.utf8EncodeChar_of_lt hascii, List.mem_singleton] at hb
    have htoNat : b.toNat = c.toNat := by
      rw [hb, UInt8.toNat_ofNat', Nat.mod_eq_of_lt (by omega)]
    have hne : ∀ d : Char, c ≠ d → b.toNat ≠ d.toNat := by
      intro d hd heq
      exact hd (Char.toNat_inj.mp (htoNat.symm.trans heq))
    refine ⟨fun h => hne '"' hquote (by rw [h]; rfl), fun h => hne '\\' hslash (by rw [h]; rfl), ?_⟩
    rw [UInt8.le_iff_toNat_le, htoNat]
    exact hcontrol
  · have hhigh := Utf8.le_of_mem_utf8EncodeChar (Nat.le_of_not_lt hascii) hb
    rw [UInt8.le_iff_toNat_le] at hhigh
    have hne : ∀ d : UInt8, d.toNat < 0x80 → b ≠ d := by
      rintro d hd rfl
      exact Nat.not_le_of_lt hd hhigh
    refine ⟨hne _ (by decide), hne _ (by decide), ?_⟩
    rw [UInt8.le_iff_toNat_le]
    exact Nat.le_trans (by decide) hhigh

/-- A character reads back from what it is written as. -/
theorem stringOctets_escaped (c : Char) (fault : Option ReadFault) (done rest : Bytes) :
    stringOctets fault done (Utf8.encode (escaped c) ++ rest) =
      stringOctets fault ((String.utf8EncodeChar c).reverse ++ done) rest := by
  obtain ⟨letter, octet, hletter, hsimple, hchar, htext⟩ | ⟨hcontrol, htext⟩ |
    ⟨hquote, hslash, hcontrol, htext⟩ := escaped_cases c
  · rw [htext, hchar]
    exact stringOctets_simple hletter hsimple fault done rest
  · have hread := stringOctets_hex (hexQuad_control hcontrol) (by omega) fault done rest
    rw [codePointOctets, Char.ofNat_toNat] at hread
    rw [htext, encode_controlEscape hcontrol]
    exact hread
  · rw [htext, Utf8.encode_ofList, List.flatMap_singleton]
    exact stringOctets_plain (isPlain_of_mem_utf8EncodeChar hquote hslash hcontrol) fault done rest

/-- A string reads back up to its closing quote. -/
theorem stringOctets_escapedOctets (characters : List Char) (fault : Option ReadFault)
    (done rest : Bytes) :
    stringOctets fault done (escapedOctets characters ++ quoteMark :: rest) =
      .ok (done.reverse ++ characters.flatMap String.utf8EncodeChar, rest) := by
  induction characters generalizing done with
  | nil =>
    rw [escapedOctets, List.flatMap_nil, List.nil_append, stringOctets,
      if_pos (show quoteMark = 0x22 from rfl), List.flatMap_nil, List.append_nil]
  | cons c characters ih =>
    rw [escapedOctets, List.flatMap_cons, List.append_assoc, stringOctets_escaped,
      ← escapedOctets, ih, List.flatMap_cons]
    simp

/-- A written string reads back behind its opening quote. -/
theorem string_escapedOctets (value : String) (fault : Option ReadFault) (rest : Bytes) :
    string ⟨escapedOctets value.toList ++ quoteMark :: rest, fault⟩ =
      .ok (value, ⟨rest, fault⟩) := by
  have hread := stringOctets_escapedOctets value.toList fault [] rest
  rw [← Utf8.encode_eq_flatMap] at hread
  simp only [string, hread, bind, Except.bind, List.reverse_nil, List.nil_append,
    Utf8.decode?_encode]

/-! ## Numbers -/

/-- Whether an octet would go on with a number. -/
def goesOn (b : UInt8) : Bool :=
  isDigit b || b == 0x2e || b == 0x65 || b == 0x45

/-- Digits that fit are taken before those behind them. -/
theorem accumulate_append {m n : Nat} {digits : Bytes} (h : accumulate m digits = (n, []))
    (others : Bytes) : accumulate m (digits ++ others) = accumulate n others := by
  induction digits generalizing m with
  | nil =>
    cases h
    rfl
  | cons d digits ih =>
    rw [List.cons_append, accumulate]
    rw [accumulate] at h
    split at h
    · rename_i hfits
      rw [if_pos hfits]
      exact ih h
    · cases h

/-- The digits of a number within 64 bits make up that number. -/
theorem accumulate_decimalOctets {n : Nat} (h : n < UInt64.size) :
    accumulate 0 (decimalOctets n) = (n, []) := by
  have hvalue : ∀ d < 10, digitValue (UInt8.ofNat d.digitChar.toNat) = d := by decide
  induction n using Nat.base_induction 10 (by omega) with
  | single n hn =>
    rw [decimalOctets, Nat.toDigits_of_lt_base hn, List.map_singleton, accumulate, hvalue n hn,
      if_pos (by omega), accumulate, Nat.mul_zero, Nat.zero_add]
  | digit n d hd hn ih =>
    have hdigits : decimalOctets (10 * n + d) =
        decimalOctets n ++ [UInt8.ofNat d.digitChar.toNat] := by
      rw [decimalOctets, ← Nat.toDigits_append_toDigits (by omega) hn hd,
        Nat.toDigits_of_lt_base hd, List.map_append, List.map_singleton, decimalOctets]
    rw [hdigits, accumulate_append (ih (by omega)), accumulate, hvalue d hd,
      if_pos h, accumulate]

/-- Only the numeral of zero starts with a zero. -/
theorem head?_decimalOctets_ne {n : Nat} (h : 0 < n) : (decimalOctets n).head? ≠ some 0x30 := by
  have hzero : ∀ d < 10, UInt8.ofNat d.digitChar.toNat = 0x30 → d.digitChar = '0' := by decide
  intro hhead
  rw [decimalOctets, List.head?_map, Option.map_eq_some_iff] at hhead
  obtain ⟨c, hc, hoctet⟩ := hhead
  obtain ⟨d, hd, rfl⟩ := Numeral.exists_of_mem_toDigits (by omega) (List.mem_of_mem_head? hc)
  rw [hzero d hd hoctet] at hc
  exact Numeral.head?_toDigits_ne_zero (by omega) h hc

/-- The digits of a number are the run of digits in front of what stops it. -/
theorem digitRun_decimalOctets (n : Nat) {rest : Bytes} (h : Stops goesOn rest) :
    digitRun ⟨decimalOctets n ++ rest, none⟩ = .ok (decimalOctets n, ⟨rest, none⟩) := by
  have hstops : Stops isDigit rest := by
    intro b hb
    have hgoes := h b hb
    simp only [goesOn, Bool.or_eq_false_iff] at hgoes
    exact hgoes.1.1.1
  have hdigits : ∀ b ∈ decimalOctets n, isDigit b = true := fun b => isDigit_of_mem_decimalOctets
  rw [digitRun]
  simp only [hstops.dropWhile_append hdigits, hstops.takeWhile_append hdigits]

/-- A numeral has no zero in front of another digit. -/
theorem no_leading_zero {n : Nat} {first : UInt8} {after rest : Bytes}
    (hdigits : decimalOctets n = first :: after) (h : Stops goesOn rest) :
    ¬ (first = 0x30 ∧ (after ++ rest).head?.any isDigit = true) := by
  rintro ⟨rfl, hnext⟩
  by_cases hn : n = 0
  · subst hn
    have hafter : after = [] := by
      have hzero : decimalOctets 0 = [0x30] := rfl
      rw [hzero] at hdigits
      exact (List.cons.inj hdigits).2.symm
    rw [hafter, List.nil_append, Option.any_eq_true] at hnext
    obtain ⟨b, hb, hdigit⟩ := hnext
    have hgoes := h b hb
    rw [goesOn, hdigit] at hgoes
    cases hgoes
  · apply head?_decimalOctets_ne (Nat.pos_of_ne_zero hn)
    rw [hdigits, List.head?_cons]

/-- A number is read by its run of digits where the text does not go on. -/
theorem readNumber_decimalOctets {n : Nat} (hn : n < UInt64.size) (positive : Bool)
    {rest : Bytes} (h : Stops goesOn rest) :
    readNumber positive ⟨decimalOctets n ++ rest, none⟩ =
      if positive then .ok (.integer n, ⟨rest, none⟩)
      else if n = 0 ∨ UInt64.size / 2 < n then
        .ok (.float (-n.toUInt64.toFloat), ⟨rest, none⟩)
      else .ok (.integer (-n), ⟨rest, none⟩) := by
  obtain ⟨first, after, hdigits, hfirst⟩ := exists_head_decimalOctets n
  have hrun := digitRun_decimalOctets n h
  have haccumulate := accumulate_decimalOctets hn
  have hzero := no_leading_zero hdigits h
  rw [hdigits, List.cons_append] at hrun ⊢
  rw [hdigits] at haccumulate
  unfold readNumber
  dsimp only
  rw [if_neg (by simp [hfirst]), if_neg hzero]
  simp only [hrun, haccumulate, bind, Except.bind]
  split
  · exact absurd (h 0x2e rfl) (by decide)
  · exact absurd (h 0x65 rfl) (by decide)
  · exact absurd (h 0x45 rfl) (by decide)
  · rfl

end CaptureFlow.Json
