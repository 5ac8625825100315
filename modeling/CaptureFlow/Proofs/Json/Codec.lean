import CaptureFlow.Proofs.Json.Scan

/-!
# Codecs that read back

A codec reads back a value when it finds the value again in front of any text that
does not go on with an octet of a number. Each way of building codecs keeps this:
correspondences, optional values, lists, octet strings, records and variants.
-/

namespace CaptureFlow.Json

/-- A codec finds a value again in front of what does not go on with a number. -/
def Codec.ReadsBack {α : Type} (codec : Codec α) (value : α) : Prop :=
  ∀ rest, Stops goesOn rest →
    codec.read ⟨octetsOf (codec.write value) ++ rest, none⟩ = .ok (value, ⟨rest, none⟩)

/-! ## Blanks and words -/

/-- Nothing is skipped in front of an octet that is no blank. -/
theorem skip_cons {b : UInt8} (h : isBlankOctet b = false) (rest : Bytes)
    (fault : Option ReadFault) : Input.skip ⟨b :: rest, fault⟩ = ⟨b :: rest, fault⟩ := by
  rw [Input.skip, skipBlanks, List.dropWhile_cons_of_neg (by simp [h])]

/-- Nothing is skipped in front of a value. -/
theorem skip_octetsOf (value : Json) (rest : Bytes) (fault : Option ReadFault) :
    Input.skip ⟨octetsOf value ++ rest, fault⟩ = ⟨octetsOf value ++ rest, fault⟩ := by
  obtain ⟨b, left, hvalue, hblank, -⟩ := exists_head_octetsOf value
  rw [hvalue, List.cons_append, skip_cons hblank]

/-- A word is dropped letter by letter. -/
theorem word_append (letters rest : Bytes) (fault : Option ReadFault) :
    word letters ⟨letters ++ rest, fault⟩ = .ok ((), ⟨rest, fault⟩) := by
  induction letters with
  | nil => rfl
  | cons letter letters ih =>
    rw [word]
    dsimp only [List.cons_append]
    rw [if_pos rfl, ih]

/-! ## Values without parts -/

/-- Whole numbers within their bounds and 64 bits read back. -/
theorem readsBack_integer {name : String} {low high n : Int} (hlow : low ≤ n) (hhigh : n ≤ high)
    (hmin : Int64.minValue.toInt ≤ n) (hmax : n < UInt64.size) :
    (integer name low high).ReadsBack n := by
  have hbounds : low ≤ n ∧ n ≤ high := ⟨hlow, hhigh⟩
  have hleast : Int64.minValue.toInt = -9223372036854775808 := rfl
  have hsize : UInt64.size = 18446744073709551616 := rfl
  intro rest hrest
  cases n with
  | ofNat n =>
    obtain ⟨b, after, hdigits, hdigit⟩ := exists_head_decimalOctets n
    have hsign : b ≠ 0x2d := ne_of_isDigit hdigit (by decide)
    have hread := readNumber_decimalOctets (Int.ofNat_lt.mp hmax) true hrest
    rw [if_pos rfl, hdigits, List.cons_append] at hread
    simp only [integer, octetsOf_ofNat, hdigits, List.cons_append,
      skip_cons (isBlankOctet_of_isDigit hdigit), hdigit, or_true, if_true, hsign, if_false, hread,
      bind, Except.bind]
    exact if_pos hbounds
  | negSucc n =>
    have hn : n + 1 < UInt64.size := by omega
    have hsmall : ¬ (n + 1 = 0 ∨ UInt64.size / 2 < n + 1) := by omega
    have hread := readNumber_decimalOctets hn false hrest
    have hblank : isBlankOctet 0x2d = false := rfl
    rw [if_neg Bool.false_ne_true, if_neg hsmall] at hread
    simp only [integer, octetsOf_negSucc, List.cons_append, skip_cons hblank, true_or, if_true,
      hread, bind, Except.bind]
    exact if_pos hbounds

/-- A codec in one-to-one correspondence reads back what corresponds. -/
theorem Codec.ReadsBack.iso {α β : Type} {codec : Codec α} {forth : α → β} {back : β → α}
    {value : β} (h : codec.ReadsBack (back value)) (hback : forth (back value) = value) :
    (codec.iso forth back).ReadsBack value := by
  intro rest hrest
  simp only [Codec.iso, h rest hrest, bind, Except.bind, hback]

/-- Natural numbers within 64 bits read back. -/
theorem readsBack_natural {name : String} {size n : Nat} (h : n < size)
    (hsize : size ≤ UInt64.size) : (integer name 0 (size - 1)).ReadsBack n := by
  have hleast : Int64.minValue.toInt ≤ 0 := by decide
  exact readsBack_integer (by omega) (by omega) (by omega) (by omega)

/-- Eight unsigned bits read back. -/
theorem readsBack_uint8 (value : UInt8) : uint8.ReadsBack value := by
  refine Codec.ReadsBack.iso (readsBack_natural value.toNat_lt_size (by decide)) ?_
  rw [Int.toNat_natCast, UInt8.ofNat_toNat]

/-- Sixteen unsigned bits read back. -/
theorem readsBack_uint16 (value : UInt16) : uint16.ReadsBack value := by
  refine Codec.ReadsBack.iso (readsBack_natural value.toNat_lt_size (by decide)) ?_
  rw [Int.toNat_natCast, UInt16.ofNat_toNat]

/-- Thirty-two unsigned bits read back. -/
theorem readsBack_uint32 (value : UInt32) : uint32.ReadsBack value := by
  refine Codec.ReadsBack.iso (readsBack_natural value.toNat_lt_size (by decide)) ?_
  rw [Int.toNat_natCast, UInt32.ofNat_toNat]

/-- Sixty-four unsigned bits read back. -/
theorem readsBack_uint64 (value : UInt64) : uint64.ReadsBack value := by
  refine Codec.ReadsBack.iso (readsBack_natural value.toNat_lt_size (by decide)) ?_
  rw [Int.toNat_natCast, UInt64.ofNat_toNat]

/-- Thirty-two signed bits read back. -/
theorem readsBack_int32 (value : Int32) : int32.ReadsBack value := by
  have hlow := value.minValue_le_toInt
  have hhigh := value.toInt_le
  have hleast : Int64.minValue.toInt ≤ Int32.minValue.toInt := by decide
  have hmost : Int32.maxValue.toInt < UInt64.size := by decide
  refine Codec.ReadsBack.iso (readsBack_integer hlow hhigh (by omega) (by omega)) ?_
  exact Int32.ofInt_toInt value

/-- Sixty-four signed bits read back. -/
theorem readsBack_int64 (value : Int64) : int64.ReadsBack value := by
  have hlow := value.minValue_le_toInt
  have hhigh := value.toInt_le
  have hmost : Int64.maxValue.toInt < UInt64.size := by decide
  refine Codec.ReadsBack.iso (readsBack_integer hlow hhigh hlow (by omega)) ?_
  exact Int64.ofInt_toInt value

/-- Truth values read back. -/
theorem readsBack_boolean (value : Bool) : boolean.ReadsBack value := by
  intro rest _
  cases value with
  | true =>
    have hword := word_append [0x72, 0x75, 0x65] rest none
    have hblank : isBlankOctet 0x74 = false := rfl
    simp only [boolean, octetsOf_true, List.cons_append, List.nil_append, skip_cons hblank, if_true,
      bind, Except.bind] at hword ⊢
    rw [hword]
  | false =>
    have hword := word_append [0x61, 0x6c, 0x73, 0x65] rest none
    have hblank : isBlankOctet 0x66 = false := rfl
    have hletter : ¬ (0x66 : UInt8) = 0x74 := by decide
    simp only [boolean, octetsOf_false, List.cons_append, List.nil_append, skip_cons hblank,
      hletter, if_false, if_true, bind, Except.bind] at hword ⊢
    rw [hword]

/-- A string reads back. -/
theorem readString_octetsOf (expected value : String) (rest : Bytes) (fault : Option ReadFault) :
    readString expected ⟨octetsOf (.text value) ++ rest, fault⟩ =
      .ok (value, ⟨rest, fault⟩) := by
  have hblank : isBlankOctet quoteMark = false := rfl
  rw [octetsOf_text, List.cons_append, List.append_assoc, List.singleton_append]
  simp only [readString, skip_cons hblank, if_true]
  exact string_escapedOctets value fault rest

/-- Any text reads back. -/
theorem readsBack_anyText (value : String) : anyText.ReadsBack value :=
  fun rest _ => readString_octetsOf "a string" value rest none

/-- A value with a text of its own reads back when its text is parsed back. -/
theorem readsBack_textOf {α : Type} {expected : String} {shown : α → String}
    {parse : String → Except String α} {value : α} (h : parse (shown value) = .ok value) :
    (textOf expected shown parse).ReadsBack value := by
  intro rest _
  simp only [textOf, readString_octetsOf, bind, Except.bind, h]

/-- A value or null reads back when the value does and is not written as null. -/
theorem readsBack_optional {α : Type} {codec : Codec α} {value : Option α}
    (h : ∀ inner ∈ value, codec.ReadsBack inner ∧ codec.write inner ≠ .null) :
    (optional codec).ReadsBack value := by
  intro rest hrest
  cases value with
  | none =>
    have hword := word_append [0x75, 0x6c, 0x6c] rest none
    have hblank : isBlankOctet 0x6e = false := rfl
    simp only [optional, octetsOf_null, List.cons_append, List.nil_append, skip_cons hblank,
      bind, Except.bind] at hword ⊢
    rw [hword]
  | some inner =>
    obtain ⟨hinner, hnull⟩ := h inner rfl
    obtain ⟨b, after, hvalue, -, -, hletter⟩ := exists_head_octetsOf (codec.write inner)
    have hread := hinner rest hrest
    simp only [optional, skip_octetsOf, hread, bind, Except.bind]
    split
    · rename_i hrest
      rw [hvalue] at hrest
      exact absurd (hletter (List.cons.inj hrest).1) hnull
    · rfl

/-! ## Arrays -/

/-- An item follows where a value stands, behind a comma unless it is the first one. -/
theorem nextItem_octetsOf (first : Bool) (value : Json) (rest : Bytes)
    (fault : Option ReadFault) :
    nextItem first ⟨(if first then [] else [comma]) ++ (octetsOf value ++ rest), fault⟩ =
      .ok (true, ⟨octetsOf value ++ rest, fault⟩) := by
  obtain ⟨b, left, hvalue, hblank, hclose, -⟩ := exists_head_octetsOf value
  have hcomma : isBlankOctet comma = false := rfl
  have hend : ¬ comma = closeList := by decide
  rw [hvalue, List.cons_append]
  cases first with
  | true => simp only [nextItem, if_true, List.nil_append, skip_cons hblank, hclose, if_false]
  | false =>
    simp only [nextItem, Bool.false_eq_true, if_false, List.cons_append, List.nil_append,
      skip_cons hcomma, hend, if_true, skip_cons hblank, hclose]

/-- No item follows where the array ends. -/
theorem nextItem_closeList (first : Bool) (rest : Bytes) (fault : Option ReadFault) :
    nextItem first ⟨closeList :: rest, fault⟩ = .ok (false, ⟨closeList :: rest, fault⟩) := by
  have hblank : isBlankOctet closeList = false := rfl
  simp only [nextItem, skip_cons hblank, if_true]

/-- Behind an item stands a comma or what ends the whole. -/
theorem stops_separated {close : UInt8} (h : goesOn close = false) (items : List Bytes)
    (rest : Bytes) : Stops goesOn (separated false items ++ close :: rest) := by
  cases items with
  | nil => exact Stops.cons_iff.mpr h
  | cons item items => exact Stops.cons_iff.mpr (by decide : goesOn comma = false)

/-- Separated items take at least an octet each. -/
theorem length_le_separated {items : List Bytes} (h : ∀ item ∈ items, item ≠ []) (first : Bool) :
    items.length ≤ (separated first items).length := by
  induction items generalizing first with
  | nil => exact Nat.le_refl 0
  | cons item items ih =>
    have hitem := List.length_pos_iff.mpr (h item List.mem_cons_self)
    have hrest := ih (fun item hitem => h item (List.mem_cons_of_mem _ hitem)) false
    rw [separated, List.length_append, List.length_append, List.length_cons]
    omega

/-- A value takes at least an octet. -/
theorem octetsOf_ne_nil (value : Json) : octetsOf value ≠ [] := by
  obtain ⟨b, left, hvalue, -⟩ := exists_head_octetsOf value
  rw [hvalue]
  exact List.cons_ne_nil _ _

/-- What the brackets of an array hold is read by the reader of the array. -/
theorem readList_of_body {α : Type} {body : Reader α} {expected : String} {value : α}
    {text rest : Bytes} {fault : Option ReadFault}
    (h : body ⟨text, fault⟩ = .ok (value, ⟨closeList :: rest, fault⟩)) :
    readList expected body ⟨openList :: text, fault⟩ = .ok (value, ⟨rest, fault⟩) := by
  have hopen : isBlankOctet openList = false := rfl
  have hclose : isBlankOctet closeList = false := rfl
  simp only [readList, skip_cons hopen, if_true, h, bind, Except.bind, endList, skip_cons hclose]
  rfl

section Items

variable {α : Type} {codec : Codec α} {items : List α}

/-- The octets of items, with commas between them. -/
def itemsText (codec : Codec α) (first : Bool) (items : List α) : Bytes :=
  separated first (items.map fun item => octetsOf (codec.write item))

/-- Items read back up to the end of their array. -/
theorem readItems_itemsText (h : ∀ item ∈ items, codec.ReadsBack item) {fuel : Nat}
    (hfuel : items.length < fuel) (first : Bool) (rest : Bytes) :
    readItems codec.read fuel first ⟨itemsText codec first items ++ closeList :: rest, none⟩ =
      .ok (items, ⟨closeList :: rest, none⟩) := by
  induction items generalizing fuel first with
  | nil =>
    obtain ⟨fuel, rfl⟩ := Nat.exists_eq_succ_of_ne_zero (Nat.ne_of_gt hfuel)
    have hnext := nextItem_closeList first rest none
    simp only [readItems, itemsText, List.map_nil, separated, List.nil_append, hnext, bind,
      Except.bind, Bool.false_eq_true, if_false]
  | cons item items ih =>
    obtain ⟨fuel, rfl⟩ := Nat.exists_eq_succ_of_ne_zero (Nat.ne_of_gt (Nat.zero_lt_of_lt hfuel))
    have hstops : Stops goesOn (itemsText codec false items ++ closeList :: rest) :=
      stops_separated (by decide) _ rest
    have hitem := h item List.mem_cons_self _ hstops
    have hrest := ih (fun item hitem => h item (List.mem_cons_of_mem _ hitem))
      (Nat.lt_of_succ_lt_succ hfuel) false
    have hnext := nextItem_octetsOf first (codec.write item)
      (itemsText codec false items ++ closeList :: rest) none
    rw [itemsText, List.map_cons, separated, ← itemsText, List.append_assoc, List.append_assoc]
    simp only [readItems, hnext, bind, Except.bind, if_true, hitem, hrest]

/-- A list reads back when all its items do. -/
theorem readsBack_list (h : ∀ item ∈ items, codec.ReadsBack item) :
    (list codec).ReadsBack items := by
  intro rest _
  have hnonempty : ∀ text ∈ items.map fun item => octetsOf (codec.write item), text ≠ [] := by
    intro text htext
    obtain ⟨item, -, rfl⟩ := List.mem_map.mp htext
    exact octetsOf_ne_nil _
  have hlength : items.length ≤ (itemsText codec true items).length := by
    have hle := length_le_separated hnonempty true
    rwa [List.length_map] at hle
  have hwritten : octetsOf ((list codec).write items) =
      openList :: (itemsText codec true items ++ [closeList]) := by
    rw [list, octetsOf_array, List.map_map]
    rfl
  rw [hwritten, List.cons_append, List.append_assoc, List.singleton_append]
  unfold list
  dsimp only
  apply readList_of_body
  refine readItems_itemsText h ?_ true rest
  rw [List.length_append]
  omega

/-- As many items as are asked for read back. -/
theorem readExactly_itemsText (h : ∀ item ∈ items, codec.ReadsBack item) (expected : String)
    (done : Nat) (rest : Bytes) :
    readExactly codec.read expected items.length done
        ⟨itemsText codec (done == 0) items ++ closeList :: rest, none⟩ =
      .ok (items, ⟨closeList :: rest, none⟩) := by
  induction items generalizing done with
  | nil => rfl
  | cons item items ih =>
    have hstops : Stops goesOn (itemsText codec false items ++ closeList :: rest) :=
      stops_separated (by decide) _ rest
    have hitem := h item List.mem_cons_self _ hstops
    have hrest := ih (fun item hitem => h item (List.mem_cons_of_mem _ hitem)) (done + 1)
    have hnext := nextItem_octetsOf (done == 0) (codec.write item)
      (itemsText codec false items ++ closeList :: rest) none
    rw [show (done + 1 == 0) = false from rfl] at hrest
    rw [itemsText, List.map_cons, separated, ← itemsText, List.append_assoc, List.append_assoc,
      List.length_cons]
    simp only [readExactly, hnext, bind, Except.bind, if_true, hitem, hrest]

end Items

/-- Octet strings read back. -/
theorem readsBack_octets {n : Nat} (value : Octets n) : (octets n).ReadsBack value := by
  intro rest _
  have hitems : ∀ item ∈ value.bytes, uint8.ReadsBack item := fun item _ => readsBack_uint8 item
  have hread := readExactly_itemsText hitems (octets.expected n) 0 rest
  have hwritten : octetsOf ((octets n).write value) =
      openList :: (itemsText uint8 true value.bytes ++ [closeList]) := by
    rw [octets, octetsOf_array, List.map_map]
    rfl
  rw [value.length_eq] at hread
  rw [hwritten, List.cons_append, List.append_assoc, List.singleton_append]
  unfold octets
  dsimp only
  apply readList_of_body
  rw [show (0 == 0) = true from rfl] at hread
  simp only [hread, bind, Except.bind, Except.ok.injEq, Prod.mk.injEq, and_true]
  apply Octets.ext
  simp [value.length_eq, List.take_of_length_le]

end CaptureFlow.Json
