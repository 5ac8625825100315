import CaptureFlow.Bytes

/-!
# Numbers at an offset

A number that is written behind other octets is read from the offset at which it stands,
modulo the bound of its width.
-/

namespace CaptureFlow

/-- A part is found behind what stands in front of it. -/
theorem slice_append (front behind : Bytes) {here : Bytes} {width : Nat}
    (h : here.length = width) : slice (front ++ (here ++ behind)) front.length width = here := by
  rw [slice, List.drop_left, List.take_left' h]

/-- A 16-bit number is found where it is written. -/
theorem wordAt_octets (order : ByteOrder) (front behind : Bytes) (n : Nat) :
    wordAt order (front ++ (order.octets 2 n ++ behind)) front.length = UInt16.ofNat n := by
  have hbound : ByteOrder.bound 2 = UInt16.size := rfl
  rw [wordAt, slice_append front behind (ByteOrder.length_octets order 2 n),
    ByteOrder.number_octets, hbound]
  exact UInt16.ofNat_mod_size

/-- A 32-bit number is found where it is written. -/
theorem longAt_octets (order : ByteOrder) (front behind : Bytes) (n : Nat) :
    longAt order (front ++ (order.octets 4 n ++ behind)) front.length = UInt32.ofNat n := by
  have hbound : ByteOrder.bound 4 = UInt32.size := rfl
  rw [longAt, slice_append front behind (ByteOrder.length_octets order 4 n),
    ByteOrder.number_octets, hbound]
  exact UInt32.ofNat_mod_size

/-! ## Behind a front -/

section Behind

variable {front : Bytes} {length : Nat} (h : front.length = length) (behind : Bytes)

include h

/-- A part that stands behind a front is found as many octets later. -/
theorem slice_behind (offset width : Nat) :
    slice (front ++ behind) (length + offset) width = slice behind offset width := by
  subst h
  rw [slice, slice, List.drop_append, Nat.add_sub_cancel_left,
    List.drop_eq_nil_of_le (Nat.le_add_right _ _), List.nil_append]

/-- An octet that stands behind a front is found as many octets later. -/
theorem octetAt_behind (offset : Nat) :
    octetAt (front ++ behind) (length + offset) = octetAt behind offset := by
  subst h
  rw [octetAt, octetAt, List.getD_eq_getElem?_getD, List.getD_eq_getElem?_getD,
    List.getElem?_append_right (Nat.le_add_right _ _), Nat.add_sub_cancel_left]

/-- A 32-bit number that stands behind a front is found as many octets later. -/
theorem longAt_behind (order : ByteOrder) (offset : Nat) :
    longAt order (front ++ behind) (length + offset) = longAt order behind offset := by
  rw [longAt, slice_behind h, longAt]

end Behind

/-- A 16-bit number is found at the front where it is written. -/
theorem wordAt_front (order : ByteOrder) (value : UInt16) (behind : Bytes) :
    wordAt order (order.octets 2 value.toNat ++ behind) 0 = value :=
  (wordAt_octets order [] behind value.toNat).trans UInt16.ofNat_toNat

/-- A 32-bit number is found at the front where it is written. -/
theorem longAt_front (order : ByteOrder) (value : UInt32) (behind : Bytes) :
    longAt order (order.octets 4 value.toNat ++ behind) 0 = value :=
  (longAt_octets order [] behind value.toNat).trans UInt32.ofNat_toNat

/-! ## Within a front -/

/-- A part has its width, or as much of it as there is. -/
theorem length_slice (bytes : Bytes) (start width : Nat) :
    (slice bytes start width).length = min width (bytes.length - start) := by
  rw [slice, List.length_take, List.length_drop]

/-- A part that lies within a front is found there. -/
theorem slice_of_isPrefix {front bytes : Bytes} (h : front <+: bytes) {start width : Nat}
    (hwithin : start + width ≤ front.length) : slice front start width = slice bytes start width := by
  obtain ⟨behind, rfl⟩ := h
  have hstart : start ≤ front.length := by omega
  have hwidth : width ≤ (front.drop start).length := by
    rw [List.length_drop]
    omega
  rw [slice, slice, List.drop_append_of_le_length hstart, List.take_append_of_le_length hwidth]

/-- An octet that lies within a front is found there. -/
theorem octetAt_of_isPrefix {front bytes : Bytes} (h : front <+: bytes) {offset : Nat}
    (hwithin : offset < front.length) : octetAt front offset = octetAt bytes offset := by
  obtain ⟨behind, rfl⟩ := h
  rw [octetAt, octetAt, List.getD_eq_getElem?_getD, List.getD_eq_getElem?_getD,
    List.getElem?_append_left hwithin]

/-- A 16-bit number that lies within a front is found there. -/
theorem wordAt_of_isPrefix (order : ByteOrder) {front bytes : Bytes} (h : front <+: bytes)
    {offset : Nat} (hwithin : offset + 2 ≤ front.length) :
    wordAt order front offset = wordAt order bytes offset := by
  rw [wordAt, slice_of_isPrefix h hwithin, wordAt]

/-- A 32-bit number that lies within a front is found there. -/
theorem longAt_of_isPrefix (order : ByteOrder) {front bytes : Bytes} (h : front <+: bytes)
    {offset : Nat} (hwithin : offset + 4 ≤ front.length) :
    longAt order front offset = longAt order bytes offset := by
  rw [longAt, slice_of_isPrefix h hwithin, longAt]

end CaptureFlow
