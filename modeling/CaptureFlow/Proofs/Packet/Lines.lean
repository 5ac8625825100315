import CaptureFlow.Listing
import CaptureFlow.Proofs.Decoder.Truncation
import CaptureFlow.Proofs.Packet.Columns

/-!
# Lines of packets

A listing has one line for every decoded packet, in each of its formats. The JSON text of any
packet has no control characters, as strings are escaped. Its columns and its terse text may have
those of messages, and what was sniffed of a message has no end of a line in it.
-/

namespace CaptureFlow

/-! ## JSON texts -/

namespace Json

/-- A character is escaped without control characters. -/
theorem isVisible_escaped (c : Char) : Within isVisible (escaped c) := by
  have hnumber : Within isVisible (Numeral.zeroPadded 4 (Numeral.hexadecimal c.toNat)) :=
    (Plain.zeroPadded_iff.mpr (Plain.hexadecimal _)).isVisible
  unfold escaped
  split_ifs with _ _ hcontrol <;> try decide
  · exact Within.append_iff.mpr ⟨by decide, hnumber⟩
  · intro d hd
    rw [String.toList_ofList, List.mem_singleton] at hd
    rw [hd]
    exact decide_eq_true (Nat.not_lt.mp hcontrol)

/-- A string is written without control characters. -/
theorem isVisible_quoted (value : String) : Within isVisible (quoted value) := by
  have hquote : Within isVisible "\"" := by decide
  have hinner : Within isVisible (String.join (value.toList.map escaped)) := by
    refine Within.join fun text htext => ?_
    obtain ⟨c, -, rfl⟩ := List.mem_map.mp htext
    exact isVisible_escaped c
  exact Within.append_iff.mpr ⟨Within.append_iff.mpr ⟨hquote, hinner⟩, hquote⟩

mutual

/-- A value is written without control characters. -/
theorem isVisible_render : (value : Json) → Within isVisible value.render
  | .null => by
    rw [render]
    decide
  | .bool true => by
    rw [render]
    decide
  | .bool false => by
    rw [render]
    decide
  | .number value => by
    rw [render]
    exact (Plain.signed value).isVisible
  | .text value => by
    rw [render]
    exact isVisible_quoted value
  | .array items => by
    rw [render]
    exact Within.append_iff.mpr ⟨Within.append_iff.mpr
      ⟨by decide, Within.intercalate (by decide) (isVisible_renderItems items)⟩, by decide⟩
  | .object fields => by
    rw [render]
    exact Within.append_iff.mpr ⟨Within.append_iff.mpr
      ⟨by decide, Within.intercalate (by decide) (isVisible_renderFields fields)⟩, by decide⟩

/-- The items of an array are written without control characters. -/
theorem isVisible_renderItems :
    (items : List Json) → ∀ text ∈ renderItems items, Within isVisible text
  | [] => fun _ htext => by
    rw [renderItems] at htext
    cases htext
  | item :: rest => by
    rw [renderItems]
    exact List.forall_mem_cons.mpr ⟨isVisible_render item, isVisible_renderItems rest⟩

/-- The fields of an object are written without control characters. -/
theorem isVisible_renderFields :
    (fields : List (String × Json)) → ∀ text ∈ renderFields fields, Within isVisible text
  | [] => fun _ htext => by
    rw [renderFields] at htext
    cases htext
  | (key, value) :: rest => by
    rw [renderFields]
    refine List.forall_mem_cons.mpr ⟨?_, isVisible_renderFields rest⟩
    exact Within.append_iff.mpr
      ⟨Within.append_iff.mpr ⟨isVisible_quoted key, by decide⟩, isVisible_render value⟩

end

end Json

/-! ## Lines -/

namespace Packet.IsDecoded

variable {packet : Packet}

/-- The first line of a message of a decoded packet has no end of a line in it. -/
theorem newline_notMem_message (h : packet.IsDecoded) {message : Http.Header}
    (hmessage : .http message ∈ packet.headers) : '\n' ∉ message.text.toList := by
  obtain ⟨hmethod, huri⟩ := h.notMem_of_lt (c := '\n') hmessage (by decide)
  have hreason := h.newline_notMem_reason hmessage
  have hprotocol : '\n' ∉ message.protocol.toList :=
    (Header.plain_protocol message).isVisible.notMem rfl
  have hstatus : '\n' ∉ (Numeral.decimal message.status.toNat).toList :=
    (Plain.decimal _).isVisible.notMem rfl
  unfold Http.Header.text
  split <;> simp only [String.toList_append, List.mem_append, not_or]
  · exact ⟨⟨⟨⟨hprotocol, by decide⟩, hstatus⟩, by decide⟩, hreason⟩
  · exact ⟨⟨⟨⟨hmethod, by decide⟩, huri⟩, by decide⟩, hprotocol⟩

/-- The terse text of a decoded packet has no end of a line in it. -/
theorem newline_notMem_text (h : packet.IsDecoded) : '\n' ∉ packet.text.toList := by
  have hother : ∀ {text : String}, '\n' ∉ text.toList → Within (· != '\n') text := by
    intro text htext c hc
    exact bne_iff_ne.mpr fun hnewline => htext (hnewline ▸ hc)
  have hwithin : Within (· != '\n') packet.text := by
    refine Within.intercalate (by decide) (List.forall_mem_cons.mpr ⟨?_, ?_⟩)
    · exact hother ((Plain.timestamp _).isVisible.notMem rfl)
    · intro text htext
      obtain ⟨header, hheader, rfl⟩ := List.mem_map.mp htext
      cases header with
      | http message => exact hother (h.newline_notMem_message hheader)
      | _ => exact hother ((Header.plain_text fun _ h => by cases h).isVisible.notMem rfl)
  exact hwithin.notMem rfl

/-- What stands for a decoded packet in a listing has no end of a line in it. -/
theorem newline_notMem_entry (h : packet.IsDecoded) (listing : Listing) :
    '\n' ∉ (listing.entry packet).toList := by
  cases listing with
  | text => exact h.newline_notMem_text
  | json => exact (Json.isVisible_render packet.json).notMem rfl
  | csv => exact h.notMem_csv (by decide)

end Packet.IsDecoded

namespace Listing

/-- The octets of a listing are those of each packet with the end of a line behind them. -/
theorem encode_lines (listing : Listing) (packets : List Packet) :
    Utf8.encode (listing.lines packets) =
      packets.flatMap fun packet => Utf8.encode (listing.entry packet) ++ [0x0a] := by
  induction packets with
  | nil => rfl
  | cons packet packets ih =>
    rw [lines, List.map_cons, String.join_cons, Utf8.encode_append, ← lines, ih, line,
      Utf8.encode_append]
    rfl

section Ended

variable {α : Type} {octets : α → Bytes} {items : List α}

/-- Items with the end of a line behind each have as many ends of lines as there are items, -/
theorem count_ended (h : ∀ item ∈ items, 0x0a ∉ octets item) :
    (items.flatMap fun item => octets item ++ [0x0a]).count 0x0a = items.length := by
  induction items with
  | nil => rfl
  | cons item items ih =>
    obtain ⟨hitem, hitems⟩ := List.forall_mem_cons.mp h
    rw [List.flatMap_cons, List.count_append, List.count_append, ih hitems,
      List.count_eq_zero.mpr hitem, List.count_singleton_self, List.length_cons]
    omega

/-- and are split into the items, with nothing behind. -/
theorem splitOn_ended (h : ∀ item ∈ items, 0x0a ∉ octets item) :
    (items.flatMap fun item => octets item ++ [0x0a]).splitOn 0x0a =
      items.map octets ++ [[]] := by
  induction items with
  | nil => rfl
  | cons item items ih =>
    obtain ⟨hitem, hitems⟩ := List.forall_mem_cons.mp h
    have hother : ∀ b ∈ octets item, (b == 0x0a) = false := by
      intro b hb
      exact beq_eq_false_iff_ne.mpr fun hnewline => hitem (hnewline ▸ hb)
    have hrest := ih hitems
    rw [List.splitOn_eq_splitOnP] at hrest ⊢
    rw [List.flatMap_cons, List.append_assoc, List.singleton_append,
      List.splitOnP_append_cons_of_forall_mem hother _ (by rfl), hrest]
    rfl

end Ended

/-- A listing has one line for each packet. -/
structure OneLineEach (listing : Listing) (packets : List Packet) : Prop where
  /-- What is written for a packet ends with an end of a line, and has no other one in it. -/
  line : ∀ packet ∈ packets,
    Utf8.encode (listing.line packet) = Utf8.encode (listing.entry packet) ++ [0x0a] ∧
      0x0a ∉ Utf8.encode (listing.entry packet)
  /-- There are as many ends of lines as packets. -/
  count : (Utf8.encode (listing.lines packets)).count 0x0a = packets.length
  /-- Split at the ends of lines, the listing is the packets in order, with nothing behind. -/
  split : (Utf8.encode (listing.lines packets)).splitOn 0x0a =
    (packets.map fun packet => Utf8.encode (listing.entry packet)) ++ [[]]

/-- A listing of decoded packets has one line for each, in every format. -/
theorem oneLineEach (listing : Listing) {packets : List Packet}
    (h : ∀ packet ∈ packets, packet.IsDecoded) : listing.OneLineEach packets := by
  have hentry : ∀ packet ∈ packets, 0x0a ∉ Utf8.encode (listing.entry packet) := by
    intro packet hpacket hmem
    have hnewline : '\n' ∈ (listing.entry packet).toList :=
      (Utf8.mem_encode_iff (by decide)).mp hmem
    exact (h packet hpacket).newline_notMem_entry listing hnewline
  refine ⟨fun packet hpacket => ⟨Utf8.encode_append _ _, hentry packet hpacket⟩, ?_, ?_⟩
  · rw [encode_lines, count_ended hentry]
  · rw [encode_lines, splitOn_ended hentry]

/-- Two requests, one of them with quotes in its target, have two lines in each format. -/
theorem oneLineEach_requests :
    let packets := [({} : Decoder).decodePartial 0 81 81 Decoder.requestFrame,
      ({} : Decoder).decodePartial 0 85 85 Packet.quoteFrame]
    let front := "1970-01-01T00:00:00.000000Z 02:00:00:00:00:01->02:00:00:00:00:02 " ++
      "0x800 10.0.0.1->10.0.0.2 0x6 40000->80 1 1 0x18 "
    (∀ packet ∈ packets, packet.IsDecoded) ∧
      text.lines packets =
        front ++ "GET / HTTP/1.1\n" ++ front ++ "GET /\",\"x HTTP/1.1\n" ∧
      ∀ listing : Listing, listing.OneLineEach packets := by
  intro packets front
  have hdecoded : ∀ packet ∈ packets, packet.IsDecoded := by
    simp only [packets, List.forall_mem_cons, List.not_mem_nil, false_implies, implies_true,
      and_true]
    exact ⟨.front _ _ _ _ _, .front _ _ _ _ _⟩
  exact ⟨hdecoded, by decide +kernel, fun listing => listing.oneLineEach hdecoded⟩

end Listing

end CaptureFlow
