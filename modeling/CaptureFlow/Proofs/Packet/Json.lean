import CaptureFlow.Proofs.Decoder.Stack
import CaptureFlow.Proofs.Decoder.Truncation
import CaptureFlow.Proofs.Packet.Decoded
import Mathlib.Data.List.Nodup

/-!
# Elements of a packet

The headers of a decoded packet belong to different layers, and the keys of their reports tell the
layer. So no report takes the place of another one, and the JSON text of a decoded packet is its
time with the elements of its headers spliced in behind it.
-/

namespace CaptureFlow

/-! ## Keys -/

/-- The keys of reports, each with the layer that the headers with it belong to. -/
def Layer.keyTable : List (String × Layer) :=
  [("ether_header", link), ("sll_header", link), ("iphdr", network), ("ip6hdr", network),
    ("tcphdr", transport), ("udphdr", transport), ("httphdr", application)]

/-- The layer that the headers with a key belong to. -/
def Layer.ofKey? (key : String) : Option Layer :=
  keyTable.lookup key

/-- The key of a report tells the layer of the header. -/
theorem Layer.ofKey?_key (header : Header) : ofKey? header.report.key = some header.layer := by
  cases header <;> rfl

/-- The headers of a stack have different keys. -/
theorem Stacked.nodup_keys {index : Nat} {headers : List Header} (h : Stacked index headers) :
    (headers.map fun header => header.report.key).Nodup := by
  induction h with
  | nil => exact List.nodup_nil
  | @cons index header above hlayer _ _ habove ih =>
    refine List.nodup_cons.mpr ⟨fun hmem => ?_, ih⟩
    obtain ⟨other, hother, hkey⟩ := List.mem_map.mp hmem
    obtain ⟨i, hi⟩ := List.getElem?_of_mem hother
    have hindex := habove.layer_index hi
    have hsame : header.layer = other.layer := by
      rw [← Option.some.injEq, ← Layer.ofKey?_key, ← Layer.ofKey?_key, hkey]
    rw [← hsame] at hindex
    omega

namespace Json

/-- Fields with different keys are put in one behind the other. -/
theorem foldl_insertField {α : Type} (key : α → String) (value : α → Json) {items : List α}
    {fields : List (String × Json)}
    (h : (fields.map Prod.fst ++ items.map key).Nodup) :
    items.foldl (fun fields item => insertField fields (key item) (value item)) fields =
      fields ++ items.map fun item => (key item, value item) := by
  induction items generalizing fields with
  | nil => exact (List.append_nil fields).symm
  | cons item items ih =>
    have hnew : key item ∉ fields.map Prod.fst := by
      intro hmem
      exact List.disjoint_of_nodup_append h hmem List.mem_cons_self
    have hrest : ((fields ++ [(key item, value item)]).map Prod.fst ++ items.map key).Nodup := by
      rw [List.map_append, List.append_assoc]
      exact h
    rw [List.foldl_cons, insertField_of_notMem (value item) hnew, ih hrest, List.append_assoc]
    rfl

/-- Texts joined by commas are the first one, and the others with a comma in front of each. -/
theorem intercalate_cons (first : String) (texts : List String) :
    ",".intercalate (first :: texts) = first ++ String.join (texts.map ("," ++ ·)) := by
  induction texts generalizing first with
  | nil => simp
  | cons text texts ih =>
    rw [String.intercalate_cons_cons, ih, List.map_cons, String.join_cons, String.append_assoc,
      String.append_assoc]

end Json

/-- The element of a report is its field as an object writes it. -/
theorem Header.element_eq (header : Header) :
    header.report.element =
      Json.quoted header.report.key ++ ":" ++ (Json.object header.report.body).render := by
  have hall : ∀ entry ∈ Layer.keyTable,
      Json.quoted entry.1 ++ ":" = "\"" ++ entry.1 ++ "\":" := by
    decide
  have hkey : Json.quoted header.report.key ++ ":" = "\"" ++ header.report.key ++ "\":" := by
    obtain ⟨entry, hentry, heq⟩ :=
      List.lookup_isSome_iff.mp (Option.isSome_of_eq_some (Layer.ofKey?_key header))
    rw [beq_iff_eq.mp heq]
    exact hall entry hentry
  rw [hkey, Report.element]

/-- The fields of headers are written as their elements. -/
theorem renderFields_headers (headers : List Header) :
    Json.renderFields (headers.map fun header => (header.report.key, .object header.report.body)) =
      headers.map fun header => header.report.element := by
  induction headers with
  | nil => rfl
  | cons header headers ih =>
    rw [List.map_cons, Json.renderFields, ih, List.map_cons, header.element_eq]

/-- A packet is reported as its time and the elements of all of its headers, in their order. -/
structure Packet.SplicesElements (packet : Packet) : Prop where
  /-- The object has a field for the time and one for each header, and no others. -/
  json_eq : packet.json = .object (("time", .number packet.nanoseconds.toInt) ::
    packet.headers.map fun header => (header.report.key, .object header.report.body))
  /-- Its keys are different. -/
  nodup : ("time" :: packet.headers.map fun header => header.report.key).Nodup
  /-- The text is the time, and a comma and an element for each header. -/
  render_eq : packet.json.render =
    "\x7b\"time\":" ++ Numeral.signed packet.nanoseconds.toInt ++
      String.join (packet.headers.map fun header => "," ++ header.report.element) ++ "\x7d"

/-- Decoded packets are reported as their time and the elements of all of their headers. -/
theorem Packet.IsDecoded.splicesElements {packet : Packet} (h : packet.IsDecoded) :
    packet.SplicesElements := by
  obtain ⟨decoder, frame, hheaders⟩ := h.exists_headers
  have hkeys : (packet.headers.map fun header => header.report.key).Nodup :=
    hheaders ▸ (decoder.stacked_headers frame).nodup_keys
  have hnodup : ("time" :: packet.headers.map fun header => header.report.key).Nodup := by
    refine List.nodup_cons.mpr ⟨fun hmem => ?_, hkeys⟩
    obtain ⟨header, -, hkey⟩ := List.mem_map.mp hmem
    have hlayer := Layer.ofKey?_key header
    rw [hkey] at hlayer
    cases hlayer
  have hjson : packet.json = .object (("time", .number packet.nanoseconds.toInt) ::
      packet.headers.map fun header => (header.report.key, .object header.report.body)) :=
    congrArg Json.object (Json.foldl_insertField _ _ hnodup)
  refine ⟨hjson, hnodup, ?_⟩
  have htime : Json.quoted "time" = "\"time\"" := by decide
  rw [hjson, Json.render, Json.renderFields, renderFields_headers, Json.intercalate_cons, htime,
    Json.render, List.map_map]
  simp only [String.append_assoc]
  rfl

/-- The packet of a request over TCP has four headers, each of which has its element. -/
theorem Packet.splicesElements_requestFrame :
    let packet := ({} : Decoder).decodePartial 7000 81 81 Decoder.requestFrame
    packet.IsDecoded ∧
      packet.headers.map (·.report.key) = ["ether_header", "iphdr", "tcphdr", "httphdr"] ∧
      packet.headers.getLast?.map (·.report.element) =
        some ("\"httphdr\":\x7b\"is_response\":false,\"status_code\":0,\"method\":\"GET\"," ++
          "\"request_uri\":\"/\",\"version\":\"HTTP/1.1\"\x7d") ∧
      packet.SplicesElements :=
  ⟨.front _ _ _ _ _, by decide +kernel, by decide +kernel,
    Packet.IsDecoded.splicesElements (.front _ _ _ _ _)⟩

end CaptureFlow
