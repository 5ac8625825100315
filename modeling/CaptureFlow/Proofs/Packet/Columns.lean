import CaptureFlow.Proofs.Decoder.Truncation
import CaptureFlow.Proofs.Packet.Decoded
import CaptureFlow.Proofs.Text.Csv

/-!
# Columns of packets

The line of a packet in comma-separated values has its timestamp, and the tag and the values of each
header. Numerals, addresses and protocols are safe between commas and quotes. The method and the
target of a message are written between quotes as they are: a quote in one of them ends the value
early, and the end of a line in one of them ends the line. What was sniffed of a frame can have a
quote in its target, and nothing else that does harm.
-/

namespace CaptureFlow

/-! ## Columns and texts of headers -/

namespace Header

variable {header : Header}

/-- The values of a header that is no message are plain. -/
theorem plain_columns (h : ∀ message, header ≠ .http message) :
    ∀ column ∈ header.report.allColumns, Plain column.value := by
  cases header with
  | ethernet header =>
    simp +decide [report, Ethernet.Header.report, Report.allColumns, Column.value, Column.nat,
      Plain.hardwareText]
  | cooked header =>
    simp +decide [report, Cooked.Header.report, Report.allColumns, Column.value, Column.nat,
      Plain.hardwareText]
  | ipv4 header =>
    simp +decide [report, Ipv4.Header.report, Report.allColumns, Column.value, Column.nat]
  | ipv6 header =>
    simp +decide [report, Ipv6.Header.report, Report.allColumns, Column.value, Column.nat]
  | tcp header =>
    simp +decide [report, Tcp.Header.report, Report.allColumns, Column.value, Column.nat]
  | udp header =>
    simp +decide [report, Udp.Header.report, Report.allColumns, Column.value, Column.nat]
  | http message => exact absurd rfl (h message)

/-- The text of a header that is no message is plain. -/
theorem plain_text (h : ∀ message, header ≠ .http message) : Plain header.report.text := by
  cases header with
  | ethernet header => simp +decide [report, Ethernet.Header.report, Plain.hardwareText]
  | cooked header => simp +decide [report, Cooked.Header.report, Plain.hardwareText]
  | ipv4 header => simp +decide [report, Ipv4.Header.report]
  | ipv6 header => simp +decide [report, Ipv6.Header.report]
  | tcp header => simp +decide [report, Tcp.Header.report]
  | udp header => simp +decide [report, Udp.Header.report]
  | http message => exact absurd rfl (h message)

/-- The protocol of a message is plain. -/
theorem plain_protocol (message : Http.Header) : Plain message.protocol := by
  simp +decide [Http.Header.protocol]

/-- The columns of a message are plain, but for the method and the target. -/
theorem mem_columns_http {message : Http.Header} {column : Column} :
    column ∈ (Header.http message).report.allColumns →
      Plain column.value ∨ column = .quoted message.methodText ∨ column = .quoted message.uri := by
  have hkind : Plain (if message.isResponse then "true" else "false") := by
    split <;> decide
  have hcolumns : (Header.http message).report.allColumns = [.quoted "HTTP",
      .bare (if message.isResponse then "true" else "false"), .nat message.status.toNat,
      .quoted message.methodText, .quoted message.uri, .quoted message.protocol] := rfl
  rw [hcolumns]
  simp only [List.mem_cons, List.not_mem_nil, or_false]
  rintro (rfl | rfl | rfl | rfl | rfl | rfl)
  · exact .inl (by decide)
  · exact .inl hkind
  · exact .inl (Plain.decimal _)
  · exact .inr (.inl rfl)
  · exact .inr (.inr rfl)
  · exact .inl (plain_protocol message)

/-- The columns of a header are plain, but for the method and the target of a message. -/
theorem mem_columns {column : Column} (h : column ∈ header.report.allColumns) :
    Plain column.value ∨ ∃ message, header = .http message ∧
      (column = .quoted message.methodText ∨ column = .quoted message.uri) := by
  cases header with
  | http message =>
    rcases mem_columns_http h with hplain | hcolumn
    · exact .inl hplain
    · exact .inr ⟨message, rfl, hcolumn⟩
  | _ => exact .inl (plain_columns (fun _ h => by cases h) column h)

/-- The method and the target of a message are columns. -/
theorem quoted_mem_columns (message : Http.Header) :
    Column.quoted message.methodText ∈ (Header.http message).report.allColumns ∧
      Column.quoted message.uri ∈ (Header.http message).report.allColumns := by
  simp [report, Http.Header.report, Report.allColumns]

end Header

/-! ## Lines of columns -/

namespace Packet

variable {packet : Packet}

/-- The columns of a packet are plain, but for the methods and targets of messages. -/
theorem mem_columns {column : Column} (h : column ∈ packet.columns) :
    Plain column.value ∨ ∃ message, .http message ∈ packet.headers ∧
      (column = .quoted message.methodText ∨ column = .quoted message.uri) := by
  rw [columns, List.mem_cons, List.mem_flatMap] at h
  rcases h with rfl | ⟨header, hheader, hcolumn⟩
  · exact .inl (Plain.signed _)
  · rcases Header.mem_columns hcolumn with hplain | ⟨message, rfl, hmessage⟩
    · exact .inl hplain
    · exact .inr ⟨message, hheader, hmessage⟩

/-- The methods and targets of messages are columns of a packet. -/
theorem quoted_mem_columns {message : Http.Header} (h : .http message ∈ packet.headers) :
    Column.quoted message.methodText ∈ packet.columns ∧
      Column.quoted message.uri ∈ packet.columns := by
  obtain ⟨hmethod, huri⟩ := Header.quoted_mem_columns message
  exact ⟨List.mem_cons_of_mem _ (List.mem_flatMap.mpr ⟨_, h, hmethod⟩),
    List.mem_cons_of_mem _ (List.mem_flatMap.mpr ⟨_, h, huri⟩)⟩

/-- The values of a packet: its timestamp, and of each header in order the tag and the values of
its columns. -/
def values (packet : Packet) : List String :=
  Numeral.signed packet.nanoseconds.toInt ::
    packet.headers.flatMap fun header => header.report.tag :: header.report.columns.map Column.value

/-- The values of a packet are those of its columns. -/
theorem values_eq (packet : Packet) : packet.values = packet.columns.map Column.value := by
  rw [values, columns, List.map_cons, List.map_flatMap]
  rfl

/-- The columns of a packet are read back just if no method and no target has a quote in it. -/
theorem read_csv_iff (packet : Packet) :
    Csv.read packet.csv = some packet.values ↔ ∀ message, .http message ∈ packet.headers →
      '"' ∉ message.methodText.toList ∧ '"' ∉ message.uri.toList := by
  have hwritable : ∀ column ∈ packet.columns, Csv.IsWritable column := by
    rintro column hcolumn value rfl
    rcases mem_columns hcolumn with hplain | ⟨message, -, hmethod | huri⟩
    · exact Csv.isBare_of_plain hplain
    · cases hmethod
    · cases huri
  rw [values_eq]
  refine (Csv.read_iff hwritable).trans ⟨fun hkept message hmessage => ?_, fun hquotes => ?_⟩
  · obtain ⟨hmethod, huri⟩ := quoted_mem_columns hmessage
    exact ⟨hkept _ hmethod _ rfl, hkept _ huri _ rfl⟩
  · rintro column hcolumn value rfl
    rcases mem_columns hcolumn with hplain | ⟨message, hmessage, hmethod | huri⟩
    · exact hplain.notMem rfl
    · cases hmethod
      exact (hquotes message hmessage).1
    · cases huri
      exact (hquotes message hmessage).2

/-- The control characters of a line are those of methods and targets. -/
theorem mem_csv_iff (packet : Packet) {c : Char} (hc : c.toNat < 0x20) :
    c ∈ packet.csv.toList ↔ ∃ message, .http message ∈ packet.headers ∧
      (c ∈ message.methodText.toList ∨ c ∈ message.uri.toList) := by
  have hcomma : c ≠ ',' := by
    rintro rfl
    exact absurd hc (by decide)
  have hquote : c ≠ '"' := by
    rintro rfl
    exact absurd hc (by decide)
  rw [csv, Csv.mem_line_iff hcomma hquote]
  constructor
  · rintro ⟨column, hcolumn, hmem⟩
    rcases mem_columns hcolumn with hplain | ⟨message, hmessage, rfl | rfl⟩
    · exact absurd hmem (hplain.isVisible.notMem (isVisible_of_lt hc))
    · exact ⟨message, hmessage, .inl hmem⟩
    · exact ⟨message, hmessage, .inr hmem⟩
  · rintro ⟨message, hmessage, hmem | hmem⟩
    · exact ⟨_, (quoted_mem_columns hmessage).1, hmem⟩
    · exact ⟨_, (quoted_mem_columns hmessage).2, hmem⟩

/-- The line of a decoded packet has no control characters. -/
theorem IsDecoded.notMem_csv (h : packet.IsDecoded) {c : Char} (hc : c.toNat < 0x20) :
    c ∉ packet.csv.toList := by
  rw [packet.mem_csv_iff hc]
  rintro ⟨message, hmessage, hmem⟩
  obtain ⟨hmethod, huri⟩ := h.notMem_of_lt hmessage hc
  exact hmem.elim hmethod huri

/-- The line of a decoded packet is read back just if no target has a quote in it. -/
theorem IsDecoded.read_csv_iff (h : packet.IsDecoded) :
    Csv.read packet.csv = some packet.values ↔ ∀ message, .http message ∈ packet.headers →
      '"' ∉ message.uri.toList := by
  rw [packet.read_csv_iff]
  exact ⟨fun hquotes message hmessage => (hquotes message hmessage).2,
    fun hquotes message hmessage =>
      ⟨h.quote_notMem_method hmessage, hquotes message hmessage⟩⟩

/-- When the line of a packet keeps its columns, whether it was decoded or told in an archive. -/
structure ColumnsKept (packet : Packet) : Prop where
  /-- The line is read as the values of the packet just if no message has a quote in its method or
  in its target: quotes are not written twice. -/
  read_iff : Csv.read packet.csv = some packet.values ↔ ∀ message, .http message ∈ packet.headers →
    '"' ∉ message.methodText.toList ∧ '"' ∉ message.uri.toList
  /-- The line has the control characters, and so the ends of lines, that the methods and targets
  of messages have. -/
  mem_iff : ∀ c : Char, c.toNat < 0x20 → (c ∈ packet.csv.toList ↔
    ∃ message, .http message ∈ packet.headers ∧
      (c ∈ message.methodText.toList ∨ c ∈ message.uri.toList))
  /-- A decoded packet has a single line, on which a quote in a target is all that does harm. -/
  decoded : packet.IsDecoded → (∀ c : Char, c.toNat < 0x20 → c ∉ packet.csv.toList) ∧
    (Csv.read packet.csv = some packet.values ↔ ∀ message, .http message ∈ packet.headers →
      '"' ∉ message.uri.toList)

/-- Every packet keeps its columns but for quotes and ends of lines in methods and targets. -/
theorem columnsKept (packet : Packet) : packet.ColumnsKept where
  read_iff := packet.read_csv_iff
  mem_iff _ hc := packet.mem_csv_iff hc
  decoded h := ⟨fun _ hc => h.notMem_csv hc, h.read_csv_iff⟩

/-- A frame with a request for the target `/","x`. -/
def quoteFrame : Bytes :=
  (Decoder.requestFrame.take 58 ++ [0x2f, 0x22, 0x2c, 0x22, 0x78] ++
    Decoder.requestFrame.drop 59).set 17 71

/-- The line of its packet is read with two columns in the place of the target. -/
theorem read_quoteFrame :
    let packet := ({} : Decoder).decodePartial 0 85 85 quoteFrame
    packet.IsDecoded ∧ Csv.read packet.csv ≠ some packet.values ∧
      packet.values.drop 15 = ["HTTP", "false", "0", "GET", "/\",\"x", "HTTP/1.1"] ∧
      (Csv.read packet.csv).map (List.drop 15) =
        some ["HTTP", "false", "0", "GET", "/", "x", "HTTP/1.1"] := by
  intro packet
  have hvalues : packet.values.drop 15 =
      ["HTTP", "false", "0", "GET", "/\",\"x", "HTTP/1.1"] := by
    decide +kernel
  have hread : (Csv.read packet.csv).map (List.drop 15) =
      some ["HTTP", "false", "0", "GET", "/", "x", "HTTP/1.1"] := by
    decide +kernel
  refine ⟨.front _ _ _ _ _, fun hkept => ?_, hvalues, hread⟩
  rw [hkept, Option.map_some, hvalues] at hread
  exact absurd hread (by decide)

end Packet

end CaptureFlow
