import CaptureFlow.Command.Run
import CaptureFlow.Proofs.Capture.Decoding
import CaptureFlow.Proofs.Savefile.RoundTrip
import CaptureFlow.Proofs.Time.Instant
import CaptureFlow.Proofs.Trace.Archive

/-!
# Three routes to one listing

A capture file is listed while it is read, or it is read whole, listed, and reported on,
or it is reloaded from an archive that was made of it. All three come to the packets of
the frames that can be decoded, so they print the same listing, and the last two the same
reports.
-/

namespace CaptureFlow

/-- A file holds the archive of a trace, whoever compressed it. -/
def Content.HoldsArchive (file : Content) (trace : Trace) : Prop :=
  (Gzip.stream file).drain 1 = (Utf8.encode trace.archiveText, none)

/-- The file that is written for a trace holds its archive. -/
theorem Trace.holdsArchive_archive (trace : Trace) :
    (Content.octets trace.archive).HoldsArchive trace :=
  Gzip.drain_store (Utf8.encode trace.archiveText)

end CaptureFlow

namespace CaptureFlow.Command

/-- Runs over the same frames that list packets in the same way. -/
structure SameListing (options other : Options) : Prop where
  /-- The file is the same. -/
  file_eq : options.file = other.file
  /-- So is the number of frames to read. -/
  count_eq : options.count = other.count
  /-- So is what becomes of cut frames. -/
  allowTruncated_eq : options.allowTruncated = other.allowTruncated
  /-- So is the format. -/
  format_eq : options.format = other.format
  /-- So is whether there is a listing. -/
  quiet_eq : options.quiet = other.quiet

/-- Runs that print the same about the same packets. -/
structure SamePrint (options other : Options) : Prop where
  /-- The format is the same. -/
  format_eq : options.format = other.format
  /-- So is whether there is a listing. -/
  quiet_eq : options.quiet = other.quiet
  /-- So is whether IP flows are printed. -/
  flows_eq : options.flows = other.flows
  /-- So is whether TCP flows are printed. -/
  tcp_eq : options.tcp = other.tcp
  /-- So is whether HTTP exchanges are printed. -/
  http_eq : options.http = other.http
  /-- So is whether filter expressions are printed. -/
  filters_eq : options.filters = other.filters
  /-- So is the port of the servers. -/
  serverPort_eq : options.serverPort = other.serverPort
  /-- So is the flow to dump. -/
  dump_eq : options.dump = other.dump

namespace Options

variable {options other : Options} {files : Files} {now : Instant}

/-! ## Listings -/

/-- A listing depends on the format, and on whether there is one. -/
theorem listing_congr (hformat : options.format = other.format)
    (hquiet : options.quiet = other.quiet) (packets : List Packet) :
    options.listing packets = other.listing packets := by
  rw [listing, listing, hformat, hquiet]

/-- No packets have no listing. -/
theorem listing_nil (options : Options) : options.listing [] = "" := by
  unfold listing
  split <;> rfl

/-- The listing of packets is that of the first ones and that of the others. -/
theorem listing_append (options : Options) (front behind : List Packet) :
    options.listing (front ++ behind) = options.listing front ++ options.listing behind := by
  unfold listing
  split
  · rfl
  · rw [Listing.lines, List.map_append, String.join_append]
    rfl

/-- Listing packets one by one is listing them at once. -/
theorem foldl_listing (options : Options) (packets : List Packet) (printed : String) :
    packets.foldl (fun printed packet => printed ++ options.listing [packet]) printed =
      printed ++ options.listing packets := by
  induction packets generalizing printed with
  | nil => rw [List.foldl_nil, listing_nil, String.append_empty]
  | cons packet packets ih =>
    rw [List.foldl_cons, ih, String.append_assoc, ← listing_append, List.singleton_append]

/-- Reports depend on what is asked for and on the port of the servers. -/
theorem reports_congr (h : SamePrint options other) (packets : List Packet) :
    options.reports packets = other.reports packets := by
  unfold reports tables dumped
  rw [h.flows_eq, h.tcp_eq, h.http_eq, h.filters_eq, h.serverPort_eq, h.dump_eq]

/-! ## Reading the input -/

/-- The packets of frames that can be decoded. -/
def packetsOf (options : Options) (frames : List Frame) : List Packet :=
  frames.filterMap fun frame => (options.decoder.decodeFrame frame).toOption

/-- The trace of frames that were read up to a state of the source. -/
def traceOf (options : Options) (now : Instant) (next : Savefile.File) (frames : List Frame) :
    Trace :=
  .make now (CaptureSource.metadata next) (some (CaptureSource.stats next))
    (options.packetsOf frames) options.notes

variable {source next : Savefile.File} {frames : List Frame}

/-- While a capture file is read, its packets are listed. -/
theorem stream_of_reads (hreads : CaptureSource.Reads options.limit source frames next) :
    options.stream source = ⟨options.listing (options.packetsOf frames), .ok none⟩ := by
  obtain ⟨packets, summary, -, heach⟩ := CaptureSource.capture_of_reads options.decoder hreads
  have hpackets : packets = options.packetsOf frames := heach.packets_eq
  rw [stream, CaptureSource.scan_of_reads options.decoder hreads heach (fun _ _ => rfl),
    foldl_listing, String.empty_append, hpackets]
  rfl

/-- A capture file that is read whole is listed and becomes a trace. -/
theorem collect_of_reads (hreads : CaptureSource.Reads options.limit source frames next) :
    options.collect now source = ⟨options.listing (options.packetsOf frames),
      .ok (some (options.traceOf now next frames))⟩ := by
  obtain ⟨packets, summary, hcapture, heach⟩ :=
    CaptureSource.capture_of_reads options.decoder hreads
  have hpackets : packets = options.packetsOf frames := heach.packets_eq
  rw [collect, hcapture, ← hpackets, traceOf, ← hpackets]

/-- The archive of a trace is reloaded, and its packets are listed behind its summary. -/
theorem loadArchive_of_holdsArchive {file : Content} {trace : Trace}
    (hfile : files.read options.file = .ok file) (hcount : options.count = none)
    (hcreated : Instant.parse trace.createdAt.text = .ok trace.createdAt)
    (hholds : file.HoldsArchive trace) :
    options.loadArchive files =
      ⟨trace.text ++ "\n" ++ options.listing trace.packets, .ok (some trace)⟩ := by
  have htrace := Trace.ofArchive_of_drain hcreated hholds
  simp only [loadArchive, hfile, htrace, kept, hcount]

/-! ## Runs -/

/-- A run that has no use for the packets behind the listing ends there. -/
theorem run_of_none {printed : String} (hload : options.load files now = ⟨printed, .ok none⟩) :
    options.run files now = ⟨printed, none, none⟩ := by
  rw [run, hload]

/-- The trace that a run writes, which may have other notes than it was read with. -/
def annotated (options : Options) (trace : Trace) : Trace :=
  { trace with notes := if options.notes.isEmpty then trace.notes else options.notes }

/-- A run that has a trace writes the archive that it is asked for and prints reports. -/
theorem run_of_some {printed : String} {trace : Trace}
    (hload : options.load files now = ⟨printed, .ok (some trace)⟩)
    (hcreate : ∀ path ∈ options.write, files.create path = .ok ()) :
    options.run files now = ⟨printed ++ (options.reports trace.packets).text,
      options.write.map fun path => (path, options.annotated trace),
      (options.reports trace.packets).stop⟩ := by
  rw [run, hload]
  cases hwrite : options.write with
  | none => rfl
  | some path =>
    rw [hwrite] at hcreate
    simp only [hcreate path rfl]
    rfl

end Options

/-- The trace of a capture, however its packets come to be printed. -/
structure Routes (options : Options) (files : Files) (now : Instant) (trace : Trace) : Prop where
  /-- A run that has no use for the packets behind the listing prints the listing. -/
  streamed : ∀ (plain : Options) (instant : Instant), SameListing plain options →
    plain.needsPackets = false →
      plain.run files instant = ⟨options.listing trace.packets, none, none⟩
  /-- A run that keeps the packets prints the listing and then the reports, and writes the
  archive that it is asked for. -/
  retained : options.needsPackets = true →
    (∀ path ∈ options.write, files.create path = .ok ()) →
      options.run files now =
        ⟨options.listing trace.packets ++ (options.reports trace.packets).text,
          options.write.map fun path => (path, trace), (options.reports trace.packets).stop⟩
  /-- The file that is written holds the archive of the trace. -/
  written : (Content.octets trace.archive).HoldsArchive trace
  /-- A run over a file that holds the archive prints the summary of the trace, and then
  the listing and the reports. -/
  reloaded : ∀ (again : Options) (others : Files) (later : Instant) (file : Content),
    SamePrint again options → again.isArchive = true → again.count = none →
      again.write = none → others.read again.file = .ok file → file.HoldsArchive trace →
        again.run others later =
          ⟨trace.text ++ "\n" ++ options.listing trace.packets ++
              (options.reports trace.packets).text,
            none, (options.reports trace.packets).stop⟩

namespace Options

variable {options : Options} {files : Files} {now : Instant} {source next : Savefile.File}
  {frames : List Frame}

/-- Runs that list in the same way decode the same frames. -/
theorem packetsOf_congr {plain : Options} (h : SameListing plain options) (frames : List Frame) :
    plain.packetsOf frames = options.packetsOf frames := by
  rw [packetsOf, packetsOf, decoder, decoder, h.allowTruncated_eq]

/-- A savefile that is read without failing is printed alike while it is read, when its
packets are kept, and when they are reloaded from an archive. -/
theorem run_routes (hcapture : options.isArchive = false)
    (hopen : Savefile.File.openAt options.file (files.read options.file) = .ok source)
    (hreads : CaptureSource.Reads options.limit source frames next) (hnow : now.IsValid) :
    Routes options files now (options.traceOf now next frames) where
  streamed plain instant hsame hneeds := by
    have hplain : plain.isArchive = false := by
      rw [isArchive, hsame.file_eq]
      exact hcapture
    rw [← hsame.file_eq] at hopen
    have hplainReads : CaptureSource.Reads plain.limit source frames next := by
      rw [limit, hsame.count_eq]
      exact hreads
    have hload : plain.load files instant = ⟨options.listing (options.packetsOf frames),
        .ok none⟩ := by
      rw [← listing_congr hsame.format_eq hsame.quiet_eq, ← packetsOf_congr hsame,
        ← stream_of_reads hplainReads]
      simp [load, hplain, loadCapture, hopen, hneeds]
    exact run_of_none hload
  retained hneeds hcreate := by
    have hload : options.load files now = ⟨options.listing (options.packetsOf frames),
        .ok (some (options.traceOf now next frames))⟩ := by
      rw [← collect_of_reads hreads]
      simp [load, hcapture, loadCapture, hopen, hneeds]
    -- the trace was made with the notes that are put on it when it is written
    have hnotes : options.annotated (options.traceOf now next frames) =
        options.traceOf now next frames := by
      simp only [annotated, traceOf, Trace.make, ite_self]
    rw [run_of_some hload hcreate, hnotes]
    rfl
  written := Trace.holdsArchive_archive _
  reloaded again others later file hsame harchive hcount hwrite hfile hholds := by
    have hcreated : Instant.parse (options.traceOf now next frames).createdAt.text =
        .ok (options.traceOf now next frames).createdAt := Instant.parse_text hnow
    have hload : again.load others later = ⟨(options.traceOf now next frames).text ++ "\n" ++
        options.listing (options.packetsOf frames),
          .ok (some (options.traceOf now next frames))⟩ := by
      rw [load, if_pos harchive, loadArchive_of_holdsArchive hfile hcount hcreated hholds,
        listing_congr hsame.format_eq hsame.quiet_eq]
      rfl
    have hnone : ∀ path ∈ again.write, others.create path = .ok () := by
      rw [hwrite]
      nofun
    rw [run_of_some hload hnone, hwrite, reports_congr hsame]
    rfl

end Options

/-- The octets of a TCP segment without data, from a client to a web server. -/
def segmentOctets : Bytes :=
  [2, 0, 0, 0, 0, 6, 2, 0, 0, 0, 0, 5, 8, 0] ++
    [0x45, 0, 0, 40, 0, 0, 0, 0, 64, 6, 0, 0, 10, 0, 0, 1, 10, 0, 0, 2] ++
    [0xc7, 0x38, 0, 80, 0, 0, 0, 7, 0, 0, 0, 0, 0x50, 2, 4, 0, 0, 0, 0, 0]

/-- A file with a segment and with a frame that is cut. -/
def oneSegment : Savefile.Layout :=
  .classic ⟨.little, false, ⟨[2, 0, 4, 0, 0, 0, 0, 0, 6, 0, 0, 0], rfl⟩, 65535, 1⟩
    [⟨1, 0, 54, segmentOctets, by decide⟩, ⟨2, 0, 60, [10, 11], by decide⟩]

/-- A run that prints all flows of a file and writes an archive. -/
def archiving : Options where
  file := "one.pcap"
  flows := true
  tcp := true
  write := some "one.pktrace"

/-- The packet of the segment. -/
def segmentPacket : Packet :=
  ⟨1000000, 54, 54,
    [.ethernet ⟨⟨[2, 0, 0, 0, 0, 5], rfl⟩, ⟨[2, 0, 0, 0, 0, 6], rfl⟩, 0x0800⟩,
      .ipv4 ⟨4, 5, ⟨10, 0, 0, 1⟩, ⟨10, 0, 0, 2⟩, 6, 40, 20⟩,
      .tcp ⟨51000, 80, 7, 0, 5, 2, 1024, 0, 0⟩]⟩

/-- The packet of the segment is printed on all three routes. -/
theorem run_routes_oneSegment :
    ∃ trace : Trace, trace.packets = [segmentPacket] ∧
      Routes archiving ⟨fun _ => .ok (.octets oneSegment.octets), fun _ => .ok ()⟩
        ⟨1700000000, 0⟩ trace := by
  obtain ⟨file, hopen, hholds⟩ := Savefile.File.openAt_octets oneSegment "one.pcap"
  obtain ⟨next, hreads, -⟩ := Savefile.File.handsOutHeld.exists_reads archiving.limit hholds
  have hcapture : archiving.isArchive = false := by decide +kernel
  have hnow : Instant.IsValid ⟨1700000000, 0⟩ :=
    ⟨by decide, by decide, by decide, by decide⟩
  have hpackets : archiving.packetsOf
      (numberedFrom (0 + 1) (oneSegment.contents.take archiving.limit)) = [segmentPacket] := by
    decide +kernel
  exact ⟨_, hpackets, Options.run_routes hcapture hopen hreads hnow⟩

end CaptureFlow.Command
