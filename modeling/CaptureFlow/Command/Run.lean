import CaptureFlow.Capture.Decoding
import CaptureFlow.Command.Options
import CaptureFlow.Command.Reports
import CaptureFlow.Savefile.File
import CaptureFlow.Trace.Archive

/-!
# Runs of the command

A run reads one file, lists its packets, writes an archive if it is asked to,
and prints reports. It stops at the first error, or at a time that overflows;
what was printed before stays.
-/

namespace CaptureFlow.Command

/-- The files that a run can see. -/
structure Files where
  /-- Opens a file for reading. -/
  read : String → Except SystemFault Content
  /-- Creates a file, or tells why that is not possible. -/
  create : String → Except SystemFault Unit

/-- What a run reports when it fails. -/
structure Failure where
  /-- What failed. -/
  headline : String
  /-- Its causes, each more particular than the one before it. -/
  causes : List String
  deriving DecidableEq, Repr

namespace Failure

/-- A cause with its further lines indented. -/
def indented (margin : String) (cause : String) : String :=
  String.join (cause.toList.map fun c =>
    if c = '\n' then "\n" ++ margin else String.ofList [c])

/-- The lines of the causes: one stands by itself, several are numbered. -/
def causeLines : List String → List String
  | [cause] => ["    " ++ indented "    " cause]
  | causes => causes.zipIdx.map fun (cause, n) =>
    let number := Numeral.decimal n
    String.ofList (List.replicate (5 - number.length) ' ') ++ number ++ ": " ++
      indented "       " cause

/-- The report of a failure. -/
def text (failure : Failure) : String :=
  "Error: " ++ failure.headline ++
    (if failure.causes.isEmpty then ""
    else "\n\nCaused by:\n" ++ "\n".intercalate (causeLines failure.causes))

/-- The failure of a run that an error stops without further explanation. -/
def ofError (error : Error) : Failure :=
  ⟨error.message, error.chain.tail⟩

end Failure

/-- What stops a run before its end. -/
inductive Stop where
  /-- It fails, and reports why. -/
  | failure (failure : Failure)
  /-- A computation overflows. -/
  | overflow (overflow : Overflow)
  deriving DecidableEq, Repr

/-- The exit code of a run that ends, or is stopped. -/
def exitCode : Option Stop → UInt8
  | none => 0
  | some (.failure _) => 1
  | some (.overflow _) => 101

/-- What a run has done. -/
structure Outcome where
  /-- What it printed. -/
  printed : String
  /-- The archive that it wrote, with its path. -/
  archive : Option (String × Trace)
  /-- What stopped it, if anything did. -/
  stop : Option Stop

/-- What reading the input came to: what was printed, and the trace, unless the
packets are of no further use. -/
structure Loaded where
  /-- What was printed. -/
  printed : String
  /-- The trace, or why there is none. -/
  result : Except Failure (Option Trace)

namespace Options

/-- The listing that is asked for. -/
def listing (options : Options) (packets : List Packet) : String :=
  if options.quiet then "" else options.format.lines packets

/-- The number of frames to read. -/
def limit (options : Options) : Nat :=
  options.count.getD CaptureSource.noLimit

/-- The packets of an archive that are kept, all of them when no number is given. -/
def kept (options : Options) (packets : List Packet) : List Packet :=
  match options.count with
  | some count => packets.take count
  | none => packets

/-- Reads the input as an archive, prints its summary and lists its packets. -/
def loadArchive (options : Options) (files : Files) : Loaded :=
  match files.read options.file with
  | .error fault =>
    ⟨"", .error ⟨s!"Failed to open archive: {options.file}", [fault.message]⟩⟩
  | .ok file =>
    match Trace.ofArchive file with
    | .error refusal =>
      ⟨"", .error ⟨s!"Failed to read archive: {options.file}",
        [archiveMessage refusal, refusal.message]⟩⟩
    | .ok trace =>
      let kept := { trace with packets := options.kept trace.packets }
      ⟨trace.text ++ "\n" ++ options.listing kept.packets, .ok (some kept)⟩

/-- Lists the packets of a capture file while it is read. -/
def stream (options : Options) (source : Savefile.File) : Loaded :=
  let run := CaptureSource.scan options.decoder options.limit
    (fun printed packet => (printed ++ options.listing [packet], none)) "" source
  ⟨run.value.1, (run.result.mapError Failure.ofError).map fun _ => none⟩

/-- Reads a capture file whole and lists its packets. -/
def collect (options : Options) (now : Instant) (source : Savefile.File) : Loaded :=
  let run := CaptureSource.capture options.decoder options.limit source
  match run.result with
  | .error error =>
    ⟨"", .error ⟨s!"Failed to decode capture file: {options.file}", error.chain⟩⟩
  | .ok _ =>
    let packets := run.value.1.toList
    let trace := Trace.make now (CaptureSource.metadata run.state)
      (some (CaptureSource.stats run.state)) packets options.notes
    ⟨options.listing packets, .ok (some trace)⟩

/-- Reads the input as a capture file. -/
def loadCapture (options : Options) (files : Files) (now : Instant) : Loaded :=
  match Savefile.File.openAt options.file (files.read options.file) with
  | .error error =>
    ⟨"", .error ⟨s!"Failed to open capture file: {options.file}", error.chain⟩⟩
  | .ok source =>
    if options.needsPackets then options.collect now source else options.stream source

/-- Reads the input. -/
def load (options : Options) (files : Files) (now : Instant) : Loaded :=
  if options.isArchive then options.loadArchive files else options.loadCapture files now

/-- The reports that are asked for, without the dump. -/
def tables (options : Options) (members : List Member) (flows : Table String TcpFlow) :
    Printed Overflow :=
  (if options.flows then Reports.ipFlows (IpFlow.group members) else .whole "") ++
    (if options.tcp then Reports.tcpFlows flows else .whole "") ++
    (if options.http then Reports.httpExchanges flows else .whole "") ++
    (if options.filters then .whole (Reports.filters flows) else .whole "")

/-- The dump that is asked for. -/
def dumped (options : Options) (flows : Table String TcpFlow) : Printed Failure :=
  match options.dump with
  | none => .whole ""
  | some key =>
    match Reports.dump flows key with
    | .ok dump => .whole dump
    | .error fault => ⟨"", some ⟨fault.message, []⟩⟩

/-- The reports that are asked for. -/
def reports (options : Options) (packets : List Packet) : Printed Stop :=
  let members := Member.ofBatch packets
  let flows := TcpFlow.group options.serverPort members
  (options.tables members flows).mapStop .overflow ++ (options.dumped flows).mapStop .failure

/-- Runs the command. -/
def run (options : Options) (files : Files) (now : Instant) : Outcome :=
  let loaded := options.load files now
  match loaded.result with
  | .error failure => ⟨loaded.printed, none, some (.failure failure)⟩
  | .ok none => ⟨loaded.printed, none, none⟩
  | .ok (some trace) =>
    let finish := fun archive =>
      let reports := options.reports trace.packets
      ⟨loaded.printed ++ reports.text, archive, reports.stop⟩
    match options.write with
    | none => finish none
    | some path =>
      let notes := if options.notes.isEmpty then trace.notes else options.notes
      match files.create path with
      | .error fault =>
        ⟨loaded.printed, none,
          some (.failure ⟨s!"Failed to create archive: {path}", [fault.message]⟩)⟩
      | .ok () => finish (some (path, { trace with notes }))

end Options

end CaptureFlow.Command
