import CaptureFlow.Capture.Metadata
import CaptureFlow.Packet
import CaptureFlow.Time.Instant

/-!
# Traces

A trace is a finished capture: its packets, how it was made, and notes about it.
-/

namespace CaptureFlow

/-- The version of this program. -/
def programVersion : String := "0.1.0"

/-- The version of the archive format. -/
def archiveVersion : String := "beta-0-0-1"

/-- The version of the reader of captures. -/
def libraryVersion : String := "pkttrace-core/" ++ programVersion ++ " pcap-parser"

/-- The media type of archives. -/
def archiveMediaType : String := "application/gzip"

/-- A finished capture. -/
structure Trace where
  /-- The version of the archive format. -/
  formatVersion : String
  /-- The version of the reader that made it. -/
  libraryVersion : String
  /-- When it was made. -/
  createdAt : Instant
  /-- Notes about it. -/
  notes : String
  /-- How the capture was made. -/
  metadata : CaptureMetadata
  /-- The counters of the capture. -/
  stats : Option CaptureStats
  /-- The packets in order. -/
  packets : List Packet
  deriving DecidableEq

namespace Trace

/-- A trace made at an instant. -/
def make (createdAt : Instant) (metadata : CaptureMetadata) (stats : Option CaptureStats)
    (packets : List Packet) (notes : String) : Trace :=
  ⟨archiveVersion, CaptureFlow.libraryVersion, createdAt, notes, metadata, stats, packets⟩

/-- The lines of the summary of a trace. -/
def lines (trace : Trace) : List String :=
  let metadata := trace.metadata
  let signed := fun (n : Int32) => Numeral.signed n.toInt
  [s!"Format: {trace.formatVersion} ({trace.libraryVersion})",
    s!"Created: {trace.createdAt.textSeconds}",
    s!"Source: {metadata.origin}",
    s!"Snap length: {signed metadata.snapLength} " ++
      s!"Promiscuous: {signed metadata.promiscuous} Timeout: {signed metadata.timeout}ms"] ++
    metadata.filters.map (fun filter => s!"Filter: {filter}") ++
    (if trace.notes.isEmpty then [] else [s!"Notes: {trace.notes}"]) ++
    trace.stats.toList.map CaptureStats.text ++
    [s!"Packets: {Numeral.decimal trace.packets.length}"]

/-- The summary of a trace. -/
def text (trace : Trace) : String :=
  "\n".intercalate trace.lines

end Trace

end CaptureFlow
