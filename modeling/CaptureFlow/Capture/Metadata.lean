import CaptureFlow.Flow.Pair
import CaptureFlow.Json.Value

/-!
# How a capture was made

The settings of a capture, its counters, and the filter expressions that were
applied to it. They are kept as they are and never acted upon.
-/

namespace CaptureFlow

/-- The settings of a live capture. -/
structure CaptureSettings where
  /-- One for promiscuous mode, zero otherwise. -/
  promiscuous : Int32 := 1
  /-- The octets captured of a packet at most. -/
  snapLength : Int32 := 65535
  /-- The time a read may take in milliseconds, zero for any time. -/
  timeout : Int32 := 0
  deriving DecidableEq, Repr

/-- Where a capture comes from and how it was made. -/
structure CaptureMetadata where
  /-- The device of a live capture. -/
  device : String
  /-- The path of a capture file. -/
  fileName : String
  /-- The octets captured of a packet at most. -/
  snapLength : Int32
  /-- One for promiscuous mode, zero otherwise. -/
  promiscuous : Int32
  /-- The time a read may take in milliseconds. -/
  timeout : Int32
  /-- The filter expressions in the order in which they were applied. -/
  filters : List String
  deriving DecidableEq, Repr

namespace CaptureMetadata

/-- The metadata of a live capture. -/
def ofDevice (device : String) (settings : CaptureSettings) : CaptureMetadata :=
  ⟨device, "", settings.snapLength, settings.promiscuous, settings.timeout, []⟩

/-- The metadata of a capture file; a greater snap length than fits is held at
the end of the range. -/
def ofFile (fileName : String) (snapLength : UInt32) : CaptureMetadata :=
  ⟨"", fileName, Int32.ofInt (min (snapLength.toNat : Int) Int32.maxValue.toInt), 0, 0, []⟩

/-- The metadata with one more filter expression. -/
def withFilter (metadata : CaptureMetadata) (filter : String) : CaptureMetadata :=
  { metadata with filters := metadata.filters ++ [filter] }

/-- The device, or the path of the file where there is none. -/
def origin (metadata : CaptureMetadata) : String :=
  if metadata.device.isEmpty then metadata.fileName else metadata.device

end CaptureMetadata

/-- The counters of a capture. -/
structure CaptureStats where
  /-- The packets captured. -/
  captured : UInt32
  /-- The packets received. -/
  received : UInt32
  /-- The packets dropped for want of room. -/
  dropped : UInt32
  /-- The packets dropped by the device. -/
  deviceDropped : UInt32
  deriving DecidableEq, Repr

namespace CaptureStats

/-- The counters of a capture that dropped nothing. -/
def ofCount (count : Nat) : CaptureStats :=
  ⟨UInt32.ofNat count, UInt32.ofNat count, 0, 0⟩

/-- The JSON object of the counters. -/
def json (stats : CaptureStats) : Json :=
  .object [("stat", .object [("captured", .nat stats.captured.toNat),
    ("received", .nat stats.received.toNat), ("dropped", .nat stats.dropped.toNat),
    ("ifDropped", .nat stats.deviceDropped.toNat)])]

/-- The text of the counters, one to a line. -/
def text (stats : CaptureStats) : String :=
  "\n".intercalate [s!"Captured: {Numeral.decimal stats.captured.toNat}",
    s!"Received: {Numeral.decimal stats.received.toNat}",
    s!"Dropped: {Numeral.decimal stats.dropped.toNat}",
    s!"IfDropped: {Numeral.decimal stats.deviceDropped.toNat}"]

end CaptureStats

/-- The filter expression that selects what a pair of endpoints sends. -/
def EndpointPair.filterText (pair : EndpointPair) : String :=
  let version := match pair.source.address with
    | .v4 _ => "ip"
    | .v6 _ => "ip6"
  let port := fun (endpoint : Endpoint) => Numeral.decimal endpoint.port.toNat
  s!"{version} src {pair.source.address.text} and src port {port pair.source} " ++
    s!"and dst {pair.destination.address.text} and dst port {port pair.destination}"

end CaptureFlow
