import CaptureFlow.Packet

/-!
# Packet listings

A listing has one line for every packet, in one of three formats.
-/

namespace CaptureFlow

/-- The formats of listings. -/
inductive Listing where
  /-- Terse text. -/
  | text
  /-- A JSON object to a line. -/
  | json
  /-- Comma-separated values. -/
  | csv
  deriving DecidableEq, Repr

namespace Listing

/-- What stands for a packet in a listing, without the end of the line. -/
def entry : Listing → Packet → String
  | text, packet => packet.text
  | json, packet => packet.json.render
  | csv, packet => packet.csv

/-- The line of a packet. -/
def line (listing : Listing) (packet : Packet) : String :=
  listing.entry packet ++ "\n"

/-- The lines of packets. -/
def lines (listing : Listing) (packets : List Packet) : String :=
  String.join (packets.map listing.line)

/-- The format with a name. -/
def ofName? (name : String) : Option Listing :=
  if name = "text" then some text
  else if name = "json" then some json
  else if name = "csv" then some csv
  else none

end Listing

end CaptureFlow
