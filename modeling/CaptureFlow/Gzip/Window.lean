import CaptureFlow.Gzip.Inflate
import CaptureFlow.Stream

/-!
# Decompression in stretches

A compressed file is looked at in pieces, and its output passes through a
window. Decompression goes on in stretches: each ends where the window is full,
where the piece of the file is used up, or with the data. The octets of a
stretch that runs into corrupt data are lost, and of one that runs into the end
of the file the first read alone gets some.
-/

namespace CaptureFlow.Gzip

/-- The length of the window. -/
def windowLength : Nat := 32768

/-- The length of a piece of the file. -/
def pieceLength : Nat := 32768

/-- The ends of the pieces of a file that lie behind its first `start` octets. -/
def pieceEnds (start length : Nat) : List Nat :=
  let ends := (List.range ((length + pieceLength - 1) / pieceLength)).map fun n =>
    min length ((n + 1) * pieceLength)
  ends.filter (start < ·)

/-- How compressed data ends. -/
inductive Close where
  /-- The last block is complete; it takes the first `reached` octets of the file. -/
  | complete (reached : Nat) (ending : Ending)
  /-- The data is corrupt, as the first `reached` octets of the file tell. -/
  | corrupt (reached : Nat)
  /-- The file ends inside the data. -/
  | cut

/-- The number of octets of a file that tell how its data ends, if that is told. -/
def Close.reached? : Close → Option Nat
  | complete reached _ => some reached
  | corrupt reached => some reached
  | cut => none

/-- The supply of octets once all output has passed. -/
def Close.supply (gathered : Bytes) : Close → Supply
  | complete _ ending => .last gathered ending
  | corrupt _ => .broken .corruptData
  | cut => .torn gathered .incompleteData

/-- The room in the window for the next stretch. -/
def refreshed (room : Nat) : Nat :=
  if room = 0 then windowLength else room

/-- The supply of octets that the given output makes, `gathered` belonging to
the first stretch and `room` being left in the window. The first of the `ends`
is that of the piece being looked at; without any, the whole file is. -/
def supplyFrom (close : Close) (gathered : Array UInt8) (room : Nat) :
    (ends : List Nat) → (outputs : List Output) → Supply
  | [], [] => close.supply gathered.toList
  | [], output :: outputs =>
    if room = 0 then
      .stretch gathered.toList false
        (supplyFrom close #[output.octet] (windowLength - 1) [] outputs)
    else supplyFrom close (gathered.push output.octet) (room - 1) [] outputs
  | limit :: ends, [] =>
    if close.reached?.any (· ≤ limit) then close.supply gathered.toList
    else .stretch gathered.toList true (supplyFrom close #[] (refreshed room) ends [])
  | limit :: ends, output :: outputs =>
    if limit < output.reached ∨ room = 0 ∧ output.held = limit then
      .stretch gathered.toList true
        (supplyFrom close #[] (refreshed room) ends (output :: outputs))
    else if room = 0 then
      .stretch gathered.toList false
        (supplyFrom close #[output.octet] (windowLength - 1) (limit :: ends) outputs)
    else supplyFrom close (gathered.push output.octet) (room - 1) (limit :: ends) outputs
termination_by ends outputs => ends.length + outputs.length

/-- The supply of octets of compressed data behind the first `start` octets of a
file; `ending` tells how complete data ends from what was put out and what is
left of the file. -/
def supply (ending : Bytes → Bytes → Ending) (start : Nat) (bytes : Bytes) : Supply :=
  let (outputs, result) := inflate start bytes
  let outputs := outputs.toList
  let close := match result with
    | .ok bits => .complete bits.reached (ending (outputs.map Output.octet) bits.rest)
    | .error (.corrupt reached) => .corrupt reached
    | .error .cut => .cut
  supplyFrom close #[] windowLength (pieceEnds start (start + bytes.length)) outputs

end CaptureFlow.Gzip
