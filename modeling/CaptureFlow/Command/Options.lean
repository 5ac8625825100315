import CaptureFlow.Decoder
import CaptureFlow.Listing

/-!
# Options of the command

What the command is asked to do with which file. The last part of a path tells
archives from capture files.
-/

namespace CaptureFlow.Command

/-- What the command is asked to do. -/
structure Options where
  /-- The path of the input. -/
  file : String := ""
  /-- The format of the packet listing. -/
  format : Listing := .text
  /-- Whether the listing is left out. -/
  quiet : Bool := false
  /-- The number of frames after which to stop. -/
  count : Option Nat := none
  /-- Whether the IP flows are printed. -/
  flows : Bool := false
  /-- Whether the TCP flows are printed. -/
  tcp : Bool := false
  /-- Whether the HTTP exchanges are printed. -/
  http : Bool := false
  /-- Whether filter expressions are printed. -/
  filters : Bool := false
  /-- The port of the servers. -/
  serverPort : UInt16 := 80
  /-- Whether cut frames are decoded as far as they go. -/
  allowTruncated : Bool := false
  /-- The path of an archive to write. -/
  write : Option String := none
  /-- Notes for the archive. -/
  notes : String := ""
  /-- The key of a flow to dump. -/
  dump : Option String := none
  /-- How much is logged. -/
  verbose : UInt8 := 0
  deriving DecidableEq, Repr

/-- The extension of archives. -/
def archiveExtension : String := "pktrace"

/-- The name of the file at the end of a path, if the path ends in one. -/
def fileName? (path : String) : Option String :=
  let parts := (path.toList.splitOn '/').filter fun part => part ≠ [] ∧ part ≠ ['.']
  match parts.getLast? with
  | some name => if name = ['.', '.'] then none else some (String.ofList name)
  | none => none

/-- What stands behind the last point of a file's name, unless that point comes
first. -/
def extension? (name : String) : Option String :=
  let parts := name.toList.splitOn '.'
  match parts with
  | [] | [_] | [[], _] => none
  | _ => parts.getLast?.map String.ofList

namespace Options

/-- Whether the input is an archive. -/
def isArchive (options : Options) : Bool :=
  ((fileName? options.file).bind extension?).any fun extension =>
    extension.toLower = archiveExtension

/-- Whether TCP flows are needed. -/
def wantsTcpFlows (options : Options) : Bool :=
  options.tcp || options.http || options.filters || options.dump.isSome

/-- Whether the packets are needed after they were listed. -/
def needsPackets (options : Options) : Bool :=
  options.flows || options.wantsTcpFlows || options.write.isSome

/-- The decoder that is asked for. -/
def decoder (options : Options) : Decoder :=
  { allowTruncated := options.allowTruncated }

end Options

end CaptureFlow.Command
