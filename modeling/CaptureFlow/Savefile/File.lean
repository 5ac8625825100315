import CaptureFlow.Gzip.Member
import CaptureFlow.Savefile.Reader

/-!
# Capture files

A capture file is opened by its path. Whether it is compressed is told by its
first octets, and its format by the first octets behind the compression.
-/

namespace CaptureFlow.Savefile

/-- How a file is compressed. -/
inductive Compression where
  /-- Not at all. -/
  | none
  /-- In the gzip format. -/
  | gzip
  deriving DecidableEq, Repr

namespace Compression

/-- The compression that the first octets of a file tell. -/
def detect (bytes : Bytes) : Compression :=
  if Gzip.magic.isPrefixOf bytes then gzip else none

/-- The name of a compression. -/
def name : Compression → String
  | none => "none"
  | gzip => "gzip"

/-- Whether anything is compressed. -/
def isCompressed : Compression → Bool
  | none => false
  | gzip => true

/-- The stream of a file behind its compression. -/
def stream (file : Content) : Compression → Stream
  | none => file.stream
  | gzip => Gzip.stream file

end Compression

/-- A capture file that is open. -/
structure File where
  /-- Its path. -/
  path : String
  /-- How it is compressed. -/
  compression : Compression
  /-- The reader of its frames. -/
  reader : Reader

namespace File

/-- Opens the file at a path, which the system may refuse. -/
def openAt (path : String) (file : Except SystemFault Content) : Except Error File :=
  match file with
  | .error fault =>
    .error (if fault = .notFound then .savefile (.notFound path) else .io (.system fault))
  | .ok file => do
    let compression := Compression.detect (← (file.stream.front 2).mapError .io)
    let stream := compression.stream file
    let magic ← (stream.front 4).mapError .io
    let toError : FormatFault → Error := fun fault => .savefile (.invalid fault)
    let format ← (Format.detect magic).mapError toError
    let reader ← (Reader.openAs format stream).mapError toError
    .ok ⟨path, compression, reader⟩

/-- The file with another reader. -/
def withReader (file : File) (reader : Reader) : File :=
  { file with reader }

/-- Hands out the next frame of the file. -/
def advance (file : File) : Advance File :=
  match file.reader.advance with
  | .frame frame refused taken => .frame frame (file.withReader refused) (file.withReader taken)
  | .finished reader => .finished (file.withReader reader)
  | .failed error reader => .failed error (file.withReader reader)

instance : CaptureSource File where
  advance := advance
  metadata file := .ofFile file.path file.reader.snapLength
  stats file := CaptureSource.stats file.reader
  linkType file := file.reader.linkType

end File

end CaptureFlow.Savefile
