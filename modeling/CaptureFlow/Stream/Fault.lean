import CaptureFlow.Text.Numeral

/-!
# Faults of files

The refusals by the system to open or to read a file, and the ways in which the
reading of a compressed file fails, with their wording.
-/

namespace CaptureFlow

/-- A refusal by the system to open or read a file. -/
structure SystemFault where
  /-- What the system says. -/
  reason : String
  /-- The number of the error. -/
  number : Nat
  deriving DecidableEq, Repr

namespace SystemFault

/-- There is no such file. -/
def notFound : SystemFault := ⟨"No such file or directory", 2⟩

/-- A file stands where a directory is needed. -/
def notDirectory : SystemFault := ⟨"Not a directory", 20⟩

/-- A directory stands where a file is needed. -/
def isDirectory : SystemFault := ⟨"Is a directory", 21⟩

/-- A name is longer than names may be. -/
def nameTooLong : SystemFault := ⟨"File name too long", 36⟩

/-- The wording of a refusal. -/
def message (fault : SystemFault) : String :=
  s!"{fault.reason} (os error {Numeral.decimal fault.number})"

end SystemFault

/-- Why a read fails. -/
inductive ReadFault where
  /-- The system refuses it. -/
  | system (fault : SystemFault)
  /-- The file does not start with a gzip header. -/
  | badHeader
  /-- A name or comment in the gzip header has no end within its limit. -/
  | longHeader
  /-- The file ends inside the gzip header or trailer. -/
  | endOfFile
  /-- The file ends inside the compressed data. -/
  | incompleteData
  /-- The compressed data breaks the rules of its format. -/
  | corruptData
  /-- The trailer does not fit the data. -/
  | badChecksum
  deriving DecidableEq, Repr

/-- The wording of a read fault. -/
def ReadFault.message : ReadFault → String
  | system fault => fault.message
  | badHeader => "invalid gzip header"
  | longHeader => "gzip header field too long"
  | endOfFile => "unexpected end of file"
  | incompleteData => "incomplete deflate stream"
  | corruptData => "corrupt deflate stream"
  | badChecksum => "corrupt gzip stream does not have a matching checksum"

end CaptureFlow
