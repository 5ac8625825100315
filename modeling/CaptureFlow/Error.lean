import CaptureFlow.Flow.Fault
import CaptureFlow.Header.Fault
import CaptureFlow.Json.Failure
import CaptureFlow.Savefile.Format

/-!
# Errors

All that can go wrong, by the part of the library where it goes wrong. An error
is told with its part in front, and by the chain of its causes, each more
particular than the one before it.
-/

namespace CaptureFlow

/-- What went wrong. -/
inductive Error where
  /-- A frame was not decoded. -/
  | decode (error : DecodeError)
  /-- A flow was not formed. -/
  | flow (error : FlowError)
  /-- A capture file was not read. -/
  | savefile (fault : Savefile.Fault)
  /-- An archive was not read. -/
  | archive (refusal : Json.Refusal)
  /-- A file was not read. -/
  | io (fault : ReadFault)
  deriving DecidableEq, Repr

/-- The wording of the refusal of an archive. -/
def archiveMessage (refusal : Json.Refusal) : String :=
  "archive body: " ++ refusal.message

namespace Error

/-- The wording of an error and of its causes. -/
def chain : Error → List String
  | decode error => [s!"Decode error: {error.message}", error.message]
  | flow error => [s!"Flow error: {error.message}", error.message]
  | savefile fault => [s!"PCAP error: {fault.message}", fault.message]
  | archive refusal =>
    [s!"Archive error: {archiveMessage refusal}", archiveMessage refusal, refusal.message]
  | io fault => [s!"I/O error: {fault.message}", fault.message]

/-- The wording of an error. -/
def message : Error → String
  | decode error => s!"Decode error: {error.message}"
  | flow error => s!"Flow error: {error.message}"
  | savefile fault => s!"PCAP error: {fault.message}"
  | archive refusal => s!"Archive error: {archiveMessage refusal}"
  | io fault => s!"I/O error: {fault.message}"

/-- The chain of causes starts with the error itself. -/
theorem head?_chain (error : Error) : error.chain.head? = some error.message := by
  cases error <;> rfl

end Error

end CaptureFlow
