import CaptureFlow.Gzip.Member
import CaptureFlow.Trace.Codec

/-!
# Archives

An archive is the compact JSON text of a trace in a gzip file. Reading is
lenient about layout and order, strict about everything that a trace needs.
-/

namespace CaptureFlow.Trace

/-- The text of an archive. -/
def archiveText (trace : Trace) : String :=
  (codec.write trace).render

/-- The trace of archive text, behind which a read may fail. -/
def ofArchiveText (body : Bytes) (fault : Option ReadFault) : Except Json.Refusal Trace :=
  (Json.document codec ⟨body, fault⟩).mapError (Json.Failure.refusal · body)

/-- The octets of an archive file. -/
def archive (trace : Trace) : Bytes :=
  Gzip.store (Utf8.encode trace.archiveText)

/-- The trace of an archive file, whose text is read octet by octet. -/
def ofArchive (file : Content) : Except Json.Refusal Trace :=
  let (body, fault) := (Gzip.stream file).drain 1
  ofArchiveText body fault

end CaptureFlow.Trace
