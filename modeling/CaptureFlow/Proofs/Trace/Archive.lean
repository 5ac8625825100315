import CaptureFlow.Proofs.Gzip.Store
import CaptureFlow.Proofs.Trace.Codec
import CaptureFlow.Trace.Archive

/-!
# Archives give their traces back

The text of an archive is read as one document that ends with the trace, and the file
around it hands out this text whoever compressed it.
-/

namespace CaptureFlow

/-- A document that holds a value and nothing else gives the value. -/
theorem Json.document_octetsOf {α : Type} {codec : Codec α} {value : α}
    (h : codec.ReadsBack value) :
    document codec ⟨octetsOf (codec.write value), none⟩ = .ok value := by
  have hread := h [] Stops.nil
  rw [List.append_nil] at hread
  rw [document, hread]
  rfl

namespace Trace

/-- The text of an archive tells the trace. -/
theorem ofArchiveText_archiveText {trace : Trace}
    (h : Instant.parse trace.createdAt.text = .ok trace.createdAt) :
    ofArchiveText (Utf8.encode trace.archiveText) none = .ok trace := by
  have hdocument := Json.document_octetsOf (readsBack h)
  rw [Json.octetsOf, ← archiveText] at hdocument
  rw [ofArchiveText, hdocument]
  rfl

/-- A file that decompresses to the text of an archive tells the trace. -/
theorem ofArchive_of_drain {trace : Trace}
    (h : Instant.parse trace.createdAt.text = .ok trace.createdAt) {file : Content}
    (hfile : (Gzip.stream file).drain 1 = (Utf8.encode trace.archiveText, none)) :
    ofArchive file = .ok trace := by
  rw [ofArchive, hfile]
  exact ofArchiveText_archiveText h

/-- An archive gives its trace back, be it the file that is written here or any other one
that decompresses to the same text. -/
theorem ofArchive_archive (trace : Trace)
    (h : Instant.parse trace.createdAt.text = .ok trace.createdAt) :
    ofArchive (.octets trace.archive) = .ok trace ∧
      ∀ file, (Gzip.stream file).drain 1 = (Utf8.encode trace.archiveText, none) →
        ofArchive file = .ok trace := by
  constructor
  · have hstored := Gzip.drain_store (Utf8.encode trace.archiveText)
    exact ofArchive_of_drain h hstored
  · intro file hfile
    exact ofArchive_of_drain h hfile

/-- A trace with headers of all kinds, and with text that cannot stand in a string as
it is. -/
def mixed : Trace where
  formatVersion := archiveVersion
  libraryVersion := CaptureFlow.libraryVersion
  createdAt := ⟨1700000000, 123456789⟩
  notes := "tab\t, quote\", \u0000\u001f\u007f, é, 𝄞"
  metadata := ⟨"eth0", "", 65535, 1, -1, ["tcp", "port 80"]⟩
  stats := some ⟨2, 3, 1, 0⟩
  packets :=
    [⟨-1, 74, 74,
        [.ethernet ⟨⟨[2, 0, 0, 0, 0, 1], rfl⟩, ⟨[2, 0, 0, 0, 0, 2], rfl⟩, 0x0800⟩,
          .ipv4 ⟨4, 5, ⟨10, 0, 0, 1⟩, ⟨10, 0, 0, 2⟩, 6, 60, 40⟩,
          .tcp ⟨51000, 80, 4294967295, 7, 5, 0x18, 1024, 0, 0⟩,
          .http ⟨false, 0, some "GET", "/a\\b", 11, none, some "host", none,
            some 18446744073709551615⟩]⟩,
      ⟨1700000000000000, 64, 72,
        [.cooked ⟨0, 1, 6, ⟨[2, 0, 0, 0, 0, 1, 0, 0], rfl⟩, 0x86dd⟩,
          .ipv6 ⟨⟨[0, 0, 0, 0, 0, 0xffff, 0x0a00, 1], rfl⟩,
            ⟨[0xfe80, 0, 0, 1, 0, 0, 0, 1], rfl⟩, 17, 16⟩,
          .udp ⟨5353, 53, 16, 0xbeef⟩]⟩]

/-- This trace is read back. -/
theorem ofArchive_mixed : ofArchive (.octets mixed.archive) = .ok mixed := by
  have hcreated : Instant.parse mixed.createdAt.text = .ok mixed.createdAt := rfl
  obtain ⟨harchive, -⟩ := ofArchive_archive mixed hcreated
  exact harchive

end Trace

end CaptureFlow
