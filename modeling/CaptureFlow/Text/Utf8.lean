import CaptureFlow.Bytes

/-!
# UTF-8

Text and its octets. Octets that are no well-formed UTF-8 are no text.
-/

namespace CaptureFlow.Utf8

/-- The octets of a text. -/
def encode (text : String) : Bytes :=
  text.toByteArray.data.toList

/-- The text of a run of octets, if they are well-formed UTF-8. -/
def decode? (bytes : Bytes) : Option String :=
  String.fromUTF8? ⟨bytes.toArray⟩

end CaptureFlow.Utf8
