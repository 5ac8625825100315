import CaptureFlow.Decoder
import CaptureFlow.Proofs.Http.Sniff

/-!
# Decoded packets

A packet is decoded from a frame in one of three ways, all of which give it the headers of a
frame. The messages among them were sniffed, so that their method, their target and their reason
consist of the octets that a first line allows, none of which is the end of a line.
-/

namespace CaptureFlow

/-- A packet is what a decoder makes of a frame. -/
inductive Packet.IsDecoded : Packet → Prop
  /-- As far as the frame goes, -/
  | front (decoder : Decoder) (timestamp : Timestamp) (captured wire : UInt32) (data : Bytes) :
      IsDecoded (decoder.decodePartial timestamp captured wire data)
  /-- only if the frame is whole, -/
  | whole {decoder : Decoder} {timestamp : Timestamp} {captured wire : UInt32} {data : Bytes}
      {packet : Packet} (h : decoder.decode timestamp captured wire data = .ok packet) :
      IsDecoded packet
  /-- or as the settings say. -/
  | allowed {decoder : Decoder} {timestamp : Timestamp} {captured wire : UInt32} {data : Bytes}
      {packet : Packet} (h : decoder.decodeAllowed timestamp captured wire data = .ok packet) :
      IsDecoded packet

/-- The headers of a decoded packet are those of a frame. -/
theorem Packet.IsDecoded.exists_headers {packet : Packet} (h : packet.IsDecoded) :
    ∃ (decoder : Decoder) (frame : Bytes), packet.headers = decoder.headers frame := by
  have hwhole : ∀ {decoder : Decoder} {timestamp : Timestamp} {captured wire : UInt32}
      {data : Bytes} {packet : Packet}, decoder.decode timestamp captured wire data = .ok packet →
        ∃ (decoder : Decoder) (frame : Bytes), packet.headers = decoder.headers frame := by
    intro decoder timestamp captured wire data packet h
    unfold Decoder.decode at h
    split at h
    · cases h
    · cases h
      exact ⟨decoder, _, rfl⟩
  cases h with
  | front decoder => exact ⟨decoder, _, rfl⟩
  | whole h => exact hwhole h
  | @allowed decoder _ _ _ _ _ h =>
    unfold Decoder.decodeAllowed at h
    split at h
    · cases h
      exact ⟨decoder, _, rfl⟩
    · exact hwhole h

/-! ## Messages -/

namespace Http

variable {payload : Bytes} {message : Header}

/-- The fields of a message change nothing of its reason. -/
theorem Header.reason_withFields (header : Header) (behindLine : Option Bytes) :
    (header.withFields behindLine).reason = header.reason := by
  have hfield : ∀ (header : Header) (field : Field),
      (header.withField field).reason = header.reason := by
    intro header field
    unfold Header.withField
    split
    · rfl
    · dsimp only
      split
      · rfl
      · split
        · rfl
        · split <;> rfl
  have hfold : ∀ (found : List Field) (header : Header),
      (found.foldl Header.withField header).reason = header.reason := by
    intro found
    induction found with
    | nil => exact fun _ => rfl
    | cons field found ih => exact fun header => (ih _).trans (hfield header field)
  unfold Header.withFields
  split
  · exact hfold _ _
  · rfl

/-- The method of a message is a token and its target a target, where it has them. -/
theorem octets_of_sniff (h : sniff payload = some message) :
    (∀ b ∈ Utf8.encode message.methodText, isToken b = true) ∧
      ∀ b ∈ Utf8.encode message.uri, isUri b = true := by
  have hempty : ∀ b, b ∉ Utf8.encode "" := fun b => List.not_mem_nil
  rcases exists_of_sniff h with
    ⟨_, _, _, -, -, hline⟩ | ⟨method, uri, version, line, hrequest, -, hline⟩
  · rw [Header.methodText, hline.method_eq, hline.uri_eq]
    exact ⟨fun b hb => absurd hb (hempty b), fun b hb => absurd hb (hempty b)⟩
  · rw [Header.methodText, hline.method_eq, hline.uri_eq]
    cases hrequest with
    | intro _ hmethod htarget => exact ⟨hmethod.all, htarget.all⟩

/-- The reason that a status line gives is text. -/
theorem reasonLine_isText (bytes : Bytes) :
    ∀ b ∈ Utf8.encode ((reasonLine bytes).1.getD ""), isText b = true := by
  have hempty : ∀ b ∈ Utf8.encode "", isText b = true := fun b hb => absurd hb List.not_mem_nil
  unfold reasonLine
  split
  · exact hempty
  · split
    · exact hempty
    next text _ =>
      dsimp only
      split
      next behind _ =>
        change ∀ b ∈ Utf8.encode (if (text.takeWhile isText).any (0x80 ≤ ·) then ""
          else asciiText (text.takeWhile isText)), isText b = true
        split
        · exact hempty
        next hascii =>
          have hlt : ∀ b ∈ text.takeWhile isText, b < 0x80 := by
            intro b hb
            have hnot := List.any_eq_false.mp (Bool.eq_false_iff.mpr hascii) b hb
            exact UInt8.not_le.mp fun hle => hnot (decide_eq_true hle)
          rw [encode_asciiText hlt]
          exact List.all_eq_true.mp List.all_takeWhile
      · exact hempty

/-- The reason of a message is text. -/
theorem reasonText_of_sniff (h : sniff payload = some message) :
    ∀ b ∈ Utf8.encode message.reasonText, isText b = true := by
  unfold sniff at h
  split at h
  · simp only [sniffResponse, Option.bind_eq_bind, Option.bind_eq_some_iff, Option.pure_def,
      Option.some.injEq, Prod.exists] at h
    obtain ⟨version, _, -, _, -, status, rest, -, rfl⟩ := h
    rw [Header.reasonText, Header.reason_withFields]
    exact reasonLine_isText rest
  · simp only [sniffRequest, Option.bind_eq_bind, Option.bind_eq_some_iff, Option.pure_def,
      Option.some.injEq, Prod.exists] at h
    obtain ⟨method, _, -, _, -, target, _, -, _, -, uri, -, version, rest, -, rfl⟩ := h
    rw [Header.reasonText, Header.reason_withFields]
    exact fun b hb => absurd hb List.not_mem_nil

end Http

/-- The messages among some headers were sniffed. -/
def AreSniffed (headers : List Header) : Prop :=
  ∀ message, .http message ∈ headers → ∃ payload, Http.sniff payload = some message

namespace AreSniffed

variable {headers : List Header}

/-- There is none among no headers. -/
theorem nil : AreSniffed [] :=
  fun _ h => absurd h List.not_mem_nil

/-- A header in front that is no message changes nothing. -/
theorem cons {header : Header} (hheader : ∀ message, header ≠ .http message)
    (h : AreSniffed headers) : AreSniffed (header :: headers) := by
  intro message hmessage
  rcases List.mem_cons.mp hmessage with heq | hmem
  · exact absurd heq.symm (hheader message)
  · exact h message hmem

end AreSniffed

namespace Decoder

variable (decoder : Decoder)

/-- A message is sniffed in the payload of a segment. -/
theorem areSniffed_applicationHeaders (length : UInt16) (bytes : Bytes) :
    AreSniffed (decoder.applicationHeaders length bytes) := by
  unfold applicationHeaders
  dsimp only
  split
  · split
    next message hsniff =>
      intro other hother
      cases List.mem_singleton.mp hother
      exact ⟨_, hsniff⟩
    · exact .nil
  · exact .nil

/-- The messages behind a transport header were sniffed. -/
theorem areSniffed_transportHeaders (protocol : UInt8) (length : UInt16) (bytes : Bytes) :
    AreSniffed (decoder.transportHeaders protocol length bytes) := by
  unfold transportHeaders
  split
  · split
    · exact .cons (fun _ h => by cases h) (decoder.areSniffed_applicationHeaders _ _)
    · exact .nil
  · split
    · split
      · exact .cons (fun _ h => by cases h) .nil
      · exact .nil
    · exact .nil

/-- The messages behind a network header were sniffed. -/
theorem areSniffed_networkHeaders (etherType : UInt16) (bytes : Bytes) :
    AreSniffed (decoder.networkHeaders etherType bytes) := by
  unfold networkHeaders
  split
  · split
    · exact .cons (fun _ h => by cases h) (decoder.areSniffed_transportHeaders _ _ _)
    · exact .nil
  · split
    · split
      · exact .cons (fun _ h => by cases h) (decoder.areSniffed_transportHeaders _ _ _)
      · exact .nil
    · exact .nil

/-- The messages of a frame were sniffed. -/
theorem areSniffed_headers (frame : Bytes) : AreSniffed (decoder.headers frame) := by
  unfold headers
  split
  · split
    · refine .cons (fun _ h => by cases h) ?_
      split <;> exact decoder.areSniffed_networkHeaders _ _
    · exact .nil
  · split
    · exact .cons (fun _ h => by cases h) (decoder.areSniffed_networkHeaders _ _)
    · exact .nil

end Decoder

namespace Packet.IsDecoded

variable {packet : Packet} {message : Http.Header}

/-- The messages of a decoded packet were sniffed. -/
theorem exists_sniff (h : packet.IsDecoded) (hmessage : .http message ∈ packet.headers) :
    ∃ payload, Http.sniff payload = some message := by
  obtain ⟨decoder, frame, hheaders⟩ := h.exists_headers
  exact decoder.areSniffed_headers frame message (hheaders ▸ hmessage)

/-- Neither method nor target of a message has a control character in it. -/
theorem notMem_of_lt (h : packet.IsDecoded) (hmessage : .http message ∈ packet.headers) {c : Char}
    (hc : c.toNat < 0x20) : c ∉ message.methodText.toList ∧ c ∉ message.uri.toList := by
  obtain ⟨payload, hsniff⟩ := h.exists_sniff hmessage
  obtain ⟨hmethod, huri⟩ := Http.octets_of_sniff hsniff
  have hclass : ∀ n < 0x20,
      Http.isToken (UInt8.ofNat n) = false ∧ Http.isUri (UInt8.ofNat n) = false := by
    decide
  obtain ⟨htoken, htarget⟩ := hclass c.toNat hc
  exact ⟨Utf8.notMem_of_encode hmethod (by omega) htoken,
    Utf8.notMem_of_encode huri (by omega) htarget⟩

/-- The method of a message has no quote in it. -/
theorem quote_notMem_method (h : packet.IsDecoded) (hmessage : .http message ∈ packet.headers) :
    '"' ∉ message.methodText.toList := by
  obtain ⟨payload, hsniff⟩ := h.exists_sniff hmessage
  exact Utf8.notMem_of_encode (Http.octets_of_sniff hsniff).1 (by decide) (by decide)

/-- The reason of a message has no end of a line in it. -/
theorem newline_notMem_reason (h : packet.IsDecoded) (hmessage : .http message ∈ packet.headers) :
    '\n' ∉ message.reasonText.toList := by
  obtain ⟨payload, hsniff⟩ := h.exists_sniff hmessage
  exact Utf8.notMem_of_encode (Http.reasonText_of_sniff hsniff) (by decide) (by decide)

end Packet.IsDecoded

end CaptureFlow
