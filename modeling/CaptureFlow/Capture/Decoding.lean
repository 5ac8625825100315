import CaptureFlow.Capture.Source
import CaptureFlow.Decoder

/-!
# Decoding captures

The frames of a source are decoded one by one, each by the decoder of its own
framing. The decoder of the framing met last is kept, as is the fact that this
framing is unknown. Frames of unknown framing and frames that the decoder rejects
are counted and left out.
-/

namespace CaptureFlow

/-- The counters of a pass over a source. -/
structure CaptureSummary where
  /-- The frames read. -/
  frames : Nat := 0
  /-- The frames decoded. -/
  decoded : Nat := 0
  /-- The frames rejected by the decoder. -/
  skipped : Nat := 0
  /-- The frames of unknown framing. -/
  unsupportedLink : Nat := 0
  deriving DecidableEq, Repr

/-- The decoder of the framing met last. -/
structure DecoderCache where
  /-- The settings of all decoders. -/
  settings : Decoder
  /-- The number of the framing met last, and its decoder if the framing is known. -/
  current : Option (UInt16 × Option Decoder) := none

namespace DecoderCache

/-- Makes a decoder for the framing with a number, if it is known, and keeps what
came of it. -/
def renew (cache : DecoderCache) (number : UInt16) : Option Decoder × DecoderCache :=
  let decoder : Option Decoder :=
    match LinkType.ofNumber number with
    | .ok link => some { cache.settings with link }
    | .error _ => none
  (decoder, { cache with current := some (number, decoder) })

/-- The decoder for the framing with a number, made anew where another framing was
met last. -/
def get (cache : DecoderCache) (number : UInt16) : Option Decoder × DecoderCache :=
  match cache.current with
  | some (held, decoder) => if held = number then (decoder, cache) else cache.renew number
  | none => cache.renew number

end DecoderCache

/-- A pass over the frames of a source. -/
structure DecodingPass where
  /-- The decoder of the latest frame. -/
  cache : DecoderCache
  /-- What became of the frames up to now. -/
  summary : CaptureSummary := {}

namespace DecodingPass

/-- A pass that has met no frame. -/
def start (settings : Decoder) : DecodingPass :=
  { cache := { settings } }

/-- Decodes a frame and counts what became of it. -/
def decode (pass : DecodingPass) (frame : Frame) : Option Packet × DecodingPass :=
  let summary := { pass.summary with frames := pass.summary.frames + 1 }
  let (decoder, cache) := pass.cache.get frame.linkType
  match decoder with
  | none => (none, ⟨cache, { summary with unsupportedLink := summary.unsupportedLink + 1 }⟩)
  | some decoder =>
    match decoder.decodeAllowed frame.timestamp frame.captured frame.wire frame.data with
    | .ok packet => (some packet, ⟨cache, { summary with decoded := summary.decoded + 1 }⟩)
    | .error _ => (none, ⟨cache, { summary with skipped := summary.skipped + 1 }⟩)

/-- A receiver of frames that keeps their packets. -/
def keep : Receiver (Array Packet × DecodingPass) := fun (packets, pass) frame =>
  match pass.decode frame with
  | (some packet, pass) => ((packets.push packet, pass), none)
  | (none, pass) => ((packets, pass), none)

/-- A receiver of frames that hands their packets to another receiver. -/
def handTo {β : Type} (receive : β → Packet → β × Option Error) : Receiver (β × DecodingPass) :=
  fun (value, pass) frame =>
    match pass.decode frame with
    | (some packet, pass) =>
      let (value, refusal) := receive value packet
      ((value, pass), refusal)
    | (none, pass) => ((value, pass), none)

end DecodingPass

namespace CaptureSource

variable {σ β : Type} [CaptureSource σ]

/-- Decodes at most `max` frames and keeps the packets. -/
def capture (decoder : Decoder) (max : Nat) (state : σ) : Run (Array Packet × CaptureSummary) σ :=
  (process DecodingPass.keep max (#[], .start decoder) state).map fun (packets, pass) =>
    (packets, pass.summary)

/-- Decodes at most `max` frames, handing each packet to a receiver, which may
refuse it with an error. -/
def scan (decoder : Decoder) (max : Nat) (receive : β → Packet → β × Option Error)
    (value : β) (state : σ) : Run (β × CaptureSummary) σ :=
  (process (DecodingPass.handTo receive) max (value, .start decoder) state).map
    fun (value, pass) => (value, pass.summary)

end CaptureSource

end CaptureFlow
