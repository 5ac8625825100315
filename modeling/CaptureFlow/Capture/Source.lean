import CaptureFlow.Capture.Metadata
import CaptureFlow.Error

/-!
# Capture sources

A source hands out frames one by one. The receiver of a frame may refuse it;
what the source does then is its own choice. Reading single frames, batches of
frames and all frames are runs of the same step.
-/

namespace CaptureFlow

/-- A frame as it was captured. -/
structure Frame where
  /-- Its number, counted from one. -/
  number : Nat
  /-- When it was captured. -/
  timestamp : Timestamp
  /-- The octets captured. -/
  captured : UInt32
  /-- The octets on the wire. -/
  wire : UInt32
  /-- The number of its framing. -/
  linkType : UInt16
  /-- The data, which padding may follow. -/
  data : Bytes
  deriving DecidableEq

/-- What a source does next. -/
inductive Advance (σ : Type) where
  /-- It hands out a frame; the state behind it depends on the receiver. -/
  | frame (frame : Frame) (refused taken : σ)
  /-- It has no more frames. -/
  | finished (state : σ)
  /-- It cannot go on. -/
  | failed (error : Error) (state : σ)

/-- The states of a capture source. -/
class CaptureSource (σ : Type) where
  /-- What the source does next. -/
  advance : σ → Advance σ
  /-- How the capture was made. -/
  metadata : σ → CaptureMetadata
  /-- The counters of the frames handed out. -/
  stats : σ → CaptureStats
  /-- The framing of the latest frame, or of the capture. -/
  linkType : σ → UInt16

/-- A receiver of frames: what it makes of a frame, and an error if it refuses it. -/
abbrev Receiver (β : Type) := β → Frame → β × Option Error

/-- The end of a run over a source. -/
structure Run (β σ : Type) where
  /-- What the receiver made of the frames. -/
  value : β
  /-- The state of the source. -/
  state : σ
  /-- The number of frames taken, or why the run ended early. -/
  result : Except Error Nat

/-- A run of which something else is made. -/
def Run.map {α β σ : Type} (f : α → β) (run : Run α σ) : Run β σ :=
  ⟨f run.value, run.state, run.result⟩

namespace CaptureSource

variable {σ β : Type} [CaptureSource σ]

/-- The number of frames when none is asked for. -/
def noLimit : Nat := UInt64.size - 1

/-- Hands at most `max` frames to a receiver, `count` of them being taken already. -/
def processFrom (receive : Receiver β) : (max count : Nat) → β → σ → Run β σ
  | 0, count, value, state => ⟨value, state, .ok count⟩
  | max + 1, count, value, state =>
    match advance state with
    | .finished state => ⟨value, state, .ok count⟩
    | .failed error state => ⟨value, state, .error error⟩
    | .frame frame refused taken =>
      match receive value frame with
      | (value, some error) => ⟨value, refused, .error error⟩
      | (value, none) => processFrom receive max (count + 1) value taken

/-- Hands at most `max` frames to a receiver. -/
def process (receive : Receiver β) (max : Nat) (value : β) (state : σ) : Run β σ :=
  processFrom receive max 0 value state

/-- Reads the next frame. -/
def next (state : σ) : Except Error (Option Frame) × σ :=
  match advance state with
  | .finished state => (.ok none, state)
  | .failed error state => (.error error, state)
  | .frame frame _ taken => (.ok (some frame), taken)

/-- Reads at most `max` frames; those read before an error are kept. -/
def batch (max : Nat) (state : σ) : Run (Array Frame) σ :=
  process (fun frames frame => (frames.push frame, none)) max #[] state

end CaptureSource

end CaptureFlow
