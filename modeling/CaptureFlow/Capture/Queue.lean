import CaptureFlow.Capture.Source
import CaptureFlow.Decoder

/-!
# Queues of frames

A source that holds its frames in memory and hands them out in order. A frame
that was handed out is gone, whether its receiver took it or not.
-/

namespace CaptureFlow

/-- Frames waiting in memory. -/
structure FrameQueue where
  /-- How the capture was made. -/
  metadata : CaptureMetadata
  /-- The framing of all frames. -/
  link : LinkType
  /-- The frames waiting, the next one first. -/
  waiting : List Frame
  /-- The number of frames handed out. -/
  delivered : Nat

namespace FrameQueue

/-- A queue without frames. -/
def empty (metadata : CaptureMetadata) (link : LinkType) : FrameQueue :=
  ⟨metadata, link, [], 0⟩

/-- The queue with a frame of which a part was captured, and its length on the wire. -/
def pushCut (queue : FrameQueue) (timestamp : Timestamp) (wire : UInt32) (data : Bytes) :
    FrameQueue :=
  let frame : Frame := {
    number := queue.waiting.length + queue.delivered + 1
    timestamp
    captured := UInt32.ofNat data.length
    wire
    linkType := queue.link.number
    data }
  { queue with waiting := queue.waiting ++ [frame] }

/-- The queue with a frame that was captured whole. -/
def push (queue : FrameQueue) (timestamp : Timestamp) (data : Bytes) : FrameQueue :=
  queue.pushCut timestamp (UInt32.ofNat data.length) data

/-- Hands out the frame that waits longest. -/
def advance (queue : FrameQueue) : Advance FrameQueue :=
  match queue.waiting with
  | [] => .finished queue
  | frame :: waiting =>
    let queue := { queue with waiting, delivered := queue.delivered + 1 }
    .frame frame queue queue

instance : CaptureSource FrameQueue where
  advance := advance
  metadata := metadata
  stats queue := .ofCount queue.delivered
  linkType queue := queue.link.number

end FrameQueue

end CaptureFlow
