import CaptureFlow.Capture.Source

/-!
# What a source hands out

A source that does not fail hands out its frames one by one until it is told to stop
or has no more. A receiver that refuses none of them is given exactly these frames, in
their order, and leaves the source where they end.
-/

namespace CaptureFlow.CaptureSource

variable {σ β : Type} [CaptureSource σ]

/-- The frames that a source hands out, `max` at most, without failing, and the state
that this leads to. -/
inductive Reads : (max : Nat) → σ → List Frame → σ → Prop where
  /-- No more frames are asked for. -/
  | stop (state : σ) : Reads 0 state [] state
  /-- There are no more frames. -/
  | finish {max : Nat} {state next : σ} (h : advance state = .finished next) :
    Reads (max + 1) state [] next
  /-- A frame is handed out and taken. -/
  | take {max : Nat} {state refused taken next : σ} {frame : Frame} {frames : List Frame}
    (h : advance state = .frame frame refused taken) (rest : Reads max taken frames next) :
    Reads (max + 1) state (frame :: frames) next

/-- A receiver that refuses no frame is given all that the source hands out. -/
theorem processFrom_of_reads (step : β → Frame → β) {max : Nat} {state next : σ}
    {frames : List Frame} (h : Reads max state frames next) (count : Nat) (value : β) :
    processFrom (fun value frame => (step value frame, none)) max count value state =
      ⟨frames.foldl step value, next, .ok (count + frames.length)⟩ := by
  induction h generalizing count value with
  | stop state => rfl
  | finish h => rw [processFrom, h]; rfl
  | take h rest ih =>
    rename_i max state refused taken next frame frames
    rw [processFrom, h, List.foldl_cons, List.length_cons, Nat.add_comm frames.length,
      ← Nat.add_assoc]
    exact ih (count + 1) (step value frame)

/-- A receiver that refuses no frame is given all that the source hands out. -/
theorem process_of_reads (step : β → Frame → β) {max : Nat} {state next : σ}
    {frames : List Frame} (h : Reads max state frames next) (value : β) :
    process (fun value frame => (step value frame, none)) max value state =
      ⟨frames.foldl step value, next, .ok frames.length⟩ := by
  rw [process, processFrom_of_reads step h, Nat.zero_add]

end CaptureFlow.CaptureSource
