import CaptureFlow.Capture.Source

/-!
# Sessions with a source

A session is a sequence of calls to a source: for one frame, for a batch of frames, or to
hand frames to a receiver, which may refuse any of them. It is told by the frames that
were handed out in each call and by the results of the calls. All calls are runs with a
receiver.
-/

namespace CaptureFlow

/-- A frame that was handed out, and whether its receiver refused it. -/
structure Handout where
  /-- The frame. -/
  frame : Frame
  /-- Whether it was refused. -/
  isRefused : Bool
  deriving DecidableEq

/-- What a call to a source comes to. -/
structure CallOutcome where
  /-- The frames handed out, in their order. -/
  handouts : List Handout
  /-- The number of frames taken, or why the call failed. -/
  result : Except Error Nat

/-- A call to a source. -/
inductive Call : Type 1 where
  /-- For the next frame. -/
  | next
  /-- For a batch of at most `max` frames. -/
  | batch (max : Nat)
  /-- To hand at most `max` frames to a receiver. -/
  | process {β : Type} (receive : Receiver β) (max : Nat) (value : β)

/-- A receiver that keeps a log of the frames that another one is given. -/
def logging {β : Type} (receive : Receiver β) : Receiver (List Handout × β) :=
  fun (log, value) frame =>
    let (value, refusal) := receive value frame
    ((log ++ [⟨frame, refusal.isSome⟩], value), refusal)

/-- A receiver that refuses no frame. -/
def acceptAll : Receiver Unit :=
  fun _ _ => ((), none)

/-- The receiver of a batch. -/
def collecting : Receiver (Array Frame) :=
  fun frames frame => (frames.push frame, none)

/-- Frames that were taken. -/
def taken (frames : List Frame) : List Handout :=
  frames.map fun frame => ⟨frame, false⟩

namespace CaptureSource

variable {σ : Type} [CaptureSource σ]

/-- A run with a receiver whose frames are logged. -/
def logged {β : Type} (receive : Receiver β) (max : Nat) (value : β) (state : σ) :
    CallOutcome × σ :=
  let run := process (logging receive) max ([], value) state
  (⟨run.value.1, run.result⟩, run.state)

/-- What a call comes to, and the state that it leads to. -/
def call (state : σ) : Call → CallOutcome × σ
  | .next =>
    match next state with
    | (.ok frame, state) => (⟨taken frame.toList, .ok frame.toList.length⟩, state)
    | (.error error, state) => (⟨[], .error error⟩, state)
  | .batch max =>
    let run := batch max state
    (⟨taken run.value.toList, run.result⟩, run.state)
  | .process receive max value => logged receive max value state

/-- What the calls of a session come to, and the state that they lead to. -/
def session : List Call → σ → List CallOutcome × σ
  | [], state => ([], state)
  | first :: calls, state =>
    let (outcome, state) := call state first
    let (outcomes, state) := session calls state
    (outcome :: outcomes, state)

/-- The frames that a session hands out. -/
def sessionLog (calls : List Call) (state : σ) : List Handout :=
  (session calls state).1.flatMap CallOutcome.handouts

/-- A session hands out the frames of its first call, and those of the others. -/
theorem sessionLog_cons (first : Call) (calls : List Call) (state : σ) :
    sessionLog (first :: calls) state =
      (call state first).1.handouts ++ sessionLog calls (call state first).2 :=
  rfl

/-! ## All calls are runs with a receiver -/

/-- Receivers that refuse the same frames and whose memories correspond lead to runs that
correspond. -/
theorem processFrom_map {α β : Type} {receive : Receiver α} {other : Receiver β} {f : α → β}
    (h : ∀ value frame, other (f value) frame =
      (f (receive value frame).1, (receive value frame).2))
    (max count : Nat) (value : α) (state : σ) :
    processFrom other max count (f value) state =
      (processFrom receive max count value state).map f := by
  induction max generalizing count value state with
  | zero => rfl
  | succ max ih =>
    rw [processFrom, processFrom]
    cases advance state with
    | finished next => rfl
    | failed error next => rfl
    | frame frame refused taken =>
      dsimp only
      rw [h]
      cases hreceive : receive value frame with
      | mk made refusal =>
        cases refusal with
        | none => exact ih (count + 1) made taken
        | some error => rfl

/-- Keeping a log changes nothing of a run. -/
theorem process_logging {β : Type} (receive : Receiver β) (max : Nat) (value : β) (state : σ) :
    process receive max value state =
      (process (logging receive) max ([], value) state).map Prod.snd := by
  have hlog : ∀ (entry : List Handout × β) frame, receive entry.2 frame =
      ((logging receive entry frame).1.2, (logging receive entry frame).2) :=
    fun _ _ => rfl
  exact processFrom_map (f := Prod.snd) hlog max 0 ([], value) state

/-- A batch is a run whose receiver refuses no frame. -/
theorem call_batch (max : Nat) (state : σ) :
    call state (.batch max) = logged acceptAll max () state := by
  have hlog : ∀ frames frame, logging acceptAll (taken frames.toList, ()) frame =
      ((taken (collecting frames frame).1.toList, ()), (collecting frames frame).2) := by
    intro frames frame
    simp only [collecting, logging, acceptAll, taken, Array.toList_push, List.map_append,
      List.map_cons, List.map_nil, Option.isSome_none]
  have hrun : process (logging acceptAll) max ([], ()) state =
      (batch max state).map fun frames => (taken frames.toList, ()) :=
    processFrom_map (f := fun frames : Array Frame => (taken frames.toList, ()))
      hlog max 0 #[] state
  rw [logged, hrun]
  rfl

/-- Reading the next frame is a run that takes one. -/
theorem call_next (state : σ) : call state .next = logged acceptAll 1 () state := by
  rw [call, logged, process, processFrom, next]
  cases advance state <;> rfl

/-- Every call is a run with a receiver. -/
theorem exists_call_eq_logged (request : Call) :
    ∃ (β : Type) (receive : Receiver β) (max : Nat) (value : β),
      ∀ {σ : Type} [CaptureSource σ] (state : σ),
        call state request = logged receive max value state := by
  cases request with
  | next => exact ⟨Unit, acceptAll, 1, (), call_next⟩
  | batch max => exact ⟨Unit, acceptAll, max, (), call_batch max⟩
  | process receive max value => exact ⟨_, receive, max, value, fun _ => rfl⟩

end CaptureSource

end CaptureFlow
