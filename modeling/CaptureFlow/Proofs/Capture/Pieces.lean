import CaptureFlow.Capture.Queue
import CaptureFlow.Proofs.Capture.Session
import Mathlib.Algebra.GroupWithZero.Nat

/-!
# Reading in pieces

A source that is read to its end hands out some frames, and ends well or with an error. As
long as no frame is refused, calls of any kind hand out these frames one after the other,
wherever one call stops and the next begins: together they are those of a single run, and
the call that meets the end meets the same one.
-/

namespace CaptureFlow

open CaptureSource

/-- The error of a capture file whose stream fails. -/
def streamError : Error :=
  .savefile (.invalid .refill)

/-- What a call for `asked` frames comes to where these frames are left before the end. -/
def outcomeOf (frames : List Frame) (failure : Option Error) (asked : Nat) : CallOutcome :=
  ⟨taken (frames.take asked),
    if asked ≤ frames.length then .ok asked else failure.elim (.ok frames.length) .error⟩

/-! ## Readings -/

/-- A receiver that makes something of every frame and refuses none. -/
def accepting {β : Type} (step : β → Frame → β) : Receiver β :=
  fun value frame => (step value frame, none)

/-- A call that refuses no frame. -/
inductive Reading : Type 1 where
  /-- For the next frame. -/
  | next
  /-- For a batch of at most `max` frames. -/
  | batch (max : Nat)
  /-- To hand at most `max` frames to a receiver that refuses none. -/
  | process {β : Type} (step : β → Frame → β) (max : Nat) (value : β)

namespace Reading

/-- The call of a reading. -/
def call : Reading → Call
  | next => .next
  | batch max => .batch max
  | process step max value => .process (accepting step) max value

/-- The number of frames that a reading asks for. -/
def asked : Reading → Nat
  | next => 1
  | batch max => max
  | process _ max _ => max

/-- The calls of readings. -/
def calls (readings : List Reading) : List Call :=
  readings.map call

/-- The number of frames that readings ask for together. -/
def total (readings : List Reading) : Nat :=
  (readings.map asked).sum

/-- Every reading is a run for as many frames as it asks for. -/
theorem exists_call_eq_logged (reading : Reading) :
    ∃ (β : Type) (step : β → Frame → β) (value : β),
      ∀ {σ : Type} [CaptureSource σ] (state : σ),
        CaptureSource.call state reading.call =
          logged (accepting step) reading.asked value state := by
  cases reading with
  | next => exact ⟨Unit, fun _ _ => (), (), call_next⟩
  | batch max => exact ⟨Unit, fun _ _ => (), (), call_batch max⟩
  | process step max value => exact ⟨_, step, value, fun _ => rfl⟩

end Reading

/-- A step of one source as the step of another, whose states stand for those of the first. -/
def Advance.map {σ τ : Type} (f : σ → τ) : Advance σ → Advance τ
  | frame next refused taken => .frame next (f refused) (f taken)
  | finished state => .finished (f state)
  | failed error state => .failed error (f state)

/-- What a step leads to has a property, unless a frame is refused. -/
def Advance.Keeps {σ : Type} (kept : σ → Prop) : Advance σ → Prop
  | frame _ _ taken => kept taken
  | finished state => kept state
  | failed _ state => kept state

namespace CaptureSource

variable {σ : Type} [CaptureSource σ]

/-! ## What readings keep -/

section Keeps

variable {kept : σ → Prop} (hkeeps : ∀ state, kept state → (advance state).Keeps kept)

include hkeeps

/-- What every step keeps is kept by a run that refuses nothing. -/
theorem processFrom_keeps {β : Type} (step : β → Frame → β) (max count : Nat) (value : β)
    {state : σ} (h : kept state) :
    kept (processFrom (accepting step) max count value state).state := by
  induction max generalizing count value state with
  | zero => exact h
  | succ max ih =>
    have hnext := hkeeps state h
    rw [processFrom]
    cases hadvance : advance state with
    | finished next =>
      rw [hadvance] at hnext
      exact hnext
    | failed error next =>
      rw [hadvance] at hnext
      exact hnext
    | frame frame refused taken =>
      rw [hadvance] at hnext
      exact ih (count + 1) (step value frame) hnext

/-- What every step keeps is kept by readings. -/
theorem session_readings_keeps (readings : List Reading) {state : σ} (h : kept state) :
    kept (session (Reading.calls readings) state).2 := by
  induction readings generalizing state with
  | nil => exact h
  | cons reading readings ih =>
    obtain ⟨β, step, value, hcall⟩ := reading.exists_call_eq_logged
    have hrun := processFrom_keeps hkeeps step reading.asked 0 value h
    have hstate : (call state reading.call).2 =
        (process (accepting step) reading.asked value state).state := by
      rw [hcall, process_logging]
      rfl
    rw [← process, ← hstate] at hrun
    exact ih hrun

end Keeps

/-! ## Sources that are read to their end -/

/-- A source hands out these frames and then ends, with an error if it fails. The end is met
by every step from there on; only a failure of the stream may be followed by another end,
and by no frame either. -/
inductive Drains : σ → List Frame → Option Error → Prop where
  /-- There are no more frames. -/
  | finished {state next : σ} (h : advance state = .finished next)
      (hagain : advance next = .finished next) : Drains state [] none
  /-- The source cannot go on. -/
  | failed {state next : σ} {error : Error} (h : advance state = .failed error next)
      (hagain : advance next = .failed error next) : Drains state [] (some error)
  /-- The stream of the source fails, and is over behind that. -/
  | interrupted {state next : σ} {failure : Option Error}
      (h : advance state = .failed streamError next) (hnext : Drains next [] failure) :
      Drains state [] (some streamError)
  /-- A frame is handed out, with others behind it. -/
  | frame {state refused taken : σ} {frame : Frame} {frames : List Frame}
      {failure : Option Error} (h : advance state = .frame frame refused taken)
      (hrest : Drains taken frames failure) : Drains state (frame :: frames) failure

namespace Drains

variable {state : σ} {frames : List Frame} {failure : Option Error}

/-- Where the next step is the same, so is all that comes. -/
theorem of_advance_eq {other : σ} (h : Drains other frames failure)
    (hadvance : advance state = advance other) : Drains state frames failure := by
  cases h with
  | finished h hagain => exact .finished (hadvance.trans h) hagain
  | failed h hagain => exact .failed (hadvance.trans h) hagain
  | interrupted h hnext => exact .interrupted (hadvance.trans h) hnext
  | frame h hrest => exact .frame (hadvance.trans h) hrest

/-- A source that takes the same steps as another drains as it does. -/
theorem map {τ : Type} [CaptureSource τ] {f : σ → τ}
    (hsteps : ∀ state, advance (f state) = (advance state).map f)
    (h : Drains state frames failure) : Drains (f state) frames failure := by
  induction h with
  | finished h hagain => exact .finished (by rw [hsteps, h]; rfl) (by rw [hsteps, hagain]; rfl)
  | failed h hagain => exact .failed (by rw [hsteps, h]; rfl) (by rw [hsteps, hagain]; rfl)
  | interrupted h _ ih => exact .interrupted (by rw [hsteps, h]; rfl) ih
  | frame h _ ih => exact .frame (by rw [hsteps, h]; rfl) ih

/-- A source at its end is left at its end, and at the same unless its stream has failed. -/
theorem exists_end (h : Drains state [] failure) :
    ∃ next again, advance state = failure.elim (.finished next) (.failed · next) ∧
      Drains next [] again ∧ (failure ≠ some streamError → again = failure) := by
  cases h with
  | finished h hagain => exact ⟨_, none, h, .finished hagain hagain, fun _ => rfl⟩
  | failed h hagain => exact ⟨_, _, h, .failed hagain hagain, fun _ => rfl⟩
  | interrupted h hnext => exact ⟨_, _, h, hnext, fun hother => absurd rfl hother⟩

/-- A run that refuses nothing is given the frames that are left, as far as it asks for
them, and leaves the others. -/
theorem processFrom_accepting (h : Drains state frames failure) {β : Type}
    (step : β → Frame → β) (asked count : Nat) (log : List Handout) (value : β) :
    ∃ made final again,
      processFrom (logging (accepting step)) asked count (log, value) state =
        ⟨(log ++ taken (frames.take asked), made), final,
          if asked ≤ frames.length then .ok (count + asked)
          else failure.elim (.ok (count + frames.length)) .error⟩ ∧
      Drains final (frames.drop asked) again ∧
      (asked ≤ frames.length ∨ failure ≠ some streamError → again = failure) := by
  induction asked generalizing state frames count log value with
  | zero =>
    refine ⟨value, state, failure, ?_, h, fun _ => rfl⟩
    rw [processFrom, if_pos (Nat.zero_le _), List.take_zero, taken, List.map_nil,
      List.append_nil]
    rfl
  | succ asked ih =>
    cases frames with
    | nil =>
      obtain ⟨next, again, hadvance, hnext, hagain⟩ := h.exists_end
      have hshort : ¬asked + 1 ≤ ([] : List Frame).length := Nat.not_succ_le_zero asked
      refine ⟨value, next, again, ?_, hnext, fun hmet => hagain (hmet.resolve_left hshort)⟩
      rw [processFrom, hadvance, if_neg hshort, List.take_nil, taken, List.map_nil,
        List.append_nil]
      cases failure <;> rfl
    | cons frame frames =>
      cases h with
      | frame hadvance hrest =>
        obtain ⟨made, final, again, hrun, hfinal, hagain⟩ :=
          ih hrest (count + 1) (log ++ [⟨frame, false⟩]) (step value frame)
        refine ⟨made, final, again, ?_, hfinal, ?_⟩
        · rw [processFrom, hadvance]
          simp only [logging, accepting, Option.isSome_none] at hrun ⊢
          rw [hrun]
          simp only [taken, List.take_succ_cons, List.map_cons, List.append_assoc,
            List.singleton_append, List.length_cons, Nat.add_le_add_iff_right,
            Nat.add_right_comm count, Nat.add_assoc]
        · rw [List.length_cons, Nat.add_le_add_iff_right]
          exact hagain

/-- A reading is given the frames that are left, as far as it asks for them. -/
theorem call_reading (h : Drains state frames failure) (reading : Reading) :
    (call state reading.call).1 = outcomeOf frames failure reading.asked ∧
      ∃ again, Drains (call state reading.call).2 (frames.drop reading.asked) again ∧
        (reading.asked ≤ frames.length ∨ failure ≠ some streamError → again = failure) := by
  obtain ⟨β, step, value, hcall⟩ := reading.exists_call_eq_logged
  obtain ⟨made, final, again, hrun, hfinal, hagain⟩ :=
    h.processFrom_accepting step reading.asked 0 [] value
  rw [List.nil_append, Nat.zero_add, Nat.zero_add] at hrun
  rw [hcall, logged, process, hrun]
  exact ⟨rfl, again, hfinal, hagain⟩

/-- Readings are given the frames that are left one after the other. -/
theorem session_readings (h : Drains state frames failure) (readings : List Reading) :
    sessionLog (Reading.calls readings) state =
        taken (frames.take (Reading.total readings)) ∧
      ∃ again, Drains (session (Reading.calls readings) state).2
          (frames.drop (Reading.total readings)) again ∧
        (Reading.total readings ≤ frames.length ∨ failure ≠ some streamError →
          again = failure) := by
  induction readings generalizing state frames failure with
  | nil => exact ⟨rfl, failure, h, fun _ => rfl⟩
  | cons reading readings ih =>
    obtain ⟨hfirst, middle, hmiddle, hsame⟩ := h.call_reading reading
    obtain ⟨hlog, again, hfinal, hagain⟩ := ih hmiddle
    have htotal : Reading.total (reading :: readings) =
        reading.asked + Reading.total readings := List.sum_cons
    rw [htotal]
    refine ⟨?_, again, ?_, ?_⟩
    · have hcons := sessionLog_cons reading.call (Reading.calls readings) state
      rw [hfirst, hlog] at hcons
      rw [List.take_add, taken, List.map_append]
      exact hcons
    · rw [← List.drop_drop]
      exact hfinal
    · rw [List.length_drop] at hagain
      rintro (hless | hother)
      · rw [hagain (.inl (by omega)), hsame (.inl (by omega))]
      · have hmiddle := hsame (.inr hother)
        rw [hagain (.inr (by rw [hmiddle]; exact hother)), hmiddle]

end Drains

/-! ## One run, or many calls -/

/-- Reading a source in pieces comes to the same as reading it at once. -/
structure ReadsInPieces (state : σ) (frames : List Frame) (failure : Option Error) : Prop where
  /-- A single run is given the frames and ends as the source does, if its limit lets it. -/
  whole_eq : ∀ limit,
    (call state (.process acceptAll limit ())).1 = outcomeOf frames failure limit
  /-- Readings together are given as many of the frames as they ask for. -/
  sessionLog_eq : ∀ readings, sessionLog (Reading.calls readings) state =
    taken (frames.take (Reading.total readings))
  /-- A reading behind others is given the frames that they left, and ends as the single run
  does if they are too few; so does every later one unless the stream has failed. -/
  outcome_eq : ∀ readings (reading : Reading),
    Reading.total readings ≤ frames.length ∨ failure ≠ some streamError →
    (call (session (Reading.calls readings) state).2 reading.call).1 =
      outcomeOf (frames.drop (Reading.total readings)) failure reading.asked

/-- What is read to its end is read in pieces. -/
theorem Drains.readsInPieces {state : σ} {frames : List Frame} {failure : Option Error}
    (h : Drains state frames failure) : ReadsInPieces state frames failure where
  whole_eq limit := (h.call_reading (.process (fun _ _ => ()) limit ())).1
  sessionLog_eq readings := (h.session_readings readings).1
  outcome_eq readings reading hmet := by
    obtain ⟨-, again, hfinal, hagain⟩ := h.session_readings readings
    rw [(hfinal.call_reading reading).1, hagain hmet]

end CaptureSource

/-- A queue hands out the frames that wait in it, and ends well. -/
theorem FrameQueue.drains (queue : FrameQueue) : Drains queue queue.waiting none := by
  obtain ⟨metadata, link, waiting, delivered⟩ := queue
  induction waiting generalizing delivered with
  | nil => exact .finished rfl rfl
  | cons frame waiting ih => exact .frame rfl (ih (delivered + 1))

end CaptureFlow
