import CaptureFlow.Capture.Queue
import CaptureFlow.Proofs.Capture.Reading
import CaptureFlow.Proofs.Capture.Session

/-!
# Numbers of frames

A source hands out the frames that it holds, each under the number of the frames handed
out before it, plus one. What tells sources apart is what they do with a frame that is
refused: some keep it and hand it out again, under the next number, and the others let it
go. A session with either kind is told by the frames held, and the kinds agree for as long
as no frame is handed out behind one that was refused.
-/

namespace CaptureFlow

/-- A frame but for its number. -/
structure FrameContent where
  /-- When it was captured. -/
  timestamp : Timestamp
  /-- The octets captured. -/
  captured : UInt32
  /-- The octets on the wire. -/
  wire : UInt32
  /-- The number of its framing. -/
  linkType : UInt16
  /-- The data, which padding may follow. -/
  data : Bytes
  deriving DecidableEq

/-- The frame with a content and a number. -/
def FrameContent.numbered (content : FrameContent) (number : Nat) : Frame :=
  ⟨number, content.timestamp, content.captured, content.wire, content.linkType, content.data⟩

/-- The content of a frame. -/
def Frame.content (frame : Frame) : FrameContent :=
  ⟨frame.timestamp, frame.captured, frame.wire, frame.linkType, frame.data⟩

/-- Frames that are numbered one after the other. -/
def numberedFrom (number : Nat) : List FrameContent → List Frame
  | [] => []
  | content :: contents => content.numbered number :: numberedFrom (number + 1) contents

/-- Numbers go on behind the frames in front. -/
theorem numberedFrom_append (number : Nat) (front behind : List FrameContent) :
    numberedFrom number (front ++ behind) =
      numberedFrom number front ++ numberedFrom (number + front.length) behind := by
  induction front generalizing number with
  | nil => rfl
  | cons content front ih =>
    rw [List.cons_append, numberedFrom, numberedFrom, ih, List.cons_append, List.length_cons,
      Nat.add_right_comm, Nat.add_assoc]

/-- Every frame is numbered. -/
theorem length_numberedFrom (number : Nat) (contents : List FrameContent) :
    (numberedFrom number contents).length = contents.length := by
  induction contents generalizing number with
  | nil => rfl
  | cons content contents ih => rw [numberedFrom, List.length_cons, List.length_cons, ih]

/-! ## Handing out frames -/

/-- The handouts of a source that holds the frames `left` and has handed out `delivered`
frames already, and the frames that it holds after them. A source that `keeps` refused
frames still holds them. -/
inductive Hands (keeps : Bool) :
    List FrameContent → Nat → List Handout → List FrameContent → Prop where
  /-- No frame is handed out. -/
  | nil (left : List FrameContent) (delivered : Nat) : Hands keeps left delivered [] left
  /-- The first frame is handed out. -/
  | cons {content : FrameContent} {left final : List FrameContent} {delivered : Nat}
      {isRefused : Bool} {log : List Handout}
      (h : Hands keeps (if keeps && isRefused then content :: left else left)
        (delivered + 1) log final) :
      Hands keeps (content :: left) delivered
        (⟨content.numbered (delivered + 1), isRefused⟩ :: log) final

namespace Hands

variable {keeps : Bool} {left middle final : List FrameContent} {delivered : Nat}
  {log behind : List Handout}

/-- Handouts are followed by those of the frames that they leave. -/
theorem append (h : Hands keeps left delivered log middle)
    (hbehind : Hands keeps middle (delivered + log.length) behind final) :
    Hands keeps left delivered (log ++ behind) final := by
  induction h with
  | nil left delivered => exact hbehind
  | cons h ih =>
    apply Hands.cons
    apply ih
    rw [List.length_cons] at hbehind
    rw [Nat.add_right_comm]
    exact hbehind

/-- The number of frames that a source no longer holds after some handouts. -/
def gone (keeps : Bool) (log : List Handout) : Nat :=
  log.countP fun handout => !(keeps && handout.isRefused)

/-- A source that lets refused frames go holds none of those that it handed out. -/
theorem gone_false (log : List Handout) : gone false log = log.length := by
  rw [gone, List.countP_eq_length]
  intro handout _
  rfl

/-- One more handout takes a frame away unless it is kept. -/
theorem drop_gone_cons (content : FrameContent) (left : List FrameContent) (handout : Handout)
    (log : List Handout) :
    (content :: left).drop (gone keeps (handout :: log)) =
      (if keeps && handout.isRefused then content :: left else left).drop (gone keeps log) := by
  rw [gone, List.countP_cons, gone]
  cases keeps && handout.isRefused <;> simp

/-- Every frame is handed out under the number of its handout, and it is the first of those
that were left by the handouts before. -/
theorem frame_eq (h : Hands keeps left delivered log final) {front : List Handout}
    {handout : Handout} (hlog : log = front ++ handout :: behind) :
    ∃ content, left[gone keeps front]? = some content ∧
      handout.frame = content.numbered (delivered + front.length + 1) := by
  induction h generalizing front with
  | nil left delivered =>
    have hlength := congrArg List.length hlog
    rw [List.length_append, List.length_cons, List.length_nil] at hlength
    omega
  | cons h ih =>
    rename_i content left final delivered isRefused log
    cases front with
    | nil =>
      rw [List.nil_append] at hlog
      cases hlog
      exact ⟨content, rfl, rfl⟩
    | cons first front =>
      rw [List.cons_append] at hlog
      injection hlog with hfirst hrest
      subst hfirst
      obtain ⟨content', hcontent, hframe⟩ := ih hrest
      refine ⟨content', ?_, ?_⟩
      · rw [← List.head?_drop] at hcontent ⊢
        rw [drop_gone_cons]
        exact hcontent
      · have hnumber : delivered + 1 + front.length + 1 = delivered + (front.length + 1) + 1 := by
          omega
        rw [hframe, List.length_cons, hnumber]

end Hands

/-! ## Sources that hold frames -/

open CaptureSource

/-- The source hands out the frames that it holds. `Holds state left delivered` tells which
frames it holds in a state and how many it has handed out. -/
structure HandsOutHeld {σ : Type} [CaptureSource σ] (keeps : Bool)
    (Holds : σ → List FrameContent → Nat → Prop) : Prop where
  /-- A source that holds no frame is at its end. -/
  finished : ∀ {state delivered}, Holds state [] delivered →
    ∃ next, advance state = .finished next ∧ Holds next [] delivered
  /-- The first frame held is handed out under the next number. -/
  frame : ∀ {state content left delivered}, Holds state (content :: left) delivered →
    ∃ refused taken, advance state = .frame (content.numbered (delivered + 1)) refused taken ∧
      Holds refused (if keeps then content :: left else left) (delivered + 1) ∧
      Holds taken left (delivered + 1)

namespace HandsOutHeld

variable {σ : Type} [CaptureSource σ] {keeps : Bool}
  {Holds : σ → List FrameContent → Nat → Prop} {left : List FrameContent} {delivered : Nat}

/-- A run hands out the frames held one after the other, until it is told to stop. -/
theorem hands_processFrom (source : HandsOutHeld keeps Holds) {β : Type} (receive : Receiver β)
    (max count : Nat) (log : List Handout) (value : β) {state : σ}
    (h : Holds state left delivered) :
    ∃ handed final,
      (processFrom (logging receive) max count (log, value) state).value.1 = log ++ handed ∧
      Hands keeps left delivered handed final ∧
      Holds (processFrom (logging receive) max count (log, value) state).state final
        (delivered + handed.length) := by
  induction max generalizing count log value state left delivered with
  | zero => exact ⟨[], left, (List.append_nil log).symm, .nil left delivered, h⟩
  | succ max ih =>
    cases left with
    | nil =>
      obtain ⟨next, hadvance, hnext⟩ := source.finished h
      rw [processFrom, hadvance]
      exact ⟨[], [], (List.append_nil log).symm, .nil [] delivered, hnext⟩
    | cons content left =>
      obtain ⟨refused, taken, hadvance, hrefused, htaken⟩ := source.frame h
      rw [processFrom, hadvance]
      cases hreceive : receive value (content.numbered (delivered + 1)) with
      | mk made refusal =>
        cases refusal with
        | none =>
          obtain ⟨handed, final, hvalue, hhands, hstate⟩ :=
            ih (count + 1) (log ++ [⟨content.numbered (delivered + 1), false⟩]) made htaken
          simp only [logging, hreceive, Option.isSome_none]
          refine ⟨⟨content.numbered (delivered + 1), false⟩ :: handed, final, ?_, .cons ?_, ?_⟩
          · rw [hvalue, List.append_assoc, List.singleton_append]
          · rw [Bool.and_false]
            exact hhands
          · rw [List.length_cons, ← Nat.add_assoc, Nat.add_right_comm]
            exact hstate
        | some error =>
          simp only [logging, hreceive, Option.isSome_some]
          refine ⟨[⟨content.numbered (delivered + 1), true⟩],
            if keeps then content :: left else left, rfl, .cons ?_, hrefused⟩
          rw [Bool.and_true]
          exact .nil _ _

/-- A call hands out the frames held one after the other. -/
theorem hands_call (source : HandsOutHeld keeps Holds) (request : Call) {state : σ}
    (h : Holds state left delivered) :
    ∃ final, Hands keeps left delivered (call state request).1.handouts final ∧
      Holds (call state request).2 final
        (delivered + (call state request).1.handouts.length) := by
  obtain ⟨β, receive, max, value, hcall⟩ := exists_call_eq_logged request
  obtain ⟨handed, final, hvalue, hhands, hstate⟩ :=
    source.hands_processFrom receive max 0 [] value h
  rw [List.nil_append] at hvalue
  rw [← hvalue] at hhands hstate
  rw [hcall]
  exact ⟨final, hhands, hstate⟩

/-- A call that asks for a frame is given one if there is one. -/
theorem logged_ne_nil (source : HandsOutHeld keeps Holds) {β : Type} (receive : Receiver β)
    (max : Nat) (value : β) {content : FrameContent} {state : σ}
    (h : Holds state (content :: left) delivered) :
    (logged receive (max + 1) value state).1.handouts ≠ [] := by
  obtain ⟨refused, taken, hadvance, -, htaken⟩ := source.frame h
  rw [logged, process, processFrom, hadvance]
  cases hreceive : receive value (content.numbered (delivered + 1)) with
  | mk made refusal =>
    simp only [logging, hreceive, List.nil_append]
    cases refusal with
    | some error => exact List.cons_ne_nil _ _
    | none =>
      obtain ⟨handed, final, hvalue, -⟩ := source.hands_processFrom receive max (0 + 1)
        [⟨content.numbered (delivered + 1), false⟩] made htaken
      rw [Option.isSome_none, hvalue]
      exact List.cons_ne_nil _ _

/-- A source that is read hands out the frames that it holds, numbered one after the
other. -/
theorem exists_reads (source : HandsOutHeld keeps Holds) (max : Nat) {state : σ}
    (h : Holds state left delivered) :
    ∃ next, Reads max state (numberedFrom (delivered + 1) (left.take max)) next ∧
      Holds next (left.drop max) (delivered + (left.take max).length) := by
  induction max generalizing state left delivered with
  | zero => exact ⟨state, .stop state, h⟩
  | succ max ih =>
    cases left with
    | nil =>
      obtain ⟨next, hadvance, hnext⟩ := source.finished h
      exact ⟨next, .finish hadvance, hnext⟩
    | cons content left =>
      obtain ⟨refused, taken, hadvance, -, htaken⟩ := source.frame h
      obtain ⟨next, hreads, hnext⟩ := ih htaken
      refine ⟨next, .take hadvance hreads, ?_⟩
      rw [List.take_succ_cons, List.length_cons, List.drop_succ_cons, ← Nat.add_assoc,
        Nat.add_right_comm]
      exact hnext

/-- A session hands out the frames held one after the other. -/
theorem hands_session (source : HandsOutHeld keeps Holds) (calls : List Call) {state : σ}
    (h : Holds state left delivered) :
    ∃ final, Hands keeps left delivered (sessionLog calls state) final ∧
      Holds (session calls state).2 final (delivered + (sessionLog calls state).length) := by
  induction calls generalizing state left delivered with
  | nil => exact ⟨left, .nil left delivered, h⟩
  | cons first calls ih =>
    obtain ⟨middle, hfirst, hmiddle⟩ := source.hands_call first h
    obtain ⟨final, hrest, hfinal⟩ := ih hmiddle
    rw [sessionLog_cons, List.length_append, ← Nat.add_assoc]
    exact ⟨final, hfirst.append hrest, hfinal⟩

end HandsOutHeld

/-! ## Queues -/

namespace FrameQueue

/-- The frames waiting in a queue are numbered behind those that it has handed out. -/
structure Holds (queue : FrameQueue) (left : List FrameContent) (delivered : Nat) : Prop where
  /-- The frames that are waiting. -/
  waiting_eq : queue.waiting = numberedFrom (delivered + 1) left
  /-- The number of frames handed out. -/
  delivered_eq : queue.delivered = delivered

/-- A frame that is pushed waits behind the others, under the number that is due. -/
theorem Holds.pushCut {queue : FrameQueue} {left : List FrameContent} {delivered : Nat}
    (h : queue.Holds left delivered) (timestamp : Timestamp) (wire : UInt32) (data : Bytes) :
    (queue.pushCut timestamp wire data).Holds
      (left ++ [⟨timestamp, UInt32.ofNat data.length, wire, queue.link.number, data⟩])
      delivered where
  waiting_eq := by
    have hnumber : queue.waiting.length + queue.delivered + 1 = delivered + 1 + left.length := by
      rw [h.waiting_eq, h.delivered_eq, length_numberedFrom]
      omega
    rw [numberedFrom_append, ← h.waiting_eq, ← hnumber]
    rfl
  delivered_eq := h.delivered_eq

/-- A queue hands out the frames that wait in it, and lets refused ones go. -/
theorem handsOutHeld : HandsOutHeld false Holds where
  finished := by
    intro queue delivered h
    refine ⟨queue, ?_, h⟩
    show queue.advance = .finished queue
    rw [advance, h.waiting_eq, numberedFrom]
  frame := by
    intro queue content left delivered h
    have hnext : Holds { queue with
        waiting := numberedFrom (delivered + 2) left, delivered := queue.delivered + 1 }
        left (delivered + 1) :=
      ⟨rfl, congrArg (· + 1) h.delivered_eq⟩
    refine ⟨_, _, ?_, hnext, hnext⟩
    show queue.advance = _
    rw [advance, h.waiting_eq, numberedFrom]

end FrameQueue

/-! ## Sources that keep refused frames, and sources that let them go -/

/-- The receiver that refuses every frame. -/
def refuseAll (error : Error) : Receiver Unit :=
  fun _ _ => ((), some error)

/-- A source that keeps refused frames hands out a refused one again, under the next
number. -/
theorem HandsOutHeld.sessionLog_refuse_next {σ : Type} [CaptureSource σ]
    {Holds : σ → List FrameContent → Nat → Prop} (source : HandsOutHeld true Holds)
    {state : σ} {content : FrameContent} {left : List FrameContent} {delivered : Nat}
    (error : Error) (h : Holds state (content :: left) delivered) :
    sessionLog [.process (refuseAll error) 1 (), .next] state =
      [⟨content.numbered (delivered + 1), true⟩, ⟨content.numbered (delivered + 2), false⟩] := by
  obtain ⟨refused, taken, hadvance, hrefused, -⟩ := source.frame h
  obtain ⟨_, _, hagain, -⟩ := source.frame hrefused
  have hfirst : call state (.process (refuseAll error) 1 ()) =
      (⟨[⟨content.numbered (delivered + 1), true⟩], .error error⟩, refused) := by
    rw [call, logged, process, processFrom, hadvance]
    rfl
  have hsecond : (call refused .next).1.handouts =
      [⟨content.numbered (delivered + 2), false⟩] := by
    rw [call, next, hagain]
    rfl
  rw [sessionLog_cons, sessionLog_cons, hfirst]
  dsimp only
  rw [hsecond]
  rfl

/-- No refused frame is followed by another handout. -/
def RefusedLast (log : List Handout) : Prop :=
  log.Pairwise fun earlier _ => earlier.isRefused = false

section Agreement

variable {σ τ : Type} [CaptureSource σ] [CaptureSource τ]
  {Holds : σ → List FrameContent → Nat → Prop} {Others : τ → List FrameContent → Nat → Prop}
  {left : List FrameContent} {delivered : Nat} {state : σ} {other : τ}

/-- Where two sources stand that have handed out the same frames: they hold the same ones,
or the latest was refused and one of the sources still holds it. -/
inductive Parting (Holds : σ → List FrameContent → Nat → Prop)
    (Others : τ → List FrameContent → Nat → Prop) (log : List Handout) (state : σ)
    (other : τ) : Prop where
  /-- They hold the same frames. -/
  | same (left : List FrameContent) (delivered : Nat) (h : Holds state left delivered)
      (hother : Others other left delivered)
  /-- One of them still holds the frame that was refused. -/
  | kept (content : FrameContent) (left : List FrameContent) (delivered : Nat)
      (h : Holds state (content :: left) delivered)
      (hrefused : ∃ handout ∈ log, handout.isRefused = true)

/-- Runs over the same frames come to the same. -/
theorem HandsOutHeld.processFrom_agree (source : HandsOutHeld true Holds)
    (sibling : HandsOutHeld false Others) {β : Type} (receive : Receiver β) (max count : Nat)
    (log : List Handout) (value : β) (h : Holds state left delivered)
    (hother : Others other left delivered) :
    ∃ run : Run (List Handout × β) σ, ∃ sibling : Run (List Handout × β) τ,
      processFrom (logging receive) max count (log, value) state = run ∧
      processFrom (logging receive) max count (log, value) other = sibling ∧
      run.value = sibling.value ∧ run.result = sibling.result ∧
      Parting Holds Others run.value.1 run.state sibling.state := by
  induction max generalizing count log value state other left delivered with
  | zero => exact ⟨_, _, rfl, rfl, rfl, rfl, .same left delivered h hother⟩
  | succ max ih =>
    cases left with
    | nil =>
      obtain ⟨next, hadvance, hnext⟩ := source.finished h
      obtain ⟨nextOther, hadvanceOther, hnextOther⟩ := sibling.finished hother
      rw [processFrom, processFrom, hadvance, hadvanceOther]
      exact ⟨_, _, rfl, rfl, rfl, rfl, .same [] delivered hnext hnextOther⟩
    | cons content left =>
      obtain ⟨refused, taken, hadvance, hrefused, htaken⟩ := source.frame h
      obtain ⟨_, takenOther, hadvanceOther, _, htakenOther⟩ := sibling.frame hother
      rw [processFrom, processFrom, hadvance, hadvanceOther]
      cases hreceive : receive value (content.numbered (delivered + 1)) with
      | mk made refusal =>
        simp only [logging, hreceive]
        cases refusal with
        | none => exact ih (count + 1) _ made htaken htakenOther
        | some error =>
          refine ⟨_, _, rfl, rfl, rfl, rfl, .kept content left (delivered + 1) hrefused ?_⟩
          exact ⟨_, List.mem_append_right log (List.mem_singleton.mpr rfl), rfl⟩

/-- A call to sources that hold the same frames comes to the same. -/
theorem HandsOutHeld.call_agree (source : HandsOutHeld true Holds)
    (sibling : HandsOutHeld false Others) (request : Call) (h : Holds state left delivered)
    (hother : Others other left delivered) :
    (call state request).1 = (call other request).1 ∧
      Parting Holds Others (call state request).1.handouts
        (call state request).2 (call other request).2 := by
  obtain ⟨β, receive, max, value, hcall⟩ := exists_call_eq_logged request
  obtain ⟨run, siblingRun, hrun, hsibling, hvalue, hresult, hparting⟩ :=
    source.processFrom_agree sibling receive max 0 [] value h hother
  rw [hcall, hcall, logged, logged, process, process, hrun, hsibling, hvalue, hresult]
  rw [hvalue] at hparting
  exact ⟨rfl, hparting⟩

/-- A session that hands out nothing while there is a frame asks for nothing, so it comes to
the same with any source. -/
theorem HandsOutHeld.session_eq_of_nil {keeps : Bool} (source : HandsOutHeld keeps Holds)
    (calls : List Call) {content : FrameContent} (h : Holds state (content :: left) delivered)
    (hlog : sessionLog calls state = []) (other : τ) :
    (session calls state).1 = (session calls other).1 := by
  induction calls generalizing state other with
  | nil => rfl
  | cons first calls ih =>
    rw [sessionLog_cons] at hlog
    obtain ⟨hfirst, hrest⟩ := List.append_eq_nil_iff.mp hlog
    obtain ⟨β, receive, max, value, hcall⟩ := exists_call_eq_logged first
    cases max with
    | zero =>
      have hstate : call state first = (⟨[], .ok 0⟩, state) := hcall state
      have hother : call other first = (⟨[], .ok 0⟩, other) := hcall other
      rw [hstate] at hrest
      rw [session, session, hstate, hother]
      exact congrArg (_ :: ·) (ih h hrest other)
    | succ max =>
      rw [hcall] at hfirst
      exact absurd hfirst (source.logged_ne_nil receive max value h)

/-- Sources that hold the same frames have the same session for as long as no frame is
handed out behind a refused one. -/
theorem HandsOutHeld.session_agree (source : HandsOutHeld true Holds)
    (sibling : HandsOutHeld false Others) (calls : List Call) (h : Holds state left delivered)
    (hother : Others other left delivered) (hlast : RefusedLast (sessionLog calls state)) :
    (session calls state).1 = (session calls other).1 := by
  induction calls generalizing state other left delivered with
  | nil => rfl
  | cons first calls ih =>
    obtain ⟨hfirst, hparting⟩ := source.call_agree sibling first h hother
    rw [RefusedLast, sessionLog_cons] at hlast
    obtain ⟨-, hrest, hbetween⟩ := List.pairwise_append.mp hlast
    have hcalls : (session calls (call state first).2).1 =
        (session calls (call other first).2).1 := by
      cases hparting with
      | same left delivered h hother => exact ih h hother hrest
      | kept content left delivered h hrefused =>
        obtain ⟨handout, hmem, hrefused⟩ := hrefused
        apply source.session_eq_of_nil calls h
        apply List.eq_nil_iff_forall_not_mem.mpr
        intro later hlater
        have hnot := hbetween handout hmem later hlater
        rw [hrefused] at hnot
        cases hnot
    rw [session, session]
    exact congr (congrArg List.cons hfirst) hcalls

end Agreement

end CaptureFlow
