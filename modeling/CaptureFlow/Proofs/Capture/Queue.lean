import CaptureFlow.Proofs.Capture.Numbering

/-!
# Filling and reading a queue

Frames may be put into a queue at any time: in front of its calls, between them, and behind a call
whose receiver refused a frame. The frames that were handed out and those that are waiting are
always the ones that were put in, in their order and numbered from one.
-/

namespace CaptureFlow

open CaptureSource

/-! ## Numbers and contents -/

/-- Frames that are numbered have the contents that they were made of. -/
theorem map_content_numberedFrom (number : Nat) (contents : List FrameContent) :
    (numberedFrom number contents).map Frame.content = contents := by
  induction contents generalizing number with
  | nil => rfl
  | cons content contents ih => rw [numberedFrom, List.map_cons, ih]; rfl

/-- The number of a frame tells its place. -/
theorem getElem?_numberedFrom (number place : Nat) (contents : List FrameContent) :
    (numberedFrom number contents)[place]? =
      contents[place]?.map fun content => content.numbered (number + place) := by
  induction contents generalizing number place with
  | nil => rfl
  | cons content contents ih =>
    cases place with
    | zero => rfl
    | succ place =>
      rw [numberedFrom, List.getElem?_cons_succ, ih, List.getElem?_cons_succ, Nat.add_assoc,
        Nat.add_comm 1]

/-- Where refused frames are let go, the first frames held are handed out, numbered one after the
other, and the others are left. -/
theorem Hands.exists_front {left final : List FrameContent} {delivered : Nat} {log : List Handout}
    (h : Hands false left delivered log final) :
    ∃ front, left = front ++ final ∧
      log.map Handout.frame = numberedFrom (delivered + 1) front := by
  induction log generalizing left delivered with
  | nil =>
    cases h
    exact ⟨[], rfl, rfl⟩
  | cons handout log ih =>
    cases h with
    | cons hrest =>
      rename_i content left isRefused
      obtain ⟨front, hleft, hframes⟩ := ih hrest
      refine ⟨content :: front, ?_, ?_⟩
      · rw [List.cons_append, ← hleft]; rfl
      · rw [List.map_cons, hframes]; rfl

namespace FrameQueue

/-! ## Operations -/

/-- What is done with a queue. -/
inductive Operation : Type 1 where
  /-- A frame that was captured whole is put into it. -/
  | push (timestamp : Timestamp) (data : Bytes)
  /-- A frame of which a part was captured is put into it. -/
  | pushCut (timestamp : Timestamp) (wire : UInt32) (data : Bytes)
  /-- It is called for frames. -/
  | call (request : Call)

/-- The frames that an operation puts into a queue with a framing, but for their numbers. -/
def Operation.contents (link : LinkType) : Operation → List FrameContent
  | push timestamp data =>
    [⟨timestamp, UInt32.ofNat data.length, UInt32.ofNat data.length, link.number, data⟩]
  | pushCut timestamp wire data =>
    [⟨timestamp, UInt32.ofNat data.length, wire, link.number, data⟩]
  | call _ => []

/-- The frames that are handed out by an operation, refused or not, and the queue that it leads
to. -/
def operate (queue : FrameQueue) : Operation → List Frame × FrameQueue
  | .push timestamp data => ([], queue.push timestamp data)
  | .pushCut timestamp wire data => ([], queue.pushCut timestamp wire data)
  | .call request =>
    let (outcome, queue) := CaptureSource.call queue request
    (outcome.handouts.map Handout.frame, queue)

/-- The frames that are handed out by operations one after the other, and the queue that they
lead to. -/
def operateAll : List Operation → FrameQueue → List Frame × FrameQueue
  | [], queue => ([], queue)
  | operation :: operations, queue =>
    let (frames, queue) := queue.operate operation
    let (others, queue) := operateAll operations queue
    (frames ++ others, queue)

/-! ## What operations keep -/

/-- The framing of a queue and the frames that are waiting in it. -/
structure HoldsFramed (link : LinkType) (queue : FrameQueue) (left : List FrameContent)
    (delivered : Nat) : Prop where
  /-- The frames are numbered behind those that were handed out. -/
  holds : queue.Holds left delivered
  /-- The framing of the frames that are put in. -/
  link_eq : queue.link = link

/-- A queue keeps its framing when it hands out a frame. -/
theorem link_of_advance_frame {queue refused taken : FrameQueue} {frame : Frame}
    (h : queue.advance = .frame frame refused taken) :
    refused.link = queue.link ∧ taken.link = queue.link := by
  unfold advance at h
  split at h
  · cases h
  · cases h
    exact ⟨rfl, rfl⟩

/-- A queue keeps its framing when it has no more frames. -/
theorem link_of_advance_finished {queue next : FrameQueue} (h : queue.advance = .finished next) :
    next.link = queue.link := by
  unfold advance at h
  split at h
  · cases h
    rfl
  · cases h

/-- A queue hands out the frames that are waiting in it, and keeps its framing. -/
theorem handsOutFramed (link : LinkType) : HandsOutHeld false (HoldsFramed link) where
  finished := by
    intro queue delivered h
    obtain ⟨next, hadvance, hnext⟩ := handsOutHeld.finished h.holds
    exact ⟨next, hadvance, hnext, (link_of_advance_finished hadvance).trans h.link_eq⟩
  frame := by
    intro queue content left delivered h
    obtain ⟨refused, taken, hadvance, hrefused, htaken⟩ := handsOutHeld.frame h.holds
    obtain ⟨hrefusedLink, htakenLink⟩ := link_of_advance_frame hadvance
    exact ⟨refused, taken, hadvance, ⟨hrefused, hrefusedLink.trans h.link_eq⟩,
      ⟨htaken, htakenLink.trans h.link_eq⟩⟩

section Kept

variable {link : LinkType} {queue : FrameQueue} {left : List FrameContent} {delivered : Nat}

/-- A frame that is put in waits behind the others. -/
theorem HoldsFramed.pushCut (h : HoldsFramed link queue left delivered) (timestamp : Timestamp)
    (wire : UInt32) (data : Bytes) :
    HoldsFramed link (queue.pushCut timestamp wire data)
      (left ++ [⟨timestamp, UInt32.ofNat data.length, wire, link.number, data⟩]) delivered where
  holds := by
    rw [← h.link_eq]
    exact h.holds.pushCut timestamp wire data
  link_eq := h.link_eq

/-- An operation hands out the first of the frames that were waiting or are put in, and leaves the
others. -/
theorem HoldsFramed.operate (h : HoldsFramed link queue left delivered) (operation : Operation) :
    ∃ front final, left ++ operation.contents link = front ++ final ∧
      (queue.operate operation).1 = numberedFrom (delivered + 1) front ∧
      HoldsFramed link (queue.operate operation).2 final (delivered + front.length) := by
  cases operation with
  | push timestamp data => exact ⟨[], _, rfl, rfl, h.pushCut timestamp _ data⟩
  | pushCut timestamp wire data => exact ⟨[], _, rfl, rfl, h.pushCut timestamp wire data⟩
  | call request =>
    obtain ⟨final, hhands, hfinal⟩ := (handsOutFramed link).hands_call request h
    obtain ⟨front, hleft, hframes⟩ := hhands.exists_front
    have hcount := congrArg List.length hframes
    rw [List.length_map, length_numberedFrom] at hcount
    rw [hcount] at hfinal
    exact ⟨front, final, (List.append_nil left).trans hleft, hframes, hfinal⟩

/-- Operations hand out the first of the frames that were waiting or are put in by any of them, and
leave the others. -/
theorem HoldsFramed.operateAll (h : HoldsFramed link queue left delivered)
    (operations : List Operation) :
    ∃ front final, left ++ operations.flatMap (Operation.contents link) = front ++ final ∧
      (FrameQueue.operateAll operations queue).1 = numberedFrom (delivered + 1) front ∧
      HoldsFramed link (FrameQueue.operateAll operations queue).2 final
        (delivered + front.length) := by
  induction operations generalizing queue left delivered with
  | nil => exact ⟨[], left, List.append_nil left, rfl, h⟩
  | cons operation operations ih =>
    obtain ⟨front, middle, hsplit, hframes, hmiddle⟩ := h.operate operation
    obtain ⟨others, final, hrest, hothers, hfinal⟩ := ih hmiddle
    refine ⟨front ++ others, final, ?_, ?_, ?_⟩
    · rw [List.flatMap_cons, ← List.append_assoc, hsplit, List.append_assoc, hrest,
        List.append_assoc]
    · rw [numberedFrom_append, ← hframes, Nat.add_right_comm, ← hothers]
      rfl
    · rw [List.length_append, ← Nat.add_assoc]
      exact hfinal

end Kept

/-! ## What was put in and what was handed out -/

/-- The next frame to be handed out is the one that waits longest, if there is one. -/
theorem next_eq (queue : FrameQueue) : (next queue).1 = .ok queue.waiting.head? := by
  obtain ⟨metadata, link, waiting, delivered⟩ := queue
  cases waiting with
  | nil => rfl
  | cons frame waiting => rfl

/-- What a queue has become into which frames with some contents were put, after the frames
`delivered` were handed out. -/
structure Accounts (contents : List FrameContent) (delivered : List Frame)
    (queue : FrameQueue) : Prop where
  /-- The frames handed out, followed by those that are waiting, are the ones put in. -/
  contents_eq : (delivered ++ queue.waiting).map Frame.content = contents
  /-- They are numbered from one. -/
  number_eq : ∀ place frame, (delivered ++ queue.waiting)[place]? = some frame →
    frame.number = place + 1
  /-- The counters tell how many were handed out, as far as they go. -/
  counted : delivered.length < UInt32.size →
    (stats queue).captured.toNat = delivered.length ∧
      (stats queue).received.toNat = delivered.length
  /-- The next frame to be handed out is the one that waits longest. -/
  next_eq : (next queue).1 = .ok queue.waiting.head?

/-- Whatever is done with a queue that was empty, the frames put into it are handed out or are
waiting, in their order and numbered from one. -/
theorem operateAll_accounts (metadata : CaptureMetadata) (link : LinkType)
    (operations : List Operation) :
    Accounts (operations.flatMap (Operation.contents link))
      (operateAll operations (empty metadata link)).1
      (operateAll operations (empty metadata link)).2 := by
  have hempty : HoldsFramed link (empty metadata link) [] 0 := ⟨⟨rfl, rfl⟩, rfl⟩
  obtain ⟨front, final, hsplit, hframes, hfinal⟩ := hempty.operateAll operations
  have hall : (operateAll operations (empty metadata link)).1 ++
      (operateAll operations (empty metadata link)).2.waiting =
        numberedFrom 1 (operations.flatMap (Operation.contents link)) := by
    rw [hframes, hfinal.holds.waiting_eq, Nat.zero_add, Nat.zero_add, Nat.add_comm,
      ← numberedFrom_append, ← hsplit, List.nil_append]
  have hcount : (operateAll operations (empty metadata link)).2.delivered =
      (operateAll operations (empty metadata link)).1.length := by
    rw [hframes, length_numberedFrom, hfinal.holds.delivered_eq, Nat.zero_add]
  constructor
  · rw [hall, map_content_numberedFrom]
  · intro place frame hframe
    rw [hall, getElem?_numberedFrom] at hframe
    obtain ⟨content, -, rfl⟩ := Option.map_eq_some_iff.mp hframe
    exact Nat.add_comm 1 place
  · intro hlength
    have hstats : stats (operateAll operations (empty metadata link)).2 =
        .ofCount (operateAll operations (empty metadata link)).1.length :=
      congrArg CaptureStats.ofCount hcount
    rw [hstats]
    exact ⟨UInt32.toNat_ofNat_of_lt' hlength, UInt32.toNat_ofNat_of_lt' hlength⟩
  · exact next_eq _

-- The second frame is refused, and the third one is put in behind it.
example :
    let (delivered, queue) := operateAll
      [.push 0 [1], .pushCut 1 9 [2], .call .next,
        .call (.process (refuseAll (.flow .noPackets)) 4 ()), .push 2 [3]]
      (empty (.ofFile "mem" 65535) .ethernet)
    delivered = [⟨1, 0, 1, 1, 1, [1]⟩, ⟨2, 1, 1, 9, 1, [2]⟩] ∧
      queue.waiting = [⟨3, 2, 1, 1, 1, [3]⟩] := by
  decide

end FrameQueue

end CaptureFlow
