import CaptureFlow.Proofs.Savefile.Opening

/-!
# Frames that are refused

A queue hands out every frame once, under its own number, whatever its receivers refuse.
A capture file does so only as long as no frame is handed out behind one that was refused.
A frame that was refused is handed out again, under the next number, and is counted again;
the numbers of all frames behind it move on.
-/

namespace CaptureFlow

open CaptureSource

/-- Frames are handed out in their order, each once and under its own number, and all of
them are counted. -/
structure HandsOutOnce (contents : List FrameContent) (log : List Handout)
    (stats : CaptureStats) : Prop where
  /-- A frame is handed out under its own number. -/
  frame_eq : ∀ front handout behind, log = front ++ handout :: behind →
    ∃ content, contents[front.length]? = some content ∧
      handout.frame = content.numbered (front.length + 1)
  /-- The handouts are counted as far as the counter goes. -/
  captured_eq : log.length < UInt32.size → stats.captured.toNat = log.length

/-- Frames are handed out in their order, each until it is not refused. All handouts are
numbered and counted. -/
structure HandsOutUntilTaken (contents : List FrameContent) (log : List Handout)
    (stats : CaptureStats) : Prop where
  /-- A handout is numbered by its place, and its frame by those that were taken before. -/
  frame_eq : ∀ front handout behind, log = front ++ handout :: behind →
    ∃ content, contents[front.countP fun earlier => !earlier.isRefused]? = some content ∧
      handout.frame = content.numbered (front.length + 1)
  /-- Behind a frame that was refused, the same frame is handed out under the next number. -/
  again : ∀ front refused handout behind, log = front ++ refused :: handout :: behind →
    refused.isRefused = true →
      handout.frame = refused.frame.content.numbered (refused.frame.number + 1)
  /-- The handouts are counted as far as the counter goes. -/
  captured_eq : log.length < UInt32.size → stats.captured.toNat = log.length

/-- If the frame of a handout is told by the number of frames taken before, then a refused
one is followed by the same frame under the next number. -/
theorem frame_again {contents : List FrameContent} {log : List Handout}
    (hframe : ∀ front handout behind, log = front ++ handout :: behind →
      ∃ content, contents[front.countP fun earlier => !earlier.isRefused]? = some content ∧
        handout.frame = content.numbered (front.length + 1))
    {front behind : List Handout} {refused handout : Handout}
    (hlog : log = front ++ refused :: handout :: behind) (hrefused : refused.isRefused = true) :
    handout.frame = refused.frame.content.numbered (refused.frame.number + 1) := by
  have hnext : log = (front ++ [refused]) ++ handout :: behind := by
    rw [hlog, List.append_assoc]
    rfl
  -- A refused frame is not counted among the ones taken, so the same place is due again.
  have hplace : (front ++ [refused]).countP (fun earlier => !earlier.isRefused) =
      front.countP fun earlier => !earlier.isRefused := by
    rw [List.countP_append, List.countP_singleton, hrefused]
    rfl
  obtain ⟨content, hcontent, hfirst⟩ := hframe front refused (handout :: behind) hlog
  obtain ⟨same, hsame, hsecond⟩ := hframe (front ++ [refused]) handout behind hnext
  rw [hplace, hcontent] at hsame
  cases hsame
  rw [hfirst, hsecond, List.length_append, List.length_singleton]
  rfl

/-- Frames that are all distinct are handed out once only if none is handed out behind a
refused one, since that is the same again. -/
theorem HandsOutUntilTaken.refusedLast {contents : List FrameContent} {log : List Handout}
    {stats : CaptureStats} (h : HandsOutUntilTaken contents log stats)
    (honce : HandsOutOnce contents log stats) (hdistinct : contents.Nodup) :
    RefusedLast log := by
  apply List.pairwise_iff_getElem.mpr
  intro i j hi hj hless
  apply Bool.eq_false_iff.mpr
  intro hrefused
  have hnext : i + 1 < log.length := by omega
  have hlength : (log.take i).length = i := by
    rw [List.length_take]
    omega
  have hsplit : log = log.take i ++ log[i] :: log[i + 1] :: log.drop (i + 2) := by
    rw [← List.drop_eq_getElem_cons hnext, ← List.drop_eq_getElem_cons hi, List.take_append_drop]
  have hbehind : log = (log.take i ++ [log[i]]) ++ log[i + 1] :: log.drop (i + 2) := by
    rw [List.append_assoc, List.singleton_append]
    exact hsplit
  obtain ⟨content, hcontent, hframe⟩ := honce.frame_eq _ _ _ hsplit
  obtain ⟨later, hlater, hlaterFrame⟩ := honce.frame_eq _ _ _ hbehind
  have hagain := h.again _ _ _ _ hsplit hrefused
  rw [List.length_append, List.length_singleton, hlength] at hlater
  rw [hlength] at hcontent
  rw [hlaterFrame, hframe] at hagain
  have hsame : later = content := congrArg Frame.content hagain
  rw [hsame] at hlater
  obtain ⟨hfirst, hfirstEq⟩ := List.getElem?_eq_some_iff.mp hcontent
  obtain ⟨hsecond, hsecondEq⟩ := List.getElem?_eq_some_iff.mp hlater
  have hne := List.pairwise_iff_getElem.mp hdistinct i (i + 1) hfirst hsecond (Nat.lt_succ_self i)
  exact hne (hfirstEq.trans hsecondEq.symm)

/-- The counters of frames tell their number as far as they go. -/
theorem CaptureStats.toNat_captured_ofCount {count : Nat} (h : count < UInt32.size) :
    (CaptureStats.ofCount count).captured.toNat = count :=
  UInt32.toNat_ofNat_of_lt' h

/-- The queue in which frames wait, numbered from one. -/
def FrameQueue.ofContents (metadata : CaptureMetadata) (link : LinkType)
    (contents : List FrameContent) : FrameQueue :=
  ⟨metadata, link, numberedFrom 1 contents, 0⟩

/-- The frames that wait in a queue are the ones that it was made of. -/
theorem FrameQueue.holds_ofContents (metadata : CaptureMetadata) (link : LinkType)
    (contents : List FrameContent) : (ofContents metadata link contents).Holds contents 0 :=
  ⟨rfl, rfl⟩

/-- A queue hands out every frame once, whatever is refused. -/
theorem FrameQueue.handsOutOnce (metadata : CaptureMetadata) (link : LinkType)
    (contents : List FrameContent) (calls : List Call) :
    HandsOutOnce contents (sessionLog calls (ofContents metadata link contents))
      (stats (session calls (ofContents metadata link contents)).2) := by
  obtain ⟨final, hhands, hfinal⟩ :=
    FrameQueue.handsOutHeld.hands_session calls (holds_ofContents metadata link contents)
  constructor
  · intro front handout behind hlog
    have hframe := hhands.frame_eq hlog
    rw [Hands.gone_false, Nat.zero_add] at hframe
    exact hframe
  · intro hlength
    have hdelivered := hfinal.delivered_eq
    rw [Nat.zero_add] at hdelivered
    have hstats : stats (session calls (ofContents metadata link contents)).2 =
        .ofCount (sessionLog calls (ofContents metadata link contents)).length :=
      congrArg CaptureStats.ofCount hdelivered
    rw [hstats, CaptureStats.toNat_captured_ofCount hlength]

namespace Savefile.File

variable {file : File} {contents : List FrameContent}

/-- A file hands out every frame until it is not refused. -/
theorem handsOutUntilTaken (h : file.Holds contents 0) (calls : List Call) :
    HandsOutUntilTaken contents (sessionLog calls file) (stats (session calls file).2) := by
  obtain ⟨final, hhands, hfinal⟩ := handsOutHeld.hands_session calls h
  have hframe : ∀ front handout behind, sessionLog calls file = front ++ handout :: behind →
      ∃ content, contents[front.countP fun earlier => !earlier.isRefused]? = some content ∧
        handout.frame = content.numbered (front.length + 1) := by
    intro front handout behind hlog
    have hplace := hhands.frame_eq hlog
    rw [Nat.zero_add] at hplace
    exact hplace
  refine ⟨hframe, fun _ _ _ _ hlog hrefused => frame_again hframe hlog hrefused, ?_⟩
  intro hlength
  rw [stats_of_holds hfinal, Nat.zero_add]
  have hmin : min (sessionLog calls file).length (UInt32.size - 1) =
      (sessionLog calls file).length := by
    omega
  rw [hmin, CaptureStats.toNat_captured_ofCount hlength]

/-- A session with a file that is written in one of the formats hands out every frame until
it is not refused, and one with a queue that holds the same frames hands out every frame
once. As long as no frame is handed out behind a refused one, the two sessions come to the
same; and if all frames are distinct, the file hands out every frame once only then. -/
theorem session_refusals (layout : Layout) (path : String) (metadata : CaptureMetadata)
    (link : LinkType) (calls : List Call) :
    ∃ file, openAt path (.ok (.octets layout.octets)) = .ok file ∧
      HandsOutUntilTaken layout.contents (sessionLog calls file)
        (stats (session calls file).2) ∧
      HandsOutOnce layout.contents
        (sessionLog calls (FrameQueue.ofContents metadata link layout.contents))
        (stats (session calls (FrameQueue.ofContents metadata link layout.contents)).2) ∧
      (RefusedLast (sessionLog calls file) →
        (session calls file).1 =
            (session calls (FrameQueue.ofContents metadata link layout.contents)).1 ∧
          HandsOutOnce layout.contents (sessionLog calls file)
            (stats (session calls file).2)) ∧
      (layout.contents.Nodup → HandsOutOnce layout.contents (sessionLog calls file)
        (stats (session calls file).2) → RefusedLast (sessionLog calls file)) := by
  obtain ⟨file, hopen, hholds⟩ := openAt_octets layout path
  have hfile := handsOutUntilTaken hholds calls
  have hqueue := FrameQueue.handsOutOnce metadata link layout.contents calls
  refine ⟨file, hopen, hfile, hqueue, ?_, fun hdistinct honce => hfile.refusedLast honce hdistinct⟩
  intro hlast
  have hsame := handsOutHeld.session_agree FrameQueue.handsOutHeld calls hholds
    (FrameQueue.holds_ofContents metadata link layout.contents) hlast
  have hlog : sessionLog calls file =
      sessionLog calls (FrameQueue.ofContents metadata link layout.contents) :=
    congrArg (List.flatMap CallOutcome.handouts) hsame
  refine ⟨hsame, ?_, hfile.captured_eq⟩
  rw [hlog]
  exact hqueue.frame_eq

/-- Two records of one octet each, the second a second after the first. -/
def twoRecords : Layout :=
  .classic ⟨.little, false, ⟨[2, 0, 4, 0, 0, 0, 0, 0, 0, 0, 0, 0], rfl⟩, 65535, 1⟩
    [⟨1, 0, 1, [10], by decide⟩, ⟨2, 0, 1, [11], by decide⟩]

/-- The first frame of two is refused and handed out again as the second one. -/
theorem twoRecords_again :
    ∃ file, openAt "two" (.ok (.octets twoRecords.octets)) = .ok file ∧
      sessionLog [.process (refuseAll (.flow .noPackets)) 1 (), .next] file =
        [⟨⟨1, 1000000, 1, 1, 1, [10]⟩, true⟩, ⟨⟨2, 1000000, 1, 1, 1, [10]⟩, false⟩] ∧
      ¬HandsOutOnce twoRecords.contents
        (sessionLog [.process (refuseAll (.flow .noPackets)) 1 (), .next] file)
        (stats (session [.process (refuseAll (.flow .noPackets)) 1 (), .next] file).2) := by
  have hcontents : twoRecords.contents =
      [⟨1000000, 1, 1, 1, [10]⟩, ⟨2000000, 1, 1, 1, [11]⟩] := by
    decide
  obtain ⟨file, hopen, hholds⟩ := openAt_octets twoRecords "two"
  rw [hcontents] at hholds ⊢
  have hlog := handsOutHeld.sessionLog_refuse_next (.flow .noPackets) hholds
  refine ⟨file, hopen, hlog, ?_⟩
  intro honce
  obtain ⟨content, hcontent, hframe⟩ := honce.frame_eq [_] _ [] hlog
  have hsecond : content = ⟨2000000, 1, 1, 1, [11]⟩ := (Option.some.inj hcontent).symm
  rw [hsecond] at hframe
  exact absurd (congrArg Frame.timestamp hframe) (by decide)

end Savefile.File

end CaptureFlow
