import CaptureFlow.Capture.Decoding
import CaptureFlow.Capture.Queue
import CaptureFlow.Proofs.Capture.Reading

/-!
# Captures are decoded frame by frame

The decoder that is kept for a framing is the one that would be made for it, and a
framing that is known to be unknown is unknown. So a pass decodes every frame as if it
were the only one, and its counters tell apart the three things that can become of a
frame. Keeping the packets and handing them on are the same pass.
-/

namespace CaptureFlow

/-- Decodes a frame by a decoder made for its own framing. -/
def Decoder.decodeFrame (settings : Decoder) (frame : Frame) : Except DecodeError Packet := do
  let link ← LinkType.ofNumber frame.linkType
  { settings with link }.decodeAllowed frame.timestamp frame.captured frame.wire frame.data

/-- Whether the framing of a frame is known. -/
def Frame.isSupported (frame : Frame) : Bool :=
  (LinkType.ofNumber frame.linkType).toBool

/-! ## The decoder that is kept -/

namespace DecoderCache

/-- The decoder made for the framing with a number, if the framing is known. -/
def fresh (settings : Decoder) (number : UInt16) : Option Decoder :=
  (LinkType.ofNumber number).toOption.map fun link => { settings with link }

/-- What is kept for a framing is what would be made for it. -/
def IsCoherent (cache : DecoderCache) : Prop :=
  ∀ number decoder, cache.current = some (number, decoder) →
    decoder = fresh cache.settings number

/-- A decoder made anew is the one for the framing, and it is kept. -/
theorem renew_eq (cache : DecoderCache) (number : UInt16) :
    cache.renew number = (fresh cache.settings number,
      { cache with current := some (number, fresh cache.settings number) }) := by
  unfold renew fresh
  cases LinkType.ofNumber number <;> rfl

/-- The decoder for a framing is the one made for it, whatever was met before, and what
is kept stays coherent. -/
theorem get_of_isCoherent {cache : DecoderCache} (h : cache.IsCoherent) (number : UInt16) :
    ∃ kept : DecoderCache, cache.get number = (fresh cache.settings number, kept) ∧
      kept.settings = cache.settings ∧ kept.IsCoherent := by
  have hrenew : ∃ kept : DecoderCache,
      cache.renew number = (fresh cache.settings number, kept) ∧
        kept.settings = cache.settings ∧ kept.IsCoherent := by
    refine ⟨_, renew_eq cache number, rfl, ?_⟩
    intro held decoder hcurrent
    cases hcurrent
    rfl
  unfold get
  cases hcurrent : cache.current with
  | none => exact hrenew
  | some entry =>
    obtain ⟨held, decoder⟩ := entry
    dsimp only
    split
    · rename_i hheld
      subst hheld
      exact ⟨cache, by rw [h held decoder hcurrent], rfl, h⟩
    · exact hrenew

end DecoderCache

/-! ## A pass frame by frame -/

/-- A frame that is decoded has a known framing. -/
theorem Frame.isSupported_of_decodeFrame {settings : Decoder} {frame : Frame} {packet : Packet}
    (h : settings.decodeFrame frame = .ok packet) : frame.isSupported = true := by
  unfold Decoder.decodeFrame at h
  unfold isSupported
  cases hlink : LinkType.ofNumber frame.linkType with
  | ok link => rfl
  | error error =>
    rw [hlink] at h
    cases h

/-- The counters with one more frame, which is decoded, rejected or of unknown framing. -/
def CaptureSummary.withFrame (summary : CaptureSummary) (settings : Decoder) (frame : Frame) :
    CaptureSummary where
  frames := summary.frames + 1
  decoded := summary.decoded + (settings.decodeFrame frame).toBool.toNat
  skipped := summary.skipped + (frame.isSupported && !(settings.decodeFrame frame).toBool).toNat
  unsupportedLink := summary.unsupportedLink + (!frame.isSupported).toNat

/-- What has become of the frames of a pass. -/
structure DecodesEach (settings : Decoder) (frames : List Frame) (packets : List Packet)
    (summary : CaptureSummary) : Prop where
  /-- The packets are those of the frames that are decoded, each on its own. -/
  packets_eq : packets = frames.filterMap fun frame => (settings.decodeFrame frame).toOption
  /-- All frames are counted. -/
  frames_eq : summary.frames = frames.length
  /-- The frames that have become packets are counted. -/
  decoded_eq : summary.decoded = packets.length
  /-- The frames of unknown framing are counted. -/
  unsupportedLink_eq : summary.unsupportedLink = frames.countP fun frame => !frame.isSupported
  /-- The frames rejected by the decoder of their framing are counted. -/
  skipped_eq : summary.skipped = frames.countP fun frame =>
    frame.isSupported && !(settings.decodeFrame frame).toBool
  /-- Every frame is counted once. -/
  total : summary.frames = summary.decoded + summary.skipped + summary.unsupportedLink

/-- Nothing has become of no frames. -/
theorem DecodesEach.nil (settings : Decoder) : DecodesEach settings [] [] {} :=
  ⟨rfl, rfl, rfl, rfl, rfl, rfl⟩

/-- One more element is counted or not. -/
theorem countP_concat {α : Type} (p : α → Bool) (xs : List α) (x : α) :
    (xs ++ [x]).countP p = xs.countP p + (p x).toNat := by
  rw [List.countP_append, List.countP_singleton]
  cases p x <;> rfl

/-- What has become of one more frame. -/
theorem DecodesEach.concat {settings : Decoder} {frames : List Frame} {packets : List Packet}
    {summary : CaptureSummary} (h : DecodesEach settings frames packets summary)
    (frame : Frame) :
    DecodesEach settings (frames ++ [frame])
      (packets ++ (settings.decodeFrame frame).toOption.toList)
      (summary.withFrame settings frame) where
  packets_eq := by
    rw [List.filterMap_append, ← h.packets_eq]
    cases hdecoded : settings.decodeFrame frame <;> simp [hdecoded, Except.toOption]
  frames_eq := by
    rw [List.length_append, ← h.frames_eq]
    rfl
  decoded_eq := by
    rw [List.length_append, ← h.decoded_eq]
    cases hdecoded : settings.decodeFrame frame <;>
      simp [CaptureSummary.withFrame, hdecoded, Except.toBool, Except.toOption]
  unsupportedLink_eq := by
    rw [countP_concat, ← h.unsupportedLink_eq]
    rfl
  skipped_eq := by
    rw [countP_concat, ← h.skipped_eq]
    rfl
  total := by
    have htotal := h.total
    have hone : (settings.decodeFrame frame).toBool.toNat +
        (frame.isSupported && !(settings.decodeFrame frame).toBool).toNat +
        (!frame.isSupported).toNat = 1 := by
      cases hdecoded : settings.decodeFrame frame with
      | ok packet => rw [Frame.isSupported_of_decodeFrame hdecoded]; rfl
      | error error => cases frame.isSupported <;> rfl
    simp only [CaptureSummary.withFrame]
    omega

namespace DecodingPass

/-- A pass whose decoder is the one for its framing decodes a frame as if it were the
only one, and stays such a pass. -/
theorem decode_of_isCoherent {pass : DecodingPass} (h : pass.cache.IsCoherent)
    (frame : Frame) :
    ∃ kept : DecoderCache, kept.settings = pass.cache.settings ∧ kept.IsCoherent ∧
      pass.decode frame = ((pass.cache.settings.decodeFrame frame).toOption,
        ⟨kept, pass.summary.withFrame pass.cache.settings frame⟩) := by
  obtain ⟨kept, hget, hsettings, hcoherent⟩ :=
    DecoderCache.get_of_isCoherent h frame.linkType
  refine ⟨kept, hsettings, hcoherent, ?_⟩
  unfold decode CaptureSummary.withFrame Frame.isSupported Decoder.decodeFrame
  rw [hget, DecoderCache.fresh]
  cases LinkType.ofNumber frame.linkType with
  | error error => rfl
  | ok link =>
    simp only [Except.toOption, Option.map_some, bind, Except.bind]
    cases Decoder.decodeAllowed { pass.cache.settings with link } frame.timestamp
      frame.captured frame.wire frame.data <;> rfl

/-- What a receiver makes of the packet of a frame, if there is one, and the pass behind
the frame. -/
def handOn {β : Type} (receive : β → Packet → β) (state : β × DecodingPass) (frame : Frame) :
    β × DecodingPass :=
  ((state.2.decode frame).1.toList.foldl receive state.1, (state.2.decode frame).2)

/-- Keeping packets is handing them to an array. -/
theorem keep_eq : keep = fun state frame => (handOn Array.push state frame, none) := by
  funext ⟨packets, pass⟩ frame
  rw [keep, handOn]
  cases pass.decode frame with
  | mk packet next => cases packet <;> rfl

/-- A receiver that refuses no packet makes of a frame what it makes of its packet. -/
theorem handTo_eq {β : Type} {receive : β → Packet → β × Option Error}
    (h : ∀ value packet, (receive value packet).2 = none) :
    handTo receive =
      fun state frame => (handOn (fun value packet => (receive value packet).1) state frame, none) := by
  funext ⟨value, pass⟩ frame
  rw [handTo, handOn]
  cases pass.decode frame with
  | mk packet next =>
    cases packet with
    | none => rfl
    | some packet => exact congrArg (Prod.mk ((receive value packet).1, next)) (h value packet)

/-- A pass hands on the packets of frames that are decoded each on its own. -/
theorem foldl_handOn {β : Type} {receive : β → Packet → β} {settings : Decoder}
    (pass : DecodingPass) (hcoherent : pass.cache.IsCoherent)
    (hsettings : pass.cache.settings = settings) {before : List Frame} {packets : List Packet}
    (hbefore : DecodesEach settings before packets pass.summary) (frames : List Frame)
    (value : β) :
    ∃ (handed : List Packet) (final : DecodingPass),
      frames.foldl (handOn receive) (value, pass) = (handed.foldl receive value, final) ∧
        DecodesEach settings (before ++ frames) (packets ++ handed) final.summary := by
  induction frames generalizing pass before packets value with
  | nil =>
    refine ⟨[], pass, rfl, ?_⟩
    rw [List.append_nil, List.append_nil]
    exact hbefore
  | cons frame frames ih =>
    obtain ⟨kept, hkept, hkeptCoherent, hdecode⟩ := decode_of_isCoherent hcoherent frame
    rw [hsettings] at hkept hdecode
    have hstep := hbefore.concat frame
    obtain ⟨handed, final, hfold, hfinal⟩ :=
      ih ⟨kept, pass.summary.withFrame settings frame⟩ hkeptCoherent hkept hstep
        ((settings.decodeFrame frame).toOption.toList.foldl receive value)
    refine ⟨(settings.decodeFrame frame).toOption.toList ++ handed, final, ?_, ?_⟩
    · rw [List.foldl_cons, handOn, hdecode, List.foldl_append]
      exact hfold
    · rw [List.append_assoc, List.append_assoc, List.singleton_append] at hfinal
      exact hfinal

/-- A pass over frames hands on their packets and counts what became of them. -/
theorem foldl_handOn_start {β : Type} (receive : β → Packet → β) (settings : Decoder)
    (frames : List Frame) (value : β) :
    ∃ (packets : List Packet) (final : DecodingPass),
      frames.foldl (handOn receive) (value, start settings) =
          (packets.foldl receive value, final) ∧
        DecodesEach settings frames packets final.summary :=
  foldl_handOn (start settings) (fun _ _ h => nomatch h) rfl (.nil settings) frames value

end DecodingPass

/-- What has become of frames is told by the frames. -/
theorem DecodesEach.unique {settings : Decoder} {frames : List Frame}
    {packets others : List Packet} {summary other : CaptureSummary}
    (h : DecodesEach settings frames packets summary)
    (hother : DecodesEach settings frames others other) : packets = others ∧ summary = other := by
  have hpackets : packets = others := h.packets_eq.trans hother.packets_eq.symm
  refine ⟨hpackets, ?_⟩
  have hframes := h.frames_eq.trans hother.frames_eq.symm
  have hdecoded := h.decoded_eq.trans ((congrArg List.length hpackets).trans hother.decoded_eq.symm)
  have hskipped := h.skipped_eq.trans hother.skipped_eq.symm
  have hunsupported := h.unsupportedLink_eq.trans hother.unsupportedLink_eq.symm
  cases summary
  cases other
  cases hframes
  cases hdecoded
  cases hskipped
  cases hunsupported
  rfl

/-! ## Whole passes -/

namespace CaptureSource

variable {σ : Type} [CaptureSource σ]

/-- A capture keeps the packets of the frames that a source hands out. -/
theorem capture_of_reads (settings : Decoder) {max : Nat} {state next : σ}
    {frames : List Frame} (h : Reads max state frames next) :
    ∃ (packets : List Packet) (summary : CaptureSummary),
      capture settings max state = ⟨(packets.toArray, summary), next, .ok frames.length⟩ ∧
        DecodesEach settings frames packets summary := by
  obtain ⟨packets, final, hfold, heach⟩ :=
    DecodingPass.foldl_handOn_start Array.push settings frames #[]
  have harray : packets.foldl Array.push #[] = packets.toArray :=
    Array.toList_inj.mp (by simp)
  refine ⟨packets, final.summary, ?_, heach⟩
  rw [capture, DecodingPass.keep_eq, process_of_reads _ h, hfold, harray]
  rfl

/-- A scan whose receiver refuses nothing hands on the packets of the frames that a source
hands out. -/
theorem scan_of_reads (settings : Decoder) {max : Nat} {state next : σ} {frames : List Frame}
    (h : Reads max state frames next) {packets : List Packet} {summary : CaptureSummary}
    (heach : DecodesEach settings frames packets summary) {β : Type}
    {receive : β → Packet → β × Option Error}
    (haccepts : ∀ value packet, (receive value packet).2 = none) (value : β) :
    scan settings max receive value state =
      ⟨(packets.foldl (fun value packet => (receive value packet).1) value, summary),
        next, .ok frames.length⟩ := by
  obtain ⟨others, last, hother, hothers⟩ := DecodingPass.foldl_handOn_start
    (fun value packet => (receive value packet).1) settings frames value
  obtain ⟨rfl, hsummary⟩ := hothers.unique heach
  rw [scan, DecodingPass.handTo_eq haccepts, process_of_reads _ h, hother, ← hsummary]
  rfl

/-- What a capture comes to whose frames are each decoded on their own. -/
structure CapturesEach (settings : Decoder) (max : Nat) (state next : σ) (frames : List Frame) :
    Prop where
  /-- The capture reads all frames without failing. -/
  result_eq : (capture settings max state).result = .ok frames.length
  /-- It leaves the source where the frames end. -/
  state_eq : (capture settings max state).state = next
  /-- It keeps the packets of the frames and tells what became of them. -/
  decodes : DecodesEach settings frames (capture settings max state).value.1.toList
    (capture settings max state).value.2
  /-- A scan whose receiver refuses nothing hands on the same packets in the same order
  and tells the same. -/
  scan_eq : ∀ {β : Type} (receive : β → Packet → β × Option Error) (value : β),
    (∀ value packet, (receive value packet).2 = none) →
      scan settings max receive value state =
        ⟨((capture settings max state).value.1.toList.foldl
            (fun value packet => (receive value packet).1) value,
          (capture settings max state).value.2), next, .ok frames.length⟩

/-- Decoding the frames that a source hands out is decoding each of them on its own. -/
theorem capture_decodesEach (settings : Decoder) {max : Nat} {state next : σ}
    {frames : List Frame} (h : Reads max state frames next) :
    CapturesEach settings max state next frames := by
  obtain ⟨packets, summary, hcapture, heach⟩ := capture_of_reads settings h
  have hscan : ∀ {β : Type} (receive : β → Packet → β × Option Error) (value : β),
      (∀ value packet, (receive value packet).2 = none) →
        scan settings max receive value state =
          ⟨(packets.foldl (fun value packet => (receive value packet).1) value, summary),
            next, .ok frames.length⟩ :=
    fun receive value haccepts => scan_of_reads settings h heach haccepts value
  exact {
    result_eq := by rw [hcapture]
    state_eq := by rw [hcapture]
    decodes := by rw [hcapture]; exact heach
    scan_eq := by rw [hcapture]; exact hscan }

/-- A zero octet for each octet of a header of a framing, captured as far as it is told. -/
def blankFrame (number : Nat) (linkType : UInt16) (captured : Nat) : Frame :=
  ⟨number, 0, UInt32.ofNat captured, 16, linkType, List.replicate captured 0⟩

/-- A queue of frames whose framing changes: Ethernet, an unknown one, Ethernet again with
a frame that is cut, cooked, and one frame more. -/
def mixedQueue : FrameQueue :=
  ⟨.ofFile "mixed" 65535, .ethernet, [blankFrame 1 1 16, blankFrame 2 127 16,
    blankFrame 3 1 15, blankFrame 4 113 16, blankFrame 5 1 16], 0⟩

/-- Of the first four frames of a mixed queue two are decoded, one is rejected, and one
has an unknown framing. -/
theorem capture_mixedQueue :
    ∃ next frames, Reads 4 mixedQueue frames next ∧
      CapturesEach {} 4 mixedQueue next frames ∧ next.waiting = [blankFrame 5 1 16] ∧
      (capture {} 4 mixedQueue).value.2 = ⟨4, 2, 1, 1⟩ := by
  have hreads : Reads 4 mixedQueue (mixedQueue.waiting.take 4)
      { mixedQueue with waiting := [blankFrame 5 1 16], delivered := 4 } :=
    .take rfl (.take rfl (.take rfl (.take rfl (.stop _))))
  exact ⟨_, _, hreads, capture_decodesEach {} hreads, rfl, by decide⟩

end CaptureSource

end CaptureFlow
