import CaptureFlow.Proofs.Capture.Pieces
import CaptureFlow.Proofs.Savefile.Walk

/-!
# How reading a file ends

Whatever a file holds, its frames come to an end: no more is in view and nothing follows, or
a block cannot be read, or the stream fails. A reader that has met the end of a file or a
block that cannot be read stays there. One whose stream has failed meets no more octets, so
that it has no frame to hand out either. Hence any file, however it is damaged, is read in
pieces as it is read at once.
-/

namespace CaptureFlow

open CaptureSource

/-! ## Streams that have failed -/

/-- A fault of a read is all that a stream had left, but for what its ending goes on to do. -/
theorem Stream.read_error {request : Nat} {stream next : Stream} {fault : ReadFault}
    (h : stream.read request = (.error fault, next)) :
    ∃ ending : Ending, ending.afterRead = ending ∧ next = ⟨[], .last [] ending⟩ := by
  have hlast : ∀ (gathered : Bytes) (ending : Ending),
      readLast request gathered ending = (.error fault, next) →
      ∃ ending : Ending, ending.afterRead = ending ∧ next = ⟨[], .last [] ending⟩ := by
    intro gathered ending h
    unfold readLast at h
    split at h
    · cases h
      exact ⟨ending.afterRead, by cases ending <;> rfl, rfl⟩
    · cases h
  have hgather : ∀ (supply : Supply) (gathered : Bytes),
      gather request gathered supply = (.error fault, next) →
      ∃ ending : Ending, ending.afterRead = ending ∧ next = ⟨[], .last [] ending⟩ := by
    intro supply
    induction supply with
    | stretch octets usesUp rest ih =>
      intro gathered h
      rw [gather] at h
      split at h
      · cases h
      · exact ih _ h
    | last octets ending => exact fun _ => hlast _ _
    | torn octets fault => exact fun _ => hlast _ _
    | broken broken =>
      intro gathered h
      cases h
      exact ⟨.always fault, rfl, rfl⟩
  unfold read at h
  split at h
  · exact hgather _ _ h
  · cases h

namespace Savefile

/-- A window whose stream has failed shows what is in view and nothing behind it. -/
structure Window.IsCut (window : Window) (ending : Ending) : Prop where
  /-- Nothing was read ahead. -/
  ahead_eq : window.ahead = []
  /-- The stream has nothing left but its ending. -/
  stream_eq : window.stream = ⟨[], .last [] ending⟩
  /-- Every read meets the same ending. -/
  afterRead_eq : ending.afterRead = ending

/-- A fill that fails leaves what is in view and cuts off what follows. -/
theorem Window.fill_error {window next : Window} {fault : ReadFault}
    (h : window.fill = (.error fault, next)) :
    next.held = window.held ∧ next.isExhausted = window.isExhausted ∧
      ∃ ending, next.IsCut ending := by
  unfold fill at h
  split at h
  next hahead =>
    split at h
    · cases h
    next hread =>
      cases h
      obtain ⟨ending, hafter, hstream⟩ := Stream.read_error hread
      exact ⟨rfl, rfl, ending, hahead, hstream, hafter⟩
  · cases h

/-- A window that was cut is exhausted by the next fill, or the fill fails and leaves it as it
is. -/
theorem Window.IsCut.fill {window : Window} {ending : Ending} (h : window.IsCut ending) :
    (∃ next, window.fill = (.ok (), next) ∧ next.held = window.held ∧
      next.isExhausted = true) ∨ ∃ fault, window.fill = (.error fault, window) := by
  obtain ⟨held, ahead, stream, isExhausted⟩ := window
  obtain ⟨hahead, hstream, hafter⟩ := h
  dsimp only at hahead hstream
  subst hahead hstream
  cases ending with
  | clean => exact .inl ⟨_, rfl, by simp [shift], by simp [shift]⟩
  | once fault => cases hafter
  | always fault => exact .inr ⟨fault, rfl⟩

namespace Reader

variable (reader : Reader)

/-! ## One turn of a walk -/

/-- The block in front is incomplete, and there is room for what is missing of it. -/
structure AwaitsMore (reader : Reader) (missing : Nat) : Prop where
  /-- So many octets are missing. -/
  front_eq : reader.encoding.front reader.window.held = .incomplete missing
  /-- More may follow. -/
  isExhausted_eq : reader.window.isExhausted = false
  /-- The octets missing fit into the window. -/
  room : reader.window.held.length + missing < capacity

/-- What one turn of a walk over blocks comes to. -/
inductive Turn (reader : Reader) : Advance Reader → Prop where
  /-- The packet in front is handed out. -/
  | delivered {timestamp : Timestamp} {captured wire : UInt32} {data : Bytes} {size : Nat}
      (hheld : reader.window.held ≠ []) :
      Turn reader (reader.deliver timestamp captured wire data size)
  /-- The file is over. -/
  | finished : Turn reader (.finished reader)
  /-- The block in front cannot be read. -/
  | failed {fault : BlockFault} : Turn reader (reader.failed (.block fault))
  /-- The block in front is incomplete, and the stream fails. -/
  | interrupted {missing : Nat} {fault : ReadFault} {window : Window}
      (hawaits : reader.AwaitsMore missing)
      (hfill : reader.window.fill = (.error fault, window)) :
      Turn reader ({ reader with window }.failed .refill)
  /-- The walk goes on with less work left. -/
  | further {next : Reader} (hwork : next.window.work < reader.window.work)
      (htold : reader.encoding.isTold = true → next.encoding.isTold = true) :
      Turn reader next.advanceBlock

/-- A walk takes one of these turns. -/
theorem turn_advanceBlock : reader.Turn reader.advanceBlock := by
  rw [advanceBlock]
  split
  next hfront => exact .delivered (held_ne_nil hfront)
  next hfront => exact .further (Window.work_behind_lt (held_ne_nil hfront) _) fun _ => rfl
  next hfront => exact .further (Window.work_behind_lt (held_ne_nil hfront) _) id
  next hfront => exact .further (Window.work_behind_lt (held_ne_nil hfront) _) id
  · exact .failed
  next missing hfront =>
    split
    · split
      · exact .finished
      · exact .failed
    next hexhausted =>
      have hmore : reader.window.isExhausted = false := Bool.eq_false_iff.mpr hexhausted
      split
      · exact .failed
      next hroom =>
        split
        next hfill => exact .interrupted ⟨hfront, hmore, Nat.lt_of_not_le hroom⟩ hfill
        next hfill => exact .further (Window.work_fill_lt hmore hfill) id

/-- A block that is incomplete where the stream fails is not read. -/
theorem advanceBlock_interrupted {missing : Nat} {fault : ReadFault} {window : Window}
    (h : reader.AwaitsMore missing) (hfill : reader.window.fill = (.error fault, window)) :
    reader.advanceBlock = { reader with window }.failed .refill := by
  rw [advanceBlock]
  split
  all_goals
    rename_i hfront
    rw [h.front_eq] at hfront
    cases hfront
  rw [dif_neg (by rw [h.isExhausted_eq]; exact Bool.false_ne_true),
    if_neg (Nat.not_le.mpr h.room)]
  split
  all_goals
    rename_i hfilled
    rw [hfill] at hfilled
    cases hfilled
  rfl

/-- A block that is incomplete where the file is over is not read, unless nothing is left. -/
theorem advanceBlock_over {missing : Nat}
    (h : reader.encoding.front reader.window.held = .incomplete missing)
    (hexhausted : reader.window.isExhausted = true) :
    reader.advanceBlock = if reader.window.held.isEmpty then .finished reader
      else reader.failed (.block .endOfFile) := by
  rw [advanceBlock]
  split
  all_goals
    rename_i hfront
    rw [h] at hfront
    cases hfront
  rw [dif_pos hexhausted]

/-! ## The end of a walk -/

variable {reader}

/-- A reader whose header is told goes on with the blocks. -/
theorem advance_of_isTold (htold : reader.encoding.isTold = true) :
    CaptureSource.advance reader = reader.advanceBlock := by
  show reader.tellHeader.advanceBlock = reader.advanceBlock
  rw [tellHeader_of_isTold htold]

/-- Once the header is told it stays so. -/
theorem isTold_tellHeader (reader : Reader) : reader.tellHeader.encoding.isTold = true := by
  unfold tellHeader
  split
  · rfl
  next hother =>
    cases hencoding : reader.encoding with
    | classic header told nanoseconds =>
      cases told with
      | true => rfl
      | false => exact absurd hencoding (hother header nanoseconds)
    | blocks order => rfl

/-- A reader at the end of its file stays there. -/
theorem drains_over (htold : reader.encoding.isTold = true) {missing : Nat}
    (h : reader.encoding.front reader.window.held = .incomplete missing)
    (hexhausted : reader.window.isExhausted = true) : ∃ failure, Drains reader [] failure := by
  have hstep := (advance_of_isTold htold).trans (advanceBlock_over reader h hexhausted)
  split at hstep
  · exact ⟨none, .finished hstep hstep⟩
  · exact ⟨_, .failed hstep hstep⟩

/-- A reader whose stream has failed in the middle of a block hands out nothing more. -/
theorem drains_cut (htold : reader.encoding.isTold = true) {missing : Nat}
    (h : reader.AwaitsMore missing) {ending : Ending} (hcut : reader.window.IsCut ending) :
    ∃ failure, Drains reader [] failure := by
  rcases hcut.fill with ⟨next, hfill, hheld, hover⟩ | ⟨fault, hfill⟩
  · let last : Reader := { reader with window := next }
    have hfront : last.encoding.front last.window.held = .incomplete missing := by
      rw [← h.front_eq, ← hheld]
    have htoldLast : last.encoding.isTold = true := htold
    obtain ⟨failure, hdrains⟩ := drains_over htoldLast hfront hover
    refine ⟨failure, hdrains.of_advance_eq ?_⟩
    rw [advance_of_isTold htold,
      advanceBlock_fill reader h.front_eq h.isExhausted_eq h.room hfill]
    exact (advance_of_isTold htoldLast).symm
  · have hstep := (advance_of_isTold htold).trans (advanceBlock_interrupted reader h hfill)
    exact ⟨_, .failed hstep hstep⟩

/-- Every reader whose header is told comes to an end. -/
theorem exists_drains_of_isTold (htold : reader.encoding.isTold = true) :
    ∃ frames failure, Drains reader frames failure := by
  -- every turn, and every frame handed out, leaves less work
  induction hwork : reader.window.work using Nat.strongRecOn generalizing reader with
  | _ work ih =>
    have hadvance := advance_of_isTold htold
    have hturn := reader.turn_advanceBlock
    generalize reader.advanceBlock = step at hadvance hturn
    cases hturn with
    | @delivered timestamp captured wire data size hheld =>
      have hless := Window.work_behind_lt hheld size
      rw [hwork] at hless
      let taken : Reader := { reader with frames := reader.frames + 1 }.behind size
      have htoldTaken : taken.encoding.isTold = true := htold
      obtain ⟨frames, failure, hrest⟩ := ih taken.window.work hless htoldTaken rfl
      exact ⟨_, failure, .frame hadvance hrest⟩
    | finished => exact ⟨[], none, .finished hadvance hadvance⟩
    | failed => exact ⟨[], _, .failed hadvance hadvance⟩
    | @interrupted missing fault window hawaits hfill =>
      obtain ⟨hheld, hsame, ending, hcut⟩ := Window.fill_error hfill
      let next : Reader := { reader with window }
      have hagain : next.AwaitsMore missing :=
        ⟨by rw [← hawaits.front_eq, ← hheld], hsame.trans hawaits.isExhausted_eq,
          by rw [hheld]; exact hawaits.room⟩
      have htoldNext : next.encoding.isTold = true := htold
      obtain ⟨failure, hnext⟩ := drains_cut htoldNext hagain hcut
      exact ⟨[], _, .interrupted hadvance hnext⟩
    | @further next hless hkept =>
      rw [hwork] at hless
      obtain ⟨frames, failure, hnext⟩ := ih _ hless (hkept htold) rfl
      refine ⟨frames, failure, hnext.of_advance_eq ?_⟩
      rw [hadvance, advance_of_isTold (hkept htold)]

/-- Every reader comes to an end. -/
theorem exists_drains (reader : Reader) : ∃ frames failure, Drains reader frames failure := by
  obtain ⟨frames, failure, hdrains⟩ := exists_drains_of_isTold reader.isTold_tellHeader
  refine ⟨frames, failure, hdrains.of_advance_eq ?_⟩
  exact (advance_of_isTold reader.isTold_tellHeader).symm

end Reader

/-! ## Files -/

namespace File

/-- A file takes the steps of its reader. -/
theorem advance_withReader (file : File) (reader : Reader) :
    CaptureSource.advance (file.withReader reader) =
      (CaptureSource.advance reader).map file.withReader := by
  show (file.withReader reader).advance = reader.advance.map file.withReader
  have hreader : (file.withReader reader).reader = reader := rfl
  rw [advance, hreader]
  cases reader.advance <;> rfl

/-- Every file comes to an end. -/
theorem exists_drains (file : File) : ∃ frames failure, Drains file frames failure := by
  obtain ⟨frames, failure, h⟩ := file.reader.exists_drains
  exact ⟨frames, failure, h.map file.advance_withReader⟩

end File

end Savefile

/-- Queues and files, whatever the files hold and wherever they are cut off, are read in
pieces as they are read at once: a queue to the last frame that waits in it, a file to the
end that it has. -/
theorem readsInPieces_sources :
    (∀ queue : FrameQueue, ReadsInPieces queue queue.waiting none) ∧
      ∀ file : Savefile.File, ∃ frames failure, ReadsInPieces file frames failure := by
  constructor
  · intro queue
    exact queue.drains.readsInPieces
  · intro file
    obtain ⟨frames, failure, h⟩ := file.exists_drains
    exact ⟨frames, failure, h.readsInPieces⟩

end CaptureFlow
