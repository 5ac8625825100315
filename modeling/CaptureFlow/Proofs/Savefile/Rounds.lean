import CaptureFlow.Proofs.Savefile.Alike

/-!
# Rounds of reading

A file is read in a loop without a bound of its own. Each round of it tells the header,
consumes a block without a packet, brings more into view, or is the last one before a frame
is handed out or the reading ends. Octets that were consumed do not come back, those that are
brought into view were behind it before, and a round that finds none there is followed by the
end. Hence the octets of a stream bound the rounds, whatever they are, and as a packet takes
sixteen of them, they bound the frames.
-/

namespace CaptureFlow.Savefile

open CaptureSource

/-! ## The least packets -/

/-- Blocks of a kind that holds packets take sixteen octets at least. -/
theorem BlockKind.sixteen_le_minLength {order : ByteOrder} {kind : BlockKind} {size length : Nat}
    {content : Bytes} {block : Block}
    (h : blockOfContent order kind size content = .block block length)
    (hpacket : block.isPacket = true) : 16 ≤ kind.minLength := by
  cases kind with
  | names =>
    rw [blockOfContent] at h
    split at h <;> cases h
    cases hpacket
  | process =>
    rw [blockOfContent] at h
    split at h <;> cases h
    cases hpacket
  | unknown =>
    cases h
    cases hpacket
  | sectionStart => decide
  | interface => decide
  | simplePacket => decide
  | statistics => decide
  | packet => decide
  | secrets => decide
  | custom => decide

/-- A packet in a block of some kind takes sixteen octets at least. -/
theorem sixteen_le_of_readBlockOf {order : ByteOrder} {kind : BlockKind} {bytes : Bytes}
    {block : Block} {size : Nat} (h : readBlockOf order kind bytes = .block block size)
    (hpacket : block.isPacket = true) : 16 ≤ size := by
  rw [readBlockOf] at h
  dsimp only at h
  split at h
  · cases h
  split at h
  · cases h
  next hfits =>
    have hle := Nat.le_of_not_lt (not_or.mp hfits).1
    split at h
    · cases h
    split at h
    · cases h
    split at h
    next made length hmade =>
      have hlength := size_of_blockOfContent hmade
      split at h
      · cases h
      · cases h
        have hleast := BlockKind.sixteen_le_minLength hmade hpacket
        omega
    next hother => exact absurd h (hother block size)

/-- A packet takes sixteen octets at least, however the blocks are read. -/
theorem Encoding.sixteen_le_size {encoding : Encoding} {bytes : Bytes} {block : Block}
    {size : Nat} (h : encoding.front bytes = .block block size)
    (hpacket : block.isPacket = true) : 16 ≤ size := by
  cases encoding with
  | classic header told nanoseconds =>
    have hheader : 16 ≤ header.recordHeaderLength := by
      rw [FileHeader.recordHeaderLength]
      split <;> decide
    rw [front, Record.read] at h
    dsimp only at h
    split at h
    · cases h
    split at h
    · cases h
    · cases h
      omega
  | blocks order =>
    rw [front, readBlock] at h
    split at h
    · cases h
    split at h
    · rw [readSection] at h
      split at h
      · cases h
      split at h
      · exact sixteen_le_of_readBlockOf h hpacket
      · cases h
    · exact sixteen_le_of_readBlockOf h hpacket

/-! ## The octets left -/

namespace Window

/-- The octets that are not consumed yet: in view, read ahead, or in the stream. -/
def remaining (window : Window) : Nat :=
  window.held.length + window.ahead.length + window.stream.size

/-- The octets left bound the work left. -/
theorem work_le (window : Window) : window.work ≤ 2 * window.remaining + 1 := by
  have hflag := Bool.toNat_le (!window.isExhausted)
  rw [work, remaining]
  omega

/-- Octets in view that are consumed are no longer left. -/
theorem remaining_behind {window : Window} {size : Nat} (hpositive : 0 < size)
    (hsize : size ≤ window.held.length) :
    (window.behind size).remaining + size = window.remaining := by
  simp only [remaining, behind, List.length_drop, List.length_tail]
  omega

/-- Moving octets into view leaves as many as there were. -/
theorem remaining_shift (window : Window) (ahead : Bytes) :
    (window.shift ahead).remaining =
      window.held.length + ahead.length + window.stream.size := by
  simp only [remaining, shift, List.length_append, List.length_take, List.length_drop]
  omega

/-- Bringing more into view adds no octets to those left, whether or not it succeeds. -/
theorem remaining_fill_le {window next : Window} {result : Except ReadFault Unit}
    (h : window.fill = (result, next)) : next.remaining ≤ window.remaining := by
  cases result with
  | error fault =>
    obtain ⟨hheld, -, ending, hcut⟩ := fill_error h
    rw [remaining, hheld, hcut.ahead_eq, hcut.stream_eq, remaining]
    exact Nat.le_trans (Nat.le_add_right _ _) (Nat.le_add_right _ _)
  | ok _ =>
    unfold fill at h
    split at h
    next hahead =>
      split at h
      next hread =>
        cases h
        have hsize := Stream.size_read hread
        rw [remaining_shift, remaining, hahead]
        dsimp only [List.length_nil]
        omega
      · cases h
    · cases h
      exact Nat.le_of_eq (remaining_shift window window.ahead)

end Window

/-! ## One round -/

/-- What a round of reading comes to. -/
inductive Round where
  /-- A header or a block without a packet is passed. -/
  | passed (next : Reader)
  /-- More is brought into view. -/
  | refilled (next : Reader)
  /-- It is the last one: a frame is handed out, or the reading ends. -/
  | last (step : Advance Reader)

namespace Round

/-- What the reader does in this round and those that follow it. -/
def advance : Round → Advance Reader
  | passed next | refilled next => CaptureSource.advance next
  | last step => step

/-- The reader with which reading goes on after a round. -/
def next? : Round → Option Reader
  | passed next | refilled next => some next
  | last (.frame _ _ taken) => some taken
  | last (.finished _) | last (.failed _ _) => none

/-- What a round leads to has a property, unless a frame is refused. -/
def Keeps (kept : Reader → Prop) : Round → Prop
  | passed next | refilled next => kept next
  | last step => step.Keeps kept

end Round

namespace Reader

/-- The end of a file, inside a block if octets are in view. -/
def ended (reader : Reader) : Advance Reader :=
  if reader.window.held.isEmpty then .finished reader else reader.failed (.block .endOfFile)

/-- A round: what stands in front is told and consumed, or more is brought into view. -/
def round (reader : Reader) : Round :=
  if reader.encoding.isTold then
    match reader.encoding.front reader.window.held with
    | .block (.packet timestamp captured wire data) size =>
      .last (reader.deliver timestamp captured wire data size)
    | .block block size =>
      .passed ((reader.withHeading (reader.heading.after block)).behind size)
    | .broken fault => .last (reader.failed (.block fault))
    | .incomplete missing =>
      if reader.window.isExhausted then .last reader.ended
      else if capacity ≤ reader.window.held.length + missing then
        .last (reader.failed (.block .tooLarge))
      else match reader.window.fill with
        | (.error _, window) => .last ({ reader with window }.failed .refill)
        | (.ok (), window) => .refilled { reader with window }
  else .passed reader.tellHeader

variable {reader : Reader}

/-- A round whose header is untold tells it. -/
theorem round_of_untold (h : reader.encoding.isTold = false) :
    reader.round = .passed reader.tellHeader := by
  rw [round, h, if_neg Bool.false_ne_true]

/-- Where the file is over inside a block, or at the end of one, reading ends. -/
theorem round_over (htold : reader.encoding.isTold = true) {missing : Nat}
    (h : reader.encoding.front reader.window.held = .incomplete missing)
    (hexhausted : reader.window.isExhausted = true) : reader.round = .last reader.ended := by
  rw [round, if_pos htold, h]
  exact if_pos hexhausted

/-- How a round gets on: it tells the header, which happens once, consumes the octets of a
block, adds octets to those in view, or leads to an end. -/
inductive Progress (reader : Reader) : Round → Prop where
  /-- The header is told. -/
  | told (h : reader.encoding.isTold = false) : Progress reader (.passed reader.tellHeader)
  /-- A block without a packet is consumed, all of whose octets are in view. -/
  | consumed {heading : Heading} {size : Nat} (htold : reader.encoding.isTold = true)
      (hheading : heading.encoding.isTold = true) (hpositive : 0 < size)
      (hsize : size ≤ reader.window.held.length) :
      Progress reader (.passed ((reader.withHeading heading).behind size))
  /-- Octets are added behind those in view. -/
  | added {window : Window} {octets : Bytes} (hexhausted : reader.window.isExhausted = false)
      (hfill : reader.window.fill = (.ok (), window)) (hne : octets ≠ [])
      (hheld : window.held = reader.window.held ++ octets) :
      Progress reader (.refilled { reader with window })
  /-- No octets are left to be added, and reading ends in the next round. -/
  | exhausted {window : Window} (hexhausted : reader.window.isExhausted = false)
      (hfill : reader.window.fill = (.ok (), window)) (hheld : window.held = reader.window.held)
      (hends : { reader with window }.round = .last { reader with window }.ended) :
      Progress reader (.refilled { reader with window })
  /-- A packet is handed out, and its block is consumed once it is taken. -/
  | delivered {timestamp : Timestamp} {captured wire : UInt32} {data : Bytes} {size : Nat}
      (hleast : 16 ≤ size) (hsize : size ≤ reader.window.held.length) :
      Progress reader (.last (reader.deliver timestamp captured wire data size))
  /-- The file is over. -/
  | ended : Progress reader (.last reader.ended)
  /-- The block in front cannot be read, or there is no room for it. -/
  | failed (fault : BlockFault) : Progress reader (.last (reader.failed (.block fault)))
  /-- The stream fails. -/
  | interrupted {window : Window} {fault : ReadFault}
      (hfill : reader.window.fill = (.error fault, window)) :
      Progress reader (.last ({ reader with window }.failed .refill))

/-- A round that brings more into view adds octets, or is followed by an end. -/
theorem progress_refilled (htold : reader.encoding.isTold = true) {missing : Nat}
    (h : reader.encoding.front reader.window.held = .incomplete missing)
    (hexhausted : reader.window.isExhausted = false) {window : Window}
    (hfill : reader.window.fill = (.ok (), window)) :
    reader.Progress (.refilled { reader with window }) := by
  obtain ⟨stream, ahead, hshift⟩ := Window.exists_shift hfill
  have hheld : window.held =
      reader.window.held ++ ahead.take (capacity - reader.window.held.length) := by
    rw [hshift]
    rfl
  cases hover : window.isExhausted with
  | false =>
    refine .added hexhausted hfill ?_ hheld
    intro hnil
    rw [hshift] at hover
    simp only [Window.shift, hnil, List.isEmpty_nil, Bool.true_eq_false] at hover
  | true =>
    have hsame := Window.held_fill_of_isExhausted hfill hover
    have hfront : reader.encoding.front window.held = .incomplete missing := by
      rw [hsame]
      exact h
    let next : Reader := { reader with window }
    have hends : next.round = .last next.ended := round_over htold hfront hover
    exact .exhausted hexhausted hfill hsame hends

/-- Every round gets on. -/
theorem progress_round (reader : Reader) : reader.Progress reader.round := by
  cases htold : reader.encoding.isTold with
  | false =>
    rw [round_of_untold htold]
    exact .told htold
  | true =>
    rw [round, if_pos htold]
    split
    next hfront =>
      obtain ⟨-, hsize⟩ := reader.encoding.readsOn.size_le (Nat.zero_le _) hfront
      exact .delivered (Encoding.sixteen_le_size hfront rfl) hsize
    next block size _ hfront =>
      obtain ⟨hpositive, hsize⟩ := reader.encoding.readsOn.size_le (Nat.zero_le _) hfront
      exact .consumed htold (isTold_after htold block) hpositive hsize
    next fault hfront => exact .failed fault
    next missing hfront =>
      split
      · exact .ended
      next hmore =>
        split
        · exact .failed .tooLarge
        split
        next hfill => exact .interrupted hfill
        next hfill => exact progress_refilled htold hfront (Bool.eq_false_iff.mpr hmore) hfill

/-- A reader takes its steps round by round. -/
theorem advance_eq_round (reader : Reader) :
    CaptureSource.advance reader = reader.round.advance := by
  cases htold : reader.encoding.isTold with
  | false =>
    rw [round_of_untold htold, Round.advance, advance_of_isTold reader.isTold_tellHeader]
    rfl
  | true =>
    -- the header stays told, so that the walk goes on where the next round does
    have hnext : ∀ next : Reader, next.encoding.isTold = true →
        next.advanceBlock = CaptureSource.advance next :=
      fun next hkept => (advance_of_isTold hkept).symm
    rw [advance_of_isTold htold, round, if_pos htold]
    split
    next hfront => exact advanceBlock_packet reader hfront
    next block size hother hfront =>
      have hpacket : block.isPacket = false := by
        cases block with
        | packet timestamp captured wire data => exact absurd rfl (hother _ _ _ _)
        | sectionStart order => rfl
        | interface linkType snapLength => rfl
        | other => rfl
      rw [advanceBlock_passed reader hfront hpacket]
      exact hnext _ (isTold_after htold block)
    next fault hfront => exact advanceBlock_broken reader hfront
    next missing hfront =>
      split
      next hexhausted => exact advanceBlock_over reader hfront hexhausted
      next hmore =>
        have hexhausted := Bool.eq_false_iff.mpr hmore
        split
        next hfull => exact advanceBlock_full reader hfront hexhausted hfull
        next hroom =>
          have hroom := Nat.lt_of_not_le hroom
          split
          next hfill => exact advanceBlock_interrupted reader ⟨hfront, hexhausted, hroom⟩ hfill
          next hfill =>
            rw [advanceBlock_fill reader hfront hexhausted hroom hfill]
            exact hnext _ htold

/-! ## The rounds left -/

/-- A bound of the rounds that a reader has left before the last one. -/
def roundsLeft (reader : Reader) : Nat :=
  reader.window.work + (!reader.encoding.isTold).toNat

/-- The octets left bound the rounds left. -/
theorem roundsLeft_le (reader : Reader) :
    reader.roundsLeft ≤ 2 * reader.window.remaining + 2 := by
  have hwork := reader.window.work_le
  have htold := Bool.toNat_le (!reader.encoding.isTold)
  rw [roundsLeft]
  omega

/-- Wherever reading goes on after a round, fewer rounds are left. -/
theorem Progress.roundsLeft_lt {round : Round} (h : reader.Progress round) {next : Reader}
    (hnext : round.next? = some next) : next.roundsLeft < reader.roundsLeft := by
  have hbehind : ∀ {size : Nat}, 0 < size → size ≤ reader.window.held.length →
      (reader.window.behind size).work < reader.window.work := by
    intro size hpositive hsize
    exact Window.work_behind_lt (List.length_pos_iff.mp (by omega)) size
  cases h with
  | told huntold =>
    cases hnext
    have hwindow : reader.tellHeader.window = reader.window := by
      rw [tellHeader_eq]
      rfl
    rw [roundsLeft, roundsLeft, hwindow, isTold_tellHeader, huntold]
    exact Nat.lt_succ_self _
  | @consumed heading size htold hheading hpositive hsize =>
    cases hnext
    have hless := hbehind hpositive hsize
    have hkept : ((reader.withHeading heading).behind size).encoding.isTold = true := hheading
    rw [roundsLeft, roundsLeft, htold, hkept]
    exact Nat.add_lt_add_right hless _
  | added hexhausted hfill hne hheld =>
    cases hnext
    exact Nat.add_lt_add_right (Window.work_fill_lt hexhausted hfill) _
  | exhausted hexhausted hfill hheld hends =>
    cases hnext
    exact Nat.add_lt_add_right (Window.work_fill_lt hexhausted hfill) _
  | delivered hleast hsize =>
    cases hnext
    exact Nat.add_lt_add_right (hbehind (by omega) hsize) _
  | ended =>
    rw [Reader.ended] at hnext
    split at hnext <;> cases hnext
  | failed fault => cases hnext
  | interrupted hfill => cases hnext

/-! ## The frames of a stream -/

/-- The frames handed out and the octets left fit into so many octets. -/
def Within (total : Nat) (reader : Reader) : Prop :=
  16 * reader.frames + reader.window.remaining ≤ total

/-- A reader that fits into a stream has handed out no more frames than sixteenths of it. -/
theorem Within.frames_le {total : Nat} (h : reader.Within total) :
    reader.frames ≤ total / 16 := by
  rw [Within] at h
  omega

/-- A round that gets on keeps what fits, as long as no frame is refused. -/
theorem Progress.keeps_within {round : Round} {total : Nat} (h : reader.Progress round)
    (hwithin : reader.Within total) : round.Keeps (Within total) := by
  rw [Within] at hwithin
  cases h with
  | told huntold =>
    show reader.tellHeader.Within total
    rw [tellHeader_eq]
    exact hwithin
  | @consumed heading size htold hheading hpositive hsize =>
    have hbehind := Window.remaining_behind hpositive hsize
    show 16 * reader.frames + (reader.window.behind size).remaining ≤ total
    omega
  | added hexhausted hfill hne hheld =>
    exact Nat.le_trans (Nat.add_le_add_left (Window.remaining_fill_le hfill) _) hwithin
  | exhausted hexhausted hfill hheld hends =>
    exact Nat.le_trans (Nat.add_le_add_left (Window.remaining_fill_le hfill) _) hwithin
  | @delivered timestamp captured wire data size hleast hsize =>
    have hbehind := Window.remaining_behind (by omega) hsize
    show 16 * (reader.frames + 1) + (reader.window.behind size).remaining ≤ total
    omega
  | ended =>
    rw [Reader.ended]
    split <;> exact hwithin
  | failed fault => exact hwithin
  | interrupted hfill =>
    exact Nat.le_trans (Nat.add_le_add_left (Window.remaining_fill_le hfill) _) hwithin

/-- A step keeps what fits, as long as no frame is refused. -/
theorem Within.advance {total : Nat} (h : reader.Within total) :
    (CaptureSource.advance reader).Keeps (Within total) := by
  -- fewer rounds are left wherever the step goes on with another one
  induction hleft : reader.roundsLeft using Nat.strongRecOn generalizing reader with
  | _ left ih =>
    have hprogress := reader.progress_round
    have hkeeps := hprogress.keeps_within h
    rw [reader.advance_eq_round]
    generalize reader.round = round at hprogress hkeeps
    cases round with
    | passed next => exact ih _ (hleft ▸ hprogress.roundsLeft_lt rfl) hkeeps rfl
    | refilled next => exact ih _ (hleft ▸ hprogress.roundsLeft_lt rfl) hkeeps rfl
    | last step => exact hkeeps

/-- A reader that was just opened fits into its stream. -/
theorem within_of_openAs {format : Format} {stream : Stream} {reader : Reader}
    (h : openAs format stream = .ok reader) : reader.Within stream.size := by
  rw [openAs] at h
  split at h
  · cases h
  next window hfill =>
    have hfilled := Window.remaining_fill_le hfill
    have hstream : (Window.ofStream stream).remaining = stream.size := Nat.zero_add _
    split at h
    · cases h
    next encoding hencoding =>
      cases h
      rw [Within]
      have hheader : (behindHeader window encoding).remaining ≤ window.remaining := by
        cases encoding with
        | classic header told nanoseconds =>
          exact Nat.add_le_add_right
            (Nat.add_le_add_right (window.length_behind_le fileHeaderLength) _) _
        | blocks order => exact Nat.le_refl _
      exact Nat.le_trans (Nat.le_of_eq (Nat.zero_add _))
        (Nat.le_trans hheader (hstream ▸ hfilled))

/-! ## The loop -/

variable {β : Type} (receive : Receiver β)

/-- Hands at most `max` frames to a receiver, `count` of them being taken already, as far as
a number of rounds leads; none if they are used up before. -/
def processWithin : (rounds max count : Nat) → β → Reader → Option (Run β Reader)
  | _, 0, count, value, reader => some ⟨value, reader, .ok count⟩
  | 0, _ + 1, _, _, _ => none
  | rounds + 1, max + 1, count, value, reader =>
    match reader.round with
    | .passed next | .refilled next => processWithin rounds (max + 1) count value next
    | .last (.finished next) => some ⟨value, next, .ok count⟩
    | .last (.failed error next) => some ⟨value, next, .error error⟩
    | .last (.frame frame refused taken) =>
      match receive value frame with
      | (value, some error) => some ⟨value, refused, .error error⟩
      | (value, none) => processWithin rounds max (count + 1) value taken

/-- With more rounds than are left, the loop returns what the run over the source does. -/
theorem processWithin_eq {rounds : Nat} (h : reader.roundsLeft < rounds) (max count : Nat)
    (value : β) : processWithin receive rounds max count value reader =
      some (processFrom receive max count value reader) := by
  -- rounds before the last one leave what the run meets next, and the frames asked for, as they are
  induction rounds generalizing reader max count value with
  | zero => exact absurd h (Nat.not_lt_zero _)
  | succ rounds ih =>
    cases max with
    | zero => rfl
    | succ max =>
      have hprogress := reader.progress_round
      have hgoesOn : ∀ next : Reader, CaptureSource.advance reader = CaptureSource.advance next →
          processFrom receive (max + 1) count value next =
            processFrom receive (max + 1) count value reader := by
        intro next hsame
        rw [processFrom, processFrom, hsame]
      have hadvance := reader.advance_eq_round
      rw [processWithin]
      generalize reader.round = round at hprogress hadvance
      cases round with
      | passed next =>
        have hless := hprogress.roundsLeft_lt rfl
        rw [← hgoesOn next hadvance]
        exact ih (by omega) (max + 1) count value
      | refilled next =>
        have hless := hprogress.roundsLeft_lt rfl
        rw [← hgoesOn next hadvance]
        exact ih (by omega) (max + 1) count value
      | last step =>
        rw [processFrom, hadvance]
        cases step with
        | finished next => rfl
        | failed error next => rfl
        | frame frame refused taken =>
          have hless := hprogress.roundsLeft_lt rfl
          dsimp only [Round.advance]
          cases receive value frame with
          | mk made refusal =>
            cases refusal with
            | none => exact ih (by omega) max (count + 1) made
            | some error => rfl

/-! ## Reading any stream -/

/-- Whatever a stream holds and whatever format it is opened in, every round of reading gets
on; the loop that hands its frames to a receiver ends by itself within two rounds for each
octet and three more, behind any readings; and it counts at most one frame for sixteen octets
of the stream. -/
theorem process_ends {format : Format} {stream : Stream}
    (hopen : openAs format stream = .ok reader) (readings : List Reading)
    (step : β → Frame → β) (max : Nat) (value : β) :
    (∀ other : Reader, other.Progress other.round) ∧
      processWithin (accepting step) (2 * stream.size + 3) max 0 value
          (session (Reading.calls readings) reader).2 =
        some (process (accepting step) max value (session (Reading.calls readings) reader).2) ∧
      (process (accepting step) max value
        (session (Reading.calls readings) reader).2).state.frames ≤ stream.size / 16 := by
  have hkeeps : ∀ other : Reader, other.Within stream.size →
      (CaptureSource.advance other).Keeps (Within stream.size) :=
    fun other hwithin => hwithin.advance
  have hwithin := session_readings_keeps hkeeps readings (within_of_openAs hopen)
  generalize (session (Reading.calls readings) reader).2 = here at hwithin ⊢
  refine ⟨progress_round, ?_, ?_⟩
  · have hleft := here.roundsLeft_le
    have hremaining : here.window.remaining ≤ stream.size :=
      Nat.le_trans (Nat.le_add_left _ _) hwithin
    exact processWithin_eq (accepting step) (by omega) max 0 value
  · exact (processFrom_keeps hkeeps step max 0 value hwithin).frames_le

/-- A file in little-endian order with one packet of four octets, and a stray octet behind
it. -/
def strayFile : Bytes :=
  [0xd4, 0xc3, 0xb2, 0xa1, 2, 0, 4, 0, 0, 0, 0, 0, 0, 0, 0, 0, 0, 0, 4, 0, 1, 0, 0, 0,
    1, 0, 0, 0, 2, 0, 0, 0, 4, 0, 0, 0, 4, 0, 0, 0, 7, 7, 7, 7, 9]

/-- Opened in another format, the file ends all the same: its packet is handed out, and the
stray octet is no record. -/
theorem strayFile_ends : ∃ reader, openAs (.classic .big true) (.ofBytes strayFile) = .ok reader ∧
    processWithin (accepting fun count _ => count + 1) 93 5 0 0 reader =
      some (process (accepting fun count _ => count + 1) 5 0 reader) ∧
    (process (accepting fun count _ => count + 1) 5 0 reader).state.frames ≤ 2 ∧
    (process (accepting fun count _ => count + 1) 5 0 reader).value = 1 ∧
    (process (accepting fun count _ => count + 1) 5 0 reader).result =
      .error (.savefile (.invalid (.block .endOfFile))) := by
  obtain ⟨reader, hopen, hround⟩ : ∃ reader,
      openAs (.classic .big true) (.ofBytes strayFile) = .ok reader ∧
      ∃ run, processWithin (accepting fun count _ => count + 1) 93 5 0 0 reader = some run ∧
        run.value = 1 ∧ run.result = .error (.savefile (.invalid (.block .endOfFile))) :=
    ⟨_, rfl, _, rfl, rfl, rfl⟩
  obtain ⟨run, hloop, hvalue, hresult⟩ := hround
  obtain ⟨-, hrun, hframes⟩ := process_ends hopen [] (fun count _ => count + 1) 5 0
  have hsame : run = process (accepting fun count _ => count + 1) 5 0 reader :=
    Option.some.inj (hloop.symm.trans hrun)
  exact ⟨reader, hopen, hrun, hframes, hsame ▸ hvalue, hsame ▸ hresult⟩

end Reader

end CaptureFlow.Savefile
