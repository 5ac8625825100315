import CaptureFlow.Stream

/-!
# The part of a file in view

A reader of a capture file has a limited part of it in view at a time. The part
is filled from octets read ahead, and only where none are left, a read of the
stream fetches more. A fill that brings nothing tells that the file is over.
-/

namespace CaptureFlow.Savefile

/-- The octets that a reader has in view at most, and asks of a stream at a time. -/
def capacity : Nat := 262144

/-- The part of a file that is in view, and what follows it. -/
structure Window where
  /-- The octets in view. -/
  held : Bytes
  /-- The octets read ahead. -/
  ahead : Bytes
  /-- The stream of those behind. -/
  stream : Stream
  /-- Whether the latest fill brought nothing. -/
  isExhausted : Bool

namespace Window

/-- The window before anything is read. -/
def ofStream (stream : Stream) : Window :=
  ⟨[], [], stream, false⟩

/-- Moves octets read ahead into view, as many as there is room for. -/
def shift (window : Window) (ahead : Bytes) : Window :=
  let room := capacity - window.held.length
  { window with
    held := window.held ++ ahead.take room
    ahead := ahead.drop room
    isExhausted := (ahead.take room).isEmpty }

/-- Brings more of the file into view. -/
def fill (window : Window) : Except ReadFault Unit × Window :=
  match window.ahead with
  | [] =>
    match window.stream.read capacity with
    | (.ok bytes, stream) => (.ok (), { window with stream }.shift bytes)
    | (.error fault, stream) => (.error fault, { window with stream })
  | ahead => (.ok (), window.shift ahead)

/-- The window behind its first `size` octets, of which there is one at least. -/
def behind (window : Window) (size : Nat) : Window :=
  { window with held := window.held.tail.drop (size - 1) }

/-- A measure of the work left: to move octets into view, to walk over those in
view, and to find out that the file is over. -/
def work (window : Window) : Nat :=
  window.held.length + 2 * (window.ahead.length + window.stream.size) +
    (!window.isExhausted).toNat

/-- Walking over octets in view leaves less work. -/
theorem work_behind_lt {window : Window} (h : window.held ≠ []) (size : Nat) :
    (window.behind size).work < window.work := by
  have : 0 < window.held.length := List.length_pos_iff.2 h
  simp only [work, behind, List.length_drop, List.length_tail]
  omega

/-- Moving octets into view leaves less work than reading them ahead. -/
theorem work_shift_lt (window : Window) (ahead : Bytes) :
    (window.shift ahead).work <
      window.held.length + 2 * (ahead.length + window.stream.size) + 1 := by
  simp only [work, shift, List.length_append, List.length_drop]
  cases moved : ahead.take (capacity - window.held.length) with
  | nil =>
    simp only [List.length_nil, List.isEmpty_nil, Bool.not_true, Bool.toNat_false]
    omega
  | cons b bytes =>
    have := congrArg List.length moved
    simp only [List.length_take, List.length_cons] at this
    simp only [List.length_cons, List.isEmpty_cons, Bool.not_false, Bool.toNat_true]
    omega

/-- Bringing more of a file into view leaves less work. -/
theorem work_fill_lt {window next : Window} (h : window.isExhausted = false)
    (filled : window.fill = (.ok (), next)) : next.work < window.work := by
  have bound : window.work =
      window.held.length + 2 * (window.ahead.length + window.stream.size) + 1 := by
    simp [work, h]
  unfold fill at filled
  split at filled
  · split at filled
    · rename_i bytes stream hread
      simp only [Prod.mk.injEq, true_and] at filled
      subst filled
      have := work_shift_lt { window with stream } bytes
      have := Stream.size_read hread
      simp only at *
      omega
    · simp at filled
  · simp only [Prod.mk.injEq, true_and] at filled
    subst filled
    have := work_shift_lt window window.ahead
    omega

end Window

end CaptureFlow.Savefile
