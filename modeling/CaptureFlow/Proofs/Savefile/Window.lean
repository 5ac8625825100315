import CaptureFlow.Proofs.Stream
import CaptureFlow.Savefile.Window

/-!
# What a window shows

A window on a file shows the octets that are in view, those read ahead, and those that
the stream delivers behind them. Bringing more into view and walking on change where
these octets are, not which they are.
-/

namespace CaptureFlow.Savefile.Window

/-- The octets that are still to be walked over. When the latest fill brought nothing, all
of them are in view. -/
structure Shows (window : Window) (bytes : Bytes) : Prop where
  /-- They are in view, read ahead, or delivered behind. -/
  exists_behind : ∃ behind, window.stream.Delivers behind ∧
    bytes = window.held ++ (window.ahead ++ behind)
  /-- A window that is exhausted has all of them in view. -/
  held_eq : window.isExhausted = true → window.held = bytes

variable {window : Window} {bytes : Bytes}

/-- Before anything is read, a window shows what its stream delivers. -/
theorem shows_ofStream {stream : Stream} (h : stream.Delivers bytes) :
    (ofStream stream).Shows bytes where
  exists_behind := ⟨bytes, h, rfl⟩
  held_eq hexhausted := nomatch hexhausted

/-- What is in view stands at the front. -/
theorem Shows.held_isPrefix (h : window.Shows bytes) : window.held <+: bytes := by
  obtain ⟨behind, -, hbytes⟩ := h.exists_behind
  exact ⟨window.ahead ++ behind, hbytes.symm⟩

/-- Octets read ahead are shown as well before they are moved into view as after it. -/
theorem shows_shift {ahead behind : Bytes} (hstream : window.stream.Delivers behind)
    (hroom : window.held.length < capacity) (hend : ahead = [] → behind = []) :
    (window.shift ahead).Shows (window.held ++ (ahead ++ behind)) where
  exists_behind := by
    refine ⟨behind, hstream, ?_⟩
    simp only [shift, List.append_assoc]
    rw [← List.append_assoc (ahead.take _), List.take_append_drop]
  held_eq hexhausted := by
    have hmoved : ahead.take (capacity - window.held.length) = [] :=
      List.isEmpty_iff.mp hexhausted
    have hahead : ahead = [] := by
      rcases List.take_eq_nil_iff.mp hmoved with hnone | hahead
      · omega
      · exact hahead
    simp only [shift, hend hahead, hahead, List.take_nil, List.append_nil]

/-- While there is room, bringing more into view succeeds, keeps what is in view, and
changes nothing of what is shown. -/
theorem Shows.fill (h : window.Shows bytes) (hroom : window.held.length < capacity) :
    ∃ next, window.fill = (.ok (), next) ∧ next.Shows bytes := by
  obtain ⟨behind, hstream, hbytes⟩ := h.exists_behind
  subst hbytes
  unfold Window.fill
  split
  · rename_i hahead
    have hread := Stream.read_of_delivers (by decide : 0 < capacity) hstream
    cases hresult : window.stream.read capacity with
    | mk result stream =>
      rw [hresult] at hread
      cases result with
      | error fault => exact absurd hread id
      | ok front =>
        obtain ⟨rest, hrest, hbehind, -, hend⟩ := hread
        have hshift : ({ window with stream }.shift front).Shows
            (window.held ++ (front ++ rest)) :=
          shows_shift hrest hroom hend
        rw [← hbehind] at hshift
        refine ⟨_, rfl, ?_⟩
        rw [hahead, List.nil_append]
        exact hshift
  · rename_i hahead
    exact ⟨_, rfl, shows_shift hstream hroom fun hnil => absurd hnil hahead⟩

/-- Walking over octets in view leaves what stands behind them. -/
theorem Shows.behind {front rest : Bytes} (h : window.Shows (front ++ rest))
    (hfront : front <+: window.held) (hne : front ≠ []) :
    (window.behind front.length).Shows rest := by
  obtain ⟨tail, htail⟩ := hfront
  have hpositive : 0 < front.length := List.length_pos_iff.mpr hne
  have hheld : (window.behind front.length).held = tail := by
    rw [Window.behind, ← List.drop_one, List.drop_drop, Nat.add_sub_cancel' hpositive, ← htail,
      List.drop_left]
  constructor
  · obtain ⟨behind, hstream, hbytes⟩ := h.exists_behind
    refine ⟨behind, hstream, ?_⟩
    rw [← htail, List.append_assoc] at hbytes
    rw [hheld]
    exact List.append_cancel_left hbytes
  · intro hexhausted
    have hbytes := h.held_eq hexhausted
    rw [← htail] at hbytes
    rw [hheld]
    exact List.append_cancel_left hbytes

/-- Walking over some of the octets in view leaves the others. -/
theorem Shows.behind_of_le (h : window.Shows bytes) {size : Nat} (hpositive : 0 < size)
    (hsize : size ≤ window.held.length) : (window.behind size).Shows (bytes.drop size) := by
  obtain ⟨rest, hrest⟩ := h.held_isPrefix
  have hlength : (bytes.take size).length = size := by
    rw [List.length_take, ← hrest, List.length_append]
    omega
  have hne : bytes.take size ≠ [] := by
    rw [← List.length_pos_iff, hlength]
    exact hpositive
  have hfront : bytes.take size <+: window.held := by
    rw [← hrest, List.take_append_of_le_length hsize]
    exact List.take_prefix size _
  rw [← List.take_append_drop size bytes] at h
  have hbehind := h.behind hfront hne
  rw [hlength] at hbehind
  exact hbehind

/-- Walking on leaves no more in view than there was. -/
theorem length_behind_le (window : Window) (size : Nat) :
    (window.behind size).held.length ≤ window.held.length := by
  simp only [Window.behind, List.length_drop, List.length_tail]
  omega

end CaptureFlow.Savefile.Window
