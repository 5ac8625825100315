import CaptureFlow.Proofs.TcpFlow.Accounting
import CaptureFlow.Proofs.TcpFlow.Missing

/-!
# Windows of dumps

A window of a dump shows the packets that are at most so many places away from one of them. It
needs the headers of these packets only, however far the window would reach beyond the ends of the
list. Where all packets can be dumped, it is the part of the dump with the lines of these packets.
-/

namespace CaptureFlow

/-! ## Entries around a place -/

section Around

variable {α β : Type}

/-- Whether two places are at most `reach` apart. -/
def AreNear (reach place other : Nat) : Prop :=
  other ≤ place + reach ∧ place ≤ other + reach

instance (reach place other : Nat) : Decidable (AreNear reach place other) :=
  inferInstanceAs (Decidable (_ ∧ _))

/-- The entries at most `reach` away from a place, in their order. -/
def around (reach place : Nat) (entries : List α) : List α :=
  (entries.zipIdx.filter fun entry => AreNear reach place entry.2).map Prod.fst

/-- The entries from one place up to another are those in front of the second without those in
front of the first. -/
theorem map_fst_filter_zipIdx (start stop offset : Nat) (entries : List α) :
    ((entries.zipIdx offset).filter fun entry => start ≤ entry.2 ∧ entry.2 < stop).map Prod.fst =
      (entries.take (stop - offset)).drop (start - offset) := by
  induction entries generalizing offset with
  | nil => simp
  | cons entry entries ih =>
    rw [List.zipIdx_cons, List.filter_cons]
    rcases Nat.lt_or_ge offset stop with hinside | hbehind
    · have htake : stop - offset = stop - (offset + 1) + 1 := by omega
      rcases Nat.lt_or_ge offset start with hfront | hfrom
      · have hdrop : start - offset = start - (offset + 1) + 1 := by omega
        rw [if_neg (by simp; omega), ih, htake, hdrop, List.take_succ_cons, List.drop_succ_cons]
      · have hdrop : start - offset = 0 := by omega
        have hnext : start - (offset + 1) = 0 := by omega
        rw [if_pos (by simp [hfrom, hinside]), List.map_cons, ih, htake, hdrop, hnext,
          List.take_succ_cons, List.drop_zero, List.drop_zero]
    · have htake : stop - offset = 0 := by omega
      have hnext : stop - (offset + 1) = 0 := by omega
      rw [if_neg (by simp [hbehind]), ih, htake, hnext, List.take_zero, List.take_zero,
        List.drop_nil, List.drop_nil]

/-- The entries around a place stand together. -/
theorem around_eq (reach place : Nat) (entries : List α) :
    around reach place entries = (entries.take (place + reach + 1)).drop (place - reach) := by
  have hsame := map_fst_filter_zipIdx (place - reach) (place + reach + 1) 0 entries
  rw [Nat.sub_zero, Nat.sub_zero] at hsame
  rw [← hsame, around]
  refine congrArg (List.map Prod.fst) (List.filter_congr fun entry _ => ?_)
  rw [decide_eq_decide, AreNear]
  omega

/-- In front of the entries around a place stand those that are too far away, and so behind them. -/
theorem eq_append_around_append (reach place : Nat) (entries : List α) :
    entries = entries.take (place - reach) ++ around reach place entries ++
      entries.drop (place + reach + 1) := by
  have hfront : (entries.take (place + reach + 1)).take (place - reach) =
      entries.take (place - reach) := by
    rw [List.take_take, Nat.min_eq_left (by omega)]
  rw [around_eq, ← hfront, List.take_append_drop, List.take_append_drop]

/-- An entry is around a place just if its own place is near. -/
theorem mem_around_iff {reach place : Nat} {entries : List α} {entry : α} :
    entry ∈ around reach place entries ↔
      ∃ other, AreNear reach place other ∧ entries[other]? = some entry := by
  simp only [around, List.mem_map, List.mem_filter, decide_eq_true_eq, Prod.exists,
    List.mem_zipIdx_iff_getElem?]
  constructor
  · rintro ⟨_, other, ⟨hentry, hnear⟩, rfl⟩
    exact ⟨other, hnear, hentry⟩
  · rintro ⟨other, hnear, hentry⟩
    exact ⟨entry, other, ⟨hentry, hnear⟩, rfl⟩

/-- Behind the entries in front of it that are near stands the entry at the place itself. -/
theorem getElem?_around (reach place : Nat) (entries : List α) :
    (around reach place entries)[min place reach]? = entries[place]? := by
  have hplace : place - reach + min place reach = place := by omega
  rw [around_eq, List.getElem?_drop, hplace, List.getElem?_take_of_lt (by omega)]

/-- Entries that correspond one by one do so around every place. -/
theorem forall₂_around {related : α → β → Prop} {entries : List α} {others : List β}
    (h : List.Forall₂ related entries others) (reach place : Nat) :
    List.Forall₂ related (around reach place entries) (around reach place others) := by
  rw [around_eq, around_eq]
  exact List.forall₂_drop _ (List.forall₂_take _ h)

/-- Where an entry stands in one of two lists that correspond, its other stands in the other. -/
theorem exists_getElem?_of_forall₂ {related : α → β → Prop} {entries : List α} {others : List β}
    (h : List.Forall₂ related entries others) {place : Nat} {entry : α}
    (hentry : entries[place]? = some entry) :
    ∃ other, others[place]? = some other ∧ related entry other := by
  obtain ⟨hplace, rfl⟩ := List.getElem?_eq_some_iff.mp hentry
  have hother : place < others.length := h.length_eq ▸ hplace
  exact ⟨_, List.getElem?_eq_getElem hother, h.get hplace hother⟩

end Around

/-! ## Windows -/

namespace Dump

section Windows

variable {members : List Member}

/-- The line in the middle of a window is the one that is asked for, or the last one. -/
def middle (members : List Member) (number : Nat) : Nat :=
  min number (members.length - 1)

/-- The middle of a window of some lines is one of them. -/
theorem middle_lt (hsome : members ≠ []) (number : Nat) :
    middle members number < members.length := by
  have hpos := List.length_pos_of_ne_nil hsome
  rw [middle]
  omega

/-- A window is the dump of the packets around its middle. Sums that are held at the greatest
number end the window at the end of the list, as no list has more entries than that. -/
theorem window_eq (hsome : members ≠ []) (hlength : members.length < UInt64.size)
    (number context : Nat) :
    window members number context =
      (lines (around context (middle members number) members)).map
        (·, min (middle members number) context) := by
  have hmiddle := middle_lt hsome number
  have hstop : min (heldSum (heldSum (middle members number) context) 1) members.length =
      min (middle members number + context + 1) members.length := by
    simp only [heldSum]
    omega
  have hplace : middle members number - (middle members number - context) =
      min (middle members number) context := by
    omega
  have htake : members.take (min (middle members number + context + 1) members.length) =
      members.take (middle members number + context + 1) :=
    List.take_eq_take_min.symm
  rw [around_eq, ← htake, ← hstop, ← hplace, window, List.isEmpty_eq_false_iff.mpr hsome]
  rfl

/-- A window is shown with the lines of the packets around its middle, and with the place of the
middle among them. -/
theorem window_eq_ok_iff (hsome : members ≠ []) (hlength : members.length < UInt64.size)
    {number context place : Nat} {texts : List String} :
    window members number context = .ok (texts, place) ↔
      lines (around context (middle members number) members) = .ok texts ∧
        place = min (middle members number) context := by
  rw [window_eq hsome hlength]
  cases lines (around context (middle members number) members) with
  | error reason => exact ⟨nofun, fun h => nomatch h.1⟩
  | ok shown => simp [Except.map, eq_comm]

/-- A window is shown just if the packets around its middle are segments. -/
theorem exists_window_iff (hsome : members ≠ []) (hlength : members.length < UInt64.size)
    (number context : Nat) :
    (∃ shown, window members number context = .ok shown) ↔
      ∀ place member, AreNear context (middle members number) place →
        members[place]? = some member → member.packet.IsSegment := by
  have hlines : (∃ shown, window members number context = .ok shown) ↔
      ∃ texts, lines (around context (middle members number) members) = .ok texts := by
    simp only [Prod.exists, window_eq_ok_iff hsome hlength, exists_and_left, exists_eq, and_true]
  rw [hlines, exists_lines_iff]
  constructor
  · intro hall place member hnear hmember
    exact hall member (mem_around_iff.mpr ⟨place, hnear, hmember⟩)
  · intro hall member haround
    obtain ⟨place, hnear, hmember⟩ := mem_around_iff.mp haround
    exact hall place member hnear hmember

/-- What a window of a dump shows, around its middle. -/
structure ShowsAround (members : List Member) (number context : Nat) : Prop where
  /-- It is shown just if the packets around its middle are segments. -/
  shown_iff : (∃ shown, window members number context = .ok shown) ↔
    ∀ place member, AreNear context (middle members number) place →
      members[place]? = some member → member.packet.IsSegment
  /-- It has a line for each of these packets, in their order. -/
  lines_eq : ∀ texts place, window members number context = .ok (texts, place) →
    List.Forall₂ (fun member text => line member.packet = .ok text)
      (around context (middle members number) members) texts
  /-- The line of its middle stands at the place that is told. -/
  place_eq : ∀ texts place, window members number context = .ok (texts, place) →
    place = min (middle members number) context ∧
      ∃ member text, members[middle members number]? = some member ∧
        line member.packet = .ok text ∧ texts[place]? = some text
  /-- It is a part of the dump of all packets. -/
  part_eq : ∀ texts, lines members = .ok texts →
    ∃ front shown behind, texts = front ++ shown ++ behind ∧
      front.length = middle members number - context ∧
      shown = around context (middle members number) texts ∧
      window members number context = .ok (shown, min (middle members number) context)

/-- A window shows the packets around its middle, whatever the other packets are. -/
theorem window_showsAround (hsome : members ≠ []) (hlength : members.length < UInt64.size)
    (number context : Nat) : ShowsAround members number context where
  shown_iff := exists_window_iff hsome hlength number context
  lines_eq := by
    intro texts place h
    exact lines_eq_ok_iff.mp ((window_eq_ok_iff hsome hlength).mp h).1
  place_eq := by
    intro texts place h
    obtain ⟨hlines, hplace⟩ := (window_eq_ok_iff hsome hlength).mp h
    have hmember := List.getElem?_eq_getElem (middle_lt hsome number)
    have haround := getElem?_around context (middle members number) members
    rw [hmember, ← hplace] at haround
    obtain ⟨text, htext, hline⟩ :=
      exists_getElem?_of_forall₂ (lines_eq_ok_iff.mp hlines) haround
    exact ⟨hplace, _, text, hmember, hline, htext⟩
  part_eq := by
    intro texts h
    have hlines := lines_eq_ok_iff.mp h
    have hshown := forall₂_around hlines context (middle members number)
    have hmiddle := middle_lt hsome number
    have hcount := hlines.length_eq
    refine ⟨texts.take (middle members number - context), around context _ texts,
      texts.drop (middle members number + context + 1), eq_append_around_append _ _ texts, ?_, rfl,
      (window_eq_ok_iff hsome hlength).mpr ⟨lines_eq_ok_iff.mpr hshown, rfl⟩⟩
    rw [List.length_take]
    omega

/-- A packet without headers and three segments of a server behind it. -/
def trailingSegments : List Member :=
  let data (seq : UInt32) :=
    Health.retransmissionPacket ⟨10, 0, 0, 1⟩ ⟨10, 0, 0, 2⟩ 80 51000 seq 1 100
  Member.ofBatch [⟨0, 0, 0, []⟩, data 100, data 200, data 300]

/-- The window around a line far behind the end shows the last lines. A window that is so wide that
its end is no 64-bit number reaches the packet without headers, too. -/
theorem window_trailingSegments :
    trailingSegments ≠ [] ∧ trailingSegments.length < UInt64.size ∧
      ShowsAround trailingSegments (UInt64.size - 1) 1 ∧
      window trailingSegments (UInt64.size - 1) 1 =
        .ok (["0 80->51000 200 1 5 0x10 1024 100", "0 80->51000 300 1 5 0x10 1024 100"], 1) ∧
      window trailingSegments (UInt64.size - 1) (UInt64.size - 1) = .error .networkMissing := by
  have hsome : trailingSegments ≠ [] := by decide
  have hlength : trailingSegments.length < UInt64.size := by decide
  exact ⟨hsome, hlength, window_showsAround hsome hlength (UInt64.size - 1) 1, by decide +kernel,
    by decide +kernel⟩

end Windows

end Dump

end CaptureFlow
