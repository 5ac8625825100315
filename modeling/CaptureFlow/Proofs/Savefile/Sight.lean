import CaptureFlow.Proofs.Savefile.Ending
import CaptureFlow.Proofs.Savefile.Fronts

/-!
# What comes into sight

A reader that does not know yet what stands in front brings more into view, until it is
told, the file is over, or there is no room. Where a file is cut into stretches, it brings
more into view at other places, but comes to the same, unless what stands in front is told
by exactly as many octets as there is room for: the whole of them may be in view at once,
but a reader does not wait for the last one.
-/

namespace CaptureFlow.Savefile

/-! ## Windows -/

namespace Window

variable {window next : Window}

/-- A fill goes on with octets that are there already, or that a read hands out. -/
theorem exists_shift (h : window.fill = (.ok (), next)) :
    ∃ (stream : Stream) (ahead : Bytes), next = { window with stream }.shift ahead := by
  unfold fill at h
  split at h
  · split at h
    · cases h
      exact ⟨_, _, rfl⟩
    · cases h
  · cases h
    exact ⟨window.stream, _, rfl⟩

/-- No more is brought into view than there is room for. -/
theorem length_fill_le (h : window.fill = (.ok (), next))
    (hroom : window.held.length ≤ capacity) : next.held.length ≤ capacity := by
  obtain ⟨stream, ahead, rfl⟩ := exists_shift h
  have htaken := List.length_take_le (capacity - window.held.length) ahead
  simp only [shift, List.length_append]
  omega

/-- A fill that brings nothing leaves what is in view. -/
theorem held_fill_of_isExhausted (h : window.fill = (.ok (), next))
    (hexhausted : next.isExhausted = true) : next.held = window.held := by
  obtain ⟨stream, ahead, rfl⟩ := exists_shift h
  have hnothing : ahead.take (capacity - window.held.length) = [] :=
    List.isEmpty_iff.mp hexhausted
  simp only [shift, hnothing, List.append_nil]

end Window

/-! ## Places -/

/-- How blocks are read behind a block. -/
def Encoding.after (encoding : Encoding) : Block → Encoding
  | .sectionStart order => .blocks order
  | .interface _ _ | .packet _ _ _ _ | .other => encoding

/-- What is told of the encoding is told by the heading. -/
theorem Heading.encoding_after (heading : Heading) (block : Block) :
    (heading.after block).encoding = heading.encoding.after block := by
  cases block <;> rfl

/-- What a reader comes to at a place of a file. -/
inductive Sight where
  /-- It is told what stands in front. -/
  | told (parsed : Parsed Block)
  /-- The file is over before it is told. -/
  | ended
  /-- There is no room for more, and it is not told. -/
  | full

/-- What a reader comes to in front of some octets. -/
def Encoding.sight (encoding : Encoding) (bytes : Bytes) : Sight :=
  match encoding.front (bytes.take capacity) with
  | .incomplete missing => if bytes.length + missing < capacity then .ended else .full
  | parsed => .told parsed

/-- What stands in front of some octets is told with room for one more, if it is told. -/
def Encoding.HasRoom (encoding : Encoding) (bytes : Bytes) : Prop :=
  (encoding.front (bytes.take capacity)).isTold = true →
    (encoding.front (bytes.take (capacity - 1))).isTold = true

/-- Blocks in front lead to a place of a file, where the octets left are read in some way. -/
inductive Encoding.LeadsTo : Encoding → Bytes → Encoding → Bytes → Prop where
  /-- No block is passed. -/
  | here (encoding : Encoding) (bytes : Bytes) : LeadsTo encoding bytes encoding bytes
  /-- The block in front is passed. -/
  | behind {encoding place : Encoding} {bytes rest : Bytes} {block : Block} {size : Nat}
      (hblock : encoding.front (bytes.take capacity) = .block block size)
      (hrest : LeadsTo (encoding.after block) (bytes.drop size) place rest) :
      LeadsTo encoding bytes place rest

/-- Wherever blocks lead to, there is room. -/
def Encoding.IsRoomy (encoding : Encoding) (bytes : Bytes) : Prop :=
  ∀ (place : Encoding) (rest : Bytes), encoding.LeadsTo bytes place rest → place.HasRoom rest

/-- There is room behind a block if there is room everywhere. -/
theorem Encoding.IsRoomy.behind {encoding : Encoding} {bytes : Bytes} {block : Block}
    {size : Nat} (h : encoding.IsRoomy bytes)
    (hblock : encoding.front (bytes.take capacity) = .block block size) :
    (encoding.after block).IsRoomy (bytes.drop size) :=
  fun place rest hleads => h place rest (.behind hblock hleads)

/-- Blocks lead to no more octets than there are. -/
theorem Encoding.LeadsTo.length_le {encoding place : Encoding} {bytes rest : Bytes}
    (h : encoding.LeadsTo bytes place rest) : rest.length ≤ bytes.length := by
  induction h with
  | here encoding bytes => exact Nat.le_refl _
  | behind hblock hrest ih =>
    rw [List.length_drop] at ih
    omega

/-- In octets that fit with one more there is room everywhere. -/
theorem Encoding.isRoomy_of_length_lt (encoding : Encoding) {bytes : Bytes}
    (h : bytes.length < capacity) : encoding.IsRoomy bytes := by
  intro place rest hleads htold
  have hrest := hleads.length_le
  rw [List.take_of_length_le (by omega)] at htold ⊢
  exact htold

/-- Encodings that read the same blocks lead to the same places. -/
theorem Encoding.LeadsTo.exists_of_front_eq {encoding other place : Encoding}
    {bytes rest : Bytes} (h : encoding.LeadsTo bytes place rest)
    (hfront : encoding.front = other.front) :
    ∃ place' : Encoding, other.LeadsTo bytes place' rest ∧ place.front = place'.front := by
  induction h generalizing other with
  | here encoding bytes => exact ⟨other, .here other bytes, hfront⟩
  | @behind encoding place bytes rest block size hblock hrest ih =>
    have hafter : (encoding.after block).front = (other.after block).front := by
      cases block with
      | sectionStart order => rfl
      | interface linkType snapLength => exact hfront
      | packet timestamp captured wire data => exact hfront
      | other => exact hfront
    obtain ⟨place', hleads, hplace⟩ := ih hafter
    rw [hfront] at hblock
    exact ⟨place', .behind hblock hleads, hplace⟩

/-- Encodings that read the same blocks find room in the same files. -/
theorem Encoding.IsRoomy.of_front_eq {encoding other : Encoding} {bytes : Bytes}
    (h : encoding.IsRoomy bytes) (hfront : encoding.front = other.front) :
    other.IsRoomy bytes := by
  intro place rest hleads
  obtain ⟨place', hleads', hplace⟩ := hleads.exists_of_front_eq hfront.symm
  have hroom := h place' rest hleads'
  rw [HasRoom, ← hplace] at hroom
  exact hroom

namespace Reader

/-! ## Readers at a place -/

/-- A reader has some octets in front. -/
structure Views (reader : Reader) (bytes : Bytes) : Prop where
  /-- Its window shows them. -/
  shows : reader.window.Shows bytes
  /-- No more is in view than there is room for. -/
  length_le : reader.window.held.length ≤ capacity
  /-- It has asked for more in vain only where more was needed, and fitted. -/
  ended : reader.window.isExhausted = true → ∃ missing,
    reader.encoding.front bytes = .incomplete missing ∧ bytes.length + missing < capacity

/-- A reader has brought enough into view: more is not needed, not there, or does not fit. -/
inductive IsSettled (reader : Reader) : Prop where
  /-- It is told what stands in front. -/
  | told (h : (reader.encoding.front reader.window.held).isTold = true)
  /-- The file is over. -/
  | ended (h : reader.window.isExhausted = true)
  /-- There is no room for what is missing. -/
  | full {missing : Nat}
      (hfront : reader.encoding.front reader.window.held = .incomplete missing)
      (hexhausted : reader.window.isExhausted = false)
      (hfull : capacity ≤ reader.window.held.length + missing)

/-- What a settled reader has come to. -/
inductive ComesTo (reader : Reader) (bytes : Bytes) : Sight → Prop where
  /-- It is told what stands in front. -/
  | told {parsed : Parsed Block}
      (hfront : reader.encoding.front reader.window.held = parsed)
      (htold : parsed.isTold = true) : ComesTo reader bytes (.told parsed)
  /-- All octets are in view, and they do not tell what they are. -/
  | ended {missing : Nat} (hfront : reader.encoding.front bytes = .incomplete missing)
      (hheld : reader.window.held = bytes) (hexhausted : reader.window.isExhausted = true) :
      ComesTo reader bytes .ended
  /-- There is no room for what is missing. -/
  | full {missing : Nat}
      (hfront : reader.encoding.front reader.window.held = .incomplete missing)
      (hexhausted : reader.window.isExhausted = false)
      (hfull : capacity ≤ reader.window.held.length + missing) :
      ComesTo reader bytes .full

variable {reader : Reader} {bytes : Bytes}

/-- What is in view of a reader is a part of what there is room for. -/
theorem Views.held_isPrefix (h : reader.Views bytes) :
    reader.window.held <+: bytes.take capacity := by
  rw [List.prefix_take_iff]
  exact ⟨h.shows.held_isPrefix, h.length_le⟩

/-- What is told by what is in view is told with all that there is room for. -/
theorem Views.front_take (h : reader.Views bytes) {parsed : Parsed Block}
    (hfront : reader.encoding.front reader.window.held = parsed)
    (htold : parsed.isTold = true) : reader.encoding.front (bytes.take capacity) = parsed := by
  subst hfront
  exact reader.encoding.readsOn.told (Nat.zero_le _) h.held_isPrefix htold

/-- Once all is in view, there is no more than there is room for. -/
theorem Views.take_eq (h : reader.Views bytes) (hexhausted : reader.window.isExhausted = true) :
    bytes.take capacity = bytes := by
  apply List.take_of_length_le
  have hlength := h.length_le
  rw [h.shows.held_eq hexhausted] at hlength
  exact hlength

/-- A reader brings more into view until it is settled. -/
theorem Views.exists_settled (h : reader.Views bytes) :
    ∃ window : Window, { reader with window }.Views bytes ∧
      { reader with window }.IsSettled ∧
      reader.advanceBlock = { reader with window }.advanceBlock := by
  -- the work left bounds how often the window can be filled
  induction hwork : reader.window.work using Nat.strongRecOn generalizing reader with
  | _ work ih =>
    by_cases hsettled : reader.IsSettled
    · exact ⟨reader.window, h, hsettled, rfl⟩
    have hexhausted : reader.window.isExhausted = false :=
      Bool.eq_false_iff.mpr fun hover => hsettled (.ended hover)
    obtain ⟨missing, hfront⟩ := Parsed.exists_incomplete
      (Bool.eq_false_iff.mpr fun htold => hsettled (.told htold))
    have hroom : reader.window.held.length + missing < capacity :=
      Nat.lt_of_not_le fun hfull => hsettled (.full hfront hexhausted hfull)
    obtain ⟨next, hfill, hnext⟩ := h.shows.fill (by omega)
    have hless := Window.work_fill_lt hexhausted hfill
    have hviews : { reader with window := next }.Views bytes := by
      refine ⟨hnext, Window.length_fill_le hfill h.length_le, ?_⟩
      intro hover
      have hheld : reader.window.held = bytes :=
        (Window.held_fill_of_isExhausted hfill hover).symm.trans (hnext.held_eq hover)
      rw [hheld] at hfront hroom
      exact ⟨missing, hfront, hroom⟩
    rw [hwork] at hless
    obtain ⟨window, hsame, hready, hadvance⟩ := ih next.work hless hviews rfl
    rw [advanceBlock_fill reader hfront hexhausted hroom hfill]
    exact ⟨window, hsame, hready, hadvance⟩

/-- Where there is room, a settled reader has come to what the octets in front say. -/
theorem Views.comesTo_sight (h : reader.Views bytes) (hsettled : reader.IsSettled)
    (hroom : reader.encoding.HasRoom bytes) :
    reader.ComesTo bytes (reader.encoding.sight bytes) := by
  have hreads := reader.encoding.readsOn
  cases hsettled with
  | told htold =>
    have hsame := h.front_take rfl htold
    have hsight : reader.encoding.sight bytes =
        .told (reader.encoding.front reader.window.held) := by
      rw [Encoding.sight, hsame]
      split
      · rename_i hfront
        rw [hfront] at htold
        cases htold
      · rfl
    rw [hsight]
    exact .told rfl htold
  | ended hexhausted =>
    obtain ⟨missing, hfront, hfits⟩ := h.ended hexhausted
    have hsight : reader.encoding.sight bytes = .ended := by
      rw [Encoding.sight, h.take_eq hexhausted, hfront]
      exact if_pos hfits
    rw [hsight]
    exact .ended hfront (h.shows.held_eq hexhausted) hexhausted
  | @full missing hfront hexhausted hfull =>
    have hneeded : capacity ≤
        (reader.encoding.front reader.window.held).needed reader.window.held.length := by
      rw [hfront]
      exact hfull
    -- what tells with room for one more would have been enough
    have huntold : (reader.encoding.front (bytes.take capacity)).isTold = false := by
      apply Bool.eq_false_iff.mpr
      intro htold
      have hearly := hroom htold
      by_cases hall : reader.window.held.length < capacity
      · have hprefix : reader.window.held <+: bytes.take (capacity - 1) := by
          rw [List.prefix_take_iff]
          exact ⟨h.shows.held_isPrefix, by omega⟩
        have hle := hreads.needed_le (Nat.zero_le _) hprefix
        have hlength := List.length_take_le (capacity - 1) bytes
        have hpositive : 0 < capacity := by decide
        rw [Parsed.needed_of_isTold hearly] at hle
        omega
      · have hheld : reader.window.held = bytes.take capacity := by
          apply h.held_isPrefix.eq_of_length_le
          have hlength := List.length_take_le capacity bytes
          omega
        rw [← hheld, hfront] at htold
        cases htold
    obtain ⟨lacking, hlacking⟩ := Parsed.exists_incomplete huntold
    have hsight : reader.encoding.sight bytes = .full := by
      rw [Encoding.sight, hlacking]
      apply if_neg
      intro hfits
      have hle := hreads.needed_le (Nat.zero_le _) h.held_isPrefix
      rw [hlacking, List.take_of_length_le (by omega)] at hle
      rw [Parsed.needed] at hle
      omega
    rw [hsight]
    exact .full hfront hexhausted hfull

end Reader

end CaptureFlow.Savefile
