import CaptureFlow.Address.Ip
import CaptureFlow.Proofs.Address.Ipv6

/-!
# Forms of addresses

The text of an address, told without the search for the zero groups that it leaves out. An IPv6
address has one of three forms: it ends in a dotted IPv4 address if it maps one, a double colon
stands for its zero groups if two of them are neighbours, and all its groups are written elsewhere.
Of several runs of zero groups the longest one is left out, and of several longest ones the first.
-/

namespace CaptureFlow

/-- The text as which an IPv4 address is written. -/
inductive Ipv4.WrittenAs : Ipv4.Address → String → Prop where
  /-- The octets are decimal numerals with dots between them. -/
  | dotted (a b c d : UInt8) :
    WrittenAs ⟨a, b, c, d⟩ s!"{a.toNat}.{b.toNat}.{c.toNat}.{d.toNat}"

/-- An IPv4 address is written as its text and as no other one. -/
theorem Ipv4.Address.writtenAs_iff {address : Address} {text : String} :
    WrittenAs address text ↔ address.text = text := by
  have hdotted : ∀ a b c d : UInt8, Address.text ⟨a, b, c, d⟩ =
      s!"{a.toNat}.{b.toNat}.{c.toNat}.{d.toNat}" := by
    intro a b c d
    rw [← String.toList_inj]
    simp [toList_text, toString]
  constructor
  · intro h
    cases h with
    | dotted a b c d => exact hdotted a b c d
  · rintro rfl
    obtain ⟨a, b, c, d⟩ := address
    rw [hdotted]
    exact .dotted a b c d

namespace Ipv6

/-! ## Runs of zero groups -/

/-- The groups from `start` on are zero, `length` of them. -/
def IsZeroRun (groups : List UInt16) (start length : Nat) : Prop :=
  ∀ i < length, groups[start + i]? = some 0

/-- Zero groups that are left out of a text. -/
structure IsLeftOut (groups : List UInt16) (start length : Nat) : Prop where
  /-- They are zero. -/
  isZeroRun : IsZeroRun groups start length
  /-- There are two of them at least. -/
  two_le : 2 ≤ length
  /-- No run of zero groups is longer. -/
  longest : ∀ other otherLength, IsZeroRun groups other otherLength → otherLength ≤ length
  /-- No run in front of them is as long. -/
  first : ∀ other, IsZeroRun groups other length → start ≤ other

/-- Two neighbours among the groups that are left out are zero. -/
theorem IsLeftOut.isZeroRun_two {groups : List UInt16} {start length : Nat}
    (h : IsLeftOut groups start length) : IsZeroRun groups start 2 :=
  fun i hi => h.isZeroRun i (Nat.lt_of_lt_of_le hi h.two_le)

/-- A text leaves out one run only. -/
theorem IsLeftOut.unique {groups : List UInt16} {start length start' length' : Nat}
    (h : IsLeftOut groups start length) (h' : IsLeftOut groups start' length') :
    start = start' ∧ length = length' := by
  have hlength : length = length' :=
    Nat.le_antisymm (h'.longest _ _ h.isZeroRun) (h.longest _ _ h'.isZeroRun)
  subst hlength
  exact ⟨Nat.le_antisymm (h.first _ h'.isZeroRun) (h'.first _ h.isZeroRun), rfl⟩

/-- So many groups in front are zero just if each of them is. -/
theorem le_leadingZeros_iff {groups : List UInt16} {length : Nat} :
    length ≤ leadingZeros groups ↔ ∀ i < length, groups[i]? = some 0 := by
  induction groups generalizing length with
  | nil =>
    cases length with
    | zero => simp
    | succ length =>
      exact ⟨fun h => absurd h (Nat.not_succ_le_zero length),
        fun h => nomatch h 0 (Nat.succ_pos length)⟩
  | cons group groups ih =>
    cases length with
    | zero => simp
    | succ length =>
      by_cases hzero : group = 0
      · have hcount : leadingZeros (group :: groups) = leadingZeros groups + 1 := by
          simp [leadingZeros, hzero]
        rw [hcount, Nat.add_le_add_iff_right, ih, Nat.forall_lt_succ_left]
        simp [hzero]
      · have hcount : leadingZeros (group :: groups) = 0 := by
          simp [leadingZeros, hzero]
        rw [hcount, Nat.forall_lt_succ_left]
        simp [hzero]

/-- A run of zero groups reaches as far as the zero groups at its start. -/
theorem isZeroRun_iff {groups : List UInt16} {start length : Nat} :
    IsZeroRun groups start length ↔ length ≤ leadingZeros (groups.drop start) := by
  simp only [le_leadingZeros_iff, IsZeroRun, List.getElem?_drop]

/-! ## The search for the run that is left out -/

/-- The best of the runs that start at the first `count` groups: no other one is longer, and those
in front of it are shorter. -/
structure IsBest (groups : List UInt16) (count : Nat) (best : Nat × Nat) : Prop where
  /-- No run is longer. -/
  longest : ∀ i < count, leadingZeros (groups.drop i) ≤ best.2
  /-- There is none, or it reaches as far as it can and the ones in front of it are shorter. -/
  first : best.2 = 0 ∨ best.2 = leadingZeros (groups.drop best.1) ∧
    ∀ i < best.1, leadingZeros (groups.drop i) < best.2

/-- The search finds the best of all runs. -/
theorem isBest_longestZeroRun (groups : List UInt16) :
    IsBest groups groups.length (longestZeroRun groups) := by
  unfold longestZeroRun
  generalize groups.length = count
  induction count with
  | zero => exact ⟨fun i hi => absurd hi (Nat.not_lt_zero i), .inl rfl⟩
  | succ count ih =>
    rw [List.range_succ, List.foldl_append, List.foldl_cons, List.foldl_nil]
    generalize List.foldl _ (0, 0) (List.range count) = best at ih ⊢
    dsimp only
    split
    · rename_i hlonger
      refine ⟨fun i hi => ?_, .inr ⟨rfl, fun i hi => ?_⟩⟩
      · rcases Nat.lt_succ_iff_lt_or_eq.mp hi with hi | rfl
        · exact Nat.le_trans (ih.longest i hi) (Nat.le_of_lt hlonger)
        · exact Nat.le_refl _
      · exact Nat.lt_of_le_of_lt (ih.longest i hi) hlonger
    · rename_i hshort
      refine ⟨fun i hi => ?_, ih.first⟩
      rcases Nat.lt_succ_iff_lt_or_eq.mp hi with hi | rfl
      · exact ih.longest i hi
      · exact Nat.not_lt.mp hshort

/-- No run of zero groups is longer than the one that the search finds. -/
theorem length_le_longestZeroRun {groups : List UInt16} {start length : Nat}
    (h : IsZeroRun groups start length) : length ≤ (longestZeroRun groups).2 := by
  have hrun := isZeroRun_iff.mp h
  rcases Nat.lt_or_ge start groups.length with hstart | hstart
  · exact Nat.le_trans hrun ((isBest_longestZeroRun groups).longest start hstart)
  · rw [List.drop_eq_nil_of_le hstart] at hrun
    exact Nat.le_trans hrun (Nat.zero_le _)

/-- The search finds the run that is left out of the text. -/
theorem isLeftOut_longestZeroRun {groups : List UInt16} (h : 2 ≤ (longestZeroRun groups).2) :
    IsLeftOut groups (longestZeroRun groups).1 (longestZeroRun groups).2 where
  isZeroRun := by
    rw [isZeroRun_iff]
    rcases (isBest_longestZeroRun groups).first with hnone | ⟨hreach, -⟩
    · omega
    · exact Nat.le_of_eq hreach
  two_le := h
  longest := fun _ _ => length_le_longestZeroRun
  first := by
    intro other hother
    rcases (isBest_longestZeroRun groups).first with hnone | ⟨-, hfront⟩
    · omega
    · exact Nat.not_lt.mp fun hless =>
        absurd (hfront other hless) (Nat.not_lt.mpr (isZeroRun_iff.mp hother))

/-! ## Forms -/

/-- Whether groups are those of an address that maps an IPv4 address. -/
def IsMapped (groups : List UInt16) : Prop :=
  ∃ high low, groups = [0, 0, 0, 0, 0, 0xffff, high, low]

/-- The text as which the groups of an address are written. -/
inductive WrittenAs : List UInt16 → String → Prop where
  /-- An address that is mapped is written behind its mark as an IPv4 address. -/
  | mapped {high low : UInt16} {inner : Ipv4.Address} {tail : String}
    (hhigh : high.toNat = 256 * inner.a.toNat + inner.b.toNat)
    (hlow : low.toNat = 256 * inner.c.toNat + inner.d.toNat) (htail : Ipv4.WrittenAs inner tail) :
    WrittenAs [0, 0, 0, 0, 0, 0xffff, high, low] ("::ffff:" ++ tail)
  /-- A double colon stands for the groups that are left out. -/
  | shortened {groups : List UInt16} {start length : Nat} (hplain : ¬IsMapped groups)
    (hout : IsLeftOut groups start length) :
    WrittenAs groups
      (groupsText (groups.take start) ++ "::" ++ groupsText (groups.drop (start + length)))
  /-- All groups are written where no two neighbours are zero. -/
  | whole {groups : List UInt16} (hplain : ¬IsMapped groups)
    (hnone : ∀ start, ¬IsZeroRun groups start 2) : WrittenAs groups (groupsText groups)

/-- A number below the square of 256 has two digits to that base. -/
theorem digits_iff {word : UInt16} {high low : UInt8} :
    word.toNat = 256 * high.toNat + low.toNat ↔
      UInt8.ofNat (word.toNat / 256) = high ∧ UInt8.ofNat word.toNat = low := by
  have hword := word.toNat_lt
  have hhigh := high.toNat_lt
  have hlow := low.toNat_lt
  rw [← UInt8.toNat_inj, ← UInt8.toNat_inj, UInt8.toNat_ofNat', UInt8.toNat_ofNat']
  omega

/-- The octets of the address that is mapped are the digits of the last two groups. -/
theorem mapped?_eq_some_iff {high low : UInt16} {inner : Ipv4.Address} :
    mapped? [0, 0, 0, 0, 0, 0xffff, high, low] = some inner ↔
      high.toNat = 256 * inner.a.toNat + inner.b.toNat ∧
        low.toNat = 256 * inner.c.toNat + inner.d.toNat := by
  have hinner : mapped? [0, 0, 0, 0, 0, 0xffff, high, low] =
      some ⟨UInt8.ofNat (high.toNat / 256), UInt8.ofNat high.toNat,
        UInt8.ofNat (low.toNat / 256), UInt8.ofNat low.toNat⟩ := by
    have hdigit : ∀ n, UInt8.ofNat (n % 256) = UInt8.ofNat n := fun n => UInt8.ofNat_mod_size
    rw [← hdigit (high.toNat / 256), ← hdigit high.toNat, ← hdigit (low.toNat / 256),
      ← hdigit low.toNat]
    rfl
  obtain ⟨a, b, c, d⟩ := inner
  rw [hinner, digits_iff, digits_iff]
  simp [and_assoc]

/-- No address is found in groups that map none. -/
theorem mapped?_eq_none_iff {groups : List UInt16} : mapped? groups = none ↔ ¬IsMapped groups := by
  unfold mapped?
  split
  · rename_i high low
    exact ⟨nofun, fun hplain => absurd ⟨high, low, rfl⟩ hplain⟩
  · rename_i hplain
    exact ⟨fun _ ⟨high, low, hgroups⟩ => hplain high low hgroups, fun _ => rfl⟩

/-- An address can be written as its text. -/
theorem Address.writtenAs_text (address : Address) : WrittenAs address.groups address.text := by
  obtain ⟨groups, hlength⟩ := address
  unfold text
  dsimp only
  split
  · rename_i inner hinner
    by_cases hmapped : IsMapped groups
    · obtain ⟨high, low, rfl⟩ := hmapped
      obtain ⟨hhigh, hlow⟩ := mapped?_eq_some_iff.mp hinner
      exact .mapped hhigh hlow (Ipv4.Address.writtenAs_iff.mpr rfl)
    · rw [mapped?_eq_none_iff.mpr hmapped] at hinner
      cases hinner
  · rename_i hnone
    have hplain := mapped?_eq_none_iff.mp hnone
    split
    · rename_i hlong
      exact .shortened hplain (isLeftOut_longestZeroRun hlong)
    · rename_i hshort
      exact .whole hplain fun start hrun => hshort (length_le_longestZeroRun hrun)

/-- The groups of an address are written as one text only. -/
theorem WrittenAs.unique {groups : List UInt16} {first second : String}
    (h : WrittenAs groups first) (h' : WrittenAs groups second) : first = second := by
  cases h with
  | mapped hhigh hlow htail =>
    cases h' with
    | mapped hhigh' hlow' htail' =>
      have hinner := mapped?_eq_some_iff.mpr ⟨hhigh, hlow⟩
      rw [mapped?_eq_some_iff.mpr ⟨hhigh', hlow'⟩] at hinner
      rw [← Ipv4.Address.writtenAs_iff.mp htail, ← Ipv4.Address.writtenAs_iff.mp htail',
        Option.some.inj hinner]
    | shortened hplain _ => exact absurd ⟨_, _, rfl⟩ hplain
    | whole hplain _ => exact absurd ⟨_, _, rfl⟩ hplain
  | shortened hplain hout =>
    cases h' with
    | mapped _ _ _ => exact absurd ⟨_, _, rfl⟩ hplain
    | shortened _ hout' =>
      obtain ⟨rfl, rfl⟩ := hout.unique hout'
      rfl
    | whole _ hnone => exact absurd hout.isZeroRun_two (hnone _)
  | whole hplain hnone =>
    cases h' with
    | mapped _ _ _ => exact absurd ⟨_, _, rfl⟩ hplain
    | shortened _ hout => exact absurd hout.isZeroRun_two (hnone _)
    | whole _ _ => rfl

/-- An address is written as its text and as no other one. -/
theorem Address.writtenAs_iff {address : Address} {text : String} :
    WrittenAs address.groups text ↔ address.text = text :=
  ⟨address.writtenAs_text.unique, fun h => h ▸ address.writtenAs_text⟩

end Ipv6

/-! ## Both versions -/

/-- The text as which an address of either version is written. -/
def IpAddress.WrittenAs : IpAddress → String → Prop
  | v4 address => Ipv4.WrittenAs address
  | v6 address => Ipv6.WrittenAs address.groups

/-- An address of either version is written as its text and as no other one. -/
theorem IpAddress.writtenAs_iff {address : IpAddress} {text : String} :
    address.WrittenAs text ↔ address.text = text := by
  cases address with
  | v4 address => exact Ipv4.Address.writtenAs_iff
  | v6 address => exact Ipv6.Address.writtenAs_iff

/-- The text as which an endpoint is written. -/
inductive Endpoint.WrittenAs : Endpoint → String → Prop where
  /-- The port stands behind an IPv4 address. -/
  | v4 {address : Ipv4.Address} {port : UInt16} {text : String}
    (h : Ipv4.WrittenAs address text) :
    WrittenAs ⟨.v4 address, port⟩ s!"{text}:{port.toNat}"
  /-- The port stands behind an IPv6 address in brackets. -/
  | v6 {address : Ipv6.Address} {port : UInt16} {text : String}
    (h : Ipv6.WrittenAs address.groups text) :
    WrittenAs ⟨.v6 address, port⟩ s!"[{text}]:{port.toNat}"

/-- An endpoint is written as its text and as no other one. -/
theorem Endpoint.writtenAs_iff {endpoint : Endpoint} {text : String} :
    endpoint.WrittenAs text ↔ endpoint.text = text := by
  constructor
  · intro h
    cases h with
    | v4 h =>
      cases Ipv4.Address.writtenAs_iff.mp h
      rfl
    | v6 h =>
      cases Ipv6.Address.writtenAs_iff.mp h
      rfl
  · rintro rfl
    obtain ⟨address, port⟩ := endpoint
    cases address with
    | v4 address => exact .v4 (Ipv4.Address.writtenAs_iff.mpr rfl)
    | v6 address => exact .v6 (Ipv6.Address.writtenAs_iff.mpr rfl)

end CaptureFlow
