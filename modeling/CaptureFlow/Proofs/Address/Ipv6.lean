import CaptureFlow.Address.Ipv6
import CaptureFlow.Proofs.Address.Ipv4
import CaptureFlow.Proofs.Bytes

/-!
# Reading shortened hexadecimal addresses back

The text of an IPv6 address reads back as the address, in all of its three forms:
eight groups, groups around a double colon, and the dotted tail of an address
that holds an IPv4 address. Different addresses have different texts.
-/

namespace CaptureFlow.Ipv6

/-- A text ends or goes on with a colon. -/
abbrev AtColon (text : List Char) : Prop :=
  Stops (fun c => c != ':') text

/-- Only a colon can stand at the front of such a text. -/
theorem AtColon.cases {text : List Char} (h : AtColon text) :
    text = [] ∨ ∃ more, text = ':' :: more := by
  cases text with
  | nil => exact .inl rfl
  | cons c more =>
    have hc : c = ':' := by simpa using h
    exact .inr ⟨more, by rw [hc]⟩

/-- A class without the colon stops at a colon. -/
theorem AtColon.stops {p : Char → Bool} {text : List Char} (h : AtColon text)
    (hp : p ':' = false) : Stops p text := by
  obtain rfl | ⟨more, rfl⟩ := h.cases
  · exact Stops.nil
  · exact Stops.cons_iff.mpr hp

/-! ## Single groups -/

/-- A hexadecimal group reads back in front of a colon or the end. -/
theorem splitGroup_toDigits (g : UInt16) {rest : List Char} (hrest : AtColon rest) :
    splitGroup (Nat.toDigits 16 g.toNat ++ rest) = some (g, rest) := by
  have hstop : Stops (fun c => (Numeral.digit? 16 c).isSome) rest := hrest.stops (by decide)
  have hdigits : ∀ c ∈ Nat.toDigits 16 g.toNat, (Numeral.digit? 16 c).isSome = true :=
    fun c hc => Numeral.digit?_of_mem_toDigits (by omega) (by omega) hc
  have hlength : (Nat.toDigits 16 g.toNat).length ≤ 4 :=
    (Nat.length_toDigits_le_iff (by omega) (by omega)).mpr g.toNat_lt
  rw [splitGroup, hstop.takeWhile_append hdigits, hstop.dropWhile_append hdigits,
    Numeral.value?_toDigits (by omega) (by omega), if_neg]
  · simp
  · simp only [Bool.or_eq_true, List.isEmpty_iff, Nat.toDigits_ne_nil, decide_eq_true_eq, false_or]
    omega

/-- No group starts at a colon or at the end. -/
theorem splitGroup_atColon {text : List Char} (h : AtColon text) : splitGroup text = none := by
  obtain rfl | ⟨more, rfl⟩ := h.cases
  · rfl
  · rw [splitGroup, if_pos]
    rfl

/-- A text whose leading digits are not followed by a dot is no dotted address. -/
theorem splitAddress_eq_none {text : List Char}
    (h : (text.dropWhile Char.isDigit).head? ≠ some '.') : Ipv4.splitAddress text = none := by
  have hoctet : ∀ a rest, Ipv4.splitOctet text = some (a, rest) →
      rest = text.dropWhile Char.isDigit := by
    intro a rest hsome
    unfold Ipv4.splitOctet at hsome
    dsimp only at hsome
    split at hsome
    · cases hsome
    · obtain ⟨n, -, hn⟩ := Option.bind_eq_some_iff.mp hsome
      cases hn
      rfl
  cases hfirst : Ipv4.splitOctet text with
  | none => simp [Ipv4.splitAddress, hfirst]
  | some first =>
    obtain ⟨a, rest⟩ := first
    have hrest := hoctet a rest hfirst
    have hdotted : Ipv4.splitDottedOctet rest = none := by
      rw [hrest]
      unfold Ipv4.splitDottedOctet
      split
      · rename_i hcons
        simp [hcons] at h
      · rfl
    simp [Ipv4.splitAddress, hfirst, hdotted]

/-- A hexadecimal group is not the start of a dotted address. -/
theorem splitAddress_toDigits (n : Nat) {rest : List Char} (hrest : AtColon rest) :
    Ipv4.splitAddress (Nat.toDigits 16 n ++ rest) = none := by
  have hno : ∀ c ∈ Nat.toDigits 16 n, c ≠ '.' := by
    intro c hc hdot
    have hsome := Numeral.digit?_of_mem_toDigits (by omega) (by omega) hc
    rw [hdot] at hsome
    exact absurd hsome (by decide)
  apply splitAddress_eq_none
  generalize Nat.toDigits 16 n = digits at hno
  induction digits with
  | nil =>
    obtain rfl | ⟨more, rfl⟩ := hrest.cases
    · simp
    · simp
  | cons c digits ih =>
    rw [List.cons_append, List.dropWhile_cons]
    split
    · exact ih fun d hd => hno d (List.mem_cons_of_mem c hd)
    · simpa using hno c List.mem_cons_self

/-- No dotted address starts at a colon or at the end. -/
theorem splitAddress_atColon {text : List Char} (h : AtColon text) :
    Ipv4.splitAddress text = none := by
  apply splitAddress_eq_none
  obtain rfl | ⟨more, rfl⟩ := h.cases
  · simp
  · simp [List.dropWhile]

/-! ## Runs of groups -/

/-- The text of groups that stand behind another group. -/
def behindText (groups : List UInt16) : List Char :=
  groups.flatMap fun g => ':' :: Nat.toDigits 16 g.toNat

/-- What stands behind groups stays at a colon. -/
theorem atColon_behindText (groups : List UInt16) {rest : List Char} (hrest : AtColon rest) :
    AtColon (behindText groups ++ rest) := by
  cases groups with
  | nil => exact hrest
  | cons g groups => simp [behindText, AtColon]

/-- Joined groups are the first one and those behind it. -/
theorem toList_groupsText_cons (g : UInt16) (groups : List UInt16) :
    (groupsText (g :: groups)).toList = Nat.toDigits 16 g.toNat ++ behindText groups := by
  induction groups generalizing g with
  | nil => simp [groupsText, behindText]
  | cons head groups ih =>
    have htail := ih head
    simp only [groupsText, List.map_cons, String.toList_intercalate] at htail ⊢
    rw [List.intercalate_cons_cons, htail]
    simp [behindText]

/-- A group in front is split off, and the groups behind it follow. -/
theorem splitGroups_cons (g : UInt16) (limit : Nat) (first : Bool) {text rest : List Char}
    (hrest : AtColon rest)
    (htext : afterColon first text = some (Nat.toDigits 16 g.toNat ++ rest)) :
    splitGroups (limit + 1) first text =
      (g :: (splitGroups limit false rest).1, (splitGroups limit false rest).2) := by
  have hdotted : (if limit = 0 then none else (afterColon first text).bind Ipv4.splitAddress) =
      none := by
    rw [htext, Option.bind_some, splitAddress_toDigits _ hrest, ite_self]
  have hgroup : (afterColon first text).bind splitGroup = some (g, rest) := by
    rw [htext, Option.bind_some, splitGroup_toDigits g hrest]
  simp only [splitGroups, hdotted, hgroup]

/-- Where no group starts, the run ends. -/
theorem splitGroups_stop (limit : Nat) (first : Bool) {text : List Char}
    (h : ∀ inner, afterColon first text = some inner → AtColon inner) :
    splitGroups limit first text = ([], false, text) := by
  cases limit with
  | zero => rfl
  | succ limit =>
    have hdotted : (afterColon first text).bind Ipv4.splitAddress = none := by
      rw [Option.bind_eq_none_iff]
      exact fun inner hinner => splitAddress_atColon (h inner hinner)
    have hgroup : (afterColon first text).bind splitGroup = none := by
      rw [Option.bind_eq_none_iff]
      exact fun inner hinner => splitGroup_atColon (h inner hinner)
    simp only [splitGroups, hdotted, hgroup, ite_self]

/-- A text ends or goes on with a double colon. -/
def AtGap (rest : List Char) : Prop :=
  rest = [] ∨ ∃ more, rest = ':' :: ':' :: more

/-- A double colon is a colon. -/
theorem AtGap.atColon {rest : List Char} (h : AtGap rest) : AtColon rest := by
  obtain rfl | ⟨more, rfl⟩ := h
  · exact Stops.nil
  · exact Stops.cons_iff.mpr rfl

/-- No group stands behind the first colon of a double colon. -/
theorem AtGap.afterColon {rest inner : List Char} {first : Bool} (h : AtGap rest)
    (hinner : afterColon first rest = some inner) : AtColon inner := by
  cases first with
  | true =>
    cases hinner
    exact h.atColon
  | false =>
    obtain rfl | ⟨more, rfl⟩ := h
    · cases hinner
    · cases hinner
      exact Stops.cons_iff.mpr rfl

/-- Groups behind another one are read up to the end or a double colon. -/
theorem splitGroups_behindText {groups : List UInt16} {limit : Nat} {rest : List Char}
    (hlimit : groups.length ≤ limit) (hrest : AtGap rest) :
    splitGroups limit false (behindText groups ++ rest) = (groups, false, rest) := by
  induction groups generalizing limit with
  | nil => exact splitGroups_stop limit false fun inner hinner => hrest.afterColon hinner
  | cons g groups ih =>
    cases limit with
    | zero => simp at hlimit
    | succ limit =>
      have hbehind := atColon_behindText groups hrest.atColon
      have htext : afterColon false (behindText (g :: groups) ++ rest) =
          some (Nat.toDigits 16 g.toNat ++ (behindText groups ++ rest)) := by
        simp [behindText, afterColon]
      rw [splitGroups_cons g limit false hbehind htext, ih (Nat.le_of_succ_le_succ hlimit)]

/-- Joined groups are read up to the end or a double colon. -/
theorem splitGroups_groupsText {groups : List UInt16} {limit : Nat} {rest : List Char}
    (hlimit : groups.length ≤ limit) (hrest : AtGap rest) :
    splitGroups limit true ((groupsText groups).toList ++ rest) = (groups, false, rest) := by
  cases groups with
  | nil => exact splitGroups_stop limit true fun inner hinner => hrest.afterColon hinner
  | cons g groups =>
    cases limit with
    | zero => simp at hlimit
    | succ limit =>
      have hbehind := atColon_behindText groups hrest.atColon
      have htext : afterColon true ((groupsText (g :: groups)).toList ++ rest) =
          some (Nat.toDigits 16 g.toNat ++ (behindText groups ++ rest)) := by
        simp [toList_groupsText_cons, afterColon]
      rw [splitGroups_cons g limit true hbehind htext,
        splitGroups_behindText (Nat.le_of_succ_le_succ hlimit) hrest]

/-! ## The zero run -/

/-- The run that is shortened consists of the zero groups at its start. -/
theorem longestZeroRun_snd (groups : List UInt16) :
    (longestZeroRun groups).2 = 0 ∨
      (longestZeroRun groups).2 = leadingZeros (groups.drop (longestZeroRun groups).1) := by
  -- The best run so far is none, or what stands at its own start.
  refine List.foldlRecOn (List.range groups.length) _
    (motive := fun best : Nat × Nat =>
      best.2 = 0 ∨ best.2 = leadingZeros (groups.drop best.1)) (.inl rfl) ?_
  intro best hbest i _
  dsimp only
  split
  · exact .inr rfl
  · exact hbest

/-- Leading zero groups are zeros, and what is behind them follows. -/
theorem leadingZeros_append (groups : List UInt16) :
    groups = List.replicate (leadingZeros groups) 0 ++ groups.drop (leadingZeros groups) := by
  have hzeros : groups.takeWhile (· == 0) = List.replicate (leadingZeros groups) 0 :=
    List.eq_replicate_of_mem fun g hg => by
      simpa using List.all_eq_true.mp (List.all_takeWhile (p := (· == 0)) (l := groups)) g hg
  have hdrop : groups.drop (leadingZeros groups) = groups.dropWhile (· == 0) := by
    have h := List.takeWhile_append_dropWhile (p := (· == 0)) (l := groups)
    rw [hzeros] at h
    have h' := congrArg (List.drop (leadingZeros groups)) h
    simpa using h'.symm
  rw [hdrop, ← hzeros, List.takeWhile_append_dropWhile]

/-- An address is what stands around its longest zero run. -/
theorem groups_eq_around {groups : List UInt16} {start length : Nat}
    (hrun : longestZeroRun groups = (start, length)) (hlong : 1 < length) :
    groups = groups.take start ++ (List.replicate length 0 ++ groups.drop (start + length)) := by
  have hlength : length = leadingZeros (groups.drop start) := by
    have h := longestZeroRun_snd groups
    rw [hrun] at h
    dsimp only at h
    omega
  have hdrop := leadingZeros_append (groups.drop start)
  rw [← hlength, List.drop_drop] at hdrop
  rw [← hdrop, List.take_append_drop]

/-! ## Whole addresses -/

/-- Eight joined groups read back. -/
theorem parseGroups_groupsText {groups : List UInt16} (h : groups.length = 8) :
    parseGroups (groupsText groups).toList = some groups := by
  have hread : splitGroups 8 true ((groupsText groups).toList ++ []) = (groups, false, []) :=
    splitGroups_groupsText (Nat.le_of_eq h) (.inl rfl)
  rw [List.append_nil] at hread
  simp [parseGroups, hread, h]

/-- Groups around a double colon read back with zeros in its place. -/
theorem parseGroups_gap {head tail : List UInt16} (h : head.length + tail.length < 8) :
    parseGroups ((groupsText head).toList ++ ':' :: ':' :: (groupsText tail).toList) =
      some (head ++ List.replicate (8 - head.length - tail.length) 0 ++ tail) := by
  have hhead : splitGroups 8 true
      ((groupsText head).toList ++ ':' :: ':' :: (groupsText tail).toList) =
        (head, false, ':' :: ':' :: (groupsText tail).toList) :=
    splitGroups_groupsText (by omega) (.inr ⟨_, rfl⟩)
  have htail : splitGroups (7 - head.length) true ((groupsText tail).toList ++ []) =
      (tail, false, []) :=
    splitGroups_groupsText (by omega) (.inl rfl)
  rw [List.append_nil] at htail
  have hne : head.length ≠ 8 := by omega
  simp [parseGroups, hhead, htail, hne]

/-- The two groups of four octets are the octets in their order. -/
theorem wordAt_readAt (high low : UInt16) :
    let inner := Ipv4.Address.readAt
      (ByteOrder.big.octets 2 high.toNat ++ ByteOrder.big.octets 2 low.toNat) 0
    wordAt .big inner.octets 0 = high ∧ wordAt .big inner.octets 2 = low := by
  have hhigh := wordAt_octets .big [] (ByteOrder.big.octets 2 low.toNat) high.toNat
  have hlow := wordAt_octets .big (ByteOrder.big.octets 2 high.toNat) [] low.toNat
  rw [UInt16.ofNat_toNat] at hhigh hlow
  rw [ByteOrder.length_octets, List.append_nil] at hlow
  exact ⟨hhigh, hlow⟩

/-- The dotted tail of a mapped address reads back as its last two groups. -/
theorem parseGroups_mapped {groups : List UInt16} {inner : Ipv4.Address}
    (h : mapped? groups = some inner) :
    parseGroups ("::ffff:" ++ inner.text).toList = some groups := by
  unfold mapped? at h
  split at h
  · rename_i high low
    cases h
    obtain ⟨hhigh, hlow⟩ := wordAt_readAt high low
    generalize hinner : Ipv4.Address.readAt
      (ByteOrder.big.octets 2 high.toNat ++ ByteOrder.big.octets 2 low.toNat) 0 = inner at *
    have haddress := Ipv4.splitAddress_text inner Stops.nil
    rw [List.append_nil] at haddress
    have hdotted : splitGroups 6 false (':' :: inner.text.toList) =
        ([high, low], true, []) := by
      simp [splitGroups, afterColon, haddress, hhigh, hlow]
    have hgroup : splitGroups 7 true ('f' :: 'f' :: 'f' :: 'f' :: ':' :: inner.text.toList) =
        ([0xffff, high, low], true, []) := by
      have hcolon : AtColon (':' :: inner.text.toList) := Stops.cons_iff.mpr rfl
      have hfront := splitGroups_cons 0xffff 6 true hcolon rfl
      rw [hdotted] at hfront
      exact hfront
    have hstop : splitGroups 8 true (':' :: ':' :: 'f' :: 'f' :: 'f' :: 'f' :: ':' ::
        inner.text.toList) = ([], false, _) :=
      splitGroups_stop 8 true fun text htext => (AtGap.afterColon (.inr ⟨_, rfl⟩) htext)
    simp [parseGroups, hstop, hgroup]
  · cases h

/-- The text of an address reads back as the address. -/
theorem Address.parse?_text (address : Address) : parse? address.text = some address := by
  have hgroups : parseGroups address.text.toList = some address.groups := by
    obtain ⟨groups, hlength⟩ := address
    unfold text
    dsimp only
    split
    · rename_i inner hinner
      exact parseGroups_mapped hinner
    · cases hrun : longestZeroRun groups with
      | mk start length =>
        dsimp only
        split
        · rename_i hlong
          have haround := groups_eq_around hrun hlong
          have hcount := congrArg List.length haround
          simp only [List.length_append, List.length_take, List.length_replicate,
            List.length_drop] at hcount
          have hfew : (groups.take start).length + (groups.drop (start + length)).length < 8 := by
            simp only [List.length_take, List.length_drop]
            omega
          have hread := parseGroups_gap hfew
          have hzeros : 8 - (groups.take start).length - (groups.drop (start + length)).length =
              length := by
            simp only [List.length_take, List.length_drop]
            omega
          rw [hzeros, List.append_assoc, ← haround] at hread
          simpa using hread
        · exact parseGroups_groupsText hlength
  rw [parse?, hgroups, Option.bind_some, dif_pos address.length_eq]

/-- Different addresses have different texts. -/
theorem Address.text_injective : Function.Injective Address.text := by
  intro left right h
  have hparse := parse?_text left
  rw [h, parse?_text right] at hparse
  exact (Option.some.inj hparse).symm

/-! ## Characters of the text -/

/-- The characters that addresses are written with. -/
def isTextChar (c : Char) : Bool :=
  (Numeral.digit? 16 c).isSome || c == ':' || c == '.'

/-- Joined groups are written with digits and colons. -/
theorem isTextChar_of_mem_groupsText {groups : List UInt16} {c : Char}
    (h : c ∈ (groupsText groups).toList) : isTextChar c = true := by
  have hdigit : ∀ {n : Nat}, c ∈ Nat.toDigits 16 n → isTextChar c = true := by
    intro n hn
    rw [isTextChar, Numeral.digit?_of_mem_toDigits (by omega) (by omega) hn]
    rfl
  cases groups with
  | nil => simp [groupsText] at h
  | cons g groups =>
    rw [toList_groupsText_cons, List.mem_append, behindText, List.mem_flatMap] at h
    rcases h with h | ⟨g', -, h⟩
    · exact hdigit h
    · rcases List.mem_cons.mp h with rfl | h
      · decide
      · exact hdigit h

/-- The text of an address is written with digits, colons and dots. -/
theorem Address.isTextChar_of_mem_text {address : Address} {c : Char}
    (h : c ∈ address.text.toList) : isTextChar c = true := by
  unfold text at h
  split at h
  · rename_i inner hinner
    rw [String.toList_append, List.mem_append] at h
    rcases h with h | h
    · have hall : "::ffff:".toList.all isTextChar = true := rfl
      exact List.all_eq_true.mp hall c h
    · rcases Ipv4.Address.mem_toList_text h with ⟨d, hd, rfl⟩ | rfl
      · rw [isTextChar, Numeral.digit?_digitChar (by omega : d < 16) (by omega)]
        rfl
      · decide
  · dsimp only at h
    split at h
    · simp only [String.toList_append, List.mem_append] at h
      rcases h with (h | h) | h
      · exact isTextChar_of_mem_groupsText h
      · have hall : "::".toList.all isTextChar = true := rfl
        exact List.all_eq_true.mp hall c h
      · exact isTextChar_of_mem_groupsText h
    · exact isTextChar_of_mem_groupsText h

/-- The text of an address contains a colon. -/
theorem Address.colon_mem_text (address : Address) : ':' ∈ address.text.toList := by
  unfold text
  split
  · rw [String.toList_append, List.mem_append]
    exact .inl (by decide)
  · dsimp only
    split
    · rw [String.toList_append, String.toList_append, List.mem_append, List.mem_append]
      exact .inl (.inr (by decide))
    · obtain ⟨groups, hlength⟩ := address
      match groups, hlength with
      | g :: g' :: groups, _ =>
        rw [toList_groupsText_cons, List.mem_append]
        exact .inr List.mem_cons_self

end CaptureFlow.Ipv6
