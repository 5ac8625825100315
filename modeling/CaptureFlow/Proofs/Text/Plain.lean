import CaptureFlow.Address.Ip
import CaptureFlow.Address.Octets
import CaptureFlow.Proofs.Text.Numeral
import CaptureFlow.Time.Timestamp

/-!
# Plain texts

Numerals, addresses and timestamps are written without control characters, quotes and commas. So
they may stand by themselves between commas, between quotes, and on a line with others.
-/

namespace CaptureFlow

/-! ## Texts of a class of characters -/

/-- A text consists of characters of a class. -/
def Within (isMember : Char → Bool) (text : String) : Prop :=
  ∀ c ∈ text.toList, isMember c = true

instance (isMember : Char → Bool) (text : String) : Decidable (Within isMember text) :=
  decidable_of_iff (text.toList.all isMember = true) List.all_eq_true

namespace Within

variable {isMember : Char → Bool}

/-- Two texts after each other belong to a class if both do. -/
@[simp] theorem append_iff {left right : String} :
    Within isMember (left ++ right) ↔ Within isMember left ∧ Within isMember right := by
  simp only [Within, String.toList_append, List.forall_mem_append]

/-- A text is its own text. -/
@[simp] theorem toString_iff {text : String} :
    Within isMember (toString text) ↔ Within isMember text :=
  Iff.rfl

/-- Nothing belongs to every class. -/
theorem empty : Within isMember "" :=
  fun _ hc => absurd hc List.not_mem_nil

/-- Texts of a class with one between each two belong to it. -/
theorem intercalate {between : String} {texts : List String} (hbetween : Within isMember between)
    (h : ∀ text ∈ texts, Within isMember text) :
    Within isMember (between.intercalate texts) := by
  induction texts with
  | nil => exact empty
  | cons text texts ih =>
    have htext := h text List.mem_cons_self
    have hrest := ih fun other hother => h other (List.mem_cons_of_mem _ hother)
    cases texts with
    | nil =>
      rw [String.intercalate_singleton]
      exact htext
    | cons next texts =>
      rw [String.intercalate_cons_cons]
      exact append_iff.mpr ⟨append_iff.mpr ⟨htext, hbetween⟩, hrest⟩

/-- Texts of a class after each other belong to it. -/
theorem join {texts : List String} (h : ∀ text ∈ texts, Within isMember text) :
    Within isMember (String.join texts) := by
  induction texts with
  | nil => exact empty
  | cons text texts ih =>
    rw [String.join_cons]
    exact append_iff.mpr ⟨h text List.mem_cons_self,
      ih fun other hother => h other (List.mem_cons_of_mem _ hother)⟩

/-- A text of a class belongs to every greater one. -/
theorem mono {isOther : Char → Bool} {text : String} (h : Within isMember text)
    (hle : ∀ c, isMember c = true → isOther c = true) : Within isOther text :=
  fun c hc => hle c (h c hc)

/-- No other character is in a text of a class. -/
theorem notMem {text : String} (h : Within isMember text) {c : Char} (hc : isMember c = false) :
    c ∉ text.toList := by
  intro hmem
  rw [h c hmem] at hc
  cases hc

end Within

/-! ## Plain texts -/

/-- Whether a character is no control character. -/
def isVisible (c : Char) : Bool :=
  0x20 ≤ c.toNat

/-- A control character is not visible. -/
theorem isVisible_of_lt {c : Char} (hc : c.toNat < 0x20) : isVisible c = false :=
  decide_eq_false (Nat.not_le.mpr hc)

/-- Whether a character may stand by itself in a column: no control character, no quote and no
comma. -/
def isPlain (c : Char) : Bool :=
  isVisible c && c != '"' && c != ','

/-- A text consists of characters that may stand by themselves. -/
abbrev Plain (text : String) : Prop :=
  Within isPlain text

namespace Plain

variable {text : String}

/-- A plain text has no control characters. -/
theorem isVisible (h : Plain text) : Within isVisible text := by
  refine h.mono fun c hc => ?_
  simp only [isPlain, Bool.and_eq_true] at hc
  exact hc.1.1

/-- The digits of a number are plain. -/
theorem ofDigits {base n : Nat} (hb : 1 < base) (hle : base ≤ 16) :
    Plain (String.ofList (Nat.toDigits base n)) := by
  have hall : ∀ d < 16, isPlain d.digitChar = true := by decide
  intro c hc
  rw [String.toList_ofList] at hc
  obtain ⟨d, hd, rfl⟩ := Numeral.exists_of_mem_toDigits hb hc
  exact hall d (by omega)

/-- A decimal numeral is plain, -/
@[simp] theorem decimal (n : Nat) : Plain (Numeral.decimal n) :=
  ofDigits (by decide) (by decide)

/-- and a hexadecimal one is, -/
@[simp] theorem hexadecimal (n : Nat) : Plain (Numeral.hexadecimal n) :=
  ofDigits (by decide) (by decide)

/-- marked as such, too, -/
@[simp] theorem marked (n : Nat) : Plain (Numeral.marked n) :=
  Within.append_iff.mpr ⟨by decide, hexadecimal n⟩

/-- and one with a sign. -/
@[simp] theorem signed (n : Int) : Plain (Numeral.signed n) := by
  cases n with
  | ofNat n => exact decimal n
  | negSucc n => exact Within.append_iff.mpr ⟨by decide, decimal (n + 1)⟩

/-- Zeros in front leave a text plain. -/
@[simp] theorem zeroPadded_iff {width : Nat} {text : String} :
    Plain (Numeral.zeroPadded width text) ↔ Plain text := by
  have hzeros : Plain (String.ofList (List.replicate (width - text.length) '0')) := by
    intro c hc
    rw [String.toList_ofList] at hc
    rw [List.eq_of_mem_replicate hc]
    rfl
  rw [Numeral.zeroPadded, Plain, Within.append_iff]
  exact and_iff_right hzeros

/-- The octets of a hardware address are plain with colons between them. -/
theorem hardwareText (bytes : Bytes) : Plain (hardwareText bytes) := by
  apply Within.intercalate (by decide)
  intro text htext
  obtain ⟨b, -, rfl⟩ := List.mem_map.mp htext
  exact zeroPadded_iff.mpr (hexadecimal _)

/-- An address of the fourth version is plain, -/
@[simp] theorem ipv4 (address : Ipv4.Address) : Plain address.text := by
  apply Within.intercalate (by decide)
  intro text htext
  obtain ⟨b, -, rfl⟩ := List.mem_map.mp htext
  exact decimal _

/-- and so are groups -/
theorem groupsText (groups : List UInt16) : Plain (Ipv6.groupsText groups) := by
  apply Within.intercalate (by decide)
  intro text htext
  obtain ⟨b, -, rfl⟩ := List.mem_map.mp htext
  exact hexadecimal _

/-- and an address of the sixth version. -/
@[simp] theorem ipv6 (address : Ipv6.Address) : Plain address.text := by
  unfold Ipv6.Address.text
  split
  · exact Within.append_iff.mpr ⟨by decide, ipv4 _⟩
  · dsimp only
    split
    · exact Within.append_iff.mpr ⟨Within.append_iff.mpr ⟨groupsText _, by decide⟩, groupsText _⟩
    · exact groupsText _

/-- The time of a day is plain, -/
@[simp] theorem clockText (secondOfDay second : Nat) : Plain (clockText secondOfDay second) := by
  simp +decide [CaptureFlow.clockText]

/-- and so is a date -/
@[simp] theorem date (date : Date) : Plain date.text := by
  have hyear : Plain (Date.yearText date.year) := by
    unfold Date.yearText
    split
    · simp
    · split <;> simp +decide
  simp +decide [Date.text, hyear]

/-- and a timestamp of both. -/
theorem timestamp (timestamp : Timestamp) : Plain timestamp.text := by
  unfold Timestamp.text
  dsimp only
  split
  · simp +decide
  · simp

end Plain

end CaptureFlow
