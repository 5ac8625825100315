import CaptureFlow.Proofs.Http.Sniff
import Mathlib.Data.List.Induction
import Mathlib.Data.List.TakeWhile

/-!
# Messages

A message is its first line, a block of fields that an empty line ends, and a body. What is
written that way is read back: the line with all its pieces, and of the fields the last of each
kind whose value is text, in whatever letter case its name stands. No block starts with another
one, so a message that is cut within its block, or whose block has more fields than there is room
for, is read as its line alone.
-/

namespace CaptureFlow.Http

/-! ## Fields as they are written -/

/-- Some octets end a line. -/
inductive IsLineEnd : Bytes → Prop
  /-- A newline, -/
  | newline : IsLineEnd [0x0a]
  /-- or a carriage return in front of one. -/
  | carriageReturn : IsLineEnd [0x0d, 0x0a]

/-- Some octets are blanks. -/
def IsBlanks (blanks : Bytes) : Prop :=
  ∀ b ∈ blanks, isSpace b = true

/-- Some octets are a value: text without blanks around it. -/
structure IsValue (value : Bytes) : Prop where
  /-- All of them belong to a text. -/
  all : ∀ b ∈ value, isText b = true
  /-- There is no blank in front. -/
  head : Stops isSpace value
  /-- There is no blank at the end. -/
  last : Stops isSpace value.reverse

instance (isMember : UInt8 → Bool) (run : Bytes) : Decidable (IsRun isMember run) :=
  decidable_of_iff (run ≠ [] ∧ run.all isMember = true)
    ⟨fun h => ⟨h.1, List.all_eq_true.mp h.2⟩, fun h => ⟨h.ne_nil, List.all_eq_true.mpr h.all⟩⟩

instance (isMember : UInt8 → Bool) (rest : Bytes) : Decidable (Stops isMember rest) :=
  Option.decidableForallMem rest.head?

instance (value : Bytes) : Decidable (IsValue value) :=
  decidable_of_iff (value.all isText = true ∧ Stops isSpace value ∧ Stops isSpace value.reverse)
    ⟨fun h => ⟨List.all_eq_true.mp h.1, h.2.1, h.2.2⟩,
      fun h => ⟨List.all_eq_true.mpr h.all, h.head, h.last⟩⟩

/-- Some octets are the line of a field. -/
inductive IsFieldLine : Field → Bytes → Prop
  /-- The name, a colon and the value, which may stand between blanks. -/
  | intro {name value before behind ending : Bytes} (hname : IsRun isToken name)
      (hbefore : IsBlanks before) (hvalue : IsValue value) (hbehind : IsBlanks behind)
      (hending : IsLineEnd ending) :
      IsFieldLine ⟨name, value⟩ (name ++ 0x3a :: (before ++ (value ++ (behind ++ ending))))

/-- Some octets are the lines of fields with the empty line that ends them. -/
inductive IsFieldBlock : List Field → Bytes → Prop
  /-- The empty line. -/
  | nil {ending : Bytes} (hending : IsLineEnd ending) : IsFieldBlock [] ending
  /-- The line of a field in front of others. -/
  | cons {field : Field} {fields : List Field} {line block : Bytes}
      (hline : IsFieldLine field line) (hblock : IsFieldBlock fields block) :
      IsFieldBlock (field :: fields) (line ++ block)

/-- A field as it is written, with a space in front of the value. -/
def Field.octets (field : Field) : Bytes :=
  field.name ++ 0x3a :: 0x20 :: (field.value ++ [0x0d, 0x0a])

/-- Fields as they are written, with the empty line that ends them. -/
def blockOctets : List Field → Bytes
  | [] => [0x0d, 0x0a]
  | field :: fields => field.octets ++ blockOctets fields

/-- Fields are written as a block. -/
theorem isFieldBlock_blockOctets {fields : List Field}
    (h : ∀ field ∈ fields, IsRun isToken field.name ∧ IsValue field.value) :
    IsFieldBlock fields (blockOctets fields) := by
  induction fields with
  | nil => exact .nil .carriageReturn
  | cons field fields ih =>
    obtain ⟨hname, hvalue⟩ := h field List.mem_cons_self
    have hspace : IsBlanks [0x20] := by
      intro b hb
      rw [List.mem_singleton.mp hb]
      rfl
    have hnone : IsBlanks [] := fun b hb => absurd hb List.not_mem_nil
    exact .cons (.intro hname hspace hvalue hnone .carriageReturn)
      (ih fun other hother => h other (List.mem_cons_of_mem _ hother))

/-! ## Lines -/

section Lines

variable {bytes rest : Bytes}

/-- The end of a line is dropped if it stands in front. -/
theorem dropLineEnd_eq_some_iff :
    dropLineEnd bytes = some rest ↔ ∃ ending, IsLineEnd ending ∧ bytes = ending ++ rest := by
  constructor
  · intro h
    unfold dropLineEnd at h
    split at h
    · cases h
      exact ⟨_, .carriageReturn, rfl⟩
    · cases h
      exact ⟨_, .newline, rfl⟩
    · cases h
  · rintro ⟨ending, hending, rfl⟩
    cases hending with
    | newline => rfl
    | carriageReturn => rfl

/-- A line ends in front of what follows in one way only. -/
theorem IsLineEnd.append_inj {ending other rest' : Bytes} (h : IsLineEnd ending)
    (hother : IsLineEnd other) (heq : ending ++ rest = other ++ rest') :
    ending = other ∧ rest = rest' := by
  cases h with
  | newline =>
    cases hother with
    | newline => exact ⟨rfl, List.cons.inj heq |>.2⟩
    | carriageReturn => cases heq
  | carriageReturn =>
    cases hother with
    | newline => cases heq
    | carriageReturn => exact ⟨rfl, List.cons.inj (List.cons.inj heq).2 |>.2⟩

/-- The end of a line stops a text. -/
theorem IsLineEnd.stops_isText {ending : Bytes} (h : IsLineEnd ending) :
    Stops isText (ending ++ rest) := by
  cases h with
  | newline => exact Stops.cons_iff.mpr rfl
  | carriageReturn => exact Stops.cons_iff.mpr rfl

/-- A text ends at the end of its line, where one follows. -/
theorem text_append_inj {text other ending ending' rest' : Bytes}
    (htext : ∀ b ∈ text, isText b = true) (hother : ∀ b ∈ other, isText b = true)
    (hending : IsLineEnd ending) (hending' : IsLineEnd ending')
    (heq : text ++ (ending ++ rest) = other ++ (ending' ++ rest')) :
    text = other ∧ ending = ending' ∧ rest = rest' := by
  have hrun : text = other := by
    rw [← hending.stops_isText.takeWhile_append htext, heq,
      hending'.stops_isText.takeWhile_append hother]
  subst hrun
  exact ⟨rfl, hending.append_inj hending' (List.append_cancel_left heq)⟩

/-- No token starts with the end of a line. -/
theorem dropLineEnd_of_isToken {name : Bytes} (h : IsRun isToken name) :
    dropLineEnd (name ++ rest) = none := by
  obtain ⟨b, others, rfl⟩ := List.exists_cons_of_ne_nil h.ne_nil
  have hb := h.all b List.mem_cons_self
  cases hdrop : dropLineEnd (b :: others ++ rest) with
  | none => rfl
  | some behind =>
    obtain ⟨ending, hending, heq⟩ := dropLineEnd_eq_some_iff.mp hdrop
    cases hending with
    | newline =>
      obtain rfl : b = 0x0a := (List.cons.inj heq).1
      cases hb
    | carriageReturn =>
      obtain rfl : b = 0x0d := (List.cons.inj heq).1
      cases hb

/-! ## Values -/

/-- Blanks belong to a text. -/
theorem IsBlanks.isText {blanks : Bytes} (h : IsBlanks blanks) : ∀ b ∈ blanks, isText b = true := by
  intro b hb
  rw [Http.isText, h b hb, Bool.true_or]

/-- The blanks around a value are taken off. -/
theorem IsValue.trimEnd_dropWhile {value before behind : Bytes} (h : IsValue value)
    (hbefore : IsBlanks before) (hbehind : IsBlanks behind) :
    trimEnd ((before ++ (value ++ behind)).dropWhile isSpace) = value := by
  have hlast : trimEnd (value ++ behind) = value := by
    rw [trimEnd, List.reverse_append,
      h.last.dropWhile_append fun b hb => hbehind b (List.mem_reverse.mp hb), List.reverse_reverse]
  cases value with
  | nil =>
    rw [List.dropWhile_append_of_pos hbefore, List.nil_append,
      List.dropWhile_eq_nil_iff.mpr hbehind]
    rfl
  | cons b value =>
    have hhead : Stops isSpace (b :: value ++ behind) :=
      Stops.cons_iff.mpr (Stops.cons_iff.mp h.head)
    rw [hhead.dropWhile_append hbefore, hlast]

/-- A text is a value between blanks. -/
theorem exists_isValue {text : Bytes} (h : ∀ b ∈ text, isText b = true) :
    ∃ before behind, IsBlanks before ∧ IsBlanks behind ∧
      IsValue (trimEnd (text.dropWhile isSpace)) ∧
        text = before ++ (trimEnd (text.dropWhile isSpace) ++ behind) := by
  have hstops : ∀ bytes : Bytes, Stops isSpace (bytes.dropWhile isSpace) := by
    intro bytes b hb
    have hhead := List.head?_dropWhile_not isSpace bytes
    rw [Option.mem_def.mp hb] at hhead
    exact hhead
  let inner := text.dropWhile isSpace
  let behind := (inner.reverse.takeWhile isSpace).reverse
  have hinner : inner = trimEnd inner ++ behind := by
    rw [trimEnd, ← List.reverse_append, List.takeWhile_append_dropWhile, List.reverse_reverse]
  have htext : text = text.takeWhile isSpace ++ inner := List.takeWhile_append_dropWhile.symm
  refine ⟨text.takeWhile isSpace, behind, List.all_eq_true.mp List.all_takeWhile, ?_, ⟨?_, ?_, ?_⟩,
    by rw [← hinner, ← htext]⟩
  · intro b hb
    exact List.all_eq_true.mp List.all_takeWhile b (List.mem_reverse.mp hb)
  · intro b hb
    refine h b ?_
    rw [htext, hinner]
    exact List.mem_append_right _ (List.mem_append_left _ hb)
  · intro b hb
    refine hstops text b ?_
    change b ∈ (trimEnd inner).head? at hb
    change b ∈ inner.head?
    rw [hinner, Option.mem_def, List.head?_append, Option.mem_def.mp hb]
    rfl
  · rw [trimEnd, List.reverse_reverse]
    exact hstops _

/-! ## Blocks -/

/-- A field is split off if its line stands in front. -/
theorem splitField_eq_some_iff {field : Field} :
    splitField bytes = some (field, rest) ↔ ∃ line, IsFieldLine field line ∧ bytes = line ++ rest := by
  constructor
  · intro h
    simp only [splitField, Option.bind_eq_bind, Option.bind_eq_some_iff, Option.pure_def,
      Option.some.injEq, Prod.exists, splitRun_eq_some_iff, dropOctet_eq_some_iff,
      dropLineEnd_eq_some_iff, Prod.mk.injEq] at h
    obtain ⟨name, _, ⟨hname, -, rfl⟩, text, rfl, _, ⟨ending, hending, hdrop⟩, rfl, hrest⟩ := h
    rw [hrest] at hdrop
    have hline : text = text.takeWhile isText ++ (ending ++ rest) := by
      rw [← hdrop, List.prefix_iff_eq_append.mp (List.takeWhile_prefix isText)]
    obtain ⟨before, behind, hbefore, hbehind, hvalue, hrun⟩ :=
      exists_isValue (List.all_eq_true.mp (List.all_takeWhile (p := isText) (l := text)))
    refine ⟨_, .intro hname hbefore hvalue hbehind hending, ?_⟩
    conv_lhs => rw [hline, hrun]
    simp only [List.append_assoc, List.cons_append]
  · rintro ⟨_, ⟨hname, hbefore, hvalue, hbehind, hending⟩, rfl⟩
    rename_i name value before behind ending
    have htext : ∀ b ∈ before ++ (value ++ behind), isText b = true := by
      intro b hb
      rcases List.mem_append.mp hb with hb | hb
      · exact hbefore.isText b hb
      · rcases List.mem_append.mp hb with hb | hb
        · exact hvalue.all b hb
        · exact hbehind.isText b hb
    have hline : (name ++ 0x3a :: (before ++ (value ++ (behind ++ ending)))) ++ rest =
        name ++ 0x3a :: ((before ++ (value ++ behind)) ++ (ending ++ rest)) := by
      simp only [List.append_assoc, List.cons_append]
    have hcolon : ∀ behind, Stops isToken (0x3a :: behind) := fun _ => Stops.cons_iff.mpr rfl
    simp only [splitField, hline, splitRun_eq_some_iff.mpr ⟨hname, hcolon _, rfl⟩,
      dropOctet_eq_some_iff.mpr rfl, hending.stops_isText.takeWhile_append htext,
      List.drop_left, dropLineEnd_eq_some_iff.mpr ⟨ending, hending, rfl⟩,
      hvalue.trimEnd_dropWhile hbefore hbehind, Option.bind_eq_bind, Option.bind_some,
      Option.pure_def]

/-- The line of a field does not start with the end of a line. -/
theorem IsFieldLine.dropLineEnd_append {field : Field} {line : Bytes} (h : IsFieldLine field line)
    (rest : Bytes) : dropLineEnd (line ++ rest) = none := by
  cases h with
  | intro hname =>
    rw [List.append_assoc]
    exact dropLineEnd_of_isToken hname

/-- The same octets start with the line of one field only. -/
theorem IsFieldLine.append_inj {field other : Field} {line line' rest' : Bytes}
    (h : IsFieldLine field line) (hother : IsFieldLine other line')
    (heq : line ++ rest = line' ++ rest') : field = other ∧ line = line' ∧ rest = rest' := by
  have hsplit : splitField (line ++ rest) = some (field, rest) :=
    splitField_eq_some_iff.mpr ⟨line, h, rfl⟩
  rw [heq, splitField_eq_some_iff.mpr ⟨line', hother, rfl⟩] at hsplit
  cases hsplit
  exact ⟨rfl, List.append_cancel_right heq, rfl⟩

/-- The same octets start with one block only. -/
theorem IsFieldBlock.append_inj {fields others : List Field} {block other rest' : Bytes}
    (h : IsFieldBlock fields block) (hother : IsFieldBlock others other)
    (heq : block ++ rest = other ++ rest') : fields = others ∧ block = other ∧ rest = rest' := by
  -- what the octets start with tells whether the block ends and, if not, which field is next
  induction h generalizing others other with
  | nil hending =>
    cases hother with
    | nil hending' => exact ⟨rfl, hending.append_inj hending' heq⟩
    | @cons _ _ line block hline _ =>
      have hnone := hline.dropLineEnd_append (block ++ rest')
      rw [← List.append_assoc, ← heq, dropLineEnd_eq_some_iff.mpr ⟨_, hending, rfl⟩] at hnone
      cases hnone
  | @cons field fields line block hline _ ih =>
    cases hother with
    | nil hending =>
      have hnone := hline.dropLineEnd_append (block ++ rest)
      rw [← List.append_assoc, heq, dropLineEnd_eq_some_iff.mpr ⟨_, hending, rfl⟩] at hnone
      cases hnone
    | @cons field' fields' line' block' hline' hblock' =>
      rw [List.append_assoc, List.append_assoc] at heq
      obtain ⟨rfl, rfl, hbehind⟩ := hline.append_inj hline' heq
      obtain ⟨rfl, rfl, rfl⟩ := ih hblock' hbehind
      exact ⟨rfl, rfl, rfl⟩

/-- The fields that are read are those of a block in front with no more than there is room for. -/
theorem fields_eq_some_iff {room : Nat} {found : List Field} :
    fields room bytes = some found ↔
      found.length ≤ room ∧ ∃ block rest, IsFieldBlock found block ∧ bytes = block ++ rest := by
  constructor
  · intro h
    induction room generalizing bytes found with
    | zero =>
      rw [fields] at h
      split at h
      next rest hdrop =>
        cases h
        obtain ⟨ending, hending, rfl⟩ := dropLineEnd_eq_some_iff.mp hdrop
        exact ⟨Nat.le_refl _, ending, rest, .nil hending, rfl⟩
      · cases h
    | succ room ih =>
      rw [fields] at h
      split at h
      next rest hdrop =>
        cases h
        obtain ⟨ending, hending, rfl⟩ := dropLineEnd_eq_some_iff.mp hdrop
        exact ⟨Nat.zero_le _, ending, rest, .nil hending, rfl⟩
      · simp only [Option.bind_eq_bind, Option.bind_eq_some_iff, Option.pure_def,
          Option.some.injEq, Prod.exists, splitField_eq_some_iff] at h
        obtain ⟨field, _, ⟨line, hline, rfl⟩, others, hothers, rfl⟩ := h
        obtain ⟨hlength, block, rest, hblock, rfl⟩ := ih hothers
        refine ⟨Nat.succ_le_succ hlength, line ++ block, rest, .cons hline hblock, ?_⟩
        rw [List.append_assoc]
  · rintro ⟨hlength, block, rest, hblock, rfl⟩
    induction hblock generalizing room with
    | nil hending =>
      cases room <;> rw [fields, dropLineEnd_eq_some_iff.mpr ⟨_, hending, rfl⟩]
    | @cons field others line block hline _ ih =>
      cases room with
      | zero => cases hlength
      | succ room =>
        rw [fields, List.append_assoc, hline.dropLineEnd_append]
        simp only [splitField_eq_some_iff.mpr ⟨line, hline, rfl⟩, ih (Nat.le_of_succ_le_succ hlength),
          Option.bind_eq_bind, Option.bind_some, Option.pure_def]

/-- A block with more fields than there is room for is not read. -/
theorem IsFieldBlock.fields_eq_none {room : Nat} {found : List Field} {block : Bytes}
    (h : IsFieldBlock found block) (hroom : room < found.length) (body : Bytes) :
    fields room (block ++ body) = none := by
  cases hfields : fields room (block ++ body) with
  | none => rfl
  | some others =>
    obtain ⟨hlength, other, rest, hother, heq⟩ := fields_eq_some_iff.mp hfields
    obtain ⟨rfl, -, -⟩ := h.append_inj hother heq
    omega

/-- A block that is cut is not read. -/
theorem IsFieldBlock.fields_of_cut {room : Nat} {found : List Field} {front more : Bytes}
    (h : IsFieldBlock found (front ++ more)) (hmore : more ≠ []) : fields room front = none := by
  cases hfields : fields room front with
  | none => rfl
  | some others =>
    obtain ⟨-, other, rest, hother, rfl⟩ := fields_eq_some_iff.mp hfields
    have heq : (other ++ rest ++ more) ++ [] = other ++ (rest ++ more) := by
      rw [List.append_nil, List.append_assoc]
    obtain ⟨-, -, hrest⟩ := h.append_inj hother heq
    exact absurd (List.append_eq_nil_iff.mp hrest.symm).2 hmore

end Lines

/-! ## Fields that are kept -/

/-- An octet with the bit that tells small letters, if it is a capital letter. -/
def lowerOctet (b : UInt8) : UInt8 :=
  if 0x41 ≤ b ∧ b ≤ 0x5a then b + 0x20 else b

/-- A field has a name, given in small letters, in any letter case. -/
def Field.IsNamed (name : String) (field : Field) : Prop :=
  field.name.map lowerOctet = Utf8.encode name

instance (name : String) (field : Field) : Decidable (field.IsNamed name) :=
  inferInstanceAs (Decidable (_ = _))

/-- The value of the last field with a name whose value is text. -/
def lastText (name : String) (fields : List Field) : Option String :=
  (fields.filterMap fun field =>
    if field.IsNamed name then Utf8.decode? field.value else none).getLast?

/-- The 64-bit number that a decimal numeral tells. -/
def lengthOf? (text : String) : Option UInt64 :=
  (Numeral.unsigned? UInt64.size text.toList).map UInt64.ofNat

/-- A text without white space around it. -/
def trimmed (text : String) : String :=
  String.ofList (Blank.trim text.toList)

/-- A head tells nothing of any fields. -/
structure Header.IsBare (header : Header) : Prop where
  /-- No host, -/
  host_eq : header.host = none
  /-- no type -/
  contentType_eq : header.contentType = none
  /-- and no length of the content. -/
  contentLength_eq : header.contentLength = none

/-- The head with what fields tell. -/
def Header.telling (header : Header) (fields : List Field) : Header :=
  { header with
    host := lastText "host" fields
    contentType := lastText "content-type" fields
    contentLength := (lastText "content-length" fields).bind fun text => lengthOf? (trimmed text) }

/-- A small letter is the same letter as an octet and as a character. -/
theorem toLower_ofNat {b : UInt8} (h : b < 0x80) :
    (Char.ofNat b.toNat).toLower = Char.ofNat (lowerOctet b).toNat ∧ lowerOctet b < 0x80 := by
  have hall : ∀ n < 0x80, (Char.ofNat (UInt8.ofNat n).toNat).toLower =
      Char.ofNat (lowerOctet (UInt8.ofNat n)).toNat ∧ lowerOctet (UInt8.ofNat n) < 0x80 := by
    decide
  have hb := hall b.toNat (UInt8.lt_iff_toNat_lt.mp h)
  rwa [UInt8.ofNat_toNat] at hb

/-- Octets below 128 are a text in small letters if their small letters are its octets. -/
theorem toLower_asciiText_eq_iff {bytes : Bytes} (h : ∀ b ∈ bytes, b < 0x80) {name : String} :
    (asciiText bytes).toLower = name ↔ bytes.map lowerOctet = Utf8.encode name := by
  have hsmall : (asciiText bytes).toLower.toList = (asciiText bytes).toList.map Char.toLower :=
    String.toList_map
  have htext : (asciiText bytes).toLower = asciiText (bytes.map lowerOctet) := by
    rw [← String.toList_inj, hsmall, asciiText, asciiText, String.toList_ofList,
      String.toList_ofList, List.map_map, List.map_map]
    exact List.map_congr_left fun b hb => (toLower_ofNat (h b hb)).1
  have hlower : ∀ b ∈ bytes.map lowerOctet, b < 0x80 := by
    intro b hb
    obtain ⟨c, hc, rfl⟩ := List.mem_map.mp hb
    exact (toLower_ofNat (h c hc)).2
  rw [htext, ← Utf8.encode_inj, encode_asciiText hlower]

/-- One more field takes the place of those before it if its value is text. -/
theorem lastText_concat (name : String) (fields : List Field) (field : Field) :
    lastText name (fields ++ [field]) =
      if field.IsNamed name then (Utf8.decode? field.value).or (lastText name fields)
      else lastText name fields := by
  unfold lastText
  rw [List.filterMap_append, List.getLast?_append, List.filterMap_cons, List.filterMap_nil]
  by_cases hname : field.IsNamed name
  · rw [if_pos hname, if_pos hname]
    cases Utf8.decode? field.value with
    | none => rfl
    | some text => rfl
  · rw [if_neg hname, if_neg hname]
    rfl

/-- A field has one name only. -/
theorem Field.IsNamed.unique {field : Field} {name other : String} (h : field.IsNamed name)
    (hother : field.IsNamed other) : name = other :=
  Utf8.encode_inj.mp (h.symm.trans hother)

/-- A field is kept as one more of those that tell something. -/
theorem Header.withField_telling (header : Header) (fields : List Field) {field : Field}
    (hname : IsRun isToken field.name) :
    (header.telling fields).withField field = header.telling (fields ++ [field]) := by
  have hnamed : ∀ name, (asciiText field.name).toLower = name ↔ field.IsNamed name := fun _ =>
    toLower_asciiText_eq_iff fun b hb => lt_of_isToken (hname.all b hb)
  simp only [withField, telling, lastText_concat, hnamed]
  cases Utf8.decode? field.value with
  | none => simp only [Option.none_or, ite_self]
  | some value =>
    have hother : ∀ {name other : String}, field.IsNamed name → name ≠ other →
        ¬field.IsNamed other := fun h hne hnamed => hne (h.unique hnamed)
    simp only [Option.some_or]
    split
    next h => simp only [if_neg (hother h (by decide : "host" ≠ "content-type")),
      if_neg (hother h (by decide : "host" ≠ "content-length"))]
    · split
      next h => simp only [if_neg (hother h (by decide : "content-type" ≠ "content-length"))]
      · split
        next h => simp only [Option.bind_some, lengthOf?, trimmed, String.toList_ofList]
        · rfl

/-- The fields of a message are kept as they tell. -/
theorem Header.IsBare.foldl_withField {header : Header} (h : header.IsBare) {fields : List Field}
    (hnames : ∀ field ∈ fields, IsRun isToken field.name) :
    fields.foldl Header.withField header = header.telling fields := by
  induction fields using List.reverseRecOn with
  | nil =>
    obtain ⟨hhost, htype, hlength⟩ := h
    cases header
    cases hhost
    cases htype
    cases hlength
    rfl
  | append_singleton fields field ih =>
    rw [List.foldl_concat, ih fun other hother => hnames other (List.mem_append_left _ hother),
      withField_telling _ _ (hnames field (List.mem_append_right _ List.mem_cons_self))]

/-- The names of a block are tokens. -/
theorem IsFieldBlock.isRun_name {fields : List Field} {block : Bytes}
    (h : IsFieldBlock fields block) : ∀ field ∈ fields, IsRun isToken field.name := by
  induction h with
  | nil => exact fun field hfield => absurd hfield List.not_mem_nil
  | cons hline _ ih =>
    intro other hother
    rcases List.mem_cons.mp hother with rfl | hother
    · cases hline with
      | intro hname => exact hname
    · exact ih other hother

/-- A text without white space around it stays as it is. -/
theorem trimmed_eq {text : String} (hhead : Stops Blank.isBlank text.toList)
    (hlast : Stops Blank.isBlank text.toList.reverse) : trimmed text = text := by
  rw [trimmed, Blank.trim, Blank.trimStart, Blank.trimStart, hhead.dropWhile_eq,
    hlast.dropWhile_eq, List.reverse_reverse, String.ofList_toList]

/-! ## Messages as they are written -/

/-- The first line of a message with a head: the part that tells the message, and what follows up
to the end of the line. -/
inductive IsStartLine : (head : Header) → (line ending : Bytes) → Prop
  /-- A request line and its end. -/
  | request {method uri : String} {version : UInt8} {line ending : Bytes}
      (hline : IsRequestLine (Utf8.encode method) (Utf8.encode uri) version line)
      (hending : IsLineEnd ending) : IsStartLine (.request method uri version) line ending
  /-- A status line, a space, the reason, which is ASCII, and the end of the line. -/
  | response {status : UInt16} {version : UInt8} {reason : String} {line ending : Bytes}
      (hline : IsStatusLine status version line)
      (hreason : ∀ b ∈ Utf8.encode reason, isText b = true ∧ b < 0x80)
      (hending : IsLineEnd ending) :
      IsStartLine (.response status (some reason) version) line
        (0x20 :: (Utf8.encode reason ++ ending))

namespace IsStartLine

variable {head : Header} {line ending : Bytes}

/-- A first line tells nothing of the fields. -/
theorem isBare (h : IsStartLine head line ending) : head.IsBare := by
  cases h with
  | request => exact ⟨rfl, rfl, rfl⟩
  | response => exact ⟨rfl, rfl, rfl⟩

/-- A reason is read up to the end of its line. -/
theorem reasonLine_append {reason : String}
    (hreason : ∀ b ∈ Utf8.encode reason, isText b = true ∧ b < 0x80) (hending : IsLineEnd ending)
    (rest : Bytes) :
    reasonLine (0x20 :: (Utf8.encode reason ++ (ending ++ rest))) = (some reason, some rest) := by
  have hspace : dropLineEnd (0x20 :: (Utf8.encode reason ++ (ending ++ rest))) = none := rfl
  have hstops : Stops isText (ending ++ rest) := hending.stops_isText
  have hrun := hstops.takeWhile_append fun b hb => (hreason b hb).1
  have hascii : (Utf8.encode reason).any (0x80 ≤ ·) = false := by
    rw [List.any_eq_false]
    intro b hb
    simpa using (hreason b hb).2
  have htext : asciiText (Utf8.encode reason) = reason :=
    Utf8.encode_inj.mp (encode_asciiText fun b hb => (hreason b hb).2)
  simp only [reasonLine, hspace, dropOctet_eq_some_iff.mpr rfl, hrun, List.drop_left,
    dropLineEnd_eq_some_iff.mpr ⟨ending, hending, rfl⟩, hascii, htext, Bool.false_eq_true, if_false]

/-- A reason whose line is whole is followed by what follows the line. -/
theorem append_of_reasonLine {reason : String} {behind more rest block : Bytes}
    (hreason : ∀ b ∈ Utf8.encode reason, isText b = true ∧ b < 0x80) (hending : IsLineEnd ending)
    (heq : behind ++ more = 0x20 :: (Utf8.encode reason ++ (ending ++ block)))
    (hrest : (reasonLine behind).2 = some rest) : rest ++ more = block := by
  unfold reasonLine at hrest
  split at hrest
  next behind' hdrop =>
    -- a line that ends at once has no space in front
    obtain ⟨other, hother, rfl⟩ := dropLineEnd_eq_some_iff.mp hdrop
    cases hother with
    | newline => cases heq
    | carriageReturn => cases heq
  · split at hrest
    · cases hrest
    next text hspace =>
      obtain rfl := dropOctet_eq_some_iff.mp hspace
      dsimp only at hrest
      split at hrest
      next behind' hdrop =>
        cases hrest
        obtain ⟨other, hother, hline⟩ := dropLineEnd_eq_some_iff.mp hdrop
        have htext : text = text.takeWhile isText ++ (other ++ rest) := by
          rw [← hline, List.prefix_iff_eq_append.mp (List.takeWhile_prefix isText)]
        have htail : text ++ more = Utf8.encode reason ++ (ending ++ block) :=
          (List.cons.inj heq).2
        rw [htext, List.append_assoc, List.append_assoc] at htail
        exact (text_append_inj (List.all_eq_true.mp List.all_takeWhile)
          (fun b hb => (hreason b hb).1) hother hending htail).2.2
      · cases hrest

/-- A message is read from its first line, and its fields from what follows. -/
theorem sniff_append (h : IsStartLine head line ending) (rest : Bytes) :
    sniff (line ++ (ending ++ rest)) = some (head.withFields (some rest)) := by
  cases h with
  | request hline hending =>
    rw [hline.sniff_append, dropLineEnd_eq_some_iff.mpr ⟨ending, hending, rfl⟩]
  | response hline hreason hending =>
    rw [hline.sniff_append, List.cons_append, List.append_assoc, reasonLine_append hreason hending]

/-- A message that is cut behind the part of its line that tells it is read from that part. Where
the line is whole, the fields are read from what there is of them. -/
theorem exists_sniff_cut (h : IsStartLine head line ending) {behind more block : Bytes}
    (heq : behind ++ more = ending ++ block) :
    ∃ (other : Header) (behindLine : Option Bytes),
      sniff (line ++ behind) = some (other.withFields behindLine) ∧ other.SameLine head ∧
        other.IsBare ∧ ∀ rest, behindLine = some rest → rest ++ more = block := by
  cases h with
  | request hline hending =>
    refine ⟨_, _, hline.sniff_append behind, .refl _, ⟨rfl, rfl, rfl⟩, ?_⟩
    intro rest hrest
    obtain ⟨other, hother, rfl⟩ := dropLineEnd_eq_some_iff.mp hrest
    rw [List.append_assoc] at heq
    exact (hother.append_inj hending heq).2
  | response hline hreason hending =>
    refine ⟨_, _, hline.sniff_append behind, ⟨rfl, rfl, rfl, rfl, rfl⟩, ⟨rfl, rfl, rfl⟩, ?_⟩
    intro rest hrest
    rw [List.cons_append, List.append_assoc] at heq
    exact append_of_reasonLine hreason hending heq hrest

end IsStartLine

/-- A message that starts with `line`, whose first line goes on with `ending` and is followed by a
block of fields, is read as it was written. -/
structure ReadsAsWritten (head : Header) (line ending : Bytes) (fields : List Field) (block : Bytes) :
    Prop where
  /-- The head is that of the first line alone. -/
  isBare : head.IsBare
  /-- With no more fields than there is room for, the line and what the fields tell are read,
  whatever the body is. -/
  whole : fields.length ≤ maxFields → ∀ body,
    sniff (line ++ (ending ++ (block ++ body))) = some (head.telling fields)
  /-- A length without white space around it is the number that it is the numeral of. -/
  length_eq : ∀ text, lastText "content-length" fields = some text →
    Stops Blank.isBlank text.toList → Stops Blank.isBlank text.toList.reverse →
      (head.telling fields).contentLength = lengthOf? text
  /-- With more fields the line is read alone. -/
  crowded : maxFields < fields.length → ∀ body,
    sniff (line ++ (ending ++ (block ++ body))) = some head
  /-- A message that is cut before the end of its block is read as its line alone, but that a
  reason may be lacking. -/
  cut : ∀ behind more, behind ++ more = ending ++ block → more ≠ [] →
    ∃ other, sniff (line ++ behind) = some other ∧ other.SameLine head ∧ other.IsBare

/-- Every message that is written with a first line, fields and a body is read as written. -/
theorem readsAsWritten {head : Header} {line ending block : Bytes} {fields : List Field}
    (hstart : IsStartLine head line ending) (hblock : IsFieldBlock fields block) :
    ReadsAsWritten head line ending fields block where
  isBare := hstart.isBare
  whole hroom body := by
    have hfields : Http.fields maxFields (block ++ body) = some fields :=
      fields_eq_some_iff.mpr ⟨hroom, block, body, hblock, rfl⟩
    rw [hstart.sniff_append, Header.withFields, Option.bind_some, hfields,
      ← hstart.isBare.foldl_withField hblock.isRun_name]
  length_eq text htext hhead hlast := by
    rw [Header.telling, htext, Option.bind_some, trimmed_eq hhead hlast]
  crowded hroom body := by
    rw [hstart.sniff_append, Header.withFields, Option.bind_some, hblock.fields_eq_none hroom]
  cut behind more heq hmore := by
    obtain ⟨other, behindLine, hsniff, hline, hbare, hbehind⟩ := hstart.exists_sniff_cut heq
    have hfields : behindLine.bind (Http.fields maxFields) = none := by
      cases behindLine with
      | none => rfl
      | some rest => exact ((hbehind rest rfl).symm ▸ hblock).fields_of_cut hmore
    rw [Header.withFields, hfields] at hsniff
    exact ⟨other, hsniff, hline, hbare⟩

/-- A host that is told three times, once in capital letters and last as no text, and a length. -/
def repeatedFields : List Field :=
  [⟨Utf8.encode "Host", Utf8.encode "a"⟩, ⟨Utf8.encode "HOST", Utf8.encode "b"⟩,
    ⟨Utf8.encode "host", [0xff]⟩, ⟨Utf8.encode "Content-Length", Utf8.encode "5"⟩]

/-- Of these the host in capital letters and the length are read. -/
theorem readsAsWritten_repeatedFields :
    IsStartLine (.request "GET" "/" 1) (Utf8.encode "GET / HTTP/1.1") [0x0d, 0x0a] ∧
      IsFieldBlock repeatedFields (blockOctets repeatedFields) ∧
        sniff (Utf8.encode "GET / HTTP/1.1" ++
          ([0x0d, 0x0a] ++ (blockOctets repeatedFields ++ [0x21]))) =
            some { Header.request "GET" "/" 1 with host := some "b", contentLength := some 5 } := by
  have hstart : IsStartLine (.request "GET" "/" 1) (Utf8.encode "GET / HTTP/1.1") [0x0d, 0x0a] :=
    .request (.intro .nil (by decide) (by decide) .one) .carriageReturn
  have hblock : IsFieldBlock repeatedFields (blockOctets repeatedFields) :=
    isFieldBlock_blockOctets (by decide)
  have htells : (Header.request "GET" "/" 1).telling repeatedFields =
      { Header.request "GET" "/" 1 with host := some "b", contentLength := some 5 } := by
    decide +kernel
  have hwhole := (readsAsWritten hstart hblock).whole (by decide) [0x21]
  rw [htells] at hwhole
  exact ⟨hstart, hblock, hwhole⟩

end CaptureFlow.Http
