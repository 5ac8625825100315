import CaptureFlow.Proofs.Text.Plain
import CaptureFlow.Report

/-!
# Comma-separated values

A line of columns is read as comma-separated values: a column stands by itself, without quotes,
commas and line breaks, or between quotes, where two quotes stand for one. Columns as they are
written are read back just if no value that is written between quotes has a quote in it, since
a quote inside a value is written once.
-/

namespace CaptureFlow.Csv

/-! ## Reading -/

/-- Whether a character may stand in a column without quotes. -/
def isBare (c : Char) : Bool :=
  c != ',' && c != '"' && c != '\n' && c != '\r'

/-- Splits off what stands behind an opening quote up to the quote that closes it. Two quotes stand
for one. -/
def splitQuoted : List Char → Option (List Char × List Char)
  | [] => none
  | '"' :: '"' :: text => (splitQuoted text).map fun (value, rest) => ('"' :: value, rest)
  | '"' :: text => some ([], text)
  | c :: text => (splitQuoted text).map fun (value, rest) => (c :: value, rest)

/-- Splits off the value of a column. -/
def splitColumn : List Char → Option (List Char × List Char)
  | '"' :: text => splitQuoted text
  | text => some (text.takeWhile isBare, text.dropWhile isBare)

/-- What is left behind a quoted value is shorter. -/
theorem length_lt_of_splitQuoted {text value rest : List Char}
    (h : splitQuoted text = some (value, rest)) : rest.length < text.length := by
  fun_induction splitQuoted text generalizing value rest with
  | case1 => cases h
  | case2 text ih =>
    obtain ⟨⟨inner, behind⟩, hsplit, heq⟩ := Option.map_eq_some_iff.mp h
    cases heq
    have hlt := ih hsplit
    simp only [List.length_cons]
    omega
  | case3 text =>
    cases h
    simp
  | case4 c text _ _ ih =>
    obtain ⟨⟨inner, behind⟩, hsplit, heq⟩ := Option.map_eq_some_iff.mp h
    cases heq
    have hlt := ih hsplit
    simp only [List.length_cons]
    omega

/-- What is left behind a column is no longer. -/
theorem length_le_of_splitColumn {text value rest : List Char}
    (h : splitColumn text = some (value, rest)) : rest.length ≤ text.length := by
  unfold splitColumn at h
  split at h
  · exact Nat.le_succ_of_le (Nat.le_of_lt (length_lt_of_splitQuoted h))
  · cases h
    exact (List.dropWhile_suffix isBare).length_le

/-- The values of a line, with a comma between each two. -/
def columns? (text : List Char) : Option (List String) :=
  match _h : splitColumn text with
  | some (value, []) => some [String.ofList value]
  | some (value, ',' :: rest) => (columns? rest).map (String.ofList value :: ·)
  | _ => none
termination_by text.length
decreasing_by exact length_le_of_splitColumn _h

/-- The values that a text is read as. -/
def read (text : String) : Option (List String) :=
  columns? text.toList

/-! ## Columns as they are written -/

/-- The text behind a column: a comma in front of each other one. -/
def behind : List Column → List Char
  | [] => []
  | column :: columns => ',' :: (column.written.toList ++ behind columns)

/-- A line is its first column and what stands behind it. -/
theorem toList_line (column : Column) (columns : List Column) :
    (",".intercalate ((column :: columns).map Column.written)).toList =
      column.written.toList ++ behind columns := by
  induction columns generalizing column with
  | nil => simp [behind]
  | cons next columns ih =>
    rw [List.map_cons, List.map_cons, String.intercalate_cons_cons, String.toList_append,
      String.toList_append, ← List.map_cons, ih, List.append_assoc]
    rfl

/-- The characters of a line are those of its values, besides the commas and quotes. -/
theorem mem_line_iff {c : Char} (hcomma : c ≠ ',') (hquote : c ≠ '"') (columns : List Column) :
    c ∈ (",".intercalate (columns.map Column.written)).toList ↔
      ∃ column ∈ columns, c ∈ column.value.toList := by
  have hwritten : ∀ column : Column, c ∈ column.written.toList ↔ c ∈ column.value.toList := by
    intro column
    cases column with
    | bare value => exact Iff.rfl
    | quoted value => simp [Column.written, Column.value, hquote]
  have hbehind : ∀ columns : List Column, c ∈ behind columns ↔
      ∃ column ∈ columns, c ∈ column.value.toList := by
    intro columns
    induction columns with
    | nil => simp [behind]
    | cons column columns ih =>
      simp only [behind, List.mem_cons, List.mem_append, ih, hwritten, hcomma, false_or,
        exists_eq_or_imp]
  cases columns with
  | nil => simp
  | cons column columns =>
    simp only [toList_line, List.mem_append, hbehind, hwritten, List.mem_cons, exists_eq_or_imp]

/-- What stands behind a column starts with a comma. -/
theorem stops_behind {p : Char → Bool} (hp : p ',' = false) (columns : List Column) :
    Stops p (behind columns) := by
  cases columns with
  | nil => exact Stops.nil
  | cons column columns => exact Stops.cons_iff.mpr hp

/-- Another character than a quote is one of the value. -/
theorem splitQuoted_cons {c : Char} (hc : c ≠ '"') (text : List Char) :
    splitQuoted (c :: text) = (splitQuoted text).map fun (value, rest) => (c :: value, rest) := by
  rw [splitQuoted]
  · exact fun _ h => absurd h hc
  · exact hc

/-- A quote that no other one follows closes the value. -/
theorem splitQuoted_close {text : List Char} (h : Stops (· == '"') text) :
    splitQuoted ('"' :: text) = some ([], text) := by
  cases text with
  | nil => rfl
  | cons c text =>
    have hc : c ≠ '"' := by simpa using h
    rw [splitQuoted]
    intro text h
    exact hc (List.cons.inj h).1

/-- A value with each quote in it written twice. -/
def doubled : List Char → List Char
  | [] => []
  | c :: value => if c = '"' then '"' :: '"' :: doubled value else c :: doubled value

/-- Each quote takes one more character, -/
theorem length_doubled (value : List Char) :
    (doubled value).length = value.length + value.count '"' := by
  induction value with
  | nil => rfl
  | cons c value ih => grind [doubled]

/-- which is a quote. -/
theorem count_doubled (value : List Char) :
    (doubled value).count '"' = 2 * value.count '"' := by
  induction value with
  | nil => rfl
  | cons c value ih => grind [doubled]

/-- A quoted value is read from the text in which its quotes are written twice. -/
theorem eq_of_splitQuoted {text value rest : List Char}
    (h : splitQuoted text = some (value, rest)) : text = doubled value ++ '"' :: rest := by
  fun_induction splitQuoted text generalizing value with
  | case1 => cases h
  | case2 text ih =>
    obtain ⟨⟨inner, left⟩, hsplit, heq⟩ := Option.map_eq_some_iff.mp h
    cases heq
    exact congrArg (fun text => '"' :: '"' :: text) (ih hsplit)
  | case3 text =>
    cases h
    rfl
  | case4 c text _ hc ih =>
    obtain ⟨⟨inner, left⟩, hsplit, heq⟩ := Option.map_eq_some_iff.mp h
    cases heq
    rw [doubled, if_neg hc, ih hsplit, List.cons_append]

/-- A value without quotes is read back from between quotes. -/
theorem splitQuoted_append {value rest : List Char} (h : '"' ∉ value)
    (hrest : Stops (· == '"') rest) : splitQuoted (value ++ '"' :: rest) = some (value, rest) := by
  induction value with
  | nil => exact splitQuoted_close hrest
  | cons c value ih =>
    obtain ⟨hc, hvalue⟩ := List.ne_and_not_mem_of_not_mem_cons h
    rw [List.cons_append, splitQuoted_cons (Ne.symm hc), ih hvalue]
    rfl

/-- A value that is read back from between quotes has none in it. -/
theorem notMem_of_splitQuoted {value rest left : List Char} (hrest : Stops (· == '"') rest)
    (h : splitQuoted (value ++ '"' :: rest) = some (value, left)) : '"' ∉ value := by
  intro hmem
  -- each quote takes two to write, so as many as there are would have to follow the value at once
  have htext := eq_of_splitQuoted h
  have hpos : 0 < value.count '"' := List.count_pos_iff.mpr hmem
  have hlength := congrArg List.length htext
  simp only [List.length_append, List.length_cons, length_doubled] at hlength
  have hfront : value ++ '"' :: rest.take (value.count '"') = doubled value ++ ['"'] := by
    rw [← List.take_append_drop (value.count '"') rest, ← List.cons_append, ← List.append_assoc,
      ← List.singleton_append (l := left), ← List.append_assoc] at htext
    refine (List.append_inj htext ?_).1
    simp only [List.length_append, List.length_cons, List.length_take, length_doubled,
      List.length_nil]
    omega
  have hcount := congrArg (List.count '"') hfront
  rw [List.count_append, List.count_append, count_doubled, List.count_cons_self,
    List.count_singleton_self] at hcount
  -- but what follows is no quote
  cases rest with
  | nil =>
    rw [List.take_nil, List.count_nil] at hcount
    omega
  | cons c rest =>
    have hc : c ≠ '"' := by simpa using hrest
    obtain ⟨count, hsucc⟩ := Nat.exists_eq_succ_of_ne_zero (Nat.ne_of_gt hpos)
    rw [hsucc, List.take_succ_cons, List.count_cons_of_ne hc] at hcount
    have hle : (rest.take count).count '"' ≤ count :=
      Nat.le_trans List.count_le_length (List.length_take_le count rest)
    omega

/-! ## Lines -/

/-- A plain text may stand in a column by itself. -/
theorem isBare_of_plain {text : String} (h : Plain text) : Within isBare text := by
  refine h.mono fun c hc => ?_
  simp only [isPlain, Bool.and_eq_true, bne_iff_ne] at hc
  obtain ⟨⟨hvisible, hquote⟩, hcomma⟩ := hc
  have hnewline : c ≠ '\n' := by
    rintro rfl
    cases hvisible
  have hreturn : c ≠ '\r' := by
    rintro rfl
    cases hvisible
  simp only [isBare, Bool.and_eq_true, bne_iff_ne]
  exact ⟨⟨⟨hcomma, hquote⟩, hnewline⟩, hreturn⟩

/-- A column may be written: a value that stands by itself has no character that ends it. -/
def IsWritable (column : Column) : Prop :=
  ∀ value, column = .bare value → Within isBare value

/-- A column keeps its value: one that is written between quotes has no quote in it. -/
def IsKept (column : Column) : Prop :=
  ∀ value, column = .quoted value → '"' ∉ value.toList

/-- A text that starts with no quote is split behind the longest value that may stand by itself. -/
theorem splitColumn_of_stops {text : List Char} (h : Stops (· == '"') text) :
    splitColumn text = some (text.takeWhile isBare, text.dropWhile isBare) := by
  unfold splitColumn
  split
  next text => cases Stops.cons_iff.mp h
  · rfl

/-- The first column is split off if it keeps its value, and otherwise another value is. -/
theorem splitColumn_written {column : Column} (h : IsWritable column) (columns : List Column) :
    (IsKept column → splitColumn (column.written.toList ++ behind columns) =
        some (column.value.toList, behind columns)) ∧
      ∀ left, splitColumn (column.written.toList ++ behind columns) =
        some (column.value.toList, left) → IsKept column := by
  cases column with
  | bare value =>
    have hvalue := h value rfl
    have hstops : Stops (· == '"') (value.toList ++ behind columns) := by
      cases hchars : value.toList with
      | nil => exact stops_behind rfl columns
      | cons c chars =>
        have hc := hvalue c (hchars ▸ List.mem_cons_self)
        refine Stops.cons_iff.mpr (beq_eq_false_iff_ne.mpr ?_)
        rintro rfl
        cases hc
    refine ⟨fun _ => ?_, fun _ _ other hother => by cases hother⟩
    have hbehind := stops_behind (p := isBare) rfl columns
    refine (splitColumn_of_stops hstops).trans ?_
    rw [hbehind.takeWhile_append hvalue, hbehind.dropWhile_append hvalue]
    rfl
  | quoted value =>
    have hquotes : (Column.quoted value).written.toList ++ behind columns =
        '"' :: (value.toList ++ '"' :: behind columns) := by
      simp [Column.written]
    have hbehind := stops_behind (p := (· == '"')) rfl columns
    rw [hquotes]
    refine ⟨fun hkept => splitQuoted_append (hkept value rfl) hbehind, fun left hsplit => ?_⟩
    rintro other ⟨⟩
    exact notMem_of_splitQuoted hbehind hsplit

/-- A line of one column has its value. -/
theorem columns?_last {text value : List Char} (h : splitColumn text = some (value, [])) :
    columns? text = some [String.ofList value] := by
  rw [columns?.eq_def]
  split
  next hsplit =>
    cases h.symm.trans hsplit
    rfl
  next hsplit => cases h.symm.trans hsplit
  next hlast _ => exact absurd h (hlast value)

/-- A line has the value of its first column and those of the line behind it. -/
theorem columns?_next {text value rest : List Char}
    (h : splitColumn text = some (value, ',' :: rest)) :
    columns? text = (columns? rest).map (String.ofList value :: ·) := by
  rw [columns?.eq_def]
  split
  next hsplit => cases h.symm.trans hsplit
  next hsplit =>
    cases h.symm.trans hsplit
    rfl
  next hnext => exact absurd h (hnext value rest)

/-- The first of the values that a line is read as is split off in front. -/
theorem exists_of_columns? {text : List Char} {value : String} {values : List String}
    (h : columns? text = some (value :: values)) :
    ∃ rest, splitColumn text = some (value.toList, rest) := by
  rw [columns?.eq_def] at h
  split at h
  next inner hsplit =>
    cases h
    exact ⟨[], by rw [hsplit, String.toList_ofList]⟩
  next inner rest hsplit =>
    obtain ⟨_, -, heq⟩ := Option.map_eq_some_iff.mp h
    cases heq
    exact ⟨',' :: rest, by rw [hsplit, String.toList_ofList]⟩
  · cases h

/-- Columns that may be written are read back just if all of them keep their values. -/
theorem read_iff {column : Column} {columns : List Column}
    (h : ∀ other ∈ column :: columns, IsWritable other) :
    read (",".intercalate ((column :: columns).map Column.written)) =
        some ((column :: columns).map Column.value) ↔
      ∀ other ∈ column :: columns, IsKept other := by
  rw [read, toList_line]
  induction columns generalizing column with
  | nil =>
    obtain ⟨hsplit, hkept⟩ := splitColumn_written (h column List.mem_cons_self) []
    constructor
    · intro hread other hother
      obtain ⟨left, hleft⟩ := exists_of_columns? hread
      rw [List.mem_singleton.mp hother]
      exact hkept left hleft
    · intro hall
      rw [columns?_last (hsplit (hall column List.mem_cons_self)), String.ofList_toList]
      rfl
  | cons next columns ih =>
    obtain ⟨hsplit, hkept⟩ := splitColumn_written (h column List.mem_cons_self) (next :: columns)
    have ih := ih fun other hother => h other (List.mem_cons_of_mem _ hother)
    rw [List.forall_mem_cons, List.map_cons]
    constructor
    · intro hread
      obtain ⟨left, hleft⟩ := exists_of_columns? hread
      have hcolumn := hkept left hleft
      rw [columns?_next (hsplit hcolumn), String.ofList_toList] at hread
      obtain ⟨values, hvalues, heq⟩ := Option.map_eq_some_iff.mp hread
      cases heq
      exact ⟨hcolumn, ih.mp hvalues⟩
    · rintro ⟨hcolumn, hcolumns⟩
      rw [columns?_next (hsplit hcolumn), ih.mpr hcolumns, String.ofList_toList]
      rfl

example : read "1,\"a\",\"b\"\"c,d\"" = some ["1", "a", "b\"c,d"] := by decide +kernel

end CaptureFlow.Csv
