import CaptureFlow.Proofs.Json.Codec

/-!
# Records and variants that read back

A record is written field by field in order. Reading it fills the slots of the
fields in the same order, so that between two fields exactly the slots in front are
filled, provided that no two fields have the same key. A variant reads back when
the reader that its name chooses does.
-/

namespace CaptureFlow.Json

/-! ## Keys -/

/-- A field takes at least an octet. -/
theorem fieldOctets_ne_nil (field : String × Json) : fieldOctets field ≠ [] := by
  rw [fieldOctets]
  exact List.append_ne_nil_of_right_ne_nil _ (List.cons_ne_nil _ _)

/-- A key follows where a string stands, behind a comma unless it is the first one. -/
theorem nextKey_octetsOf (first : Bool) (key : String) (rest : Bytes) (fault : Option ReadFault) :
    nextKey first ⟨(if first then [] else [comma]) ++ (octetsOf (.text key) ++ rest), fault⟩ =
      .ok (true, ⟨octetsOf (.text key) ++ rest, fault⟩) := by
  have hquote : isBlankOctet quoteMark = false := rfl
  have hcomma : isBlankOctet comma = false := rfl
  have hend : ¬ quoteMark = closeObject := by decide
  have hend' : ¬ comma = closeObject := by decide
  rw [octetsOf_text, List.cons_append]
  cases first with
  | true => simp only [nextKey, if_true, List.nil_append, skip_cons hquote, hend, if_false]
  | false =>
    simp only [nextKey, Bool.false_eq_true, if_false, List.cons_append, List.nil_append,
      skip_cons hcomma, hend', if_true, skip_cons hquote]

/-- No key follows where the object ends. -/
theorem nextKey_closeObject (first : Bool) (rest : Bytes) (fault : Option ReadFault) :
    nextKey first ⟨closeObject :: rest, fault⟩ = .ok (false, ⟨closeObject :: rest, fault⟩) := by
  have hblank : isBlankOctet closeObject = false := rfl
  simp only [nextKey, skip_cons hblank, if_true]

/-- The colon behind a key is dropped. -/
theorem colon_cons (rest : Bytes) (fault : Option ReadFault) :
    colon ⟨0x3a :: rest, fault⟩ = .ok ((), ⟨rest, fault⟩) := by
  have hblank : isBlankOctet 0x3a = false := rfl
  simp only [colon, skip_cons hblank, if_true]

/-! ## Slots -/

namespace Fields

/-- The keys of the fields in order. -/
def names {types : List Type} : Fields types → List String
  | nil => []
  | cons field rest => field.name :: rest.names

/-- Every field reads back its value. -/
def ReadBack {types : List Type} : Fields types → Row types → Prop
  | nil, _ => True
  | cons field rest, (value, row) => field.codec.ReadsBack value ∧ rest.ReadBack row

/-- The slots when the values of the first `count` fields are read. -/
def filled {types : List Type} : Fields types → Row types → (count : Nat) → Slots types
  | nil, _, _ => ()
  | cons _ rest, _, 0 => (none, rest.blank)
  | cons _ rest, (value, row), count + 1 => (some value, rest.filled row count)

/-- No field is read at first. -/
theorem filled_zero {types : List Type} (fields : Fields types) (row : Row types) :
    fields.filled row 0 = fields.blank := by
  cases fields <;> rfl

/-- All values are there when all fields are read. -/
theorem finish_filled {types : List Type} (fields : Fields types) (row : Row types) :
    fields.finish (fields.filled row (fields.write row).length) = .ok row := by
  induction fields with
  | nil => rfl
  | cons field rest ih =>
    obtain ⟨value, row⟩ := row
    simp only [write, List.length_cons, filled, finish, Option.some_or, ih, bind, Except.bind]

/-- The keys that are written are those of the fields. -/
theorem map_fst_write {types : List Type} (fields : Fields types) (row : Row types) :
    (fields.write row).map Prod.fst = fields.names := by
  induction fields with
  | nil => rfl
  | cons field rest ih =>
    obtain ⟨value, row⟩ := row
    rw [write, List.map_cons, ih, names]

/-- The value behind the key of the next field fills the slot of that field. -/
theorem fill_filled {types : List Type} {fields : Fields types} {row : Row types}
    (hnames : fields.names.Nodup) (hread : fields.ReadBack row) {count : Nat} {key : String}
    {value : Json} (hfield : (fields.write row)[count]? = some (key, value)) {rest : Bytes}
    (hrest : Stops goesOn rest) :
    fields.fill (fields.filled row count) key ⟨0x3a :: (octetsOf value ++ rest), none⟩ =
      some (.ok (fields.filled row (count + 1), ⟨rest, none⟩)) := by
  induction fields generalizing count with
  | nil => cases hfield
  | cons field others ih =>
    obtain ⟨held, row⟩ := row
    obtain ⟨hheld, hothers⟩ := hread
    rw [names, List.nodup_cons] at hnames
    cases count with
    | zero =>
      rw [write, List.getElem?_cons_zero] at hfield
      cases hfield
      simp only [filled, fill, if_true, colon_cons, bind, Except.bind, hheld rest hrest,
        filled_zero]
    | succ count =>
      rw [write, List.getElem?_cons_succ] at hfield
      have hkey : key ≠ field.name := by
        rintro rfl
        have hmem := List.mem_map_of_mem (f := Prod.fst) (List.mem_of_getElem? hfield)
        rw [map_fst_write] at hmem
        exact hnames.1 hmem
      simp only [filled, fill, hkey, if_false, ih hnames.2 hothers hfield, Option.map_some, bind,
        Except.bind]

/-- Fields read back up to the end of their object. -/
theorem entries_filled {types : List Type} {fields : Fields types} {row : Row types}
    (hnames : fields.names.Nodup) (hread : fields.ReadBack row) (rest : Bytes)
    {remaining : List (String × Json)} {count fuel : Nat}
    (hdrop : (fields.write row).drop count = remaining)
    (hcount : count + remaining.length = (fields.write row).length)
    (hfuel : remaining.length < fuel) (first : Bool) :
    fields.entries fuel first (fields.filled row count)
        ⟨separated first (remaining.map fieldOctets) ++ closeObject :: rest, none⟩ =
      .ok (fields.filled row (fields.write row).length, ⟨closeObject :: rest, none⟩) := by
  induction remaining generalizing count fuel first with
  | nil =>
    obtain ⟨fuel, rfl⟩ := Nat.exists_eq_succ_of_ne_zero (Nat.ne_of_gt hfuel)
    have hnext := nextKey_closeObject first rest none
    rw [List.length_nil, Nat.add_zero] at hcount
    simp only [entries, List.map_nil, separated, List.nil_append, hnext, bind, Except.bind,
      Bool.false_eq_true, if_false, hcount]
  | cons field remaining ih =>
    obtain ⟨fuel, rfl⟩ := Nat.exists_eq_succ_of_ne_zero (Nat.ne_of_gt (Nat.zero_lt_of_lt hfuel))
    obtain ⟨key, value⟩ := field
    have hfield : (fields.write row)[count]? = some (key, value) := by
      rw [← List.head?_drop, hdrop, List.head?_cons]
    have hdrop' : (fields.write row).drop (count + 1) = remaining := by
      rw [← List.drop_drop, hdrop, List.drop_one, List.tail_cons]
    have hcount' : count + 1 + remaining.length = (fields.write row).length := by
      rw [List.length_cons] at hcount
      omega
    have hstops : Stops goesOn
        (separated false (remaining.map fieldOctets) ++ closeObject :: rest) :=
      stops_separated (by decide) _ rest
    have hfill := fill_filled hnames hread hfield hstops
    have hothers := ih hdrop' hcount' (Nat.lt_of_succ_lt_succ hfuel) false
    have hnext := nextKey_octetsOf first key (0x3a :: (octetsOf value ++
      (separated false (remaining.map fieldOctets) ++ closeObject :: rest))) none
    have hkey := string_escapedOctets key none (0x3a :: (octetsOf value ++
      (separated false (remaining.map fieldOctets) ++ closeObject :: rest)))
    rw [octetsOf_text] at hnext
    simp only [List.cons_append, List.append_assoc, List.nil_append] at hnext
    rw [List.map_cons, separated, fieldOctets, octetsOf_text]
    simp only [entries, List.cons_append, List.append_assoc, List.nil_append, hnext, bind,
      Except.bind, if_true, List.tail_cons, hkey, hfill, hothers]

end Fields

/-! ## Records -/

/-- A record reads back when all its fields do and no two have the same key. -/
theorem readsBack_record {types : List Type} {name : String} {fields : Fields types}
    {row : Row types} (hnames : fields.names.Nodup) (hread : fields.ReadBack row) :
    (record name fields).ReadsBack row := by
  intro rest _
  have hopen : isBlankOctet openObject = false := rfl
  have hnonempty : ∀ text ∈ (fields.write row).map fieldOctets, text ≠ [] := by
    intro text htext
    obtain ⟨field, -, rfl⟩ := List.mem_map.mp htext
    exact fieldOctets_ne_nil field
  have hfuel : (fields.write row).length <
      (separated true ((fields.write row).map fieldOctets) ++ closeObject :: rest).length + 1 := by
    have hle := length_le_separated hnonempty true
    rw [List.length_map] at hle
    rw [List.length_append]
    omega
  have hentries := Fields.entries_filled hnames hread rest List.drop_zero (Nat.zero_add _) hfuel
    true
  have hwritten : octetsOf ((record name fields).write row) =
      openObject :: (separated true ((fields.write row).map fieldOctets) ++ [closeObject]) :=
    octetsOf_object _
  rw [Fields.filled_zero] at hentries
  rw [hwritten, List.cons_append, List.append_assoc, List.singleton_append]
  simp only [record, skip_cons hopen, if_true, readEntries, hentries, bind, Except.bind,
    Fields.finish_filled, List.tail_cons]
  rfl

/-- A record in one-to-one correspondence with a structure reads back. -/
theorem readsBack_record_iso {types : List Type} {name : String} {fields : Fields types}
    {α : Type} {forth : Row types → α} {back : α → Row types} {value : α}
    (hnames : fields.names.Nodup) (hread : fields.ReadBack (back value))
    (hback : forth (back value) = value) :
    ((record name fields).iso forth back).ReadsBack value :=
  (readsBack_record hnames hread).iso hback

/-! ## Variants -/

/-- A reader that wraps what a codec reads finds the wrapped value. -/
theorem Codec.ReadsBack.reads {α β : Type} {codec : Codec α} {value : α}
    (h : codec.ReadsBack value) (wrap : α → β) {rest : Bytes} (hrest : Stops goesOn rest) :
    codec.reads wrap ⟨octetsOf (codec.write value) ++ rest, none⟩ =
      .ok (wrap value, ⟨rest, none⟩) := by
  simp only [Codec.reads, h rest hrest, bind, Except.bind]

/-- An object with one key is read by the reader that the key chooses. -/
theorem readVariant_octetsOf {α : Type} {cases : List (String × Reader α)} {name : String}
    {held : Json} {value : α} {read : Reader α} (hlookup : cases.lookup name = some read)
    (hread : ∀ {rest}, Stops goesOn rest →
      read ⟨octetsOf held ++ rest, none⟩ = .ok (value, ⟨rest, none⟩)) (rest : Bytes) :
    readVariant cases ⟨octetsOf (.object [(name, held)]) ++ rest, none⟩ =
      .ok (value, ⟨rest, none⟩) := by
  have hopen : isBlankOctet openObject = false := rfl
  have hclose : isBlankOctet closeObject = false := rfl
  have hname := readString_octetsOf "variant identifier" name
    (0x3a :: (octetsOf held ++ closeObject :: rest)) none
  have hheld := hread (Stops.cons_iff.mpr (by decide : goesOn closeObject = false) :
    Stops goesOn (closeObject :: rest))
  have hwritten : octetsOf (.object [(name, held)]) ++ rest =
      openObject :: (octetsOf (.text name) ++ 0x3a :: (octetsOf held ++ closeObject :: rest)) := by
    rw [octetsOf_object]
    simp [separated, fieldOctets]
  rw [hwritten]
  simp only [readVariant, skip_cons hopen, if_true, hname, hlookup, bind, Except.bind, colon_cons,
    hheld, skip_cons hclose]

end CaptureFlow.Json
