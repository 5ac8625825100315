import CaptureFlow.Json.Scan
import CaptureFlow.Json.Value
import CaptureFlow.Address.Octets

/-!
# Typed JSON

A codec pairs the writer of a type with its reader. Readers work on the text
itself, in document order, so the first thing that is wrong decides the
refusal. Records are built from their fields: the same list of fields writes
an object, reads an object in any order, and reads an array of the values.
-/

namespace CaptureFlow.Json

/-- The octet `[`. -/
def openList : UInt8 := 0x5b

/-- The octet `]`. -/
def closeList : UInt8 := 0x5d

/-- The octet of an opening brace. -/
def openObject : UInt8 := 0x7b

/-- The octet of a closing brace. -/
def closeObject : UInt8 := 0x7d

/-- The octet of a comma. -/
def comma : UInt8 := 0x2c

/-- The octet of a quote. -/
def quoteMark : UInt8 := 0x22

/-! ## Delimiters -/

/-- Whether an array goes on with another item; the bracket that ends it stays. -/
def nextItem (first : Bool) : Reader Bool := fun input =>
  let input := input.skip
  match input.rest with
  | [] => .error (stop input.fault .list)
  | b :: rest =>
    if b = closeList then .ok (false, input)
    else if first then .ok (true, input)
    else if b = comma then
      let input := Input.skip { input with rest }
      match input.rest with
      | [] => .error (stop input.fault .value)
      | c :: rest =>
        if c = closeList then .error (refuse rest .trailingComma) else .ok (true, input)
    else .error (refuse rest .listEnd)

/-- Drops the bracket that ends an array. -/
def endList : Reader Unit := fun input =>
  let input := input.skip
  match input.rest with
  | [] => .error (stop input.fault .list)
  | b :: rest =>
    if b = closeList then .ok ((), { input with rest })
    else if b = comma then
      match skipBlanks rest with
      | [] => .error (refuse [] .trailing)
      | c :: rest =>
        .error (refuse rest (if c = closeList then .trailingComma else .trailing))
    else .error (refuse rest .trailing)

/-- Whether an object goes on with another key; its quote, and the brace that
ends the object, stay. -/
def nextKey (first : Bool) : Reader Bool := fun input =>
  let input := input.skip
  match input.rest with
  | [] => .error (stop input.fault .object)
  | b :: rest =>
    if b = closeObject then .ok (false, input)
    else if first then
      if b = quoteMark then .ok (true, input) else .error (refuse rest .key)
    else if b = comma then
      let input := Input.skip { input with rest }
      match input.rest with
      | [] => .error (stop input.fault .value)
      | c :: rest =>
        if c = quoteMark then .ok (true, input)
        else .error (refuse rest (if c = closeObject then .trailingComma else .key))
    else .error (refuse rest .objectEnd)

/-- Drops the colon behind a key. -/
def colon : Reader Unit := fun input =>
  let input := input.skip
  match input.rest with
  | [] => .error (stop input.fault .object)
  | b :: rest =>
    if b = 0x3a then .ok ((), { input with rest }) else .error (refuse rest .colon)

/-- Settles the place of a refusal at the end of the enclosing array. -/
def settleList (failure : Failure) : Failure :=
  match failure.place with
  | .unread _ => failure
  | .within rest =>
    let left := match skipBlanks rest with
      | 0x2c :: rest => (skipBlanks rest).tail
      | rest => rest.tail
    { failure with place := .unread left.length }

/-- Settles the place of a refusal at the end of the enclosing object. -/
def settleObject (failure : Failure) : Failure :=
  match failure.place with
  | .unread _ => failure
  | .within rest => { failure with place := .unread (skipBlanks rest).tail.length }

/-! ## Ignored values -/

/-- The kind of an array or object being skipped. -/
inductive Frame where
  /-- An array. -/
  | list
  /-- An object. -/
  | object

/-- Where the skipping of a value stands. -/
inductive Phase where
  /-- A value comes next. -/
  | value
  /-- An array or object has just been opened. -/
  | opened (frame : Frame)
  /-- An item comes next. -/
  | item (frame : Frame)
  /-- An item has just ended. -/
  | after (frame : Frame)

/-- The octet that ends an array or object. -/
def Frame.close : Frame → UInt8
  | list => closeList
  | object => closeObject

/-- What a text is inside of when it ends in an array or object. -/
def Frame.unfinished : Frame → Unfinished
  | list => .list
  | object => .object

/-- The breach when something else follows an item. -/
def Frame.breach : Frame → Breach
  | list => .listEnd
  | object => .objectEnd

/-- Skips a key and its colon. -/
def skipKey : Reader Unit := fun input => do
  let input := input.skip
  match input.rest with
  | [] => .error (stop input.fault .object)
  | b :: rest =>
    if b = quoteMark then
      let rest ← skipString input.fault rest
      colon { input with rest }
    else .error (refuse rest .key)

/-- Skips a value that is no array and no object. -/
def skipScalar (b : UInt8) (rest : Bytes) : Reader Unit := fun input => do
  let behind : Input := { input with rest }
  if b = 0x6e then word [0x75, 0x6c, 0x6c] behind
  else if b = 0x74 then word [0x72, 0x75, 0x65] behind
  else if b = 0x66 then word [0x61, 0x6c, 0x73, 0x65] behind
  else if b = 0x2d then skipNumber behind
  else if isDigit b then skipNumber input
  else if b = quoteMark then
    let left ← skipString input.fault rest
    .ok ((), { input with rest := left })
  else .error (refuse rest .value)

/-- Skips a value of any depth; `stack` holds what encloses the place. Every
octet takes at most two steps of the fuel. -/
def skipFrom : (fuel : Nat) → Phase → (stack : List Frame) → Reader Unit
  | 0, _, _, input => .error (stop input.fault .value)
  | fuel + 1, phase, stack, input => do
    let input := input.skip
    match phase with
    | .value =>
      match input.rest with
      | [] => .error (stop input.fault .value)
      | b :: rest =>
        if b = openList then skipFrom fuel (.opened .list) stack { input with rest }
        else if b = openObject then skipFrom fuel (.opened .object) stack { input with rest }
        else
          let (_, input) ← skipScalar b rest input
          match stack with
          | [] => .ok ((), input)
          | frame :: stack => skipFrom fuel (.after frame) stack input
    | .opened frame =>
      match input.rest with
      | [] => .error (stop input.fault frame.unfinished)
      | b :: rest =>
        if b = frame.close then
          match stack with
          | [] => .ok ((), { input with rest })
          | outer :: stack => skipFrom fuel (.after outer) stack { input with rest }
        else skipFrom fuel (.item frame) stack input
    | .item .list => skipFrom fuel .value (.list :: stack) input
    | .item .object =>
      let (_, input) ← skipKey input
      skipFrom fuel .value (.object :: stack) input
    | .after frame =>
      match input.rest with
      | [] => .error (stop input.fault frame.unfinished)
      | b :: rest =>
        if b = comma then skipFrom fuel (.item frame) stack { input with rest }
        else if b = frame.close then
          match stack with
          | [] => .ok ((), { input with rest })
          | outer :: stack => skipFrom fuel (.after outer) stack { input with rest }
        else .error (refuse rest frame.breach)

/-- Skips a value. -/
def skipValue : Reader Unit := fun input =>
  skipFrom (4 * input.rest.length + 4) .value [] input

/-! ## Codecs -/

/-- The writer and the reader of a type. -/
structure Codec (α : Type) where
  /-- The JSON value of a value. -/
  write : α → Json
  /-- The reader of such a value. -/
  read : Reader α

/-- A codec for another type in one-to-one correspondence. -/
def Codec.iso {α β : Type} (codec : Codec α) (forth : α → β) (back : β → α) :
    Codec β where
  write value := codec.write (back value)
  read input := do
    let (value, input) ← codec.read input
    .ok (forth value, input)

/-- The reader of a codec followed by a function. -/
def Codec.reads {α β : Type} (codec : Codec α) (wrap : α → β) : Reader β := fun input => do
  let (value, input) ← codec.read input
  .ok (wrap value, input)

/-- The refusal of a value of another type than `expected`. The value is read
as far as its type shows, so a breach inside it comes first. -/
def wrongType (expected : String) (input : Input) : Failure :=
  let mismatch : Found → Bytes → Failure := fun found rest =>
    ⟨.shape (.type found expected), .unread rest.length⟩
  let behindWord : Except Failure (Unit × Input) → Found → Failure := fun result found =>
    match result with
    | .error failure => failure
    | .ok (_, input) => mismatch found input.rest
  let behindNumber : Except Failure (Number × Input) → Failure := fun result =>
    match result with
    | .error failure => failure
    | .ok (.integer n, input) => mismatch (.integer n) input.rest.tail
    | .ok (.float x, input) => mismatch (.float (Shortest.text x)) input.rest.tail
  match input.rest with
  | [] => stop input.fault .value
  | b :: rest =>
    let behind : Input := { input with rest }
    if b = 0x6e then behindWord (word [0x75, 0x6c, 0x6c] behind) .null
    else if b = 0x74 then behindWord (word [0x72, 0x75, 0x65] behind) (.bool true)
    else if b = 0x66 then behindWord (word [0x61, 0x6c, 0x73, 0x65] behind) (.bool false)
    else if b = 0x2d then behindNumber (readNumber false behind)
    else if isDigit b then behindNumber (readNumber true input)
    else if b = quoteMark then
      match string behind with
      | .error failure => failure
      | .ok (value, input) => mismatch (.text value) input.rest
    else if b = openList then mismatch .sequence rest
    else if b = openObject then mismatch .map rest
    else refuse rest .value

/-- A whole number between two bounds, known to messages by `name`. -/
def integer (name : String) (low high : Int) : Codec Int where
  write := .number
  read input := do
    let input := input.skip
    match input.rest with
    | [] => .error (stop input.fault .value)
    | b :: rest =>
      if b = 0x2d ∨ isDigit b then
        let (n, input) ← if b = 0x2d then readNumber false { input with rest }
          else readNumber true input
        match n with
        | .integer n =>
          if low ≤ n ∧ n ≤ high then .ok (n, input)
          else .error ⟨.shape (.value n name), .unread input.rest.tail.length⟩
        | .float x =>
          .error ⟨.shape (.type (.float (Shortest.text x)) name), .unread input.rest.tail.length⟩
      else .error (wrongType name input)

/-- Eight unsigned bits. -/
def uint8 : Codec UInt8 :=
  (integer "u8" 0 (UInt8.size - 1)).iso (fun n => UInt8.ofNat n.toNat) fun n => n.toNat

/-- Sixteen unsigned bits. -/
def uint16 : Codec UInt16 :=
  (integer "u16" 0 (UInt16.size - 1)).iso (fun n => UInt16.ofNat n.toNat) fun n => n.toNat

/-- Thirty-two unsigned bits. -/
def uint32 : Codec UInt32 :=
  (integer "u32" 0 (UInt32.size - 1)).iso (fun n => UInt32.ofNat n.toNat) fun n => n.toNat

/-- Sixty-four unsigned bits. -/
def uint64 : Codec UInt64 :=
  (integer "u64" 0 (UInt64.size - 1)).iso (fun n => UInt64.ofNat n.toNat) fun n => n.toNat

/-- Thirty-two signed bits. -/
def int32 : Codec Int32 :=
  (integer "i32" Int32.minValue.toInt Int32.maxValue.toInt).iso Int32.ofInt Int32.toInt

/-- Sixty-four signed bits. -/
def int64 : Codec Int64 :=
  (integer "i64" Int64.minValue.toInt Int64.maxValue.toInt).iso Int64.ofInt Int64.toInt

/-- A truth value. -/
def boolean : Codec Bool where
  write := .bool
  read input := do
    let input := input.skip
    match input.rest with
    | [] => .error (stop input.fault .value)
    | b :: rest =>
      if b = 0x74 then
        let (_, input) ← word [0x72, 0x75, 0x65] { input with rest }
        .ok (true, input)
      else if b = 0x66 then
        let (_, input) ← word [0x61, 0x6c, 0x73, 0x65] { input with rest }
        .ok (false, input)
      else .error (wrongType "a boolean" input)

/-- A string, called `expected` in messages. -/
def readString (expected : String) : Reader String := fun input =>
  let input := input.skip
  match input.rest with
  | [] => .error (stop input.fault .value)
  | b :: rest =>
    if b = quoteMark then string { input with rest } else .error (wrongType expected input)

/-- Any text. -/
def anyText : Codec String where
  write := .text
  read := readString "a string"

/-- A string that is the text of some other type. -/
def textOf {α : Type} (expected : String) (show_ : α → String)
    (parse : String → Except String α) : Codec α where
  write value := .text (show_ value)
  read input := do
    let (value, input) ← readString expected input
    match parse value with
    | .ok value => .ok (value, input)
    | .error reason => .error ⟨.shape (.refused reason), .unread input.rest.length⟩

/-- A value, or null in its place. -/
def optional {α : Type} (codec : Codec α) : Codec (Option α) where
  write
    | some value => codec.write value
    | none => .null
  read input := do
    let input := input.skip
    match input.rest with
    | 0x6e :: rest =>
      let (_, input) ← word [0x75, 0x6c, 0x6c] { input with rest }
      .ok (none, input)
    | _ =>
      let (value, input) ← codec.read input
      .ok (some value, input)

/-- Reads an array that `expected` names by a reader of what its brackets hold. -/
def readList {α : Type} (expected : String) (body : Reader α) : Reader α := fun input =>
  let input := input.skip
  match input.rest with
  | [] => .error (stop input.fault .value)
  | b :: rest =>
    if b = openList then
      (do
        let (value, input) ← body { input with rest }
        let (_, input) ← endList input
        .ok (value, input)).mapError settleList
    else .error (wrongType expected input)

/-- Reads items up to the end of the array; every item takes an octet at least. -/
def readItems {α : Type} (read : Reader α) : (fuel : Nat) → (first : Bool) → Reader (List α)
  | 0, _, input => .error (stop input.fault .list)
  | fuel + 1, first, input => do
    let (more, input) ← nextItem first input
    if more then
      let (item, input) ← read input
      let (items, input) ← readItems read fuel false input
      .ok (item :: items, input)
    else .ok ([], input)

/-- An array of any length. -/
def list {α : Type} (codec : Codec α) : Codec (List α) where
  write items := .array (items.map codec.write)
  read := readList "a sequence" fun input =>
    readItems codec.read (input.rest.length + 1) true input

/-- Reads exactly `count` items. -/
def readExactly {α : Type} (read : Reader α) (expected : String) :
    (count done : Nat) → Reader (List α)
  | 0, _, input => .ok ([], input)
  | count + 1, done, input => do
    let (more, input) ← nextItem (done == 0) input
    if more then
      let (item, input) ← read input
      let (items, input) ← readExactly read expected count (done + 1) input
      .ok (item :: items, input)
    else .error ⟨.shape (.length done expected), .within input.rest⟩

/-- A fixed number of octets as an array of numbers. -/
def octets (n : Nat) : Codec (Octets n) where
  write value := .array (value.bytes.map uint8.write)
  read := readList (expected n) fun input => do
    let (items, input) ← readExactly uint8.read (expected n) n 0 input
    .ok (⟨items.take n ++ List.replicate (n - items.length) 0, by simp; omega⟩, input)
where
  /-- The phrase for an array of `n` items. -/
  expected (n : Nat) : String := s!"an array of length {Numeral.decimal n}"

/-! ## Records -/

/-- A field of a record. -/
structure Field (α : Type) where
  /-- Its key. -/
  name : String
  /-- Its codec. -/
  codec : Codec α
  /-- Its value when the key is absent, if it may be. -/
  absent : Option α

/-- A field that has to be there. -/
def required {α : Type} (name : String) (codec : Codec α) : Field α :=
  ⟨name, codec, none⟩

/-- A field that may be null or absent. -/
def nullable {α : Type} (name : String) (codec : Codec α) : Field (Option α) :=
  ⟨name, optional codec, some none⟩

/-- The fields of a record in order. -/
inductive Fields : List Type → Type 1 where
  /-- No field. -/
  | nil : Fields []
  /-- A field in front of others. -/
  | cons {α : Type} {types : List Type} (field : Field α) (rest : Fields types) :
      Fields (α :: types)

/-- The values of the fields of a record. -/
def Row : List Type → Type
  | [] => Unit
  | α :: types => α × Row types

/-- The values of the fields read so far. -/
def Slots : List Type → Type
  | [] => Unit
  | α :: types => Option α × Slots types

namespace Fields

/-- The number of fields. -/
def count {types : List Type} : Fields types → Nat
  | nil => 0
  | cons _ rest => rest.count + 1

/-- No field read. -/
def blank {types : List Type} : Fields types → Slots types
  | nil => ()
  | cons _ rest => (none, rest.blank)

/-- The keys and values of a record. -/
def write {types : List Type} : Fields types → Row types → List (String × Json)
  | nil, _ => []
  | cons field rest, (value, row) => (field.name, field.codec.write value) :: rest.write row

/-- Reads the value behind a key into its slot; none for a key that is no field. -/
def fill {types : List Type} : Fields types → Slots types → String → Input →
    Option (Except Failure (Slots types × Input))
  | nil, _, _, _ => none
  | cons field rest, (slot, slots), key, input =>
    if key = field.name then
      some (match slot with
        | some _ => .error ⟨.shape (.duplicate key), .within input.rest⟩
        | none => do
          let (_, input) ← colon input
          let (value, input) ← field.codec.read input
          .ok ((some value, slots), input))
    else (rest.fill slots key input).map fun result => do
      let (slots, input) ← result
      .ok ((slot, slots), input)

/-- The values of all fields, or the key of the first one that is missing. -/
def finish {types : List Type} : Fields types → Slots types → Except String (Row types)
  | nil, _ => .ok ()
  | cons field rest, (slot, slots) =>
    match slot.or field.absent with
    | some value => do
      let row ← rest.finish slots
      .ok (value, row)
    | none => .error field.name

/-- Reads the values as the items of an array. -/
def sequence {types : List Type} (expected : String) :
    Fields types → (done : Nat) → Reader (Row types)
  | nil, _, input => .ok ((), input)
  | cons field rest, done, input => do
    let (more, input) ← nextItem (done == 0) input
    if more then
      let (value, input) ← field.codec.read input
      let (row, input) ← rest.sequence expected (done + 1) input
      .ok ((value, row), input)
    else .error ⟨.shape (.length done expected), .within input.rest⟩

/-- Reads the keys and values of an object; every key takes an octet at least. -/
def entries {types : List Type} (fields : Fields types) :
    (fuel : Nat) → (first : Bool) → Slots types → Reader (Slots types)
  | 0, _, _, input => .error (stop input.fault .object)
  | fuel + 1, first, slots, input => do
    let (more, input) ← nextKey first input
    if more then
      let (key, input) ← string { input with rest := input.rest.tail }
      match fields.fill slots key input with
      | some result =>
        let (slots, input) ← result
        entries fields fuel false slots input
      | none =>
        let (_, input) ← colon input
        let (_, input) ← skipValue input
        entries fields fuel false slots input
    else .ok (slots, input)

end Fields

/-- Reads the body of an object into a record and drops the closing brace. -/
def readEntries {types : List Type} (fields : Fields types) : Reader (Row types) := fun input => do
  let (slots, input) ← fields.entries (input.rest.length + 1) true fields.blank input
  match fields.finish slots with
  | .ok row => .ok (row, { input with rest := input.rest.tail })
  | .error name => .error ⟨.shape (.missing name), .within input.rest⟩

/-- A record, known to messages by `name`. -/
def record {types : List Type} (name : String) (fields : Fields types) : Codec (Row types) where
  write row := .object (fields.write row)
  read input :=
    let input := input.skip
    let expected := s!"struct {name}"
    match input.rest with
    | [] => .error (stop input.fault .value)
    | b :: rest =>
      if b = openObject then (readEntries fields { input with rest }).mapError settleObject
      else if b = openList then
        let elements := if fields.count = 1 then "1 element"
          else s!"{Numeral.decimal fields.count} elements"
        readList expected (fields.sequence s!"{expected} with {elements}" 0) input
      else .error (wrongType expected input)

/-! ## Variants -/

/-- Reads an object whose only key names one of several readers. -/
def readVariant {α : Type} (cases : List (String × Reader α)) : Reader α := fun input => do
  let input := input.skip
  let known := cases.map Prod.fst
  let choose : String → Input → Except Failure (Reader α) := fun name input =>
    match cases.lookup name with
    | some read => .ok read
    | none => .error ⟨.shape (.variant name known), .unread input.rest.length⟩
  match input.rest with
  | [] => .error (stop input.fault .value)
  | b :: rest =>
    if b = openObject then
      let (name, input) ← readString "variant identifier" { input with rest }
      let read ← choose name input
      let (_, input) ← colon input
      let (value, input) ← read input
      let input := input.skip
      match input.rest with
      | [] => .error (stop input.fault .object)
      | c :: rest =>
        if c = closeObject then .ok (value, { input with rest }) else .error (refuse rest .value)
    else if b = quoteMark then
      let (name, input) ← readString "variant identifier" input
      let _ ← choose name input
      .error ⟨.shape (.type .unitVariant "newtype variant"), .within input.rest⟩
    else .error (refuse rest .value)

/-! ## Documents -/

/-- Reads a whole text: one value with nothing but blanks behind it. -/
def document {α : Type} (codec : Codec α) (input : Input) : Except Failure α := do
  let (value, input) ← codec.read input
  let input := input.skip
  match input.rest, input.fault with
  | [], some fault => .error ⟨.stream fault, .within []⟩
  | [], none => .ok value
  | _ :: rest, _ => .error (refuse rest .trailing)

end CaptureFlow.Json
