import CaptureFlow.Text.Numeral

/-!
# JSON values

The values that reports and archives write, and their compact text: no blanks,
fields in the order they were put in, and only the characters escaped that
have to be.
-/

namespace CaptureFlow

/-- A JSON value with whole numbers. -/
inductive Json where
  /-- The null value. -/
  | null
  /-- A truth value. -/
  | bool (value : Bool)
  /-- A whole number. -/
  | number (value : Int)
  /-- A string. -/
  | text (value : String)
  /-- An array. -/
  | array (items : List Json)
  /-- An object as its fields in order. -/
  | object (fields : List (String × Json))

namespace Json

/-- A natural number as a value. -/
def nat (n : Nat) : Json :=
  number n

/-- The text of a character inside a string. -/
def escaped (c : Char) : String :=
  if c = '"' then "\\\""
  else if c = '\\' then "\\\\"
  else if c.toNat < 0x20 then
    if c = Char.ofNat 0x08 then "\\b"
    else if c = '\t' then "\\t"
    else if c = '\n' then "\\n"
    else if c = Char.ofNat 0x0c then "\\f"
    else if c = '\r' then "\\r"
    else "\\u" ++ Numeral.zeroPadded 4 (Numeral.hexadecimal c.toNat)
  else String.ofList [c]

/-- A string between its quotes. -/
def quoted (value : String) : String :=
  "\"" ++ String.join (value.toList.map escaped) ++ "\""

mutual

/-- The compact text of a value. -/
def render : Json → String
  | null => "null"
  | bool true => "true"
  | bool false => "false"
  | number value => Numeral.signed value
  | text value => quoted value
  | array items => "[" ++ ",".intercalate (renderItems items) ++ "]"
  | object fields => "\x7b" ++ ",".intercalate (renderFields fields) ++ "\x7d"

/-- The texts of the items of an array. -/
def renderItems : List Json → List String
  | [] => []
  | item :: rest => render item :: renderItems rest

/-- The texts of the fields of an object. -/
def renderFields : List (String × Json) → List String
  | [] => []
  | (key, value) :: rest => (quoted key ++ ":" ++ render value) :: renderFields rest

end

/-- Puts a field at the end; a key that is there already keeps its place and
takes the new value. -/
def insertField : List (String × Json) → String → Json → List (String × Json)
  | [], key, value => [(key, value)]
  | (k, v) :: rest, key, value =>
    if k = key then (k, value) :: rest else (k, v) :: insertField rest key value

/-- A new key goes to the end. -/
theorem insertField_of_notMem {fields : List (String × Json)} {key : String} (value : Json)
    (h : key ∉ fields.map Prod.fst) : insertField fields key value = fields ++ [(key, value)] := by
  induction fields with
  | nil => rfl
  | cons head rest ih =>
    simp only [List.map_cons, List.mem_cons, not_or] at h
    simp [insertField, Ne.symm h.1, ih h.2]

end Json

end CaptureFlow
