import CaptureFlow.Stream.Fault
import CaptureFlow.Text.Quoted

/-!
# Why JSON text is refused

A refusal has a cause and a place. The causes fall into four kinds: the text
breaks the grammar, it ends inside a value, the stream under it fails, or a
well-formed value has the wrong shape. The place is told as line and column of
the last octet taken from the stream.
-/

namespace CaptureFlow.Json

/-- What stands where another type of value is expected. -/
inductive Found where
  /-- The null value. -/
  | null
  /-- A truth value. -/
  | bool (value : Bool)
  /-- A whole number. -/
  | integer (value : Int)
  /-- A number with a fraction or an exponent, by its shortest text. -/
  | float (text : String)
  /-- A string. -/
  | text (value : String)
  /-- An array. -/
  | sequence
  /-- An object. -/
  | map
  /-- The bare name of a variant. -/
  | unitVariant
  deriving DecidableEq, Repr

/-- The wording of what stands there. -/
def Found.phrase : Found → String
  | null => "null"
  | bool value => if value then "boolean `true`" else "boolean `false`"
  | integer value => s!"integer `{Numeral.signed value}`"
  | float shown => s!"floating point `{shown}`"
  | text value => "string " ++ Quoted.quote value
  | sequence => "sequence"
  | map => "map"
  | unitVariant => "unit variant"

/-- How a well-formed value misses the expected shape. -/
inductive Mismatch where
  /-- The value has another type. -/
  | type (found : Found) (expected : String)
  /-- A number is out of range. -/
  | value (number : Int) (expected : String)
  /-- An array is too short. -/
  | length (count : Nat) (expected : String)
  /-- A field is not there. -/
  | missing (field : String)
  /-- A field is there twice. -/
  | duplicate (field : String)
  /-- A variant has no such name. -/
  | variant (name : String) (known : List String)
  /-- A string is not the text of what is expected. -/
  | refused (reason : String)
  deriving DecidableEq, Repr

/-- The wording of a mismatch. -/
def Mismatch.message : Mismatch → String
  | type found expected => s!"invalid type: {found.phrase}, expected {expected}"
  | value n expected => s!"invalid value: integer `{Numeral.signed n}`, expected {expected}"
  | length count expected => s!"invalid length {Numeral.decimal count}, expected {expected}"
  | missing field => s!"missing field `{field}`"
  | duplicate field => s!"duplicate field `{field}`"
  | variant name known =>
    let listed := ", ".intercalate (known.map fun k => s!"`{k}`")
    s!"unknown variant `{name}`, expected one of {listed}"
  | refused reason => reason

/-- The ways in which a text breaks the grammar. -/
inductive Breach where
  /-- Something else stands where a colon belongs. -/
  | colon
  /-- Something else follows an item of an array. -/
  | listEnd
  /-- Something else follows a field of an object. -/
  | objectEnd
  /-- A word is none of the three that have a meaning. -/
  | word
  /-- No value starts here. -/
  | value
  /-- A backslash is followed by something without a meaning. -/
  | escape
  /-- A number is not written as numbers are. -/
  | number
  /-- A number is too large. -/
  | range
  /-- A string is no well-formed UTF-8. -/
  | codePoint
  /-- A string holds a bare control character. -/
  | control
  /-- A key is no string. -/
  | key
  /-- A surrogate has no partner. -/
  | surrogate
  /-- A leading surrogate is not followed by another escape. -/
  | hexEnd
  /-- A comma stands before the closing bracket. -/
  | trailingComma
  /-- Something follows the value. -/
  | trailing
  deriving DecidableEq, Repr

/-- The wording of a breach of the grammar. -/
def Breach.message : Breach → String
  | colon => "expected `:`"
  | listEnd => "expected `,` or `]`"
  | objectEnd => "expected `,` or `\x7d`"
  | word => "expected ident"
  | value => "expected value"
  | escape => "invalid escape"
  | number => "invalid number"
  | range => "number out of range"
  | codePoint => "invalid unicode code point"
  | control => "control character (\\u0000-\\u001F) found while parsing a string"
  | key => "key must be a string"
  | surrogate => "lone leading surrogate in hex escape"
  | hexEnd => "unexpected end of hex escape"
  | trailingComma => "trailing comma"
  | trailing => "trailing characters"

/-- What the text ends inside of. -/
inductive Unfinished where
  /-- An array. -/
  | list
  /-- An object. -/
  | object
  /-- A string. -/
  | string
  /-- Any other value. -/
  | value
  deriving DecidableEq, Repr

/-- The wording of an early end. -/
def Unfinished.message : Unfinished → String
  | list => "EOF while parsing a list"
  | object => "EOF while parsing an object"
  | string => "EOF while parsing a string"
  | value => "EOF while parsing a value"

/-- Why a text is refused. -/
inductive Cause where
  /-- The text breaks the grammar. -/
  | syntactic (breach : Breach)
  /-- The text ends too early. -/
  | ended (inside : Unfinished)
  /-- The stream fails. -/
  | stream (fault : ReadFault)
  /-- A value has the wrong shape. -/
  | shape (mismatch : Mismatch)
  deriving DecidableEq, Repr

/-- The wording of a cause. -/
def Cause.message : Cause → String
  | syntactic breach => breach.message
  | ended inside => inside.message
  | stream fault => fault.message
  | shape mismatch => mismatch.message

/-- Where a text is refused. -/
inductive Place where
  /-- So many octets are left untaken. -/
  | unread (count : Nat)
  /-- The enclosing array or object settles it once it has looked for its end
  in what is left. -/
  | within (rest : Bytes)
  deriving DecidableEq, Repr

/-- A refusal. -/
structure Failure where
  /-- Why the text is refused. -/
  cause : Cause
  /-- Where it is refused. -/
  place : Place
  deriving DecidableEq, Repr

/-- Line and column of the last octet of a text, as lines end with a newline. -/
def lineColumn (body : Bytes) : Nat × Nat :=
  body.foldl (fun (place : Nat × Nat) b =>
    if b = 0x0a then (place.1 + 1, 0) else (place.1, place.2 + 1)) (1, 0)

/-- A refusal as it is told: its cause, and line and column where they are settled. -/
structure Refusal where
  /-- Why the text is refused. -/
  cause : Cause
  /-- The line and column of the last octet taken. -/
  place : Option (Nat × Nat)
  deriving DecidableEq, Repr

/-- The refusal of `body` as it is told. -/
def Failure.refusal (failure : Failure) (body : Bytes) : Refusal :=
  match failure.place with
  | .within _ => ⟨failure.cause, none⟩
  | .unread count => ⟨failure.cause, some (lineColumn (body.take (body.length - count)))⟩

/-- The wording of a refusal. -/
def Refusal.message (refusal : Refusal) : String :=
  match refusal.place with
  | none => refusal.cause.message
  | some (line, column) =>
    s!"{refusal.cause.message} at line {Numeral.decimal line} column {Numeral.decimal column}"

end CaptureFlow.Json
