import CaptureFlow.Text.Inkless
import CaptureFlow.Text.Numeral

/-!
# Quoted text in messages

Messages quote a text between double quotes and escape in it the quote, the
backslash and every character that has no ink of its own.
-/

namespace CaptureFlow.Quoted

/-- A character as it stands between the quotes. -/
def escaped (c : Char) : String :=
  if c = '"' then "\\\""
  else if c = '\\' then "\\\\"
  else if c = '\t' then "\\t"
  else if c = '\n' then "\\n"
  else if c = '\r' then "\\r"
  else if c.toNat = 0 then "\\0"
  else if Inkless.isInkless c then
    "\\u\x7b" ++ Numeral.hexadecimal c.toNat ++ "\x7d"
  else String.ofList [c]

/-- A text between double quotes. -/
def quote (value : String) : String :=
  "\"" ++ String.join (value.toList.map escaped) ++ "\""

end CaptureFlow.Quoted
