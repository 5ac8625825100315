import CaptureFlow.Json.Value

/-!
# Reports of headers

A header is reported in three ways: as a JSON element, as columns of a CSV
line behind a tag, and as a terse piece of text.
-/

namespace CaptureFlow

/-- A column of a CSV line. -/
inductive Column where
  /-- A value that stands by itself. -/
  | bare (value : String)
  /-- A value between double quotes. -/
  | quoted (value : String)
  deriving DecidableEq, Repr

namespace Column

/-- A number by itself. -/
def nat (n : Nat) : Column :=
  bare (Numeral.decimal n)

/-- The value in a column. -/
def value : Column → String
  | bare value => value
  | quoted value => value

/-- A column as it is written. -/
def written : Column → String
  | bare value => value
  | quoted value => "\"" ++ value ++ "\""

end Column

/-- What is reported of a header. -/
structure Report where
  /-- The tag in front of the columns. -/
  tag : String
  /-- The key of the JSON element. -/
  key : String
  /-- The fields of the JSON element. -/
  body : List (String × Json)
  /-- The columns behind the tag. -/
  columns : List Column
  /-- The terse text. -/
  text : String

namespace Report

/-- The JSON object with the element as its only field. -/
def json (report : Report) : Json :=
  .object [(report.key, .object report.body)]

/-- The JSON element as it stands inside an object. -/
def element (report : Report) : String :=
  "\"" ++ report.key ++ "\":" ++ (Json.object report.body).render

/-- The tag and the columns of a CSV line. -/
def allColumns (report : Report) : List Column :=
  .quoted report.tag :: report.columns

/-- The piece of a CSV line. -/
def csv (report : Report) : String :=
  ",".intercalate (report.allColumns.map Column.written)

end Report

end CaptureFlow
