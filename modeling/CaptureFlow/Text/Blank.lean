import CaptureFlow.Text.Ranges

/-!
# White space

The characters with the Unicode property White_Space, and trimming by them.
-/

namespace CaptureFlow.Blank

/-- The code points with the property White_Space, as closed ranges. -/
def ranges : CodeRanges :=
  [(0x09, 0x0d), (0x20, 0x20), (0x85, 0x85), (0xa0, 0xa0), (0x1680, 0x1680),
    (0x2000, 0x200a), (0x2028, 0x2029), (0x202f, 0x202f), (0x205f, 0x205f), (0x3000, 0x3000)]

/-- Whether a character is white space. -/
def isBlank (c : Char) : Bool :=
  ranges.hold c

/-- The text without white space in front. -/
def trimStart (text : List Char) : List Char :=
  text.dropWhile isBlank

/-- The text without white space on either side. -/
def trim (text : List Char) : List Char :=
  (trimStart (trimStart text).reverse).reverse

end CaptureFlow.Blank
