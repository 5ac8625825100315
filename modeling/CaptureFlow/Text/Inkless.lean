import CaptureFlow.Text.Blank
import CaptureFlow.Text.Extending
import CaptureFlow.Text.Unassigned

/-!
# Characters without ink

A character that cannot be told from the page where it stands has no ink of its
own: controls, blanks other than the space, format characters, fillers, marks
that extend another character, and code points without a character.
-/

namespace CaptureFlow.Inkless

/-- The control characters: the category Cc. -/
def controls : CodeRanges :=
  [(0x00, 0x1f), (0x7f, 0x9f)]

/-- The format characters: the category Cf. -/
def formats : CodeRanges :=
  [(0xad, 0xad), (0x600, 0x605), (0x61c, 0x61c), (0x6dd, 0x6dd), (0x70f, 0x70f), (0x890, 0x891),
    (0x8e2, 0x8e2), (0x180e, 0x180e), (0x200b, 0x200f), (0x202a, 0x202e), (0x2060, 0x2064),
    (0x2066, 0x206f), (0xfeff, 0xfeff), (0xfff9, 0xfffb), (0x110bd, 0x110bd), (0x110cd, 0x110cd),
    (0x13430, 0x1343f), (0x1bca0, 0x1bca3), (0x1d173, 0x1d17a), (0xe0001, 0xe0001),
    (0xe0020, 0xe007f)]

/-- The letters with the property Default_Ignorable_Code_Point. -/
def fillers : CodeRanges :=
  [(0x115f, 0x1160), (0x3164, 0x3164), (0xffa0, 0xffa0)]

/-- The code points for private use: the category Co. -/
def privateUse : CodeRanges :=
  [(0xe000, 0xf8ff), (0xf0000, 0xffffd), (0x100000, 0x10fffd)]

/-- Whether a character has no ink of its own. -/
def isInkless (c : Char) : Bool :=
  c != ' ' && (Blank.isBlank c || controls.hold c || formats.hold c || fillers.hold c ||
    privateUse.hold c || Extending.isExtending c || Unassigned.isUnassigned c)

end CaptureFlow.Inkless
