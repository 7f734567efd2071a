import BuildDiagnostics.Text.MarkTable

/-!
# Characters that take no room

Marks that join the character before them, the inner parts of Korean syllables, and characters that
are not shown.
-/

namespace BuildDiagnostics.Text

/-- The characters other than marks that add nothing to the width of a text. -/
def unshownSet : CharSet := ⟨
  [(0xad, 0xad), (0x605, 0x605), (0x61c, 0x61c), (0x70f, 0x70f), (0x890, 0x891), (0x8e2, 0x8e2),
   (0xd4e, 0xd4e), (0x1160, 0x11ff), (0x180e, 0x180e), (0x200b, 0x200b), (0x200d, 0x200f),
   (0x202a, 0x202e), (0x2060, 0x206f), (0x3164, 0x3164), (0xa8fa, 0xa8fa), (0xd7b0, 0xd7c6),
   (0xd7cb, 0xd7fb), (0xfeff, 0xfeff), (0xffa0, 0xffa0), (0xfff0, 0xfff8), (0x111c2, 0x111c3),
   (0x113d1, 0x113d1), (0x1193f, 0x1193f), (0x11941, 0x11941), (0x11a84, 0x11a89),
   (0x11d46, 0x11d46), (0x11f02, 0x11f02), (0x1bca0, 0x1bca3), (0x1d173, 0x1d17a),
   (0xe0000, 0xe001f), (0xe0080, 0xe00ff), (0xe01f0, 0xe0fff)]⟩

/-- The marks that take a column of their own. -/
def isSpacedMark (c : Char) : Bool := c == '\u2d7f' || c == '\uff9e' || c == '\uff9f'

/-- Whether the character adds nothing to the width of a text. -/
def isZeroWidth (c : Char) : Bool := (isMark c && !isSpacedMark c) || unshownSet.contains c

end BuildDiagnostics.Text
