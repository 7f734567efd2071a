import BuildDiagnostics.Text.HiddenTable
import BuildDiagnostics.Text.MarkTable

/-!
# Quoted text

A text in double quotes, in which quotes, backslashes, controls and characters that cannot be seen
are escaped.
-/

namespace BuildDiagnostics.Text

/-- The digits of a number in base sixteen. -/
def hexadecimal (n : Nat) : String := String.ofList (Nat.toDigits 16 n)

/-- Whether the character is one of the two voicing marks of half a column, which can be seen. -/
def isVoicingMark (c : Char) : Bool := c == '\uff9e' || c == '\uff9f'

/-- Whether the character leaves no mark of its own. -/
def isInvisible (c : Char) : Bool := isHidden c || (isMark c && !isVoicingMark c)

/-- A character as it stands between quotes. -/
def escape (c : Char) : String :=
  if c = '\x00' then "\\0"
  else if c = '\t' then "\\t"
  else if c = '\r' then "\\r"
  else if c = '\n' then "\\n"
  else if c = '"' then "\\\""
  else if c = '\\' then "\\\\"
  else if isInvisible c then "\\u\x7b" ++ hexadecimal c.toNat ++ "\x7d"
  else c.toString

/-- The text in quotes. -/
def quote (s : String) : String := "\"" ++ String.join (s.toList.map escape) ++ "\""

end BuildDiagnostics.Text
