import BuildDiagnostics.Text.CaseTable

/-!
# Lower case

`lower` puts a text in lower case by the rules of Unicode: one letter at a time, save that a dotted
capital I becomes two characters and that a sigma which closes a word takes its final form.
`lowerAscii` and `upperAscii` change the twenty-six ASCII letters and nothing else.
-/

namespace BuildDiagnostics.Text

/-- The small letters of a character; the character itself when it is no capital. -/
def lowerChar (c : Char) : List Char :=
  if c = '\u0130' then ['i', '\u0307']
  else
    match caseRows.find? fun r =>
        r.first ≤ c.toNat && c.toNat ≤ r.last && (c.toNat - r.first) % r.step == 0 with
    | some r => [Char.ofNat (c.toNat + r.shift).toNat]
    | none => [c]

/-- Whether the next character that matters for case is a letter with a case. -/
def startsCased : List Char → Bool
  | [] => false
  | c :: rest => if caseIgnorableSet.contains c then startsCased rest else casedSet.contains c

/-- Lower case of a text; `inWord` tells whether a letter with a case comes before it. -/
def lowerFrom (inWord : Bool) : List Char → List Char
  | [] => []
  | c :: rest =>
    let small :=
      if c = '\u03a3' then [if inWord && !startsCased rest then '\u03c2' else '\u03c3']
      else lowerChar c
    let inWord' := if caseIgnorableSet.contains c then inWord else casedSet.contains c
    small ++ lowerFrom inWord' rest

/-- The text in lower case. -/
def lower (s : List Char) : List Char := lowerFrom false s

/-- The ASCII letter in lower case. -/
def lowerAscii (c : Char) : Char :=
  if 'A' ≤ c && c ≤ 'Z' then Char.ofNat (c.toNat + 32) else c

/-- The ASCII letter in upper case. -/
def upperAscii (c : Char) : Char :=
  if 'a' ≤ c && c ≤ 'z' then Char.ofNat (c.toNat - 32) else c

end BuildDiagnostics.Text
