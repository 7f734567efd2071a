import BuildDiagnostics.Text.ClusterTable
import BuildDiagnostics.Text.MarkTable
import BuildDiagnostics.Text.Pictograph

/-!
# Clusters

`clusters` cuts a text into the units that a reader takes for one character, which are not torn
apart when text is broken into lines. The rules are those of Unicode for extended grapheme clusters:
a syllable of Korean, a letter with its marks, a conjunct of Indic consonants, a flag, and a picture
made of several are one unit each.

Whether there is a cut before a character depends on it and on the `Tail` of the text before it.
-/

namespace BuildDiagnostics.Text

/-- What a character is to its neighbours. -/
inductive ClusterRole
  | other
  | carriageReturn | lineFeed
  /-- It always stands alone. -/
  | alone
  /-- It belongs to the character before it. -/
  | mark
  | joiner
  /-- It takes room and belongs to the character before it. -/
  | trailing
  /-- It belongs to the character after it. -/
  | leading
  /-- Half of a flag. -/
  | region
  /-- A consonant that starts a Korean syllable, its vowel, and a consonant that ends it. -/
  | initial | vowel | final
  /-- A Korean syllable with its vowel last. -/
  | openSyllable
  /-- A Korean syllable with a consonant last. -/
  | closedSyllable
  deriving DecidableEq, Repr

/-- Whether the number lies in one of the ranges. -/
def inRanges (n : Nat) (ranges : List (Nat × Nat)) : Bool :=
  ranges.any fun r => r.1 ≤ n && n ≤ r.2

/-- The role of a letter of the Korean script, if it is one. -/
def koreanRole? (c : Char) : Option ClusterRole :=
  let n := c.toNat
  if inRanges n [(0x1100, 0x115f), (0xa960, 0xa97c)] then some .initial
  else if inRanges n [(0x1160, 0x11a7), (0xd7b0, 0xd7c6), (0x16d63, 0x16d63), (0x16d67, 0x16d6a)]
  then some .vowel
  else if inRanges n [(0x11a8, 0x11ff), (0xd7cb, 0xd7fb)] then some .final
  else if 0xac00 ≤ n && n ≤ 0xd7a3 then
    some (if (n - 0xac00) % 28 = 0 then .openSyllable else .closedSyllable)
  else none

/-- The role of a character. -/
def clusterRole (c : Char) : ClusterRole :=
  if c = '\r' then .carriageReturn
  else if c = '\n' then .lineFeed
  else if c = joiner then .joiner
  else if aloneSet.contains c then .alone
  else if isMark c || isSkinTone c then .mark
  else if trailingSet.contains c then .trailing
  else if leadingSet.contains c then .leading
  else if isRegion c then .region
  else (koreanRole? c).getD .other

/-- How far a text has come towards two pictures that are joined. -/
inductive PictureTail
  | none
  /-- A picture, and marks on it. -/
  | picture
  /-- A picture, marks on it, and a joiner. -/
  | joined
  deriving DecidableEq, Repr

/-- How far a text has come towards two consonants that are joined. -/
inductive ConjunctTail
  | none
  /-- A consonant, and marks on it. -/
  | consonant
  /-- A consonant, and marks with a linking sign among them. -/
  | linked
  deriving DecidableEq, Repr

/-- The end of a text, as far as it bears on whether there is a cut after it. -/
structure Tail where
  role : ClusterRole := .other
  picture : PictureTail := .none
  conjunct : ConjunctTail := .none
  /-- Whether the number of regions that the text ends in is odd. -/
  oddRegions : Bool := false
  deriving DecidableEq, Repr

namespace Tail

/-- The picture tail with one more character. -/
def nextPicture (t : Tail) (c : Char) (role : ClusterRole) : PictureTail :=
  if isPictograph c then .picture
  else if t.picture = .picture then
    match role with
    | .mark => .picture
    | .joiner => .joined
    | _ => .none
  else .none

/-- The conjunct tail with one more character. -/
def nextConjunct (t : Tail) (c : Char) (role : ClusterRole) : ConjunctTail :=
  if conjunctSet.contains c then .consonant
  else if t.conjunct = .none then .none
  else if linkerSet.contains c then .linked
  else if c != '\u200c' && (role = .mark || role = .joiner) then t.conjunct
  else .none

/-- The tail with one more character. -/
def push (t : Tail) (c : Char) : Tail :=
  let role := clusterRole c
  { role := role
    picture := t.nextPicture c role
    conjunct := t.nextConjunct c role
    oddRegions := role = .region && !(t.role = .region && t.oddRegions) }

/-- Whether a character of the given role belongs to the syllable that ends in another. -/
def inSyllable : ClusterRole → ClusterRole → Bool
  | .initial, .initial | .initial, .vowel => true
  | .initial, .openSyllable | .initial, .closedSyllable => true
  | .openSyllable, .vowel | .openSyllable, .final | .vowel, .vowel | .vowel, .final => true
  | .closedSyllable, .final | .final, .final => true
  | _, _ => false

/-- Whether a character of the given role stands apart from its neighbours. -/
def standsAlone (role : ClusterRole) : Bool :=
  role = .carriageReturn || role = .lineFeed || role = .alone

/-- Whether a character belongs to the cluster that the text ends in. -/
def holds (t : Tail) (c : Char) : Bool :=
  let role := clusterRole c
  if t.role = .carriageReturn && role = .lineFeed then true
  else if standsAlone t.role || standsAlone role then false
  else
    inSyllable t.role role || role = .mark || role = .joiner || role = .trailing ||
      t.role = .leading ||
      (t.conjunct = .linked && conjunctSet.contains c) ||
      (t.picture = .joined && isPictograph c) ||
      (t.role = .region && role = .region && t.oddRegions)

end Tail

/-- What of a text still belongs to the cluster before it, and the clusters after that. -/
def splitAfter (t : Tail) : List Char → List Char × List (List Char)
  | [] => ([], [])
  | c :: s =>
    let (own, others) := splitAfter (t.push c) s
    if t.holds c then (c :: own, others) else ([], (c :: own) :: others)

/-- The text in units of one visible character each. -/
def clusters : List Char → List (List Char)
  | [] => []
  | c :: s =>
    let (own, others) := splitAfter (({} : Tail).push c) s
    (c :: own) :: others

end BuildDiagnostics.Text
