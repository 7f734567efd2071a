import BuildDiagnostics.Text.Pictograph
import BuildDiagnostics.Text.WideTable
import BuildDiagnostics.Text.ZeroWidth

/-!
# The width of text

On a terminal a character takes no column, one, or two, and a few sequences take less or more than
their characters do one by one: a picture made of several pictures, a flag, a picture that is asked
to stand as text, and the ligatures of some scripts.

A text is measured from its end. `Following` is what the characters behind a place come to as far as
it bears on the one before it; `add` puts a character before them and tells how many columns that
adds.
-/

namespace BuildDiagnostics.Text

/-- The number of columns that a character takes by itself. -/
def charWidth (c : Char) : Nat :=
  if c = '\u17d8' then 3
  else if isZeroWidth c then 0
  else if wideSet.contains c then 2
  else 1

/-! ## Ligatures -/

/-- The last letter of a ligature, with those marks of it that have been read. -/
inductive Letter
  | alef
  | lamed
  | ya
  /-- A Buginese ya with the vowel sign before it. -/
  | voweledYa
  | tifinagh
  /-- A Tifinagh consonant with the sign before it that joins it. -/
  | joinedTifinagh
  | lisu
  | oldTurkic
  | khmer
  deriving DecidableEq, Repr

/-- Whether the code point lies in one of the ranges. -/
def among (c : Char) (ranges : List (Nat × Nat)) : Bool := CharSet.holds c.toNat ranges

/-- Whether the character is an Arabic alef. -/
def isAlef (c : Char) : Bool :=
  among c [(0x622, 0x623), (0x625, 0x625), (0x627, 0x627), (0x671, 0x673), (0x675, 0x675),
    (0x773, 0x774), (0x870, 0x882)]

/-- Whether the character is an Arabic lam. -/
def isLam (c : Char) : Bool :=
  among c [(0x644, 0x644), (0x6b5, 0x6b8), (0x76a, 0x76a), (0x8a6, 0x8a6), (0x8c7, 0x8c7)]

/-- The characters without width through which Arabic letters do not join. -/
def opaqueRanges : List (Nat × Nat) :=
  [(0x605, 0x605), (0x890, 0x891), (0x8e2, 0x8e2), (0x9be, 0x9be), (0x9d7, 0x9d7), (0xb3e, 0xb3e),
   (0xb57, 0xb57), (0xbbe, 0xbbe), (0xbd7, 0xbd7), (0xcc0, 0xcc0), (0xcc2, 0xcc2), (0xcc7, 0xcc8),
   (0xcca, 0xccb), (0xcd5, 0xcd6), (0xd3e, 0xd3e), (0xd4e, 0xd4e), (0xd57, 0xd57), (0xdcf, 0xdcf),
   (0xddf, 0xddf), (0x1160, 0x11ff), (0x1715, 0x1715), (0x1734, 0x1734), (0x180e, 0x180e),
   (0x1b35, 0x1b35), (0x1b3b, 0x1b3b), (0x1b3d, 0x1b3d), (0x1b43, 0x1b44), (0x1baa, 0x1baa),
   (0x1bf2, 0x1bf3), (0x200c, 0x200d), (0x2065, 0x2069), (0x302e, 0x302f), (0x3164, 0x3164),
   (0xa8fa, 0xa8fa), (0xa953, 0xa953), (0xa9c0, 0xa9c0), (0xd7b0, 0xd7c6), (0xd7cb, 0xd7fb),
   (0xffa0, 0xffa0), (0xfff0, 0xfff8), (0x111c0, 0x111c0), (0x111c2, 0x111c3), (0x11235, 0x11235),
   (0x1133e, 0x1133e), (0x1134d, 0x1134d), (0x11357, 0x11357), (0x113b8, 0x113b8),
   (0x113c2, 0x113c2), (0x113c5, 0x113c5), (0x113c7, 0x113c9), (0x113cf, 0x113cf),
   (0x113d1, 0x113d1), (0x114b0, 0x114b0), (0x114bd, 0x114bd), (0x115af, 0x115af),
   (0x116b6, 0x116b6), (0x11930, 0x11930), (0x1193d, 0x1193d), (0x1193f, 0x1193f),
   (0x11941, 0x11941), (0x11a84, 0x11a89), (0x11d46, 0x11d46), (0x11f02, 0x11f02),
   (0x11f41, 0x11f41), (0x16ff0, 0x16ff1), (0x1d165, 0x1d166), (0x1d16d, 0x1d172),
   (0xe0000, 0xe0000), (0xe0002, 0xe001f), (0xe0080, 0xe00ff), (0xe01f0, 0xe0fff)]

/-- Whether Arabic letters join through the character. -/
def isTransparent (c : Char) : Bool := isZeroWidth c && !among c opaqueRanges

/-- Whether the character is a consonant of the Tifinagh script. -/
def isTifinagh (c : Char) : Bool := among c [(0x2d31, 0x2d65), (0x2d6f, 0x2d6f)]

/-- Whether the character is a Khmer letter that can stand below another. -/
def isKhmer (c : Char) : Bool :=
  among c [(0x1780, 0x1782), (0x1784, 0x1787), (0x1789, 0x178c), (0x178e, 0x1793),
    (0x1795, 0x1798), (0x179b, 0x179d), (0x17a0, 0x17a0), (0x17a2, 0x17a2), (0x17a7, 0x17a7),
    (0x17ab, 0x17ac), (0x17af, 0x17af)]

/-- The letter that ends a ligature, if the character is one. -/
def letter? (c : Char) : Option Letter :=
  if isAlef c then some .alef
  else if c = '\u05dc' then some .lamed
  else if c = '\u1a10' then some .ya
  else if isTifinagh c then some .tifinagh
  else if c = '\ua4fc' || c = '\ua4fd' then some .lisu
  else if c.toNat = 0x10c03 then some .oldTurkic
  else if isKhmer c then some .khmer
  else none

/-- Whether the character may stand inside a ligature without a part in it. -/
def isPassedOver (c : Char) : Bool :=
  among c [(0x34f, 0x34f), (0x17b4, 0x17b5), (0x180b, 0x180d), (0x180f, 0x180f), (0x200d, 0x200d),
    (0xfe00, 0xfe0f), (0xe0100, 0xe01ef)]

/-! ## What follows -/

/-- What the characters behind a place come to. -/
inductive Base
  | other
  | lineFeed
  /-- The end of a ligature; `joined` tells whether a joiner stands before it. -/
  | letter (l : Letter) (joined : Bool)
  /-- Vowel signs of the Kirat Rai script. -/
  | kiratE | kiratAi
  | picture
  | tone
  | region
  /-- Two regions or more. -/
  | regions
  /-- A picture with a joiner before it. -/
  | joined
  /-- A joined picture with the sign of a key before it. -/
  | key
  /-- A joined picture with one region before it, an even number of them, or a greater odd one. -/
  | oneRegion | evenRegions | oddRegions
  /-- A joined picture with the end of a sequence of tags before it, and `letters` and then `digits`
  tags before that. -/
  | tags (letters digits : Nat)
  deriving DecidableEq, Repr

/-- A sign that chooses how the character before it stands. -/
inductive Selector
  /-- As a picture. -/
  | picture
  /-- As text. -/
  | text
  /-- In two columns. -/
  | fullWidth
  deriving DecidableEq, Repr

/-- What the characters behind a place come to, and the selector among them that waits for its
character. -/
structure Following where
  base : Base := .other
  selector : Option Selector := none
  deriving DecidableEq, Repr

namespace Base

/-- The base, if it is the end of a ligature. -/
def ligature : Base → Base
  | letter l j => letter l j
  | _ => other

/-- The base, if a picture can still be joined to it. -/
def joinable : Base → Base
  | letter l j => letter l j
  | joined => joined
  | key => key
  | _ => other

/-- Whether a picture is joined to what comes before it. -/
def isJoined (b : Base) : Bool := b == joined || b == key

/-- The base of a character that nothing follows. -/
def ofChar (c : Char) : Base :=
  match letter? c with
  | some l => letter l false
  | none =>
    if c.toNat = 0x16d67 then kiratE
    else if c.toNat = 0x16d68 then kiratAi
    else if isSkinTone c then tone
    else if isRegion c then region
    else if isPicture c then picture
    else other

/-- What a character adds before the end of a ligature, if it has a part in it. -/
def beforeLetter? (c : Char) : Letter → Bool → Option (Int × Base)
  | .alef, _ =>
    if isLam c then some (0, other)
    else if isTransparent c then some (0, letter .alef false)
    else none
  | .lamed, j => if j && c = '\u05d0' then some (0, other) else none
  | .ya, j => if j && c = '\u1a17' then some (0, letter .voweledYa false) else none
  | .voweledYa, _ => if c = '\u1a15' then some (0, other) else none
  | .tifinagh, j =>
    if c = '\u2d7f' then some (1, letter .joinedTifinagh false)
    else if j && isTifinagh c then some (0, other)
    else none
  | .joinedTifinagh, _ => if isTifinagh c then some (-1, other) else none
  | .lisu, _ => if '\ua4f8' ≤ c && c ≤ '\ua4fb' then some (0, other) else none
  | .oldTurkic, j => if j && c.toNat = 0x10c32 then some (0, other) else none
  | .khmer, _ => if c = '\u17d2' then some (-1, other) else none

/-- What a character adds before a vowel sign of the Kirat Rai script, if it is one too. -/
def beforeVowel? (c : Char) (ai : Bool) : Option (Int × Base) :=
  if c.toNat = 0x16d63 then some (0, other)
  else if ai then none
  else if c.toNat = 0x16d67 then some (0, kiratAi)
  else if c.toNat = 0x16d68 then some (1, kiratE)
  else if c.toNat = 0x16d69 then some (0, other)
  else none

/-- Whether the character is a tag for a letter. -/
def isTagLetter (c : Char) : Bool := 0xe0061 ≤ c.toNat && c.toNat ≤ 0xe007a

/-- Whether the character is a tag for a digit. -/
def isTagDigit (c : Char) : Bool := 0xe0030 ≤ c.toNat && c.toNat ≤ 0xe0039

/-- What a character adds before tags, if it is one too or the flag that they belong to. -/
def beforeTags? (c : Char) (letters digits : Nat) : Option (Int × Base) :=
  if isTagLetter c && digits = 0 && letters < 6 then some (0, tags (letters + 1) 0)
  else if isTagDigit c && digits = 0 && letters < 5 then some (0, tags letters 1)
  else if isTagDigit c && 0 < digits && digits < 3 then some (0, tags letters (digits + 1))
  else if c.toNat = 0x1f3f4 && (digits = 3 || (digits = 0 && 3 ≤ letters)) then some (0, picture)
  else none

/-- What a character adds before a joined picture, if it is joined to it. -/
def beforeJoined? (c : Char) : Option (Int × Base) :=
  if c = '\u20e3' then some (0, key)
  else if isRegion c then some (1, oneRegion)
  else if isSkinTone c then some (0, tone)
  else if c.toNat = 0xe007f then some (0, tags 0 0)
  else if isPicture c then some (0, picture)
  else none

/-- What a character adds before what follows it, if that is more or less than it takes by itself.
-/
def before? (c : Char) : Base → Option (Int × Base)
  | letter l j => beforeLetter? c l j
  | kiratE => beforeVowel? c false
  | kiratAi => beforeVowel? c true
  | picture => if c = joiner then some (0, joined) else none
  | tone =>
    if takesTone c then some (0, picture) else if c = joiner then some (0, joined) else none
  | region => if isRegion c then some (1, regions) else none
  | regions =>
    if isRegion c then some (1, regions) else if c = joiner then some (0, joined) else none
  | joined => beforeJoined? c
  | oneRegion => if isRegion c then some (-1, evenRegions) else none
  | evenRegions =>
    if isRegion c then some (3, oddRegions) else if c = joiner then some (0, joined) else none
  | oddRegions =>
    if isRegion c then some (-1, evenRegions) else if c = joiner then some (0, joined) else none
  | tags n m => beforeTags? c n m
  | _ => none

end Base

namespace Following

/-- The selector that a character is. -/
def selector? (c : Char) : Option Selector :=
  if c = textSelector then some .text
  else if c = pictureSelector then some .picture
  else if c = '\ufe01' then some .fullWidth
  else none

/-- What comes of a selector before what follows it. -/
def select (f : Following) (s : Selector) : Following :=
  ⟨match s with
    | .picture => f.base.joinable
    | _ => f.base.ligature, some s⟩

/-- What a character adds that its selector applies to. -/
def selected? (c : Char) (f : Following) : Option (Int × Following) :=
  match f.selector with
  | some .picture =>
    if isSelectable c then some (if f.base.isJoined then 0 else 2, ⟨.picture, none⟩) else none
  | some .text => if isTextable c then some (1, {}) else none
  | some .fullWidth =>
    if c = '\u2018' || c = '\u2019' || c = '\u201c' || c = '\u201d' then some (2, {}) else none
  | none => none

/-- What follows when the selector has not found its character. -/
def unselected (f : Following) : Following :=
  match f.selector with
  | some .picture => ⟨f.base.ligature, none⟩
  | _ => ⟨f.base, none⟩

/-- What a character of the lowest code points adds. A line feed and the carriage return before it
count once. -/
def addLow (c : Char) (b : Base) : Int × Following :=
  if c = '\n' then (1, ⟨.lineFeed, none⟩)
  else if c = '\r' && b = .lineFeed then (0, {})
  else (1, {})

/-- What a character adds that is no selector and has none. -/
def addPlain (c : Char) (b : Base) : Int × Following :=
  match b with
  | .letter l j =>
    if l != .alef && c = joiner then (0, ⟨.letter l true, none⟩)
    else if l != .alef && isPassedOver c then (0, ⟨.letter l j, none⟩)
    else base c b
  | _ => base c b
where
  /-- What a character adds by its base. -/
  base (c : Char) (b : Base) : Int × Following :=
    match b.before? c with
    | some (n, b') => (n, ⟨b', none⟩)
    | none => (charWidth c, ⟨.ofChar c, none⟩)

/-- The number of columns that a character adds before what follows it, and what then follows. -/
def add (c : Char) (f : Following) : Int × Following :=
  match selected? c f with
  | some r => r
  | none =>
    if c ≤ '\u00a0' then addLow c f.base
    else
      match selector? c with
      | some s => (0, f.unselected.select s)
      | none => addPlain c f.unselected.base

end Following

/-- The number of columns of a text with what is measured already behind it, and what both come to
for a character before them. -/
def measureBefore (s : List Char) (behind : Int × Following) : Int × Following :=
  s.foldr (fun c (n, f) => let (m, f') := f.add c; (n + m, f')) behind

/-- The number of columns of a text, and what it comes to for a character before it. -/
def measure (s : List Char) : Int × Following := measureBefore s (0, {})

/-- The number of columns that a text takes. -/
def width (s : List Char) : Nat := (measure s).1.toNat

end BuildDiagnostics.Text
