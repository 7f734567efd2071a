import BuildDiagnostics.Failure
import BuildDiagnostics.Pattern.Match
import BuildDiagnostics.Text.Case
import BuildDiagnostics.Text.Number
import BuildDiagnostics.Warning

/-!
# The cache of CMake

`CMakeCache.txt` holds one entry a line, `KEY:TYPE=VALUE`, with the key in quotes where it holds a
colon. Lines that start with `//` document the next entry, lines that start with `#` say nothing. An
entry `KEY-ADVANCED` marks another entry and is none itself.

`Record.ofLine` says what a line is, `Reader.add` what it does to the entries read so far.
-/

namespace BuildDiagnostics

open Text

/-- An entry of the cache. -/
structure CacheEntry where
  key : String
  type : CacheType
  value : String
  docs : String := ""
  advanced : Bool := false
  deriving DecidableEq, Repr

/-- The words that are false. -/
def falseWords : List String := ["", "FALSE", "OFF", "NO", "N", "IGNORE", "NOTFOUND"]

/-- Whether a value counts as true. False are zero, the words for it, and all that ends in
`-NOTFOUND`; blanks around the value and its case do not matter. -/
def isTruthy (value : List Char) : Bool :=
  let v := (trim value).map upperAscii
  if "-NOTFOUND".toList.isSuffixOf v then false
  else
    match Number.isZero? v with
    | some zero => !zero
    | none => !falseWords.contains (String.ofList v)

namespace CacheEntry

/-- Whether the entry is true, if it is one that is true or false. -/
def asBool (e : CacheEntry) : Option Bool :=
  if e.type = .bool then some (isTruthy e.value.toList) else none

/-- Whether a key is written in quotes. -/
def needsQuotes (key : List Char) : Bool := key.contains ':' || key.head? == some '"'

/-- The entry as a line. -/
def render (e : CacheEntry) : String :=
  let key := if needsQuotes e.key.toList then "\"" ++ e.key ++ "\"" else e.key
  key ++ ":" ++ e.type.name ++ "=" ++ e.value

end CacheEntry

namespace Cache

/-- The name of the file. -/
def fileName : String := "CMakeCache.txt"

/-- The ending of a key that marks another entry. -/
def advancedSuffix : String := "-ADVANCED"

open Pattern in
/-- A line with an entry. -/
def entryPattern : Pattern :=
  alt ("\"" ++ capture .quotedKey (least isInline) ++ "\"") (capture .key (least isInline)) ++
    ":" ++ capture .kind (least fun c => c != ':') ++ "=" ++ capture .value (most isInline) ++ stop

/-- What a line of the file is. -/
inductive Record
  /-- Nothing, or a comment. -/
  | blank
  /-- Documentation of the next entry. -/
  | doc (text : List Char)
  /-- An entry. -/
  | entry (key : String) (type : CacheType) (value : String)
  /-- A mark on the entry with the given key, and whether it holds. -/
  | advanced (key : String) (holds : Bool)
  /-- An entry of a type that does not exist. -/
  | unknownType (e : UnknownCacheType)
  /-- None of these. -/
  | malformed
  deriving DecidableEq, Repr

namespace Record

/-- The record of a line with an entry, from its key, type and value. -/
def ofParts (key : List Char) (type : String) (value : List Char) : Record :=
  match CacheType.ofName type with
  | .error e => unknownType e
  | .ok t =>
    match dropSuffix? advancedSuffix.toList key with
    | some base => advanced (String.ofList base) (isTruthy value)
    | none => entry (String.ofList key) t (String.ofList value)

/-- What a line is. -/
def ofLine (line : List Char) : Record :=
  if line.isEmpty || (trimStart line).head? == some '#' then blank
  else
    match dropPrefix? ['/', '/'] line with
    | some text => doc text
    | none =>
      match entryPattern.match? line with
      | none => malformed
      | some cs =>
        let key := (cs.get? .quotedKey).getD (cs.get .key)
        ofParts key (String.ofList (cs.get .kind)) (cs.get .value)

end Record

/-- What has been read so far. -/
structure Reader where
  entries : List CacheEntry := []
  /-- The keys that are marked. -/
  advanced : List String := []
  /-- The documentation since the last entry. -/
  docs : List Char := []
  warnings : List Warning := []

namespace Reader

/-- The list with an entry in the place of one with the same key, or else at the end. -/
def put (e : CacheEntry) : List CacheEntry → List CacheEntry
  | [] => [e]
  | f :: rest => if f.key = e.key then e :: rest else f :: put e rest

/-- The reader after a line. -/
def add (r : Reader) (line : List Char) : Reader :=
  match Record.ofLine line with
  | .blank => r
  | .doc text => { r with docs := r.docs ++ text ++ [' '] }
  | .malformed => { r with warnings := r.warnings ++ [.malformedCacheLine (String.ofList line)] }
  | .unknownType e =>
    { r with
      docs := []
      warnings := r.warnings ++ [.unknownCacheType e (String.ofList line)] }
  | .advanced key holds =>
    { r with docs := [], advanced := if holds then r.advanced ++ [key] else r.advanced }
  | .entry key type value =>
    let e : CacheEntry := { key, type, value, docs := String.ofList (trim r.docs) }
    { r with docs := [], entries := put e r.entries }

end Reader

end Cache

/-- The entries of a cache. -/
structure Cache where
  path : Option Path := none
  entries : List CacheEntry
  deriving DecidableEq, Repr

namespace Cache

/-- The entries with those marked whose keys are listed. -/
def mark (advanced : List String) (entries : List CacheEntry) : List CacheEntry :=
  entries.map fun e => if advanced.contains e.key then { e with advanced := true } else e

/-- The cache that a text describes, and what there was to warn about. -/
def parse (text : List Char) : Cache × List Warning :=
  let r := (universalLines text).foldl Reader.add {}
  ({ entries := mark r.advanced r.entries }, r.warnings)

/-- The cache in a file. -/
def load (d : Disk) (p : Path) : Except Failure (Cache × List Warning) :=
  match d.readText p with
  | .error f => .error (.during ("reading CMake cache " ++ p.text) f)
  | .ok text =>
    let (c, warnings) := parse text
    .ok ({ c with path := some p }, warnings)

/-- The entry with a key. -/
def get? (c : Cache) (key : String) : Option CacheEntry := c.entries.find? fun e => e.key == key

/-- The source directory that the cache was made for. -/
def sourceDirectory (c : Cache) : Option Path :=
  (c.get? "CMAKE_HOME_DIRECTORY").map fun e => ⟨e.value⟩

end Cache

end BuildDiagnostics
