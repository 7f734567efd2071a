import BuildDiagnostics.CacheType
import BuildDiagnostics.Encoding.Basic

/-!
# Warnings

What a run has to tell its user besides the diagnostics: settings that could not be followed and
input that could not be read as it stands. A warning never stops a run.
-/

namespace BuildDiagnostics

/-- Something that was passed over or mended. -/
inductive Warning
  /-- A grammar was asked for that is not registered. -/
  | unknownGrammar (name : String)
  /-- An encoding was asked for that cannot be used. -/
  | unusableEncoding (e : EncodingError)
  /-- A line was rejected by its encoding. -/
  | repaired (e : Encoding) (how : Encoding.Repair)
  /-- A line of a cache is no entry. -/
  | malformedCacheLine (line : String)
  /-- A line of a cache has a type that does not exist. -/
  | unknownCacheType (e : UnknownCacheType) (line : String)
  deriving DecidableEq, Repr

namespace Warning

/-- The warning in words. -/
def message : Warning → String
  | unknownGrammar name => "unknown output parser '" ++ name ++ "' ignored"
  | unusableEncoding e => e.message ++ "; decoding as UTF-8"
  | repaired e .readAsUtf8 =>
    "output is not valid " ++ e.name ++ "; decoded as UTF-8 instead"
  | repaired e .replaced => "undecodable bytes in " ++ e.name ++ " output replaced"
  | malformedCacheLine line => "malformed cache line skipped: " ++ line
  | unknownCacheType e line => e.message ++ " in cache line: " ++ line

end Warning

namespace Encoding

/-- The encoding that a setting chooses, and a warning when it falls back to UTF-8. No setting means
UTF-8. -/
def choose (label : Option String) (tables : EastAsian.Indexes := {}) : Encoding × List Warning :=
  match label with
  | none => (utf8, [])
  | some l =>
    match ofLabel l tables with
    | .ok e => (e, [])
    | .error err => (utf8, [.unusableEncoding err])

/-- The warning about a repair, if there was one. -/
def warnings (e : Encoding) (how : Option Repair) : List Warning :=
  (how.map (Warning.repaired e)).toList

end Encoding

end BuildDiagnostics
