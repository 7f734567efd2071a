/-!
# Types of cache entries

Each entry of the cache has one of seven types, written as a word in capitals.
-/

namespace BuildDiagnostics

/-- The type of a cache entry. -/
inductive CacheType
  | bool | string | filePath | path | internal | uninitialized | static
  deriving DecidableEq, Repr

/-- A word that is written in the place of a type and is none. -/
structure UnknownCacheType where
  word : String
  deriving DecidableEq, Repr

/-- The error in words. -/
def UnknownCacheType.message (e : UnknownCacheType) : String :=
  "unknown cache entry type '" ++ e.word ++ "'"

namespace CacheType

/-- All types. -/
def all : List CacheType := [bool, string, filePath, path, internal, uninitialized, static]

/-- The type as it is written. -/
def name : CacheType → String
  | bool => "BOOL"
  | string => "STRING"
  | filePath => "FILEPATH"
  | path => "PATH"
  | internal => "INTERNAL"
  | uninitialized => "UNINITIALIZED"
  | static => "STATIC"

/-- The type that is written like this. -/
def ofName (word : String) : Except UnknownCacheType CacheType :=
  match all.find? fun t => t.name == word with
  | some t => .ok t
  | none => .error ⟨word⟩

end CacheType

end BuildDiagnostics
