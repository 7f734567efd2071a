import BuildDiagnostics.Consumer
import BuildDiagnostics.Environment
import BuildDiagnostics.Resolver
import BuildDiagnostics.Toml.Document

/-!
# Settings

What a run does is set in a file, in the environment and on the command line, of which each wins
over those before it. `load` reads the first two. A file with an entry that is no setting, with a
setting of the wrong kind or with a setting given twice is refused as a whole.
-/

namespace BuildDiagnostics

/-- The settings of a run. -/
structure Settings where
  /-- Whether output is looked at. -/
  parse : Bool := true
  /-- The names of the grammars to use; none means all. -/
  grammars : Option (List String) := none
  /-- The label of the encoding of the output. -/
  encoding : Option String := none
  /-- The directory for the file of orphans. -/
  orphans : Option Path := none
  deriving DecidableEq, Repr

namespace Settings

/-- The file that is read when it is there and no other is named. -/
def fileName : String := "cmake-e.toml"

/-- The variable that sets the encoding. -/
def encodingVariable : String := "CMAKE_E_OUTPUT_ENCODING"

/-- The variable that sets the grammars. -/
def grammarsVariable : String := "CMAKE_E_PARSERS"

/-- The names in a list with commas, without the blanks around them; empty ones are left out. -/
def namesOfList (list : String) : List String :=
  ((Text.pieces ',' list.toList).map fun n => String.ofList (Text.trim n)).filter (· != "")

/-- One of the settings. -/
inductive Key
  | parse | grammars | encoding | orphans
  deriving DecidableEq, Repr

/-- The setting that goes by the name; most have two names. -/
def Key.ofName? (name : String) : Option Key :=
  if name = "parse_build_diagnostics" || name = "parseBuildDiagnostics" then some .parse
  else if name = "enabled_output_parsers" || name = "enabledOutputParsers" then some .grammars
  else if name = "output_encoding" || name = "outputEncoding" then some .encoding
  else if name = "linker_errors_dir" then some .orphans
  else none

/-- The settings with one of them set, if the value is of its kind. -/
def assign? (s : Settings) : Key → Toml.Value → Option Settings
  | .parse, .boolean b => some { s with parse := b }
  | .grammars, .strings names => some { s with grammars := some names }
  | .encoding, .string label => some { s with encoding := some label }
  | .orphans, .string dir => some { s with orphans := some ⟨dir⟩ }
  | _, _ => none

/-- The setting and value of an entry. -/
def ofEntry? (entry : String × Toml.Value) : Option (Key × Toml.Value) :=
  (Key.ofName? entry.1).map (·, entry.2)

/-- The settings that a document makes. -/
def ofDocument? (doc : Toml.Document) : Option Settings :=
  (doc.mapM ofEntry?).bind fun entries =>
    if (entries.map Prod.fst).Nodup then entries.foldlM (fun s e => s.assign? e.1 e.2) {}
    else none

/-- The settings that a text makes. -/
def parse? (text : List Char) : Except Failure Settings :=
  match (Toml.Document.parse? text).bind ofDocument? with
  | some s => .ok s
  | none => .error ⟨["parsing cmake-e configuration"], .malformedSettings⟩

/-- The settings in a file. -/
def ofFile (d : Disk) (p : Path) : Except Failure Settings :=
  match d.readText p with
  | .error f => .error (.during ("reading " ++ p.text) f)
  | .ok text =>
    match parse? text with
    | .error e => .error (e.within ("in " ++ p.text))
    | .ok s => .ok s

/-- The settings with those of the environment. A blank encoding sets nothing. -/
def withEnvironment (s : Settings) (env : Environment) : Settings :=
  let s := match env.get? encodingVariable with
    | some label => if Text.isBlankLine label.toList then s else { s with encoding := some label }
    | none => s
  match env.get? grammarsVariable with
  | some list => { s with grammars := some (namesOfList list) }
  | none => s

/-- The settings of the named file, or else of the usual one if it is there, with those of the
environment. -/
def load (d : Disk) (env : Environment) (file : Option Path) : Except Failure Settings :=
  let base :=
    match file with
    | some p => ofFile d p
    | none => if d.isFile ⟨fileName⟩ then ofFile d ⟨fileName⟩ else .ok {}
  base.map (·.withEnvironment env)

/-- The grammars to use. -/
def registry (s : Settings) : Registry := Registry.builtin.allow s.grammars

/-- What there is to warn about the grammars to use. -/
def registryWarnings (s : Settings) : List Warning := Registry.builtin.allowWarnings s.grammars

/-- The encoding of the output, and what there is to warn about it. -/
def decoder (s : Settings) (tables : EastAsian.Indexes := {}) : Encoding × List Warning :=
  Encoding.choose s.encoding tables

/-- The resolver. Without a setting, orphans go to a directory for files that need not last. -/
def resolver (s : Settings) (env : Environment) : Resolver :=
  ⟨s.orphans.getD (env.temporaryDirectory.join "cmake-e")⟩

/-- A consumer, with the warnings that come of making it. -/
def consumer (s : Settings) (tables : EastAsian.Indexes := {}) : Consumer :=
  let (encoding, warnings) := s.decoder tables
  if s.parse then
    { Consumer.ofRegistry s.registry with
      encoding := encoding, warnings := s.registryWarnings ++ warnings }
  else { Consumer.disabled with encoding := encoding, warnings := warnings }

end Settings

end BuildDiagnostics
