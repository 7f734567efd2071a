import BuildDiagnostics.Grammar.CMake
import BuildDiagnostics.Grammar.Diab
import BuildDiagnostics.Grammar.Gcc
import BuildDiagnostics.Grammar.GnuLd
import BuildDiagnostics.Grammar.GreenHills
import BuildDiagnostics.Grammar.Iar
import BuildDiagnostics.Grammar.Iwyu
import BuildDiagnostics.Grammar.Msvc

/-!
# Grammars

`Grammar` names the eight formats. A `Matcher` is a grammar at work on one channel: the grammar and
what it holds between lines. `step` reads a line, `flush` ends the output.
-/

namespace BuildDiagnostics

/-- A format of diagnostics. -/
inductive Grammar
  | gcc | gnuld | msvc | ghs | diab | iar | iwyu | cmake
  deriving DecidableEq, Repr

namespace Grammar

/-- All grammars, in the order in which they are asked. -/
def all : List Grammar := [gcc, gnuld, msvc, ghs, diab, iar, iwyu, cmake]

/-- The name of the grammar. -/
def name : Grammar → String
  | gcc => "gcc"
  | gnuld => "gnuld"
  | msvc => "msvc"
  | ghs => "ghs"
  | diab => "diab"
  | iar => "iar"
  | iwyu => "iwyu"
  | cmake => "cmake"

end Grammar

/-- A grammar and what it holds between the lines of a channel. -/
inductive Matcher
  | gcc (s : Gcc.State)
  | gnuld
  | msvc
  | ghs (held : Block.State)
  | diab
  | iar (held : Block.State)
  | iwyu (s : Iwyu.State)
  | cmake (s : CMake.State)
  deriving DecidableEq, Repr

namespace Matcher

/-- The matcher before the first line. -/
def fresh : Grammar → Matcher
  | .gcc => gcc {}
  | .gnuld => gnuld
  | .msvc => msvc
  | .ghs => ghs none
  | .diab => diab
  | .iar => iar none
  | .iwyu => iwyu .idle
  | .cmake => cmake none

/-- The grammar at work. -/
def grammar : Matcher → Grammar
  | gcc _ => .gcc
  | gnuld => .gnuld
  | msvc => .msvc
  | ghs _ => .ghs
  | diab => .diab
  | iar _ => .iar
  | iwyu _ => .iwyu
  | cmake _ => .cmake

/-- The answer to a line, and the matcher after it. -/
def step (m : Matcher) (line : Line) : Verdict × Matcher :=
  match m with
  | gcc s => (s.step line).map id gcc
  | gnuld => (GnuLd.read line, gnuld)
  | msvc => (Msvc.read line, msvc)
  | ghs held => (GreenHills.step held line).map id ghs
  | diab => (Diab.read line, diab)
  | iar held => (Iar.step held line).map id iar
  | iwyu s => (s.step line).map id iwyu
  | cmake s => (CMake.step s line).map id cmake

/-- The end of the output: the diagnostic that was held, and the matcher after it. -/
def flush (m : Matcher) : Option Diagnostic × Matcher :=
  match m with
  | gcc s => s.flush.map id gcc
  | gnuld => (none, gnuld)
  | msvc => (none, msvc)
  | ghs held => (Block.flush held).map id ghs
  | diab => (none, diab)
  | iar held => (Block.flush held).map id iar
  | iwyu s => s.flush.map id iwyu
  | cmake s => (CMake.flush s).map id cmake

end Matcher

end BuildDiagnostics
