import BuildDiagnostics.Diagnostic
import BuildDiagnostics.Pattern.Match

/-!
# What a grammar says about a line

A grammar reads the lines of one channel in turn. Each line it either claims or leaves to the other
grammars, and either way the line may finish the diagnostic that the grammar was holding:

* claimed, nothing finished: the line opens or extends a block;
* claimed, one finished: the line ends a block, or is a whole diagnostic;
* not claimed, one finished: the line belongs to another, but it ended the block;
* not claimed, nothing finished: the line is of no interest.
-/

namespace BuildDiagnostics

/-- A line of output without its line end. -/
abbrev Line := List Char

/-- A grammar's answer to one line. -/
structure Verdict where
  claimed : Bool
  finished : Option Diagnostic
  deriving DecidableEq, Repr

namespace Verdict

/-- The line is of no interest. -/
def ignored : Verdict := ⟨false, none⟩

/-- The line is claimed, and it finished what was held. -/
def claim (held : Option Diagnostic) : Verdict := ⟨true, held⟩

/-- The line is left to others, but it finished what was held. -/
def leave (held : Option Diagnostic) : Verdict := ⟨false, held⟩

end Verdict

end BuildDiagnostics
