import BuildDiagnostics.Channel

/-!
# Runs of a channel

A channel takes lines and the end of its stream (`Channel.Input`). `Channel.run` feeds it any
sequence of them and collects what it hands over on the way, in order.
-/

namespace BuildDiagnostics.Channel

/-- The channel of the given grammars before its first line. -/
def ofGrammars (gs : List Grammar) : Channel := ⟨gs.map .fresh, none⟩

/-- What a channel takes. -/
inductive Input
  | line (l : Line)
  | close
  deriving DecidableEq, Repr

/-- The diagnostics that an input finishes, and the channel after it. -/
def react (c : Channel) : Input → List Diagnostic × Channel
  | .line l => c.dispatch l
  | .close => c.close

/-- The diagnostics that a sequence of inputs finishes, in order, and the channel after it. -/
def run (c : Channel) : List Input → List Diagnostic × Channel
  | [] => ([], c)
  | x :: xs => ((c.react x).1 ++ ((c.react x).2.run xs).1, ((c.react x).2.run xs).2)

theorem run_append (c : Channel) (xs ys : List Input) :
    c.run (xs ++ ys) = ((c.run xs).1 ++ ((c.run xs).2.run ys).1, ((c.run xs).2.run ys).2) := by
  induction xs generalizing c with
  | nil => rfl
  | cons x xs ih => simp only [List.cons_append, run, ih, List.append_assoc]

end BuildDiagnostics.Channel
