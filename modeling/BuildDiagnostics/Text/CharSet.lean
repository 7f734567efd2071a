/-!
# Sets of characters given by ranges

A Unicode property is a sorted list of closed ranges of code points. Membership walks the list and
stops at the first range that starts above the character, so the low ranges answer at once.
-/

namespace BuildDiagnostics.Text

/-- A set of characters as closed ranges of code points in rising order. -/
structure CharSet where
  ranges : List (Nat × Nat)

namespace CharSet

/-- Whether a code point lies in one of the ranges. -/
def holds (n : Nat) : List (Nat × Nat) → Bool
  | [] => false
  | (lo, hi) :: rest => if n < lo then false else n ≤ hi || holds n rest

/-- Whether the character belongs to the set. -/
def contains (s : CharSet) (c : Char) : Bool := holds c.toNat s.ranges

end CharSet

end BuildDiagnostics.Text
