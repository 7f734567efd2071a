import BuildDiagnostics.Grammar.Basic

/-!
# Channels

A channel is one of the two streams of a command. Each has its own matchers, so what is half read on
one is not ended by the other. A line is offered to the matcher that claimed last, then to the
others in order, until one claims it; a claimed line ends whatever the others hold.
-/

namespace BuildDiagnostics

/-- The matchers of one stream. -/
structure Channel where
  matchers : List Matcher
  /-- The place of the matcher that claimed last. -/
  sticky : Option Nat := none
  deriving DecidableEq, Repr

namespace Channel

/-- What offering a line has come to: what was finished on the way, the place of the matcher that
claimed with what it finished, and the matchers after it. -/
structure Offer where
  found : List Diagnostic
  claim : Option (Nat × Option Diagnostic)
  matchers : List Matcher

/-- Offers a line to the matchers at the given places until one claims it. -/
def offer (line : Line) : List Nat → List Matcher → Offer
  | [], ms => ⟨[], none, ms⟩
  | i :: rest, ms =>
    match ms[i]? with
    | none => offer line rest ms
    | some m =>
      let (v, m') := m.step line
      if v.claimed then ⟨[], some (i, v.finished), ms.set i m'⟩
      else
        let next := offer line rest (ms.set i m')
        { next with found := v.finished.toList ++ next.found }

/-- The places of the matchers in the order in which they are asked. -/
def order (c : Channel) : List Nat :=
  c.sticky.toList ++ (List.range c.matchers.length).filter fun i => some i != c.sticky

/-- What the matchers hold, the one at a given place apart. -/
def heldBesides (i : Nat) (ms : List Matcher) : List Diagnostic :=
  ms.zipIdx.flatMap fun (m, j) => if j = i then [] else m.flush.1.toList

/-- The matchers with all flushed but the one at a given place. -/
def flushBesides (i : Nat) (ms : List Matcher) : List Matcher :=
  ms.zipIdx.map fun (m, j) => if j = i then m else m.flush.2

/-- The diagnostics that a line finishes, and the channel after it. -/
def dispatch (c : Channel) (line : Line) : List Diagnostic × Channel :=
  let o := offer line c.order c.matchers
  match o.claim with
  | none => (o.found, { c with matchers := o.matchers })
  | some (i, finished) =>
    (o.found ++ heldBesides i o.matchers ++ finished.toList, ⟨flushBesides i o.matchers, some i⟩)

/-- The diagnostics that the end of the stream finishes, and the channel after it. -/
def close (c : Channel) : List Diagnostic × Channel :=
  (c.matchers.filterMap fun m => m.flush.1, ⟨c.matchers.map fun m => m.flush.2, none⟩)

end Channel

end BuildDiagnostics
