import BuildDiagnostics.Diagnostic
import Mathlib.Data.List.Forall2

/-!
# Growing diagnostics

A diagnostic that is held can take more text at the end of its message and more related places at
the end of their list. `Diagnostic.Extends d e` says that `e` has come from `d` in this way.
-/

namespace BuildDiagnostics

/-- The second diagnostic is the first one with more text and more related places at the end. -/
structure Diagnostic.Extends (d e : Diagnostic) : Prop where
  source : e.source = d.source
  file : e.file = d.file
  range : e.range = d.range
  severity : e.severity = d.severity
  code : e.code = d.code
  message : d.message.toList <+: e.message.toList
  related : d.related <+: e.related

namespace Diagnostic.Extends

theorem refl (d : Diagnostic) : Extends d d :=
  ⟨rfl, rfl, rfl, rfl, rfl, List.prefix_rfl, List.prefix_rfl⟩

theorem trans {d e f : Diagnostic} (h : Extends d e) (h' : Extends e f) : Extends d f :=
  ⟨h'.source.trans h.source, h'.file.trans h.file, h'.range.trans h.range,
    h'.severity.trans h.severity, h'.code.trans h.code, h.message.trans h'.message,
    h.related.trans h'.related⟩

end Diagnostic.Extends

/-- Each diagnostic of the second list extends the one at its place in the first. -/
abbrev AllExtend : List Diagnostic → List Diagnostic → Prop := List.Forall₂ Diagnostic.Extends

namespace AllExtend

theorem refl (ds : List Diagnostic) : AllExtend ds ds :=
  List.forall₂_same.2 fun d _ => .refl d

theorem trans {ds es fs : List Diagnostic} (h : AllExtend ds es) (h' : AllExtend es fs) :
    AllExtend ds fs := by
  induction h generalizing fs with
  | nil => exact h'
  | cons hd _ ih =>
    cases h' with
    | cons he hes => exact .cons (hd.trans he) (ih hes)

theorem append {ds es ds' es' : List Diagnostic} (h : AllExtend ds es) (h' : AllExtend ds' es') :
    AllExtend (ds ++ ds') (es ++ es') :=
  List.rel_append h h'

theorem refl_append_nil (d : Option Diagnostic) : AllExtend ([] ++ d.toList) (d.toList ++ []) := by
  rw [List.append_nil]; exact refl _

end AllExtend

end BuildDiagnostics
