import BuildDiagnostics.Text.Cluster
import BuildDiagnostics.Text.Width

/-!
# Words in slices

`slices` cuts a word into its clusters and notes how wide each is and how wide the word is from
there on, so that a long word can be broken into lines without measuring its rest again for each.

`textOf_slices` says that nothing of the word is lost.
-/

namespace BuildDiagnostics.Text

/-- A cluster of a word, with its width and that of the word from the cluster on. -/
structure Slice where
  first : Char
  others : List Char := []
  width : Nat
  span : Nat
  deriving DecidableEq, Repr

/-- The characters of slices. -/
def textOf : List Slice → List Char
  | [] => []
  | x :: xs => x.first :: x.others ++ textOf xs

/-- The slices of clusters, and how the text of them measures. -/
def slicesOf : List (List Char) → List Slice × Int × Following
  | [] => ([], 0, {})
  | [] :: rest => slicesOf rest
  | (c :: s) :: rest =>
    let (xs, behind) := slicesOf rest
    let whole := measureBefore (c :: s) behind
    (⟨c, s, width (c :: s), whole.1.toNat⟩ :: xs, whole)

/-- A word in slices. -/
def slices (word : List Char) : List Slice := (slicesOf (clusters word)).1

/-- The number of the first slices that take no more than a width together. -/
def fitting (room : Nat) : List Slice → Nat
  | [] => 0
  | x :: xs => if x.width ≤ room then fitting (room - x.width) xs + 1 else 0

theorem flatten_splitAfter (t : Tail) (s : List Char) :
    (splitAfter t s).1 ++ (splitAfter t s).2.flatten = s := by
  induction s generalizing t with
  | nil => rfl
  | cons c s ih =>
    have h := ih (t.push c)
    simp only [splitAfter]
    by_cases hc : t.holds c <;> simp [hc, h]

theorem flatten_clusters (s : List Char) : (clusters s).flatten = s := by
  cases s with
  | nil => rfl
  | cons c s => simp [clusters, flatten_splitAfter]

theorem textOf_slicesOf (cs : List (List Char)) : textOf (slicesOf cs).1 = cs.flatten := by
  induction cs with
  | nil => rfl
  | cons c cs ih => cases c <;> simp [slicesOf, textOf, ih]

theorem textOf_slices (word : List Char) : textOf (slices word) = word := by
  rw [slices, textOf_slicesOf, flatten_clusters]

theorem length_textOf_drop (n : Nat) (xs : List Slice) :
    (textOf (xs.drop n)).length ≤ (textOf xs).length := by
  induction xs generalizing n with
  | nil => simp
  | cons x xs ih =>
    cases n with
    | zero => simp
    | succ n =>
      have h := ih n
      simp only [List.drop_succ_cons, textOf, List.cons_append, List.length_cons,
        List.length_append]
      omega

end BuildDiagnostics.Text
