import BuildDiagnostics.Proofs.LatestBatch
import Mathlib.Data.List.Count
import Mathlib.Data.List.Perm.Basic

/-!
# Grouping loses nothing

A collection that starts empty keeps each diagnostic of its first batch in the group of its file,
and a snapshot only sorts the groups. So a snapshot has the diagnostics of the batch, each as often
as it was there.

* `perm_group`: the groups of a batch hold the diagnostics of the batch.
* `files_populate`: an empty collection keeps the groups as they are.
* `perm_items_snapshot`: the snapshot of a batch has its diagnostics.
* `countP_mem_of_nodup`: what occurs once in several lists together is in one of them.
-/

namespace BuildDiagnostics

namespace Collection

variable {gs fs : List FileGroup} {g : FileGroup}

/-- One more diagnostic in a group is one more in all. -/
theorem perm_change (q : Path) (r : Resolved) (gs : List FileGroup) :
    ((change q (· ++ [r]) gs).flatMap Prod.snd).Perm (gs.flatMap Prod.snd ++ [r]) := by
  induction gs with
  | nil => exact .refl _
  | cons g gs ih =>
    obtain ⟨p, items⟩ := g
    rw [change]
    split
    · -- the diagnostic goes to this group, before the later ones
      rw [List.flatMap_cons, List.flatMap_cons, List.append_assoc, List.append_assoc]
      exact List.perm_append_comm.append_left items
    · rw [List.flatMap_cons, List.flatMap_cons, List.append_assoc]
      exact ih.append_left items

/-- **The groups of a batch hold its diagnostics**, and no others. -/
theorem perm_group (batch : List Resolved) : ((group batch).flatMap Prod.snd).Perm batch := by
  induction batch using List.reverseRecOn with
  | nil => exact .refl _
  | append_singleton batch r ih =>
    rw [group_concat]
    exact (perm_change r.path r (group batch)).trans (ih.append_right [r])

/-- The group of a file that has none yet comes last. -/
theorem put_of_not_mem (h : g.1.components ∉ keys gs) : put g gs = gs ++ [g] := by
  induction gs with
  | nil => rfl
  | cons f gs ih =>
    obtain ⟨p, items⟩ := f
    rw [keys_cons, List.mem_cons, not_or] at h
    have hne : ¬ p.same g.1 = true := fun e => h.1 (Path.same_iff.1 e).symm
    rw [put, if_neg hne, ih h.2, List.cons_append]

/-- Groups of different files are kept one after the other. -/
theorem foldl_put_of_nodup (h : (keys (fs ++ gs)).Nodup) :
    gs.foldl (fun fs g => put g fs) fs = fs ++ gs := by
  induction gs generalizing fs with
  | nil => exact (List.append_nil fs).symm
  | cons g gs ih =>
    have hsplit : fs ++ g :: gs = (fs ++ [g]) ++ gs := by simp
    have hg : g.1.components ∉ keys fs := by
      intro hmem
      unfold keys at h hmem
      rw [List.map_append, List.map_cons, List.nodup_append] at h
      exact h.2.2 _ hmem _ List.mem_cons_self rfl
    rw [hsplit] at h ⊢
    rw [List.foldl_cons, put_of_not_mem hg, ih h]

/-- **An empty collection keeps the groups of a batch as they are.** -/
theorem files_populate {c : Collection} (hc : c.files = []) (batch : List Resolved) :
    (c.populate batch).files = group batch := by
  have hnodup : (keys ([] ++ group batch)).Nodup := (keys_group batch).1
  unfold populate
  rw [hc]
  exact foldl_put_of_nodup hnodup

/-- **The snapshot of a batch has its diagnostics**, and no others. -/
theorem perm_items_snapshot {c : Collection} (hc : c.files = []) (batch : List Resolved) :
    (c.populate batch).snapshot.items.Perm batch := by
  have hsorted : (c.populate batch).snapshot.files.Perm (group batch) := by
    rw [← files_populate hc batch]
    exact List.mergeSort_perm _ _
  exact (hsorted.flatMap_right Prod.snd).trans (perm_group batch)

end Collection

/-- **What occurs once in several lists together is in one of them.** -/
theorem countP_mem_of_nodup {α β : Type} [DecidableEq β] {f : α → List β} {xs : List α} {b : β}
    (h : (xs.flatMap f).Nodup) (hb : b ∈ xs.flatMap f) : xs.countP (fun x => b ∈ f x) = 1 := by
  induction xs with
  | nil => cases hb
  | cons x xs ih =>
    rw [List.flatMap_cons, List.nodup_append] at h
    obtain ⟨-, hrest, hapart⟩ := h
    rw [List.flatMap_cons, List.mem_append] at hb
    by_cases hx : b ∈ f x
    · have hnone : xs.countP (fun y => b ∈ f y) = 0 := by
        rw [List.countP_eq_zero]
        intro y hy hmem
        exact hapart b hx b (List.mem_flatMap.2 ⟨y, hy, by simpa using hmem⟩) rfl
      rw [List.countP_cons_of_pos (by simpa using hx), hnone]
    · rw [List.countP_cons_of_neg (by simpa using hx)]
      exact ih hrest (hb.resolve_left hx)

end BuildDiagnostics
