import Mathlib

/-!
# Helpdesk.Proofs.Sorting — lists that are sorted by a key.

Only the order of the members of a list counts when it is sorted, and a key that tells them apart
leaves no choice: the sorted list is then the same whatever order they came in.
-/
namespace Helpdesk

variable {α κ : Type}

/-- Orders that agree on the members of a list sort it alike. -/
theorem mergeSort_eq_of_agrees {le le' : α → α → Bool} {items : List α}
    (h : ∀ a ∈ items, ∀ b ∈ items, le a b = le' a b) : items.mergeSort le = items.mergeSort le' := by
  have hmap := List.map_mergeSort (f := id) (s := le') (l := items) (r := le) h
  rwa [List.map_id, List.map_id] at hmap

theorem mergeSort_pair (le : α → α → Bool) (a b : α) :
    [a, b].mergeSort le = if le a b then [a, b] else [b, a] := by
  simp [List.mergeSort, List.merge]

variable [LinearOrder κ]

theorem pairwise_mergeSort_key (key : α → κ) (items : List α) :
    (items.mergeSort fun a b => decide (key a ≤ key b)).Pairwise fun a b => key a ≤ key b := by
  refine (List.pairwise_mergeSort ?_ ?_ items).imp of_decide_eq_true
  · intro a b c hab hbc
    exact decide_eq_true (le_trans (of_decide_eq_true hab) (of_decide_eq_true hbc))
  · intro a b
    rw [Bool.or_eq_true, decide_eq_true_iff, decide_eq_true_iff]
    exact le_total (key a) (key b)

/-- Sorting by a key that tells the items apart forgets the order they came in. -/
theorem mergeSort_key_of_perm (key : α → κ) {xs ys : List α} (hperm : xs.Perm ys)
    (hkey : ∀ a ∈ xs, ∀ b ∈ xs, key a = key b → a = b) :
    xs.mergeSort (fun a b => decide (key a ≤ key b)) =
      ys.mergeSort fun a b => decide (key a ≤ key b) := by
  refine List.Perm.eq_of_pairwise ?_ (pairwise_mergeSort_key key xs) (pairwise_mergeSort_key key ys) ?_
  · intro a b ha hb hab hba
    have hb : b ∈ xs := hperm.mem_iff.mpr (List.mem_mergeSort.mp hb)
    exact hkey a (List.mem_mergeSort.mp ha) b hb (le_antisymm hab hba)
  · exact (List.mergeSort_perm xs _).trans (hperm.trans (List.mergeSort_perm ys _).symm)

/-! ## Strictly increasing keys -/

variable {key : α → κ} {xs ys : List α}

theorem antisymm_key_lt (key : α → κ) : Std.Antisymm fun a b => key a < key b :=
  ⟨fun _ _ hab hba => absurd hab (lt_asymm hba)⟩

/-- A list in strictly increasing order is determined by its members. -/
theorem eq_of_pairwise_key_lt (hxs : xs.Pairwise fun a b => key a < key b)
    (hys : ys.Pairwise fun a b => key a < key b) (hmem : ∀ a, a ∈ xs ↔ a ∈ ys) : xs = ys := by
  have hirrefl : Std.Irrefl fun a b => key a < key b := ⟨fun a => lt_irrefl (key a)⟩
  have hantisymm := antisymm_key_lt key
  exact hxs.eq_of_mem_iff hys hmem

/-- In such a list one member comes before another exactly if its key does. -/
theorem pair_sublist_iff (hxs : xs.Pairwise fun a b => key a < key b) {a b : α} :
    [a, b].Sublist xs ↔ a ∈ xs ∧ b ∈ xs ∧ key a < key b := by
  constructor
  · intro h
    have hpair := List.pairwise_pair.mp (List.Pairwise.sublist h hxs)
    exact ⟨h.subset (by simp), h.subset (by simp), hpair⟩
  · rintro ⟨ha, hb, hlt⟩
    have hantisymm := antisymm_key_lt key
    have hpair : [a, b].Pairwise fun a b => key a < key b := List.pairwise_pair.mpr hlt
    have hnodup : [a, b].Nodup := by
      apply hpair.imp
      rintro a b hlt rfl
      exact lt_irrefl _ hlt
    refine List.sublist_of_subperm_of_pairwise (List.subperm_of_subset hnodup ?_) hpair hxs
    simp [ha, hb]

end Helpdesk
