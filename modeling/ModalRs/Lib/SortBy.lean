/-
  File:      ModalRs/Lib/SortBy.lean
  Subject:   Sorting by a key, as a normal form.

  * `sortBy`: a stable sort.
  * `sortBy_eq_iff`: with distinct keys, it tells what is in a list and nothing else.
-/
import Mathlib.Data.List.Sort
import Mathlib.Data.List.Nodup

namespace ModalRs.Lib

variable {α κ : Type} [LinearOrder κ] {key : α → κ} {l l' : List α}

/-- A stable sort by a key. -/
def sortBy (key : α → κ) (l : List α) : List α := l.mergeSort fun a b => decide (key a ≤ key b)

theorem sortBy_perm (key : α → κ) (l : List α) : (sortBy key l).Perm l := List.mergeSort_perm _ _

theorem sortBy_pairwise (key : α → κ) (l : List α) :
    (sortBy key l).Pairwise fun a b => key a ≤ key b := by
  have htrans : ∀ a b c : α, decide (key a ≤ key b) → decide (key b ≤ key c) →
      decide (key a ≤ key c) := by
    intro a b c hab hbc
    exact decide_eq_true ((of_decide_eq_true hab).trans (of_decide_eq_true hbc))
  have htotal : ∀ a b : α, (decide (key a ≤ key b) || decide (key b ≤ key a)) = true := by
    intro a b
    rw [Bool.or_eq_true, decide_eq_true_eq, decide_eq_true_eq]
    exact le_total _ _
  refine (List.pairwise_mergeSort htrans htotal l).imp ?_
  exact fun h => of_decide_eq_true h

/-- Sorting leaves what is sorted. -/
theorem sortBy_of_pairwise (h : l.Pairwise fun a b => key a ≤ key b) : sortBy key l = l :=
  List.mergeSort_of_pairwise (h.imp decide_eq_true)

/-- **A normal form**: lists with distinct keys are sorted alike if they hold the same. -/
theorem sortBy_eq_iff (h : (l.map key).Nodup) (h' : (l'.map key).Nodup) :
    sortBy key l = sortBy key l' ↔ ∀ x, x ∈ l ↔ x ∈ l' := by
  constructor
  · intro heq x
    rw [← (sortBy_perm key l).mem_iff, heq, (sortBy_perm key l').mem_iff]
  · intro hmem
    have hperm : l.Perm l' :=
      (List.perm_ext_iff_of_nodup (List.Nodup.of_map key h) (List.Nodup.of_map key h')).mpr hmem
    have hsorted : (sortBy key l).Perm (sortBy key l') :=
      (sortBy_perm key l).trans (hperm.trans (sortBy_perm key l').symm)
    refine hsorted.eq_of_pairwise ?_ (sortBy_pairwise key l) (sortBy_pairwise key l')
    intro a b ha hb hab hba
    have hal : a ∈ l := (sortBy_perm key l).mem_iff.mp ha
    have hbl : b ∈ l := (hmem b).mpr ((sortBy_perm key l').mem_iff.mp hb)
    exact List.inj_on_of_nodup_map h hal hbl (le_antisymm hab hba)

end ModalRs.Lib
