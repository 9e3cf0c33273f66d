/-
  File:      ModalRs/Rust/HashMap.lean
  Subject:   `HashMap`: a finite map, iterated in an order that nothing fixes.

  * `HashMap`: the maps; two are equal if they hold the same.
  * `Iterates`: the orders in which the entries of a map may come; any entry may be the
    first (`exists_iterates_first`).
  * `exists_iterates_of_view`: maps whose entries look the same can be iterated so
    that they look the same.
-/
import Mathlib.Data.Finmap
import Mathlib.Data.List.Forall2

namespace ModalRs.Rust

/-- `HashMap<K, V>`. -/
abbrev HashMap (κ ν : Type) : Type := Finmap fun _ : κ => ν

/-- An entry of a map. -/
abbrev HashMap.Entry (κ ν : Type) : Type := Sigma fun _ : κ => ν

namespace HashMap

variable {κ ν α : Type} {m m' : HashMap κ ν}

/-- A map may be iterated in this order. -/
def Iterates (m : HashMap κ ν) (order : List (Entry κ ν)) : Prop := (order : Multiset _) = m.entries

theorem exists_iterates (m : HashMap κ ν) : ∃ order, m.Iterates order :=
  Quotient.exists_rep m.entries

/-- Any entry may come first. -/
theorem exists_iterates_first {e : Entry κ ν} (h : e ∈ m.entries) :
    ∃ rest, m.Iterates (e :: rest) := by
  obtain ⟨others, hothers⟩ := Multiset.exists_cons_of_mem h
  obtain ⟨rest, hrest⟩ := Quotient.exists_rep others
  refine ⟨rest, ?_⟩
  rw [Iterates, hothers, ← hrest]
  rfl

/-- Whatever the order, it has the entries of the map. -/
theorem Iterates.mem_iff {order : List (Entry κ ν)} (h : m.Iterates order) {e : Entry κ ν} :
    e ∈ order ↔ e ∈ m.entries := by
  rw [← h]
  exact Iff.rfl

/-- Whatever the order, the entries look as those of the map do. -/
theorem Iterates.view {order : List (Entry κ ν)} (h : m.Iterates order) (f : Entry κ ν → α) :
    ((order.map f : List α) : Multiset α) = m.entries.map f := by
  rw [← h]
  rfl

/-- **Maps whose entries look the same** can be iterated so that they look the same. -/
theorem exists_iterates_of_view {f : Entry κ ν → α} (h : m.entries.map f = m'.entries.map f)
    {order : List (Entry κ ν)} (horder : m.Iterates order) :
    ∃ order', m'.Iterates order' ∧ order'.map f = order.map f := by
  obtain ⟨other, hother⟩ := exists_iterates m'
  have hperm : (order.map f).Perm (other.map f) :=
    Multiset.coe_eq_coe.mp ((horder.view f).trans (h.trans (hother.view f).symm))
  have hforall : List.Forall₂ (fun a e => a = f e) (other.map f) other := by
    rw [List.forall₂_map_left_iff]
    exact List.forall₂_same.mpr fun _ _ => rfl
  obtain ⟨order', hmap, hperm'⟩ := List.perm_comp_forall₂ hperm hforall
  refine ⟨order', ?_, ?_⟩
  · rw [Iterates, ← hother]
    exact Multiset.coe_eq_coe.mpr hperm'
  · have hsame : List.Forall₂ (· = ·) (order.map f) (order'.map f) :=
      List.forall₂_map_right_iff.mpr hmap
    exact (List.forall₂_eq_eq_eq ▸ hsame).symm

end HashMap

end ModalRs.Rust
