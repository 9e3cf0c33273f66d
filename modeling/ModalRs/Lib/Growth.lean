/-
  File:      ModalRs/Lib/Growth.lean
  Subject:   How large a store can grow that copies what it holds and combines the copies.

  A store holds values of some sizes. One unit of work copies one value, or
  combines values into a larger one, or enters a new value of size one. Three
  units make three out of one: copy, copy, combine. No other plan is faster.

  * `growth n`: the bound for `n` units of work; it triples every three units.
  * `Holding.Within`: the invariant. Its `k` counts copies still to be made of
    the largest value before everything is combined.
  * `Holding.Within.step`: every step that is paid for keeps it.
  * `Holding.of`: the holding with given sizes, and its steps as changes of that list.
-/
import Mathlib.Algebra.Order.BigOperators.Group.List
import Mathlib.Algebra.Ring.Nat
import Mathlib.Tactic.Ring

namespace ModalRs.Lib

/-! ## 1. The bound -/

def growth : Nat → Nat
  | 0 => 9
  | 1 => 13
  | 2 => 19
  | n + 3 => 3 * growth n

theorem growth_succ : ∀ n, growth n + n + 2 ≤ growth (n + 1)
  | 0 => by decide
  | 1 => by decide
  | 2 => by decide
  | n + 3 => by
      have ih := growth_succ n
      show 3 * growth n + (n + 3) + 2 ≤ 3 * growth (n + 1)
      omega

theorem growth_add (n : Nat) : ∀ k, growth n + k ≤ growth (n + k)
  | 0 => le_refl _
  | k + 1 => by
      have ih := growth_add n k
      have hstep := growth_succ (n + k)
      rw [← Nat.add_assoc n k 1]
      omega

theorem growth_mono {n m : Nat} (h : n ≤ m) : growth n ≤ growth m := by
  obtain ⟨k, rfl⟩ := Nat.exists_eq_add_of_le h
  have hk := growth_add n k
  omega

/-- `k + 1` copies that are combined cost at least `k + 1` units. -/
theorem growth_mul : ∀ (k n : Nat), (k + 1) * growth n ≤ growth (n + (k + 1))
  | 0, n => by
      rw [Nat.zero_add, Nat.one_mul]
      exact growth_mono (Nat.le_succ n)
  | 1, 0 => by decide
  | 1, 1 => by decide
  | 1, 2 => by decide
  | 1, n + 3 => by
      have ih : 2 * growth n ≤ growth (n + 2) := growth_mul 1 n
      show 2 * (3 * growth n) ≤ 3 * growth (n + 2)
      omega
  | 2, n => le_refl (3 * growth n)
  | 3, 0 => by decide
  | 3, 1 => by decide
  | 3, 2 => by decide
  | 3, n + 3 => by
      have ih : 4 * growth n ≤ growth (n + 4) := growth_mul 3 n
      show 4 * (3 * growth n) ≤ 3 * growth (n + 4)
      omega
  | k + 4, n => by
      -- three of the units triple what the others make
      have ih := growth_mul (k + 1) n
      have hcount : (k + 4 + 1) * growth n ≤ 3 * (k + 1 + 1) * growth n :=
        Nat.mul_le_mul_right _ (by omega)
      have htriple : 3 * ((k + 1 + 1) * growth n) ≤ 3 * growth (n + (k + 1 + 1)) :=
        Nat.mul_le_mul_left 3 ih
      rw [Nat.mul_assoc] at hcount
      exact hcount.trans htriple

theorem growth_le : ∀ n, growth n ≤ 19 * 3 ^ (n / 3)
  | 0 => by decide
  | 1 => by decide
  | 2 => by decide
  | n + 3 => by
      have ih := growth_le n
      have hdiv : (n + 3) / 3 = n / 3 + 1 := by omega
      show 3 * growth n ≤ _
      rw [hdiv, Nat.pow_succ]
      omega

/-! ## 2. Holdings -/

/-- The sizes in a store: all of them together, and the largest. -/
structure Holding where
  total : Nat
  largest : Nat

namespace Holding

/-- What `b` units of work do to a store. -/
inductive Step (b : Nat) (h h' : Holding) : Prop where
  /-- A value is copied; or nothing is, or something is dropped. -/
  | copy (ht : h'.total ≤ h.total + h.largest) (hl : h'.largest ≤ h.largest)
  /-- Values are combined, under one more node. -/
  | combine (ht : h'.total ≤ h.total + 1) (hl : h'.largest ≤ h.total + 1)
  /-- A value comes in that is paid for unit by unit. -/
  | enter (w : Nat) (hw : w ≤ b) (ht : h'.total ≤ h.total + w) (hl : h'.largest ≤ max h.largest w)

/-- **What `n` units of work can have made.** However many copies `k` of the largest value are
    added, for `k` more units, the total stays within the bound. -/
def Within (h : Holding) (n : Nat) : Prop :=
  ∀ k, h.total + k * h.largest + 2 ≤ growth (n + k + 1)

theorem Within.mono {h : Holding} {n m : Nat} (hn : h.Within n) (hnm : n ≤ m) : h.Within m :=
  fun k => (hn k).trans (growth_mono (by omega))

theorem within_empty : Within ⟨0, 0⟩ 0 := fun k => by
  have hk := growth_add 0 (k + 1)
  simp only [Nat.mul_zero, Nat.zero_add, growth] at hk ⊢
  omega

theorem Within.total {h : Holding} {n : Nat} (hn : h.Within n) :
    h.total + 2 ≤ growth (n + 1) := by
  have h0 := hn 0
  rw [Nat.zero_mul] at h0
  exact h0

/-- A value that came in, copied `k` times: every copy is paid for in units, not in multiples. -/
theorem growth_enter (n b : Nat) (hb : 1 ≤ b) : ∀ k, growth n + (k + 1) * b ≤ growth (n + k + b)
  | 0 => by
      rw [Nat.zero_add, Nat.one_mul]
      exact growth_add n b
  | k + 1 => by
      have ih := growth_enter n b hb k
      have hstep := growth_succ (n + k + b)
      have heq : n + (k + 1) + b = n + k + b + 1 := by omega
      rw [heq, Nat.succ_mul (k + 1) b]
      omega

/-- **Every step that is paid for stays within the bound.** -/
theorem Within.step {h h' : Holding} {n b : Nat} (hn : h.Within n) (hb : 1 ≤ b)
    (hs : Step b h h') : h'.Within (n + b) := by
  intro k
  cases hs with
  | copy ht hl =>
    have hcopies : k * h'.largest ≤ k * h.largest := Nat.mul_le_mul_left k hl
    have hnext := hn (k + 1)
    rw [Nat.succ_mul] at hnext
    have hmono : growth (n + (k + 1) + 1) ≤ growth (n + b + k + 1) := growth_mono (by omega)
    omega
  | combine ht hl =>
    -- the new value is all there is, and it is copied `k` times
    have hcopies : k * h'.largest ≤ k * (h.total + 1) := Nat.mul_le_mul_left k hl
    have h0 := hn.total
    have hall : (k + 1) * (h.total + 2) ≤ (k + 1) * growth (n + 1) := Nat.mul_le_mul_left _ h0
    have hmul := growth_mul k (n + 1)
    have hmono : growth (n + 1 + (k + 1)) ≤ growth (n + b + k + 1) := growth_mono (by omega)
    rcases Nat.eq_zero_or_pos k with rfl | hk
    · have hstep := growth_succ (n + 1)
      have hmono' : growth (n + 1 + 1) ≤ growth (n + b + 0 + 1) := growth_mono (by omega)
      omega
    · have hsplit : (k + 1) * (h.total + 2) = h.total + k * (h.total + 1) + k + 2 := by ring
      omega
  | enter w hw ht hl =>
    rcases Nat.le_total w h.largest with hle | hle
    · have hcopies : k * h'.largest ≤ k * h.largest :=
        Nat.mul_le_mul_left k (hl.trans (by omega))
      have hnext := hn k
      have hgrow := growth_add (n + k + 1) b
      have heq : n + k + 1 + b = n + b + k + 1 := by omega
      rw [heq] at hgrow
      omega
    · have hcopies : k * h'.largest ≤ k * w := Nat.mul_le_mul_left k (hl.trans (by omega))
      have hpaid : k * w ≤ k * b := Nat.mul_le_mul_left k hw
      have h0 := hn.total
      have henter := growth_enter (n + 1) b hb k
      have heq : n + 1 + k + b = n + b + k + 1 := by omega
      rw [heq, Nat.succ_mul] at henter
      omega

/-! ## 3. Stores as lists of sizes -/

def of (sizes : List Nat) : Holding := ⟨sizes.sum, sizes.foldr max 0⟩

theorem le_largest {sizes : List Nat} {x : Nat} (h : x ∈ sizes) : x ≤ (of sizes).largest := by
  induction sizes with
  | nil => cases h
  | cons y sizes ih =>
    show x ≤ max y (of sizes).largest
    rcases List.mem_cons.mp h with rfl | hx
    · exact Nat.le_max_left _ _
    · exact (ih hx).trans (Nat.le_max_right _ _)

theorem largest_le {sizes : List Nat} {bound : Nat} (h : ∀ x ∈ sizes, x ≤ bound) :
    (of sizes).largest ≤ bound := by
  induction sizes with
  | nil => exact Nat.zero_le _
  | cons y sizes ih =>
    obtain ⟨hy, hrest⟩ := List.forall_mem_cons.mp h
    exact Nat.max_le.mpr ⟨hy, ih hrest⟩

theorem largest_le_total (sizes : List Nat) : (of sizes).largest ≤ (of sizes).total :=
  largest_le fun _ hx => List.le_sum_of_mem hx

variable {b : Nat} {sizes sizes' : List Nat}

theorem Step.copied {x : Nat} (hx : x ∈ sizes) (hsum : sizes'.sum ≤ sizes.sum + x)
    (hmem : ∀ y ∈ sizes', y ∈ sizes) : Step b (of sizes) (of sizes') :=
  .copy (hsum.trans (Nat.add_le_add_left (le_largest hx) _))
    (largest_le fun y hy => le_largest (hmem y hy))

theorem Step.combined (hsum : sizes'.sum ≤ sizes.sum + 1) : Step b (of sizes) (of sizes') :=
  .combine hsum ((largest_le_total sizes').trans hsum)

theorem Step.entered {w : Nat} (hw : w ≤ b) : Step b (of sizes) (of (w :: sizes)) :=
  .enter w hw (by simp only [of, List.sum_cons]; omega) (Nat.max_comm _ _).le

end Holding

end ModalRs.Lib
