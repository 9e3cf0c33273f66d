/-
  File:      ModalRs/Lib/Backoff.lean
  Subject:   Delays that grow by a factor from try to try, up to a cap.

  * `delayAt base factor cap k`: the delay of try `k`.
  * `delayAt_succ`: the next delay is the one before, times the factor, capped.
  * `delayAt_mul_le`: no product on the way is more than the cap times the factor.
-/
import Mathlib.Algebra.Order.Ring.Defs
import Mathlib.Algebra.Order.Ring.Unbundled.Basic

namespace ModalRs.Lib

variable {α : Type} [Semiring α] [LinearOrder α] {base factor cap : α}

/-- The delay of try `k`, in closed form. -/
def delayAt (base factor cap : α) (k : Nat) : α := min (base * factor ^ k) cap

theorem delayAt_le_cap (k : Nat) : delayAt base factor cap k ≤ cap := min_le_right _ _

theorem delayAt_zero (h : base ≤ cap) : delayAt base factor cap 0 = base := by
  rw [delayAt, pow_zero, mul_one, min_eq_left h]

variable [IsOrderedRing α]

/-- **The next delay**: capping on the way changes nothing, since the factor is at least one. -/
theorem delayAt_succ (hcap : 0 ≤ cap) (hfactor : 1 ≤ factor) (k : Nat) :
    min (delayAt base factor cap k * factor) cap = delayAt base factor cap (k + 1) := by
  have hnonneg : 0 ≤ factor := zero_le_one.trans hfactor
  have hgrows : cap ≤ cap * factor := le_mul_of_one_le_right hcap hfactor
  calc min (delayAt base factor cap k * factor) cap
      = min (min (base * factor ^ k * factor) (cap * factor)) cap := by
        rw [delayAt, min_mul_of_nonneg _ _ hnonneg]
    _ = min (base * factor ^ (k + 1)) (min (cap * factor) cap) := by
        rw [min_assoc, mul_assoc, pow_succ]
    _ = delayAt base factor cap (k + 1) := by rw [min_eq_right hgrows, delayAt]

theorem delayAt_mul_le (hfactor : 0 ≤ factor) (k : Nat) :
    delayAt base factor cap k * factor ≤ cap * factor :=
  mul_le_mul_of_nonneg_right (delayAt_le_cap k) hfactor

end ModalRs.Lib
