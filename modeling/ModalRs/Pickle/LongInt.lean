/-
  File:      ModalRs/Pickle/LongInt.lean
  Subject:   LONG1 of any width: which numbers come out of it.

  Fewer than eight bytes are extended by their sign; of more, the low eight are taken.

  * `leInt_fill`: extending by the sign keeps the number.
  * `bytesToLong_toInt`: what comes out is the number modulo 2^64.
  * `pickleDeserialize_long1`: it is what the decoder returns.
  * `long1_exact`: when the number is decoded, or else refused.
-/
import ModalRs.Pickle.RoundTrip

namespace ModalRs.Pickle

open ModalRs.Lib ModalRs.Rust

/-! ## 1. The number of the bytes -/

/-- The sign bit of a byte. -/
theorem signBit_eq_zero (b : UInt8) : b &&& 0x80 = 0 ↔ b.toNat < 128 := by
  have hall : ∀ n : Fin 256, n.val &&& 128 = 0 ↔ n.val < 128 := by decide +kernel
  have hmask : (0x80 : UInt8).toNat = 128 := rfl
  have hzero : (0 : UInt8).toNat = 0 := rfl
  rw [← UInt8.toNat_inj, UInt8.toNat_and, hmask, hzero]
  exact hall ⟨b.toNat, b.toNat_lt⟩

theorem signFill_small {last : UInt8} (h : last.toNat < 128) : signFill last = 0 := by
  rw [signFill, if_neg (not_not.mpr ((signBit_eq_zero last).mpr h))]

theorem signFill_large {last : UInt8} (h : 128 ≤ last.toNat) : signFill last = 0xFF := by
  have hsign : last &&& 0x80 ≠ 0 := fun hzero =>
    absurd ((signBit_eq_zero last).mp hzero) (Nat.not_lt.mpr h)
  rw [signFill, if_pos hsign]

/-- One more byte of the sign keeps the number. -/
theorem leInt_fill_one (bs : List UInt8) (last : UInt8) :
    leInt (bs ++ [last] ++ [signFill last]) = leInt (bs ++ [last]) := by
  have hlength : (bs ++ [last]).length = bs.length + 1 := List.length_append
  by_cases h : last.toNat < 128
  · have hzero : (0 : UInt8).toNat < 128 := by decide
    rw [signFill_small h, leInt_of_small _ hzero, leInt_of_small bs h, leNat_append (bs ++ [last])]
    simp [leNat]
  · have hlarge : 128 ≤ last.toNat := Nat.le_of_not_lt h
    have hff : 128 ≤ (0xFF : UInt8).toNat := by decide
    rw [signFill_large hlarge, leInt_of_large _ hff, leInt_of_large bs hlarge,
      leNat_append (bs ++ [last]), hlength]
    have hbyte : leNat [0xFF] = 255 := rfl
    rw [hbyte]
    push_cast
    ring

theorem signFill_signFill (last : UInt8) : signFill (signFill last) = signFill last := by
  by_cases h : last.toNat < 128
  · rw [signFill_small h]
    rfl
  · rw [signFill_large (Nat.le_of_not_lt h)]
    rfl

/-- **Extending by the sign keeps the number.** -/
theorem leInt_fill (bs : List UInt8) (last : UInt8) (n : Nat) :
    leInt (bs ++ [last] ++ List.replicate n (signFill last)) = leInt (bs ++ [last]) := by
  induction n generalizing bs last with
  | zero => rw [List.replicate_zero, List.append_nil]
  | succ n ih =>
    have hmore := ih (bs ++ [last]) (signFill last)
    rw [signFill_signFill, leInt_fill_one] at hmore
    have hsplit : bs ++ [last] ++ List.replicate (n + 1) (signFill last) =
        bs ++ [last] ++ [signFill last] ++ List.replicate n (signFill last) := by
      rw [List.append_assoc _ [signFill last], List.singleton_append, ← List.replicate_succ]
    rw [hsplit]
    exact hmore

/-- The number of eight bytes is the `i64` that is read from them. -/
theorem i64OfLe_toInt {bs : List UInt8} (h : bs.length = 8) : (i64OfLe bs).toInt = leInt bs := by
  have hread : (i64OfLe bs).toInt = (leNat bs : Int).bmod (2 ^ 64) := BitVec.toInt_ofNat ..
  have hpow : 2 ^ 64 = 256 ^ 8 := by norm_num
  rw [hread, leInt, h, hpow]

/-- **What comes out of the bytes** is their number modulo 2^64. -/
theorem bytesToLong_toInt (bytes : List UInt8) :
    ∃ v, bytesToLong bytes = .ok v ∧ v.toInt = (leInt bytes).bmod (2 ^ 64) := by
  have hpow : 2 ^ 64 = 256 ^ 8 := by norm_num
  rcases List.eq_nil_or_concat bytes with rfl | ⟨bs, last, rfl⟩
  · exact ⟨0, rfl, rfl⟩
  · rw [List.concat_eq_append]
    refine ⟨_, bytesToLong_append bs last, ?_⟩
    rcases Nat.lt_or_ge (bs ++ [last]).length 8 with hshort | hlong
    · have hlength : ((bs ++ [last]).take 8 ++
          List.replicate (8 - (bs ++ [last]).length) (signFill last)).length = 8 := by
        rw [List.length_append, List.length_replicate, List.length_take]
        omega
      have hexact := i64OfLe_toInt hlength
      rw [List.take_of_length_le (Nat.le_of_lt hshort), leInt_fill] at hexact
      rw [List.take_of_length_le (Nat.le_of_lt hshort)]
      -- a number that is an `i64` is the same modulo 2^64
      have hlow := Int64.le_toInt (i64OfLe ((bs ++ [last]) ++
        List.replicate (8 - (bs ++ [last]).length) (signFill last)))
      have hhigh := Int64.toInt_lt (i64OfLe ((bs ++ [last]) ++
        List.replicate (8 - (bs ++ [last]).length) (signFill last)))
      rw [hexact] at hlow hhigh ⊢
      exact (Int.bmod_eq_of_le_mul_two (by omega) (by omega)).symm
    · have hzero : 8 - (bs ++ [last]).length = 0 := Nat.sub_eq_zero_of_le hlong
      have hlength : ((bs ++ [last]).take 8).length = 8 := List.length_take_of_le hlong
      rw [hzero, List.replicate_zero, List.append_nil, i64OfLe_toInt hlength, leInt_take hlong,
        hpow]

/-! ## 2. Decoding -/

/-- The stream LONG1, length, bytes, STOP. -/
def long1Stream (bytes : List UInt8) : List UInt8 :=
  Opcode.long1.byte :: UInt8.ofNat bytes.length :: bytes ++ [Opcode.stop.byte]

/-- A number that is an `i64`. -/
def FitsI64 (v : Int) : Prop := -2 ^ 63 ≤ v ∧ v < 2 ^ 63

/-- **What the decoder returns** is the number modulo 2^64. -/
theorem pickleDeserialize_long1 {bytes : List UInt8} (h : bytes.length ≤ 255) :
    ∃ v : Int64, pickleDeserialize (long1Stream bytes) = .ok (.int v) ∧
      v.toInt = (leInt bytes).bmod (2 ^ 64) := by
  obtain ⟨v, hv, hvalue⟩ := bytesToLong_toInt bytes
  have hruns := Runs.data (long1_reads hv (Nat.lt_succ_of_le h)) []
  have hsize : (long1Stream bytes).length < usizeSize := by
    simp [long1Stream, usizeSize]
    omega
  have hreturns : ReturnsAt _ _ _ := returnsAt_of_runs hruns hsize
  exact ⟨v, hreturns.decode, hvalue⟩

/-- The number is decoded if it fits, and refused if it does not. -/
structure Long1Exact (bytes : List UInt8) : Prop where
  fits : FitsI64 (leInt bytes) →
    ∃ v : Int64, pickleDeserialize (long1Stream bytes) = .ok (.int v) ∧ v.toInt = leInt bytes
  refused : ¬ FitsI64 (leInt bytes) →
    ∃ e, pickleDeserialize (long1Stream bytes) = .error (.err e)

/-- **When LONG1 is decoded exactly, or refused**: exactly when its number fits. -/
theorem long1_exact {bytes : List UInt8} (h : bytes.length ≤ 255) :
    Long1Exact bytes ↔ FitsI64 (leInt bytes) := by
  obtain ⟨v, hdecode, hvalue⟩ := pickleDeserialize_long1 h
  constructor
  · intro hexact
    by_contra hno
    obtain ⟨e, he⟩ := hexact.refused hno
    rw [hdecode] at he
    cases he
  · intro hfits
    refine ⟨fun _ => ⟨v, hdecode, ?_⟩, fun hno => absurd hfits hno⟩
    obtain ⟨hlow, hhigh⟩ := hfits
    rw [hvalue]
    exact Int.bmod_eq_of_le_mul_two (by omega) (by omega)

/-- The number 2^64, in nine bytes. -/
def twoPow64 : List UInt8 := [0, 0, 0, 0, 0, 0, 0, 0, 1]

/-- **2^64 is decoded as 0.** -/
theorem long1_wraps :
    leInt twoPow64 = 2 ^ 64 ∧ pickleDeserialize (long1Stream twoPow64) = .ok (.int 0) ∧
      ¬ Long1Exact twoPow64 := by
  have hvalue : leInt twoPow64 = 2 ^ 64 := by decide
  have hdecode : pickleDeserialize (long1Stream twoPow64) = .ok (.int 0) := by
    have hlength : twoPow64.length ≤ 255 := by decide
    obtain ⟨v, hv, hmod⟩ := pickleDeserialize_long1 hlength
    have hzero : v = 0 := by
      rw [← Int64.toInt_inj, hmod, hvalue]
      decide
    rw [hv, hzero]
  refine ⟨hvalue, hdecode, fun hexact => ?_⟩
  have hno : ¬ FitsI64 (leInt twoPow64) := by
    rw [hvalue, FitsI64]
    omega
  obtain ⟨e, he⟩ := hexact.refused hno
  rw [hdecode] at he
  cases he

/-- The number -2, in ten bytes. -/
theorem long1_exact_redundant :
    ∃ v : Int64, pickleDeserialize (long1Stream (0xFE :: List.replicate 9 0xFF)) = .ok (.int v) ∧
      v.toInt = -2 := by
  have hvalue : leInt (0xFE :: List.replicate 9 0xFF) = -2 := by decide
  have hfits : FitsI64 (leInt (0xFE :: List.replicate 9 0xFF)) := by
    rw [hvalue, FitsI64]
    omega
  have hlength : ((0xFE : UInt8) :: List.replicate 9 0xFF).length ≤ 255 := by decide
  rw [← hvalue]
  exact ((long1_exact hlength).mpr hfits).fits hfits

end ModalRs.Pickle
