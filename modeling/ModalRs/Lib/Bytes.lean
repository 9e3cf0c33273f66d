/-
  File:      ModalRs/Lib/Bytes.lean
  Subject:   Little-endian byte strings and the numbers they denote.

  * `leBytes w n`: the `w` low bytes of `n`, least significant first;
    `leNat bs`: the number a byte string denotes.
  * `leNat_leBytes`: the number is what it was, up to the width.
  * `leInt bs`: the two's-complement number of any width; `leInt_take`.
  * `leNat_inj`, `leInt_inj`: among strings of one length, the number tells the string.
  * `i64ToLe`, `i64OfLe`: the same for two's-complement 64-bit integers
    (`i64OfLe_i64ToLe`), and `i32OfLe` for 32-bit ones.
-/
import Mathlib.Data.Nat.ModEq
import Mathlib.Tactic.Ring
import Mathlib.Tactic.NormNum

namespace ModalRs.Lib

/-! ## 1. Unsigned numbers -/

/-- The `w` low bytes of `n`, least significant first. -/
def leBytes : Nat → Nat → List UInt8
  | 0, _ => []
  | w + 1, n => UInt8.ofNat n :: leBytes w (n / 256)

/-- The number a byte string denotes, least significant byte first. -/
def leNat : List UInt8 → Nat
  | [] => 0
  | b :: bs => b.toNat + 256 * leNat bs

@[simp] theorem leBytes_zero (n : Nat) : leBytes 0 n = [] := rfl

@[simp] theorem leNat_nil : leNat [] = 0 := rfl

@[simp] theorem leBytes_length (w n : Nat) : (leBytes w n).length = w := by
  induction w generalizing n with
  | zero => rfl
  | succ w ih => simp [leBytes, ih]

/-- Reading back what `w` bytes can hold of `n`. -/
theorem leNat_leBytes (w n : Nat) : leNat (leBytes w n) = n % 256 ^ w := by
  induction w generalizing n with
  | zero => simp [leBytes, Nat.mod_one]
  | succ w ih =>
    have hlow : n % 2 ^ 8 = n % 256 := rfl
    simp only [leBytes, leNat, ih, UInt8.toNat_ofNat', hlow]
    rw [pow_succ', Nat.mod_mul]

theorem leNat_leBytes_of_lt {w n : Nat} (h : n < 256 ^ w) : leNat (leBytes w n) = n := by
  rw [leNat_leBytes, Nat.mod_eq_of_lt h]

theorem leNat_append (as bs : List UInt8) :
    leNat (as ++ bs) = leNat as + 256 ^ as.length * leNat bs := by
  induction as with
  | nil => simp [leNat]
  | cons a as ih =>
    rw [List.cons_append, leNat, leNat, ih, List.length_cons, pow_succ']
    ring

theorem leNat_lt (bs : List UInt8) : leNat bs < 256 ^ bs.length := by
  induction bs with
  | nil => simp [leNat]
  | cons b bs ih =>
    have hb : b.toNat < 256 := b.toNat_lt
    rw [leNat, List.length_cons, pow_succ']
    omega

/-- Strings of one length that denote one number are equal. -/
theorem leNat_inj {as bs : List UInt8} (hlength : as.length = bs.length)
    (hvalue : leNat as = leNat bs) : as = bs := by
  induction as generalizing bs with
  | nil => exact (List.length_eq_zero_iff.mp hlength.symm).symm
  | cons a as ih =>
    cases bs with
    | nil => cases hlength
    | cons b bs =>
      have ha : a.toNat < 256 := a.toNat_lt
      have hb : b.toNat < 256 := b.toNat_lt
      rw [leNat, leNat] at hvalue
      have hbyte : a = b := UInt8.toNat_inj.mp (by omega)
      have htail : as = bs := ih (Nat.succ.inj hlength) (by omega)
      rw [hbyte, htail]

/-! ## 2. Two's-complement integers -/

/-- The two's-complement number a byte string denotes, least significant byte first. -/
def leInt (bs : List UInt8) : Int := (leNat bs : Int).bmod (256 ^ bs.length)

/-- A last byte without the sign bit leaves the number as it is. -/
theorem leInt_of_small (bs : List UInt8) {last : UInt8} (h : last.toNat < 128) :
    leInt (bs ++ [last]) = leNat (bs ++ [last]) := by
  have hlow := leNat_lt bs
  have hvalue : leNat (bs ++ [last]) = leNat bs + 256 ^ bs.length * last.toNat := by
    rw [leNat_append, leNat, leNat_nil, Nat.mul_zero, Nat.add_zero]
  have hmul : 256 ^ bs.length * last.toNat ≤ 256 ^ bs.length * 127 :=
    Nat.mul_le_mul_left _ (Nat.le_of_lt_succ h)
  have hpow : 256 ^ (bs ++ [last]).length = 256 ^ bs.length * 256 := by
    rw [List.length_append, List.length_singleton, pow_succ]
  rw [leInt, hpow]
  exact Int.bmod_eq_of_le_mul_two (by omega) (by omega)

/-- A last byte with the sign bit takes the full width off. -/
theorem leInt_of_large (bs : List UInt8) {last : UInt8} (h : 128 ≤ last.toNat) :
    leInt (bs ++ [last]) = leNat (bs ++ [last]) - 256 ^ (bs.length + 1) := by
  have hlow := leNat_lt (bs ++ [last])
  have hvalue : leNat (bs ++ [last]) = leNat bs + 256 ^ bs.length * last.toNat := by
    rw [leNat_append, leNat, leNat_nil, Nat.mul_zero, Nat.add_zero]
  have hmul : 256 ^ bs.length * 128 ≤ 256 ^ bs.length * last.toNat := Nat.mul_le_mul_left _ h
  have hpow : 256 ^ (bs ++ [last]).length = 256 ^ bs.length * 256 := by
    rw [List.length_append, List.length_singleton, pow_succ]
  have hcast : ((256 : Int) ^ (bs.length + 1)) = ((256 ^ bs.length * 256 : Nat) : Int) := by
    rw [← pow_succ]
    norm_cast
  rw [hpow] at hlow
  rw [leInt, hpow, hcast, ← Int.sub_bmod_right]
  exact Int.bmod_eq_of_le_mul_two (by omega) (by omega)

/-- Strings of one length that denote one number are equal. -/
theorem leInt_inj {as bs : List UInt8} (hlength : as.length = bs.length)
    (hvalue : leInt as = leInt bs) : as = bs := by
  apply leNat_inj hlength
  have hlow := leNat_lt as
  have hhigh := leNat_lt bs
  rw [hlength] at hlow
  rw [leInt, leInt, hlength] at hvalue
  have hmod := congrArg (· % ((256 ^ bs.length : Nat) : Int)) hvalue
  simp only [Int.bmod_emod] at hmod
  rw [← Int.natCast_emod, ← Int.natCast_emod, Nat.mod_eq_of_lt hlow, Nat.mod_eq_of_lt hhigh] at hmod
  exact Int.ofNat_inj.mp hmod

/-- The last byte tells the sign. -/
theorem leInt_nonneg_iff (bs : List UInt8) (last : UInt8) :
    0 ≤ leInt (bs ++ [last]) ↔ last.toNat < 128 := by
  constructor
  · intro h
    by_contra hno
    have hlow := leNat_lt (bs ++ [last])
    have hcast : ((256 : Int) ^ (bs.length + 1)) = ((256 ^ (bs ++ [last]).length : Nat) : Int) := by
      rw [List.length_append, List.length_singleton]
      norm_cast
    rw [leInt_of_large bs (Nat.le_of_not_lt hno), hcast] at h
    omega
  · intro h
    rw [leInt_of_small bs h]
    exact Int.natCast_nonneg _

/-- **The low bytes keep the number modulo their width.** -/
theorem leInt_take {n : Nat} {bs : List UInt8} (h : n ≤ bs.length) :
    leInt (bs.take n) = (leInt bs).bmod (256 ^ n) := by
  have hlength : (bs.take n).length = n := List.length_take_of_le h
  have hsplit : leNat bs = leNat (bs.take n) + 256 ^ n * leNat (bs.drop n) := by
    have happend := leNat_append (bs.take n) (bs.drop n)
    rw [List.take_append_drop, hlength] at happend
    exact happend
  have hdvd : 256 ^ n ∣ 256 ^ bs.length := Nat.pow_dvd_pow 256 h
  calc leInt (bs.take n) = (leNat (bs.take n) : Int).bmod (256 ^ n) := by rw [leInt, hlength]
    _ = ((leNat (bs.take n) : Int) + (256 ^ n : Nat) * (leNat (bs.drop n) : Int)).bmod (256 ^ n) :=
        (Int.add_mul_bmod_self_left _ _ _).symm
    _ = (leNat bs : Int).bmod (256 ^ n) := by
        rw [hsplit]
        push_cast
        rfl
    _ = (leInt bs).bmod (256 ^ n) := (Int.bmod_bmod_of_dvd hdvd).symm

/-- `i64::to_le_bytes`. -/
def i64ToLe (v : Int64) : List UInt8 := leBytes 8 v.toBitVec.toNat

/-- `i64::from_le_bytes`. -/
def i64OfLe (bs : List UInt8) : Int64 := .ofBitVec (.ofNat 64 (leNat bs))

/-- `i32::to_le_bytes`. -/
def i32ToLe (v : Int32) : List UInt8 := leBytes 4 v.toBitVec.toNat

/-- `i32::from_le_bytes`. -/
def i32OfLe (bs : List UInt8) : Int32 := .ofBitVec (.ofNat 32 (leNat bs))

@[simp] theorem i64ToLe_length (v : Int64) : (i64ToLe v).length = 8 := leBytes_length _ _

@[simp] theorem i32ToLe_length (v : Int32) : (i32ToLe v).length = 4 := leBytes_length _ _

theorem i64OfLe_i64ToLe (v : Int64) : i64OfLe (i64ToLe v) = v := by
  have h : v.toBitVec.toNat < 256 ^ 8 := v.toBitVec.isLt
  simp only [i64OfLe, i64ToLe, leNat_leBytes_of_lt h, BitVec.ofNat_toNat, BitVec.setWidth_eq]
  rfl

theorem i32OfLe_i32ToLe (v : Int32) : i32OfLe (i32ToLe v) = v := by
  have h : v.toBitVec.toNat < 256 ^ 4 := v.toBitVec.isLt
  simp only [i32OfLe, i32ToLe, leNat_leBytes_of_lt h, BitVec.ofNat_toNat, BitVec.setWidth_eq]
  rfl

end ModalRs.Lib
