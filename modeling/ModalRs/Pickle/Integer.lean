/-
  File:      ModalRs/Pickle/Integer.lean
  Subject:   Integers come back: the one-, two- and four-byte opcodes and the LONG bytes.

  * `ofNat_toUInt8`, `ofNat_toUInt16`, `toInt64_toInt32`: a number within the
    range of a short opcode survives the cast the encoder makes.
  * `trimLen_spec`: what the trimming loop leaves out is all `fill`.
  * `longToBytes_eq`: the LONG bytes of a number, with one equation for both signs.
  * `bytesToLong_longToBytes`: sign extension undoes the trimming.
-/
import ModalRs.Pickle.Decode
import ModalRs.Pickle.Encode

namespace ModalRs.Pickle

open ModalRs.Lib ModalRs.Rust

/-! ## 1. The short forms -/

theorem ofNat_toUInt64 (v : Int64) : Int64.ofNat v.toUInt64.toNat = v := by
  show Int64.ofBitVec (BitVec.ofNat 64 v.toBitVec.toNat) = v
  rw [BitVec.ofNat_toNat, BitVec.setWidth_eq]
  rfl

/-- A number that is not negative is the number its bits denote. -/
theorem toUInt64_of_nonneg {v : Int64} (h : 0 ≤ v) : (v.toUInt64.toNat : Int) = v.toInt := by
  have h0 : (0 : Int) ≤ v.toBitVec.toInt := Int64.le_iff_toInt_le.mp h
  have hlt := v.toBitVec.isLt
  show (v.toBitVec.toNat : Int) = v.toBitVec.toInt
  rw [BitVec.toInt_eq_toNat_cond] at h0 ⊢
  split at h0 <;> split <;> omega

theorem ofNat_toUInt8 {v : Int64} (h0 : 0 ≤ v) (h : v ≤ 0xFF) :
    Int64.ofNat v.toUInt64.toUInt8.toNat = v := by
  have hn := toUInt64_of_nonneg h0
  have hle := Int64.le_iff_toInt_le.mp h
  have hmax : (0xFF : Int64).toInt = 0xFF := rfl
  rw [UInt64.toNat_toUInt8, Nat.mod_eq_of_lt (by omega), ofNat_toUInt64]

theorem ofNat_toUInt16 {v : Int64} (h0 : 0 ≤ v) (h : v ≤ 0xFFFF) :
    Int64.ofNat v.toUInt64.toUInt16.toNat = v := by
  have hn := toUInt64_of_nonneg h0
  have hle := Int64.le_iff_toInt_le.mp h
  have hmax : (0xFFFF : Int64).toInt = 0xFFFF := rfl
  rw [UInt64.toNat_toUInt16, Nat.mod_eq_of_lt (by omega), ofNat_toUInt64]

theorem toInt64_toInt32 {v : Int64} (h0 : -0x80000000 ≤ v) (h : v ≤ 0x7FFFFFFF) :
    v.toInt32.toInt64 = v := by
  have hge := Int64.le_iff_toInt_le.mp h0
  have hle := Int64.le_iff_toInt_le.mp h
  have hmin : (-0x80000000 : Int64).toInt = -0x80000000 := rfl
  have hmax : (0x7FFFFFFF : Int64).toInt = 0x7FFFFFFF := rfl
  apply Int64.toInt_inj.mp
  rw [Int32.toInt_toInt64, Int64.toInt_toInt32]
  rw [Int.bmod_eq_of_le] <;> omega

/-! ## 2. The LONG bytes -/

/-- **What the trimming loop leaves out is all `fill`**, and one byte stays. -/
theorem trimLen_spec (raw : List UInt8) (fill : UInt8) :
    ∀ n, 0 < n → n ≤ raw.length → 0 < trimLen raw fill n ∧ trimLen raw fill n ≤ n ∧
      raw.take n = raw.take (trimLen raw fill n) ++ List.replicate (n - trimLen raw fill n) fill
  | 0, h, _ => absurd h (Nat.lt_irrefl 0)
  | 1, _, _ => ⟨Nat.one_pos, Nat.le_refl 1, by simp [trimLen]⟩
  | n + 2, _, hn => by
      by_cases hfill : raw[n + 1]? = some fill
      · obtain ⟨hpos, hle, heq⟩ := trimLen_spec raw fill (n + 1) (Nat.succ_pos n) (by omega)
        rw [trimLen, if_pos hfill]
        refine ⟨hpos, by omega, ?_⟩
        have hlast : raw.take (n + 2) = raw.take (n + 1) ++ [fill] := by
          rw [List.take_add_one, hfill]
          rfl
        have hrep : n + 2 - trimLen raw fill (n + 1) = n + 1 - trimLen raw fill (n + 1) + 1 := by
          omega
        rw [hlast, heq, hrep, List.replicate_succ', List.append_assoc]
      · rw [trimLen, if_neg hfill]
        exact ⟨Nat.succ_pos _, Nat.le_refl _, by simp⟩

/-- The byte that extends the sign of a last byte. -/
def signFill (last : UInt8) : UInt8 := if last &&& 0x80 ≠ 0 then 0xFF else 0x00

/-- Sign extension to eight bytes. -/
theorem bytesToLong_append (bs : List UInt8) (last : UInt8) :
    bytesToLong (bs ++ [last]) = .ok (i64OfLe
      ((bs ++ [last]).take 8 ++ List.replicate (8 - (bs ++ [last]).length) (signFill last))) := by
  have hne : (bs ++ [last]).isEmpty = false := by simp
  have hlast : (index (bs ++ [last]) ((bs ++ [last]).length - 1) : Res ModalError UInt8) =
      .ok last := by
    simp [index]
  have hlow : (slice (bs ++ [last]) 0 (min (bs ++ [last]).length 8) : Res ModalError _) =
      .ok ((bs ++ [last]).take 8) := by
    rw [slice_of_le (Nat.zero_le _) (Nat.min_le_left _ _), List.drop_zero, Nat.sub_zero,
      Nat.min_comm, ← List.take_eq_take_min]
  have hlen : 8 - min (bs ++ [last]).length 8 = 8 - (bs ++ [last]).length := by omega
  unfold bytesToLong
  rw [hne, hlast, if_neg Bool.false_ne_true]
  simp only [bind, Except.bind]
  rw [hlow, hlen]
  rfl

/-- Bytes that sign extension takes back to `raw`, whatever the encoder decides to append. -/
theorem bytesToLong_trimmed {raw low ext : List UInt8} {fill : UInt8} (hlen : raw.length = 8)
    (hlow : 0 < low.length) (hraw : raw = low ++ List.replicate (8 - low.length) fill)
    (hfill : signFill fill = fill)
    (hext : ext = [fill] ∨ ext = [] ∧ signFill (low.getLastD 0) = fill) :
    bytesToLong (low ++ ext) = .ok (i64OfLe raw) := by
  have hle : low.length ≤ 8 := by
    have h := congrArg List.length hraw
    rw [List.length_append, List.length_replicate] at h
    omega
  rcases hext with rfl | ⟨rfl, hlast⟩
  · rw [bytesToLong_append, hfill]
    congr 2
    -- the appended byte is the first of the bytes left out, if any was
    rcases Nat.lt_or_ge low.length 8 with hlt | hge
    · have hrep : 8 - low.length = (8 - (low ++ [fill]).length) + 1 := by simp; omega
      rw [List.take_of_length_le (by simp; omega), List.append_assoc, hraw, hrep,
        List.replicate_succ]
      rfl
    · have h8 : low.length = 8 := by omega
      rw [hraw, h8, List.take_append_of_le_length hge, List.take_of_length_le hle]
      simp
      omega
  · obtain ⟨bs, last, rfl⟩ : ∃ bs last, low = bs ++ [last] :=
      ⟨low.dropLast, low.getLast (List.length_pos_iff.mp hlow),
        (List.dropLast_append_getLast _).symm⟩
    rw [List.getLastD_concat] at hlast
    rw [List.append_nil, bytesToLong_append, hlast, List.take_of_length_le hle, ← hraw]

theorem getLastD_take {raw : List UInt8} {k : Nat} (hpos : 0 < k) (hle : k ≤ raw.length) :
    (raw.take k).getLastD 0 = raw.getD (k - 1) 0 := by
  rw [List.getLastD_eq_getLast?, List.getLast?_eq_getElem?, List.length_take_of_le hle,
    List.getElem?_take_of_lt (by omega), List.getD_eq_getElem?_getD]

/-- The byte that extends the sign of a number. -/
def extension (v : Int64) : UInt8 := if 0 ≤ v then 0 else 0xFF

/-- The bytes of a number that the trimming loop leaves. -/
def trimmedBytes (v : Int64) : List UInt8 :=
  (i64ToLe v).take (trimLen (i64ToLe v) (extension v) 8)

theorem signFill_extension (v : Int64) : signFill (extension v) = extension v := by
  by_cases hsign : 0 ≤ v
  · rw [extension, if_pos hsign]
    decide
  · rw [extension, if_neg hsign]
    decide

theorem trimmedBytes_length (v : Int64) :
    (trimmedBytes v).length = trimLen (i64ToLe v) (extension v) 8 := by
  have hlen := i64ToLe_length v
  have hle := (trimLen_spec (i64ToLe v) (extension v) 8 (by decide) (by omega)).2.1
  exact List.length_take_of_le (by omega)

/-- One byte stays, and only bytes of the sign are left out. -/
theorem trimmedBytes_spec (v : Int64) :
    0 < (trimmedBytes v).length ∧ (trimmedBytes v).length ≤ 8 ∧ i64ToLe v =
      trimmedBytes v ++ List.replicate (8 - (trimmedBytes v).length) (extension v) := by
  have hlen := i64ToLe_length v
  obtain ⟨hpos, hle, hraw⟩ := trimLen_spec (i64ToLe v) (extension v) 8 (by decide) (by omega)
  rw [List.take_of_length_le (by omega)] at hraw
  rw [trimmedBytes_length]
  exact ⟨hpos, hle, hraw⟩

/-- The last byte that is left is the one the loop stopped at. -/
theorem trimmedBytes_last (v : Int64) :
    (trimmedBytes v).getLastD 0 =
      (i64ToLe v).getD (trimLen (i64ToLe v) (extension v) 8 - 1) 0 := by
  have hlen := i64ToLe_length v
  obtain ⟨hpos, hle, -⟩ := trimLen_spec (i64ToLe v) (extension v) 8 (by decide) (by omega)
  exact getLastD_take hpos (by omega)

/-- **Both signs at once**: a byte of the sign is appended when the last one left does not
    show it. -/
theorem longToBytes_eq {v : Int64} (hv : v ≠ 0) :
    longToBytes v = if signFill ((trimmedBytes v).getLastD 0) = extension v then trimmedBytes v
      else trimmedBytes v ++ [extension v] := by
  rw [trimmedBytes_last, signFill, trimmedBytes, longToBytes, if_neg hv]
  by_cases hsign : 0 ≤ v
  · have hext : extension v = 0 := if_pos hsign
    simp only [hext, if_pos hsign]
    by_cases hbit : (i64ToLe v).getD (trimLen (i64ToLe v) 0 8 - 1) 0 &&& 0x80 ≠ 0
    · simp only [if_pos hbit]
      rfl
    · simp only [if_neg hbit, if_true]
  · have hext : extension v = 0xFF := if_neg hsign
    simp only [hext, if_neg hsign]
    by_cases hbit : (i64ToLe v).getD (trimLen (i64ToLe v) 0xFF 8 - 1) 0 &&& 0x80 = 0
    · simp only [if_pos hbit, if_neg (not_not.mpr hbit)]
      rfl
    · simp only [if_neg hbit, if_pos hbit, if_true]

/-- **The LONG bytes come back**: sign extension undoes the trimming of `long_to_bytes`. -/
theorem bytesToLong_longToBytes (v : Int64) : bytesToLong (longToBytes v) = .ok v := by
  by_cases hv : v = 0
  · subst hv
    rfl
  · obtain ⟨hpos, -, hraw⟩ := trimmedBytes_spec v
    have hback : ∀ ext : List UInt8, ext = [extension v] ∨ ext = [] ∧
        signFill ((trimmedBytes v).getLastD 0) = extension v →
        bytesToLong (trimmedBytes v ++ ext) = .ok v := by
      intro ext hext
      rw [bytesToLong_trimmed (i64ToLe_length v) hpos hraw (signFill_extension v) hext,
        i64OfLe_i64ToLe]
    rw [longToBytes_eq hv]
    by_cases hshown : signFill ((trimmedBytes v).getLastD 0) = extension v
    · have h := hback [] (Or.inr ⟨rfl, hshown⟩)
      rw [List.append_nil] at h
      rw [if_pos hshown]
      exact h
    · rw [if_neg hshown]
      exact hback [extension v] (Or.inl rfl)

/-- Nine bytes at most: the length fits the one byte that LONG1 has for it. -/
theorem longToBytes_length (v : Int64) : (longToBytes v).length ≤ 9 := by
  by_cases hv : v = 0
  · subst hv
    exact Nat.zero_le 9
  · have hle := (trimmedBytes_spec v).2.1
    rw [longToBytes_eq hv]
    by_cases hshown : signFill ((trimmedBytes v).getLastD 0) = extension v
    · rw [if_pos hshown]
      omega
    · rw [if_neg hshown, List.length_append, List.length_singleton]
      omega

end ModalRs.Pickle
