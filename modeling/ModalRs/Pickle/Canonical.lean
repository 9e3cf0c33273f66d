/-
  File:      ModalRs/Pickle/Canonical.lean
  Subject:   The LONG bytes of a number are the shortest that denote it.

  * `Trimmed`: no last byte that only repeats the sign;
    `trimmed_shortest`: such bytes are the shortest of their number, and the only ones.
  * `LongForm`: what the trimming loop and the sign byte make of a number.
  * `longToBytes_canonical`: the encoding is canonical, in eight bytes at most.
-/
import ModalRs.Pickle.LongInt

namespace ModalRs.Pickle

open ModalRs.Lib ModalRs.Rust

/-! ## 1. Bytes with nothing to trim -/

/-- Nothing can be left out at the end: neither a zero that stands alone, nor a last byte that only
    repeats the sign of the byte before. -/
structure Trimmed (bs : List UInt8) : Prop where
  ne_zero : bs ≠ [0]
  ne_fill : ∀ low last, bs ≠ low ++ [last] ++ [signFill last]

/-- Zeros denote 0. -/
theorem leInt_zeros (n : Nat) : leInt (List.replicate n 0) = 0 := by
  cases n with
  | zero => rfl
  | succ n =>
    have hfill : signFill 0 = 0 := rfl
    have h := leInt_fill [] 0 n
    rw [hfill, List.nil_append, List.singleton_append, ← List.replicate_succ] at h
    rw [h]
    decide

/-- **No shorter bytes denote the same number.** Shorter ones, extended by their sign, would be
    these, and then the last byte could be left out. -/
theorem trimmed_shortest {bs cs : List UInt8} (htrimmed : Trimmed bs)
    (hvalue : leInt cs = leInt bs) : bs.length ≤ cs.length := by
  by_contra hshorter
  obtain ⟨n, hn⟩ : ∃ n, bs.length = cs.length + (n + 1) :=
    ⟨bs.length - cs.length - 1, by omega⟩
  rcases List.eq_nil_or_concat cs with rfl | ⟨low, last, rfl⟩
  · have hzeros : bs = List.replicate (n + 1) 0 := by
      apply leInt_inj
      · rw [hn, List.length_nil, List.length_replicate, Nat.zero_add]
      · rw [leInt_zeros, ← hvalue]
        rfl
    cases n with
    | zero => exact htrimmed.ne_zero hzeros
    | succ n =>
      apply htrimmed.ne_fill (List.replicate n 0) 0
      rw [hzeros, List.replicate_succ', List.replicate_succ']
      rfl
  · rw [List.concat_eq_append] at hvalue hn
    have hfilled : bs = low ++ [last] ++ List.replicate (n + 1) (signFill last) := by
      apply leInt_inj
      · rw [hn, List.length_append, List.length_append, List.length_append, List.length_replicate]
      · rw [leInt_fill, hvalue]
    cases n with
    | zero => exact htrimmed.ne_fill low last hfilled
    | succ n =>
      apply htrimmed.ne_fill (low ++ [last] ++ List.replicate n (signFill last)) (signFill last)
      rw [hfilled, signFill_signFill, List.replicate_succ', List.replicate_succ']
      simp only [List.append_assoc]

/-! ## 2. What `long_to_bytes` leaves -/

/-- The trimming loop stops at a byte that is not `fill`, or at the first. -/
theorem trimLen_stops (raw : List UInt8) (fill : UInt8) :
    ∀ n, 1 < trimLen raw fill n → raw[trimLen raw fill n - 1]? ≠ some fill
  | 0, h => absurd h (Nat.not_lt_zero 1)
  | 1, h => absurd h (Nat.lt_irrefl 1)
  | n + 2, h => by
      by_cases hfill : raw[n + 1]? = some fill
      · rw [trimLen, if_pos hfill] at h ⊢
        exact trimLen_stops raw fill (n + 1) h
      · rw [trimLen, if_neg hfill]
        exact hfill

/-- The eight bytes denote the number. -/
theorem leInt_i64ToLe (v : Int64) : leInt (i64ToLe v) = v.toInt := by
  rw [← i64OfLe_toInt (i64ToLe_length v), i64OfLe_i64ToLe]

/-- What the trimming loop leaves: the byte it stopped at is the last one, and only the first byte
    may be one of the sign there. -/
theorem trimmedBytes_split (v : Int64) :
    ∃ low last, trimmedBytes v = low ++ [last] ∧ (low ≠ [] → last ≠ extension v) := by
  obtain ⟨hpos, hle, -⟩ := trimmedBytes_spec v
  have hlen := i64ToLe_length v
  rcases List.eq_nil_or_concat (trimmedBytes v) with hnil | ⟨low, last, hsplit⟩
  · rw [hnil] at hpos
    exact absurd hpos (Nat.lt_irrefl 0)
  · rw [List.concat_eq_append] at hsplit
    refine ⟨low, last, hsplit, fun hlow heq => ?_⟩
    have hlast := trimmedBytes_last v
    rw [hsplit, List.getLastD_concat, heq] at hlast
    have hkept := trimmedBytes_length v
    rw [hsplit, List.length_append, List.length_singleton] at hkept
    have hlow_pos := List.length_pos_iff.mpr hlow
    have hindex : trimLen (i64ToLe v) (extension v) 8 - 1 < (i64ToLe v).length := by
      rw [hsplit, List.length_append, List.length_singleton] at hle
      omega
    rw [List.getD_eq_getElem?_getD, List.getElem?_eq_getElem hindex, Option.getD_some] at hlast
    apply trimLen_stops (i64ToLe v) (extension v) 8 (by omega)
    rw [List.getElem?_eq_getElem hindex, ← hlast]

/-- The shape of the result: the bytes of the number without those that repeat its sign, ending in
    a byte that shows the sign, or else in one more byte of the sign. -/
structure LongForm (v : Int64) (fill : UInt8) (low : List UInt8) (last : UInt8) (n : Nat) :
    Prop where
  sign : fill = 0 ∧ 0 ≤ v ∨ fill = 0xFF ∧ ¬ 0 ≤ v
  raw : i64ToLe v = low ++ [last] ++ List.replicate n fill
  stops : low ≠ [] → last ≠ fill
  result : signFill last = fill ∧ longToBytes v = low ++ [last] ∨
    signFill last ≠ fill ∧ longToBytes v = low ++ [last] ++ [fill]

/-- **`long_to_bytes` has this shape**, whatever the sign. -/
theorem longToBytes_form {v : Int64} (hv : v ≠ 0) :
    ∃ fill low last n, LongForm v fill low last n := by
  obtain ⟨low, last, hsplit, hstops⟩ := trimmedBytes_split v
  have hbytes := longToBytes_eq hv
  rw [hsplit, List.getLastD_concat] at hbytes
  refine ⟨extension v, low, last, 8 - (trimmedBytes v).length, ?_, ?_, hstops, ?_⟩
  · by_cases hsign : 0 ≤ v
    · exact Or.inl ⟨if_pos hsign, hsign⟩
    · exact Or.inr ⟨if_neg hsign, hsign⟩
  · rw [← hsplit]
    exact (trimmedBytes_spec v).2.2
  · by_cases hshown : signFill last = extension v
    · rw [if_pos hshown] at hbytes
      exact Or.inl ⟨hshown, hbytes⟩
    · rw [if_neg hshown] at hbytes
      exact Or.inr ⟨hshown, hbytes⟩

section Form

variable {v : Int64} {fill : UInt8} {low : List UInt8} {last : UInt8} {n : Nat}

theorem LongForm.signFill_fill (h : LongForm v fill low last n) : signFill fill = fill := by
  rcases h.sign with ⟨rfl, -⟩ | ⟨rfl, -⟩ <;> decide

/-- The highest byte shows the sign; if the byte the loop stopped at does not, others follow it. -/
theorem LongForm.pos_of_ne (h : LongForm v fill low last n) (hfill : signFill last ≠ fill) :
    0 < n := by
  by_contra hzero
  obtain rfl : n = 0 := by omega
  have hraw := h.raw
  rw [List.replicate_zero, List.append_nil] at hraw
  have hshown := leInt_nonneg_iff low last
  rw [← hraw, leInt_i64ToLe] at hshown
  rcases h.sign with ⟨rfl, hsign⟩ | ⟨rfl, hsign⟩
  · exact hfill (signFill_small (hshown.mp (Int64.le_iff_toInt_le.mp hsign)))
  · have hlarge : ¬ last.toNat < 128 := fun hsmall =>
      hsign (Int64.le_iff_toInt_le.mpr (hshown.mpr hsmall))
    exact hfill (signFill_large (Nat.le_of_not_lt hlarge))

/-- The result denotes the number. -/
theorem LongForm.value (h : LongForm v fill low last n) : leInt (longToBytes v) = v.toInt := by
  rw [← leInt_i64ToLe, h.raw]
  rcases h.result with ⟨hfill, hbytes⟩ | ⟨hfill, hbytes⟩
  · rw [hbytes, ← hfill, leInt_fill]
  · obtain ⟨m, rfl⟩ := Nat.exists_eq_succ_of_ne_zero (Nat.ne_of_gt (h.pos_of_ne hfill))
    have hextend := leInt_fill (low ++ [last]) fill m
    rw [h.signFill_fill] at hextend
    rw [hbytes, ← hextend, List.replicate_succ, List.append_assoc _ [fill], List.singleton_append]

/-- The result has no more bytes than the number. -/
theorem LongForm.length_le (h : LongForm v fill low last n) : (longToBytes v).length ≤ 8 := by
  have hlength := congrArg List.length h.raw
  simp only [i64ToLe_length, List.length_append, List.length_singleton,
    List.length_replicate] at hlength
  rcases h.result with ⟨-, hbytes⟩ | ⟨hfill, hbytes⟩
  · rw [hbytes, List.length_append, List.length_singleton]
    omega
  · have hpos := h.pos_of_ne hfill
    rw [hbytes, List.length_append, List.length_append, List.length_singleton,
      List.length_singleton]
    omega

/-- **Nothing is left to trim**: a last byte that is the loop's shows more than the sign, and one
    that was added is there because the byte before does not show it. -/
theorem LongForm.trimmed (h : LongForm v fill low last n) (hv : v ≠ 0) :
    Trimmed (longToBytes v) := by
  constructor
  · intro hzero
    have hvalue := h.value
    have hnone : leInt [0] = (0 : Int64).toInt := by decide
    rw [hzero, hnone] at hvalue
    exact hv (Int64.toInt_inj.mp hvalue.symm)
  · intro low' last' heq
    rcases h.result with ⟨hfill, hbytes⟩ | ⟨hfill, hbytes⟩
    · rw [hbytes] at heq
      obtain ⟨rfl, hlast⟩ := List.append_inj' heq rfl
      rw [List.singleton_inj] at hlast
      apply h.stops (List.append_ne_nil_of_right_ne_nil _ (List.cons_ne_nil _ _))
      rw [hlast, signFill_signFill] at hfill
      rw [hlast, hfill]
    · rw [hbytes] at heq
      obtain ⟨hfront, hlast⟩ := List.append_inj' heq rfl
      obtain ⟨-, hbefore⟩ := List.append_inj' hfront rfl
      rw [List.singleton_inj] at hlast hbefore
      exact hfill (by rw [hbefore, hlast])

end Form

/-! ## 3. The encoding is canonical -/

/-- The bytes denote the number, and every other string that does is longer. -/
structure UniqueShortest (bs : List UInt8) (v : Int) : Prop where
  value : leInt bs = v
  shortest : ∀ cs, leInt cs = v → cs ≠ bs → bs.length < cs.length

theorem uniqueShortest_of_trimmed {bs : List UInt8} {v : Int} (htrimmed : Trimmed bs)
    (hvalue : leInt bs = v) : UniqueShortest bs v := by
  refine ⟨hvalue, fun cs hcs hne => ?_⟩
  rw [← hvalue] at hcs
  apply Nat.lt_of_le_of_ne (trimmed_shortest htrimmed hcs)
  intro hlength
  exact hne (leInt_inj hlength.symm hcs)

/-- **Long encoding is canonical**: of all byte strings that denote the number, `long_to_bytes`
    returns the one that is shortest; it has eight bytes at most, none for 0, and is read back. -/
theorem longToBytes_canonical (v : Int64) :
    UniqueShortest (longToBytes v) v.toInt ∧ (longToBytes v = [] ↔ v = 0) ∧
      (longToBytes v).length ≤ 8 ∧ bytesToLong (longToBytes v) = .ok v := by
  by_cases hv : v = 0
  · subst hv
    refine ⟨uniqueShortest_of_trimmed ⟨nofun, fun low last heq => ?_⟩ rfl,
      ⟨fun _ => rfl, fun _ => rfl⟩, Nat.zero_le 8, rfl⟩
    exact List.append_ne_nil_of_right_ne_nil _ (List.cons_ne_nil _ _) heq.symm
  · obtain ⟨fill, low, last, n, hform⟩ := longToBytes_form hv
    refine ⟨uniqueShortest_of_trimmed (hform.trimmed hv) hform.value,
      ⟨fun hempty => ?_, fun h => absurd h hv⟩, hform.length_le, bytesToLong_longToBytes v⟩
    have hvalue := hform.value
    rw [hempty] at hvalue
    exact Int64.toInt_inj.mp hvalue.symm

/-- Both sides of a byte boundary: 2^15 - 1 has two bytes, 2^15 a third one for its sign. -/
example : longToBytes 0x7FFF = [0xFF, 0x7F] ∧ longToBytes 0x8000 = [0x00, 0x80, 0x00] := by
  decide

end ModalRs.Pickle
