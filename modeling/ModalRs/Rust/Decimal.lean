/-
  File:      ModalRs/Rust/Decimal.lean
  Subject:   The strings that `parse` reads as unsigned numbers.

  * `DecimalInteger cs n`: the string is the number in decimal, without a word on how it is read.
  * `parseDigits_ok_iff`: the check for overflow at each digit is one check of the number.
  * `parseUnsigned_ok_iff`, `parseUnsigned_error`: what is read, with the largest value of the type
    as a parameter; `DecimalInteger.unique`.
-/
import ModalRs.Rust.Parse

namespace ModalRs.Rust

/-- A decimal integer without a minus sign: digits, of which there are some, behind an optional
    plus sign. -/
inductive DecimalInteger : List Char → Nat → Prop where
  | digits {ds : List Char} (hsome : ds ≠ []) (hdigits : ∀ d ∈ ds, isDigit d = true) :
      DecimalInteger ds (digitsVal ds)
  | plus {ds : List Char} (hsome : ds ≠ []) (hdigits : ∀ d ∈ ds, isDigit d = true) :
      DecimalInteger ('+' :: ds) (digitsVal ds)

/-- The number of some digits behind others. -/
def digitsFrom (acc : Nat) (cs : List Char) : Nat :=
  cs.foldl (fun n c => n * 10 + (c.toNat - 48)) acc

theorem le_digitsFrom (acc : Nat) (cs : List Char) : acc ≤ digitsFrom acc cs := by
  induction cs generalizing acc with
  | nil => exact Nat.le_refl acc
  | cons c cs ih =>
    have hstep : acc ≤ acc * 10 + (c.toNat - 48) := by omega
    exact Nat.le_trans hstep (ih _)

theorem digitVal_of_isDigit {c : Char} (h : isDigit c = true) :
    digitVal c = some (c.toNat - 48) := if_pos h

theorem digitVal_of_not_isDigit {c : Char} (h : ¬ isDigit c = true) : digitVal c = none := if_neg h

/-- **Every digit is checked, and only the number counts**: the digits read so far are never more
    than it. -/
theorem parseDigits_ok_iff {max acc n : Nat} {overflow : IntErrorKind} {cs : List Char}
    (hacc : acc ≤ max) :
    parseDigits max overflow acc cs = .ok n ↔
      (∀ c ∈ cs, isDigit c = true) ∧ digitsFrom acc cs = n ∧ n ≤ max := by
  induction cs generalizing acc with
  | nil =>
    constructor
    · intro h
      cases h
      exact ⟨nofun, rfl, hacc⟩
    · rintro ⟨-, rfl, -⟩
      rfl
  | cons c cs ih =>
    rw [parseDigits, List.forall_mem_cons]
    by_cases hdigit : isDigit c = true
    · simp only [digitVal_of_isDigit hdigit]
      by_cases hfits : acc * 10 + (c.toNat - 48) ≤ max
      · rw [if_pos hfits, ih hfits]
        exact ⟨fun h => ⟨⟨hdigit, h.1⟩, h.2⟩, fun h => ⟨h.1.2, h.2⟩⟩
      · rw [if_neg hfits]
        constructor
        · intro h
          cases h
        · rintro ⟨-, hvalue, hn⟩
          have hle := le_digitsFrom (acc * 10 + (c.toNat - 48)) cs
          have hvalue : digitsFrom (acc * 10 + (c.toNat - 48)) cs = n := hvalue
          omega
    · simp only [digitVal_of_not_isDigit hdigit]
      constructor
      · intro h
        cases h
      · exact fun h => absurd h.1.1 hdigit

/-- **What `parse` reads**: the decimal integers that the type can hold. -/
theorem parseUnsigned_ok_iff {max n : Nat} {cs : List Char} :
    parseUnsigned max cs = .ok n ↔ DecimalInteger cs n ∧ n ≤ max := by
  have hplus : ¬ isDigit '+' = true := by decide
  have hminus : ¬ isDigit '-' = true := by decide
  unfold parseUnsigned
  split
  case h_1 => exact ⟨nofun, fun h => by cases h.1; contradiction⟩
  case h_2 =>
    refine ⟨nofun, fun h => ?_⟩
    rcases h.1 with ⟨-, hdigits⟩ | ⟨hsome, -⟩
    · exact absurd (hdigits '+' List.mem_cons_self) hplus
    · exact absurd rfl hsome
  case h_3 =>
    refine ⟨nofun, fun h => ?_⟩
    rcases h.1 with ⟨-, hdigits⟩
    exact absurd (hdigits '-' List.mem_cons_self) hminus
  case h_4 _ ds hone =>
    rw [parseDigits_ok_iff (Nat.zero_le max)]
    constructor
    · rintro ⟨hdigits, rfl, hn⟩
      exact ⟨.plus hone hdigits, hn⟩
    · rintro ⟨⟨-, hdigits⟩ | ⟨-, hdigits⟩, hn⟩
      · exact absurd (hdigits '+' List.mem_cons_self) hplus
      · exact ⟨hdigits, rfl, hn⟩
  case h_5 hsome _ _ hunsigned =>
    rw [parseDigits_ok_iff (Nat.zero_le max)]
    constructor
    · rintro ⟨hdigits, rfl, hn⟩
      exact ⟨.digits hsome hdigits, hn⟩
    · rintro ⟨⟨-, hdigits⟩ | ⟨-, hdigits⟩, hn⟩
      · exact ⟨hdigits, rfl, hn⟩
      · exact absurd rfl (hunsigned _)

/-- Anything else is refused. -/
theorem parseUnsigned_error {max : Nat} {cs : List Char} (h : ∀ n, DecimalInteger cs n → max < n) :
    ∃ e, parseUnsigned max cs = .error e := by
  cases hparse : parseUnsigned max cs with
  | error e => exact ⟨e, rfl⟩
  | ok n =>
    obtain ⟨hcount, hn⟩ := parseUnsigned_ok_iff.mp hparse
    exact absurd (h n hcount) (Nat.not_lt.mpr hn)

/-- A string is one number at most. -/
theorem DecimalInteger.unique {cs : List Char} {n m : Nat} (hn : DecimalInteger cs n)
    (hm : DecimalInteger cs m) : n = m := by
  have hnread := parseUnsigned_ok_iff.mpr ⟨hn, Nat.le_max_left n m⟩
  have hmread := parseUnsigned_ok_iff.mpr ⟨hm, Nat.le_max_right n m⟩
  exact Except.ok.inj (hnread.symm.trans hmread)

end ModalRs.Rust
