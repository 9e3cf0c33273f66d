/-
  File:      ModalRs/Lib/PrefixCode.lean
  Subject:   Codes whose words can be read off the front, and fields that may be left out.

  * `PrefixCode`: no word is the beginning of another; `PrefixCode.flatMap_injective`:
    words one after the other.
  * `varint`, `delimited`: numbers seven bits at a time, and bytes behind their length.
  * `optField`: a field behind its tag, left out if it has its default.
-/
import Mathlib.Logic.Function.Basic
import Mathlib.Data.List.Basic

namespace ModalRs.Lib

variable {α β γ : Type}

/-- What follows a word can be told from it. -/
def PrefixCode (code : α → List β) : Prop :=
  ∀ x y s t, code x ++ s = code y ++ t → x = y ∧ s = t

theorem PrefixCode.injective {code : α → List β} (h : PrefixCode code) : Function.Injective code := by
  intro x y hxy
  exact (h x y [] [] (congrArg (· ++ []) hxy)).1

theorem PrefixCode.comp {code : α → List β} (h : PrefixCode code) {f : γ → α}
    (hf : Function.Injective f) : PrefixCode fun c => code (f c) := by
  intro x y s t heq
  obtain ⟨hxy, hst⟩ := h _ _ _ _ heq
  exact ⟨hf hxy, hst⟩

/-- A mark in front. -/
theorem PrefixCode.cons {code : α → List β} (h : PrefixCode code) (b : β) :
    PrefixCode fun x => b :: code x := by
  intro x y s t heq
  exact h x y s t (List.cons.inj heq).2

/-- **Words one after the other** tell which they are. -/
theorem PrefixCode.flatMap_injective {code : α → List β} (h : PrefixCode code)
    (hne : ∀ x, code x ≠ []) : Function.Injective (List.flatMap code) := by
  intro xs
  induction xs with
  | nil =>
    intro ys heq
    cases ys with
    | nil => rfl
    | cons y ys => exact absurd (List.append_eq_nil_iff.mp heq.symm).1 (hne y)
  | cons x xs ih =>
    intro ys heq
    cases ys with
    | nil => exact absurd (List.append_eq_nil_iff.mp heq).1 (hne x)
    | cons y ys =>
      obtain ⟨rfl, hrest⟩ := h x y _ _ heq
      rw [ih hrest]

/-! ## Numbers and bytes -/

/-- Seven bits a byte, lowest first; the high bit says that more follow. -/
def varint (n : Nat) : List UInt8 :=
  if n < 128 then [UInt8.ofNat n] else UInt8.ofNat (128 + n % 128) :: varint (n / 128)
  termination_by n

theorem varint_of_lt {n : Nat} (h : n < 128) : varint n = [UInt8.ofNat n] := by
  rw [varint, if_pos h]

/-- A byte tells its number. -/
theorem ofNat_inj_of_lt {m n : Nat} (hm : m < 256) (hn : n < 256)
    (h : UInt8.ofNat m = UInt8.ofNat n) : m = n := by
  have hnat : m % 256 = n % 256 := congrArg UInt8.toNat h
  omega

theorem varint_prefixCode : PrefixCode varint := by
  intro x
  induction x using Nat.strongRecOn with
  | ind x ih =>
    intro y s t heq
    rw [varint, varint.eq_1 y] at heq
    split_ifs at heq with hx hy hy
    · obtain ⟨hbyte, hst⟩ := List.cons.inj heq
      exact ⟨ofNat_inj_of_lt (by omega) (by omega) hbyte, hst⟩
    · have hbyte := ofNat_inj_of_lt (by omega) (by omega) (List.cons.inj heq).1
      omega
    · have hbyte := ofNat_inj_of_lt (by omega) (by omega) (List.cons.inj heq).1
      omega
    · obtain ⟨hbyte, hrest⟩ := List.cons.inj heq
      have hlow := ofNat_inj_of_lt (by omega) (by omega) hbyte
      obtain ⟨hhigh, hst⟩ := ih (x / 128) (by omega) (y / 128) s t hrest
      exact ⟨by omega, hst⟩

/-- Bytes behind their length. -/
def delimited (bytes : List UInt8) : List UInt8 := varint bytes.length ++ bytes

theorem delimited_prefixCode : PrefixCode delimited := by
  intro x y s t heq
  unfold delimited at heq
  rw [List.append_assoc, List.append_assoc] at heq
  obtain ⟨hlength, hrest⟩ := varint_prefixCode _ _ _ _ heq
  exact List.append_inj hrest hlength

/-! ## Fields -/

section Fields

variable [DecidableEq α]

/-- A field behind its tag, left out if it has its default. -/
def optField (tag : β) (default : α) (code : α → List β) (x : α) : List β :=
  if x = default then [] else tag :: code x

/-- **A field that may be left out** is told by the tags that follow. -/
theorem optField_inj {tag : β} {default : α} {code : α → List β} (h : PrefixCode code) {x y : α}
    {s t : List β} (hs : s.head? ≠ some tag) (ht : t.head? ≠ some tag)
    (heq : optField tag default code x ++ s = optField tag default code y ++ t) :
    x = y ∧ s = t := by
  unfold optField at heq
  split_ifs at heq with hx hy hy
  · exact ⟨hx.trans hy.symm, heq⟩
  · rw [List.nil_append] at heq
    exact absurd (congrArg List.head? heq) hs
  · rw [List.nil_append] at heq
    exact absurd (congrArg List.head? heq).symm ht
  · exact h x y s t (List.cons.inj heq).2

end Fields

end ModalRs.Lib
