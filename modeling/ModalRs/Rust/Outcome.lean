/-
  File:      ModalRs/Rust/Outcome.lean
  Subject:   What a Rust computation comes back with: a value, an `Err`, a panic, or nothing.

  * `Res ε α`: a `Result<α, ε>` of a computation that may also panic, or
    (for a loop cut off by its fuel) not come back at all; `Returns r`: it did neither.
  * `StopsIn P r`: where it comes back without a value, it does so for one of the reasons `P`.
  * `usizeAdd`, `index`, `slice`: the checked operations behind `a + b` on
    `usize`, `v[i]` and `&v[a..b]`; each panics where Rust does on a 64-bit target.
-/
import Mathlib.Algebra.Group.Int.Defs
import Mathlib.Algebra.Ring.Nat

namespace ModalRs.Rust

/-- The panics the modelled code can run into. -/
inductive Panic where
  | addOverflow | mulOverflow | indexOutOfRange | sliceOutOfRange | unwrapNone | unreachable
  deriving DecidableEq, Repr

/-- Why a computation did not come back with a value: an `Err`, a panic, or a
    loop that was cut off before it ended. -/
inductive Stop (ε : Type) where
  | err (e : ε)
  | panic (p : Panic)
  | diverged
  deriving DecidableEq, Repr

/-- A `Result<α, ε>` of a computation that may also panic. -/
abbrev Res (ε α : Type) : Type := Except (Stop ε) α

/-- An ordinary `Ok` or `Err`: nothing panicked, and nothing was cut off. -/
def Returns {ε α : Type} (r : Res ε α) : Prop := (∃ a, r = .ok a) ∨ ∃ e, r = .error (.err e)

/-- An ordinary `Result` is one without panics. -/
def liftExcept {ε α : Type} : Except ε α → Res ε α
  | .ok a => .ok a
  | .error e => .error (.err e)

/-- `isize::MAX` on a 64-bit target: no slice and no `Vec` of bytes is longer. -/
def isizeMax : Nat := 2 ^ 63 - 1

/-- The number of values of a 64-bit `usize`. -/
def usizeSize : Nat := 2 ^ 64

/-- The bytes a `&[u8]` can hold: the language promises that no slice is longer. -/
def IsSlice (bytes : List UInt8) : Prop := bytes.length ≤ isizeMax

variable {ε α β : Type}

/-- A sequence that succeeded, taken apart. -/
theorem except_bind_ok {x : Except ε α} {f : α → Except ε β} {b : β} (h : x >>= f = .ok b) :
    ∃ a, x = .ok a ∧ f a = .ok b := by
  cases x with
  | error e => cases h
  | ok a => exact ⟨a, rfl, h⟩

theorem except_map_ok {x : Except ε α} {f : α → β} {b : β} (h : x.map f = .ok b) :
    ∃ a, x = .ok a ∧ f a = b := by
  cases x with
  | error e => cases h
  | ok a =>
    cases h
    exact ⟨a, rfl, rfl⟩

/-- A check that was passed, and what came after it. -/
theorem except_check_ok {c : Prop} [Decidable c] {e : ε} {f : PUnit → Except ε β} {b : β}
    (h : (if c then (throw e : Except ε PUnit) >>= f else f ⟨⟩) = .ok b) : ¬ c ∧ f ⟨⟩ = .ok b := by
  by_cases hc : c
  · rw [if_pos hc] at h
    cases h
  · rw [if_neg hc] at h
    exact ⟨hc, h⟩

/-- A traversal that succeeded gave the results of all. -/
theorem map_of_mapM_ok {f : α → Except ε β} {l : List α} {ys : List β} (h : l.mapM f = .ok ys) :
    l.map f = ys.map .ok := by
  induction l generalizing ys with
  | nil =>
    cases h
    rfl
  | cons a l ih =>
    rw [List.mapM_cons] at h
    obtain ⟨b, hb, h⟩ := except_bind_ok h
    obtain ⟨bs, hbs, h⟩ := except_bind_ok h
    cases h
    rw [List.map_cons, List.map_cons, hb, ih hbs]

/-- A traversal succeeds exactly when every element does. -/
theorem exists_mapM_ok_iff {f : α → Except ε β} {l : List α} :
    (∃ ys, l.mapM f = .ok ys) ↔ ∀ a ∈ l, ∃ b, f a = .ok b := by
  constructor
  · intro h a ha
    obtain ⟨ys, hys⟩ := h
    have hmem : f a ∈ ys.map .ok := map_of_mapM_ok hys ▸ List.mem_map_of_mem ha
    obtain ⟨b, -, hb⟩ := List.mem_map.mp hmem
    exact ⟨b, hb.symm⟩
  · intro h
    induction l with
    | nil => exact ⟨[], rfl⟩
    | cons a l ih =>
      obtain ⟨b, hb⟩ := h a List.mem_cons_self
      obtain ⟨bs, hbs⟩ := ih fun a' ha' => h a' (List.mem_cons_of_mem a ha')
      refine ⟨b :: bs, ?_⟩
      rw [List.mapM_cons, hb, hbs]
      rfl

theorem liftExcept_value (a : α) : liftExcept (.ok a : Except ε α) = .ok a := rfl

theorem liftExcept_ne_diverged (x : Except ε α) {e : Stop ε} (he : e = .diverged) :
    liftExcept x ≠ .error e := by
  subst he
  cases x with
  | error e => exact fun h => nomatch h
  | ok a => exact fun h => nomatch h

theorem liftExcept_ok {x : Except ε α} {a : α} (h : liftExcept x = .ok a) : x = .ok a := by
  cases x with
  | error e => cases h
  | ok a =>
    cases h
    rfl

theorem not_returns_panic (p : Panic) : ¬ Returns (.error (.panic p) : Res ε α) := by
  intro h
  rcases h with ⟨a, ha⟩ | ⟨e, he⟩
  · cases ha
  · cases he

/-- Whatever keeps the computation from a value is one of the reasons `P`. -/
def StopsIn (P : Stop ε → Prop) (r : Res ε α) : Prop := ∀ e, r = .error e → P e

namespace StopsIn

variable {P : Stop ε → Prop}

theorem value (a : α) : StopsIn P (.ok a : Res ε α) := fun _ h => nomatch h

theorem stop {e : Stop ε} (h : P e) : StopsIn P (.error e : Res ε α) := fun _ he => by
  cases he
  exact h

theorem bind {x : Res ε α} {f : α → Res ε β} (hx : StopsIn P x) (hf : ∀ a, StopsIn P (f a)) :
    StopsIn P (x >>= f) := by
  cases x with
  | error e => exact stop (hx e rfl)
  | ok a => exact hf a

theorem map {x : Res ε α} (f : α → β) (hx : StopsIn P x) : StopsIn P (x.map f) := by
  cases x with
  | error e => exact stop (hx e rfl)
  | ok a => exact value (f a)

/-- A list is worked off element by element. -/
theorem mapM {f : α → Res ε β} (hf : ∀ a, StopsIn P (f a)) : ∀ l : List α, StopsIn P (l.mapM f)
  | [] => value []
  | a :: l => by
      rw [List.mapM_cons]
      exact (hf a).bind fun b => (mapM hf l).bind fun bs => value (b :: bs)

theorem ite {p : Prop} [Decidable p] {x y : Res ε α} (hx : StopsIn P x) (hy : StopsIn P y) :
    StopsIn P (if p then x else y) := by
  by_cases h : p
  · rw [if_pos h]
    exact hx
  · rw [if_neg h]
    exact hy

end StopsIn

/-- `a + b` on `usize`. -/
def usizeAdd (a b : Nat) : Res ε Nat :=
  if a + b < usizeSize then .ok (a + b) else .error (.panic .addOverflow)

/-- `v[i]`. -/
def index (v : List α) (i : Nat) : Res ε α :=
  match v[i]? with
  | some a => .ok a
  | none => .error (.panic .indexOutOfRange)

/-- `&v[a..b]`. -/
def slice (v : List α) (a b : Nat) : Res ε (List α) :=
  if a ≤ b ∧ b ≤ v.length then .ok ((v.drop a).take (b - a))
  else .error (.panic .sliceOutOfRange)

theorem usizeAdd_of_lt {a b : Nat} (h : a + b < usizeSize) :
    (usizeAdd a b : Res ε Nat) = .ok (a + b) := if_pos h

theorem usizeAdd_of_ge {a b : Nat} (h : usizeSize ≤ a + b) :
    (usizeAdd a b : Res ε Nat) = .error (.panic .addOverflow) := if_neg (by omega)

theorem index_of_lt {v : List α} {i : Nat} (h : i < v.length) :
    (index v i : Res ε α) = .ok v[i] := by
  simp [index, List.getElem?_eq_getElem h]

theorem slice_of_le {v : List α} {a b : Nat} (hab : a ≤ b) (hb : b ≤ v.length) :
    (slice v a b : Res ε (List α)) = .ok ((v.drop a).take (b - a)) := if_pos ⟨hab, hb⟩

end ModalRs.Rust
