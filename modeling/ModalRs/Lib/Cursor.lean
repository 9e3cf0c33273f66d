/-
  File:      ModalRs/Lib/Cursor.lean
  Subject:   Readers over a byte string: what they consume, and that nothing else matters.

  A `Reader` moves a position through a byte string and may fail. The one
  property everything else is read off is `Reads m a bs`: wherever the bytes
  ahead begin with `bs`, `m` consumes exactly `bs` and answers `a`; and where
  the input ends inside `bs`, `m` fails with an ordinary error.

  * `Reads.bind`, `Reads.pure`: readings compose.
  * `Local m`: every success of `m` is such a reading (`Local.bind`, `Local.pure`),
    so a success depends on the consumed bytes only.
  * `Safe m`: on a byte string no longer than `isize::MAX`, `m` never panics
    (`Safe.bind` needs `Local` to keep the position inside the input).
  * `Pays n m w`: what `m` answers weighs no more than what it consumes, and
    `n` bytes consumed before it (`Pays.bind` hands the credit on).
-/
import Mathlib.Data.List.Infix
import ModalRs.Rust.Outcome

namespace ModalRs.Lib

open ModalRs.Rust

/-- A position in a byte string. -/
structure Cursor where
  data : List UInt8
  pos : Nat
  deriving DecidableEq, Repr

namespace Cursor

/-- The bytes from the position on. -/
def rest (c : Cursor) : List UInt8 := c.data.drop c.pos

/-- The position moved `n` bytes on. -/
def advance (c : Cursor) (n : Nat) : Cursor := { c with pos := c.pos + n }

@[simp] theorem advance_data (c : Cursor) (n : Nat) : (c.advance n).data = c.data := rfl

@[simp] theorem advance_pos (c : Cursor) (n : Nat) : (c.advance n).pos = c.pos + n := rfl

@[simp] theorem advance_zero (c : Cursor) : c.advance 0 = c := rfl

theorem advance_add (c : Cursor) (n m : Nat) : (c.advance n).advance m = c.advance (n + m) := by
  simp [advance, Nat.add_assoc]

/-- What lies ahead after the bytes in front are consumed. -/
theorem rest_advance {c : Cursor} {bs rest : List UInt8} (h : c.rest = bs ++ rest) :
    (c.advance bs.length).rest = rest := by
  simp only [Cursor.rest, advance_data, advance_pos, ← List.drop_drop] at h ⊢
  rw [h, List.drop_left]

/-- The position lies inside the input, or right at its end. -/
def Inside (c : Cursor) : Prop := c.pos ≤ c.data.length

theorem inside_of_rest {c : Cursor} (h : c.rest ≠ []) : c.Inside := by
  have hlt := mt List.drop_eq_nil_iff.mpr h
  simp only [Inside]
  omega

theorem inside_advance {c : Cursor} {bs rest : List UInt8} (hc : c.Inside)
    (h : c.rest = bs ++ rest) : (c.advance bs.length).Inside := by
  have hlen := congrArg List.length h
  simp only [Cursor.rest, List.length_drop, List.length_append] at hlen
  simp only [Inside, advance_data, advance_pos] at hc ⊢
  omega

end Cursor

/-- A computation that moves a cursor and may fail or panic. -/
abbrev Reader (ε α : Type) : Type := StateT Cursor (Except (Stop ε)) α

variable {ε α β : Type}

/-- **`m` reads `a` off `bs`**: it consumes exactly `bs` wherever the bytes ahead begin with
    `bs`, and fails with an ordinary error where the input ends inside `bs`. -/
structure Reads (m : Reader ε α) (a : α) (bs : List UInt8) : Prop where
  full : ∀ (c : Cursor) (rest : List UInt8), c.Inside → c.rest = bs ++ rest →
    c.pos + bs.length < usizeSize → m c = .ok (a, c.advance bs.length)
  short : ∀ c : Cursor, c.Inside → c.rest <+: bs → c.rest ≠ bs →
    c.pos + bs.length < usizeSize → ∃ e, m c = .error (.err e)

/-- Every success of `m` is a reading of the bytes it consumed. -/
def Local (m : Reader ε α) : Prop :=
  ∀ (c c' : Cursor) (a : α), m c = .ok (a, c') →
    ∃ bs rest, Reads m a bs ∧ c.rest = bs ++ rest ∧ c' = c.advance bs.length

/-- On a byte string that Rust can hold, `m` never panics. -/
def Safe (m : Reader ε α) : Prop :=
  ∀ c : Cursor, c.Inside → IsSlice c.data → Returns (m c)

/-! ## Sequencing -/

theorem bind_ok {m : Reader ε α} {k : α → Reader ε β} {c c' : Cursor} {a : α}
    (h : m c = .ok (a, c')) : (m >>= k) c = k a c' := by
  show (m c >>= fun p => k p.1 p.2) = k a c'
  rw [h]
  rfl

theorem bind_error {m : Reader ε α} {k : α → Reader ε β} {c : Cursor} {e : Stop ε}
    (h : m c = .error e) : (m >>= k) c = .error e := by
  show (m c >>= fun p => k p.1 p.2) = .error e
  rw [h]
  rfl

theorem bind_eq_ok {m : Reader ε α} {k : α → Reader ε β} {c c'' : Cursor} {b : β}
    (h : (m >>= k) c = .ok (b, c'')) : ∃ a c', m c = .ok (a, c') ∧ k a c' = .ok (b, c'') := by
  cases hm : m c with
  | error e => rw [bind_error hm] at h; cases h
  | ok p =>
    obtain ⟨a, c'⟩ := p
    rw [bind_ok hm] at h
    exact ⟨a, c', rfl, h⟩

/-- A computation that only looks at the cursor reads nothing. -/
theorem Reads.of_stays {m : Reader ε α} {a : α} (h : ∀ c, m c = .ok (a, c)) : Reads m a [] where
  full c _ _ _ _ := h c
  short _ _ hp hne _ := absurd (List.prefix_nil.mp hp) hne

theorem Reads.pure (a : α) : Reads (pure a : Reader ε α) a [] := .of_stays fun _ => rfl

theorem Reads.bind {m : Reader ε α} {k : α → Reader ε β} {a : α} {b : β} {bs bs' : List UInt8}
    (hm : Reads m a bs) (hk : Reads (k a) b bs') : Reads (m >>= k) b (bs ++ bs') where
  full c rest hc h hlim := by
    rw [List.append_assoc] at h
    rw [List.length_append] at hlim ⊢
    have h₁ := hm.full c (bs' ++ rest) hc h (by omega)
    have h₂ := hk.full _ rest (Cursor.inside_advance hc h) (Cursor.rest_advance h)
      (by rw [Cursor.advance_pos]; omega)
    rw [bind_ok h₁, h₂, Cursor.advance_add]
  short c hc hp hne hlim := by
    rw [List.length_append] at hlim
    by_cases hin : bs <+: c.rest
    · -- the input ends inside `bs'`
      obtain ⟨r, hr⟩ := hin
      have h₁ := hm.full c r hc hr.symm (by omega)
      have hrest : (c.advance bs.length).rest = r := Cursor.rest_advance hr.symm
      rw [← hr] at hp hne
      obtain ⟨e, he⟩ := hk.short (c.advance bs.length) (Cursor.inside_advance hc hr.symm)
        (by rw [hrest]; exact (List.prefix_append_right_inj bs).mp hp)
        (by rw [hrest]; exact fun e => hne (by rw [e]))
        (by rw [Cursor.advance_pos]; omega)
      exact ⟨e, by rw [bind_ok h₁, he]⟩
    · -- the input ends inside `bs`
      have hp' : c.rest <+: bs :=
        (List.prefix_or_prefix_of_prefix hp (List.prefix_append bs bs')).resolve_right hin
      obtain ⟨e, he⟩ := hm.short c hc hp' (fun e => hin (e ▸ List.prefix_refl _)) (by omega)
      exact ⟨e, bind_error he⟩

theorem Local.of_stays {m : Reader ε α} {a : α} (h : ∀ c, m c = .ok (a, c)) : Local m := by
  intro c c' a' hok
  rw [h] at hok
  cases hok
  exact ⟨[], c.rest, .of_stays h, rfl, rfl⟩

theorem Local.pure (a : α) : Local (pure a : Reader ε α) := .of_stays fun _ => rfl

/-- What never succeeds is local. -/
theorem Local.of_fails {m : Reader ε α} (h : ∀ c p, m c ≠ .ok p) : Local m :=
  fun c _ _ hok => absurd hok (h c _)

theorem Local.bind {m : Reader ε α} {k : α → Reader ε β} (hm : Local m) (hk : ∀ a, Local (k a)) :
    Local (m >>= k) := by
  intro c c'' b hok
  obtain ⟨a, c', h₁, h₂⟩ := bind_eq_ok hok
  obtain ⟨bs, rest, hr, hc, rfl⟩ := hm c c' a h₁
  obtain ⟨bs', rest', hr', hc', rfl⟩ := hk a _ c'' b h₂
  rw [Cursor.rest_advance hc] at hc'
  refine ⟨bs ++ bs', rest', hr.bind hr', by rw [hc, hc', List.append_assoc], ?_⟩
  rw [Cursor.advance_add, List.length_append]

theorem Safe.of_stays {m : Reader ε α} {a : α} (h : ∀ c, m c = .ok (a, c)) : Safe m :=
  fun c _ _ => Or.inl ⟨_, h c⟩

theorem Safe.pure (a : α) : Safe (pure a : Reader ε α) := .of_stays fun _ => rfl

/-- A success keeps the position inside the input. -/
theorem Local.inside {m : Reader ε α} (hm : Local m) {c c' : Cursor} {a : α}
    (h : m c = .ok (a, c')) (hc : c.Inside) :
    c'.data = c.data ∧ c.pos ≤ c'.pos ∧ c'.Inside := by
  obtain ⟨bs, rest, _, hrest, rfl⟩ := hm c c' a h
  exact ⟨rfl, by simp, Cursor.inside_advance hc hrest⟩

/-- The continuation has to be safe for the answers `m` can give only. -/
theorem Safe.bind {m : Reader ε α} {k : α → Reader ε β} (hl : Local m) (hm : Safe m)
    (hk : ∀ a c c', m c = .ok (a, c') → Safe (k a)) : Safe (m >>= k) := by
  intro c hc hlen
  rcases hm c hc hlen with ⟨⟨a, c'⟩, h⟩ | ⟨e, h⟩
  · obtain ⟨hdata, _, hc'⟩ := hl.inside h hc
    rw [bind_ok h]
    exact hk a c c' h c' hc' (by rw [hdata]; exact hlen)
  · exact Or.inr ⟨e, bind_error h⟩

theorem Local.ite {p : Prop} [Decidable p] {m m' : Reader ε α} (hm : Local m) (hm' : Local m') :
    Local (if p then m else m') := by
  by_cases h : p
  · rw [if_pos h]
    exact hm
  · rw [if_neg h]
    exact hm'

theorem Safe.ite {p : Prop} [Decidable p] {m m' : Reader ε α} (hm : Safe m) (hm' : Safe m') :
    Safe (if p then m else m') := by
  by_cases h : p
  · rw [if_pos h]
    exact hm
  · rw [if_neg h]
    exact hm'

/-- A computation that has no cursor reads nothing. -/
theorem Local.lift : ∀ x : Res ε α, Local (liftM x : Reader ε α)
  | .ok _ => .of_stays fun _ => rfl
  | .error _ => .of_fails fun _ _ h => nomatch h

theorem Safe.lift {x : Res ε α} {a : α} (h : x = .ok a) : Safe (liftM x : Reader ε α) := by
  subst h
  exact .of_stays fun _ => rfl

/-! ## Paying for answers -/

/-- **The weight of what `m` answers is paid for by the bytes it consumes**, with `n` bytes of
    credit to begin with. -/
def Pays (n : Nat) (m : Reader ε α) (w : α → Nat) : Prop :=
  ∀ (c c' : Cursor) (a : α), m c = .ok (a, c') → c.pos + w a ≤ c'.pos + n

variable {m : Reader ε α} {n : Nat}

theorem Pays.bind {k : α → Reader ε β} {w : α → Nat} {w' : β → Nat} (hm : Pays n m w)
    (hk : ∀ a, Pays (w a) (k a) w') : Pays n (m >>= k) w' := by
  intro c c'' b hok
  obtain ⟨a, c', h₁, h₂⟩ := bind_eq_ok hok
  have hfirst := hm c c' a h₁
  have hthen := hk a c' c'' b h₂
  omega

theorem Pays.pure {a : α} {w : α → Nat} (h : w a ≤ n) : Pays n (pure a : Reader ε α) w := by
  intro c c' a' hok
  cases hok
  omega

/-- The credit stays what it was. -/
theorem Pays.of_local (hm : Local m) : Pays n m fun _ => n := by
  intro c c' a hok
  obtain ⟨bs, _, _, _, rfl⟩ := hm c c' a hok
  show c.pos + n ≤ c.pos + bs.length + n
  omega

theorem Pays.ite {p : Prop} [Decidable p] {m' : Reader ε α} {w : α → Nat} (hm : Pays n m w)
    (hm' : Pays n m' w) : Pays n (if p then m else m') w := by
  by_cases h : p
  · rw [if_pos h]
    exact hm
  · rw [if_neg h]
    exact hm'

end ModalRs.Lib
