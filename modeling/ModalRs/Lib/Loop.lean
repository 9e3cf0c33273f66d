/-
  File:      ModalRs/Lib/Loop.lean
  Subject:   Loops that run a step until it returns: fuel, variants, invariants, simulation.

  A step takes a state and either fails, goes on with a state or returns a
  result. `loop cut step n` runs it at most `n` times and answers `cut` when
  that was not enough.

  * `Reach step`: the states a run passes through (zero or more steps).
  * `loop_reach`: a run may be read from any state it passes through, given
    a variant that every step lowers; `loop_ne_cut`: enough fuel is enough.
  * `reach_invariant`: what every step keeps, every run keeps.
  * `loop_last`: a run that ends, ends with one last step from a reachable state.
  * `loop_simulates`: two loops whose steps correspond end correspondingly.
-/
import Mathlib.Logic.Relation

namespace ModalRs.Lib

variable {σ τ ρ ρ' ε ε' : Type}

/-- Runs `step` at most `n` times; `cut` is the answer when the fuel ran out. -/
def loop (cut : ε) (step : σ → Except ε (σ ⊕ ρ)) : Nat → σ → Except ε ρ
  | 0, _ => .error cut
  | n + 1, s =>
      match step s with
      | .error e => .error e
      | .ok (.inr r) => .ok r
      | .ok (.inl s') => loop cut step n s'

/-- One step that goes on. -/
def Goes (step : σ → Except ε (σ ⊕ ρ)) (s s' : σ) : Prop := step s = .ok (.inl s')

/-- The states a run from `s` passes through. -/
def Reach (step : σ → Except ε (σ ⊕ ρ)) : σ → σ → Prop := Relation.ReflTransGen (Goes step)

section Reach

variable {step : σ → Except ε (σ ⊕ ρ)}

theorem Reach.refl (s : σ) : Reach step s s := Relation.ReflTransGen.refl

theorem Reach.trans {s t u : σ} (h : Reach step s t) (h' : Reach step t u) : Reach step s u :=
  Relation.ReflTransGen.trans h h'

theorem Reach.single {s t : σ} (h : step s = .ok (.inl t)) : Reach step s t :=
  Relation.ReflTransGen.single h

/-- **The invariant rule**: what every step keeps holds wherever a run comes. -/
theorem reach_invariant {I : σ → Prop} (hstep : ∀ s s', I s → step s = .ok (.inl s') → I s')
    {s t : σ} (h : Reach step s t) (hs : I s) : I t := by
  induction h with
  | refl => exact hs
  | tail _ hgo ih => exact hstep _ _ ih hgo

end Reach

section Fuel

variable {cut : ε} {step : σ → Except ε (σ ⊕ ρ)} {μ : σ → Nat}

/-- One unrolling. -/
theorem loop_succ (n : Nat) (s : σ) :
    loop cut step (n + 1) s =
      match step s with
      | .error e => .error e
      | .ok (.inr r) => .ok r
      | .ok (.inl s') => loop cut step n s' := rfl

/-- Fuel above the variant is all the same. -/
theorem loop_fuel (hμ : ∀ s s', step s = .ok (.inl s') → μ s' < μ s) :
    ∀ (n m : Nat) (s : σ), μ s < n → μ s < m → loop cut step n s = loop cut step m s
  | 0, _, _, h, _ => absurd h (Nat.not_lt_zero _)
  | _ + 1, 0, _, _, h => absurd h (Nat.not_lt_zero _)
  | n + 1, m + 1, s, hn, hm => by
      rw [loop_succ, loop_succ]
      cases hs : step s with
      | error e => rfl
      | ok r =>
        cases r with
        | inr r => rfl
        | inl s' =>
          have hlt := hμ s s' hs
          exact loop_fuel hμ n m s' (by omega) (by omega)

/-- **A run may be read from any state it passes through.** -/
theorem loop_reach (hμ : ∀ s s', step s = .ok (.inl s') → μ s' < μ s) {s t : σ}
    (h : Reach step s t) : loop cut step (μ s + 1) s = loop cut step (μ t + 1) t := by
  induction h with
  | refl => rfl
  | @tail u t _ hgo ih =>
    have hlt := hμ u t hgo
    have hgo' : step u = .ok (.inl t) := hgo
    rw [ih, loop_succ, hgo']
    exact loop_fuel hμ _ _ t (by omega) (by omega)

/-- **Enough fuel is enough**: above the variant, a run is cut off by none of its steps. -/
theorem loop_ne_cut (hμ : ∀ s s', step s = .ok (.inl s') → μ s' < μ s) :
    ∀ (n : Nat) (s : σ), μ s < n → (∀ t, Reach step s t → step t ≠ .error cut) →
      loop cut step n s ≠ .error cut
  | 0, _, h, _ => absurd h (Nat.not_lt_zero _)
  | n + 1, s, hn, hcut => by
      rw [loop_succ]
      cases hs : step s with
      | error e =>
        intro h
        cases h
        exact hcut s (.refl s) hs
      | ok r =>
        cases r with
        | inr r => exact fun h => nomatch h
        | inl s' =>
          have hlt := hμ s s' hs
          exact loop_ne_cut hμ n s' (by omega) fun t ht => hcut t ((Reach.single hs).trans ht)

/-- How a run that was not cut off ended: one last step from a reachable state. -/
theorem loop_last : ∀ (n : Nat) (s : σ) (r : Except ε ρ), loop cut step n s = r → r ≠ .error cut →
    ∃ t, Reach step s t ∧
      ((∃ v, r = .ok v ∧ step t = .ok (.inr v)) ∨ (∃ e, r = .error e ∧ step t = .error e))
  | 0, s, r, h, hr => absurd h.symm hr
  | n + 1, s, r, h, hr => by
      rw [loop_succ] at h
      cases hs : step s with
      | error e =>
        rw [hs] at h
        exact ⟨s, .refl s, Or.inr ⟨e, h.symm, hs⟩⟩
      | ok x =>
        rw [hs] at h
        cases x with
        | inr v => exact ⟨s, .refl s, Or.inl ⟨v, h.symm, hs⟩⟩
        | inl s' =>
          obtain ⟨t, ht, hlast⟩ := loop_last n s' r h hr
          exact ⟨t, (Reach.single hs).trans ht, hlast⟩

/-- A last step from a reachable state is what the whole run answers. -/
theorem loop_of_reach_return (hμ : ∀ s s', step s = .ok (.inl s') → μ s' < μ s) {s t : σ}
    (h : Reach step s t) {v : ρ} (hv : step t = .ok (.inr v)) :
    loop cut step (μ s + 1) s = .ok v := by
  rw [loop_reach hμ h, loop_succ, hv]

/-- A failing step from a reachable state fails the whole run. -/
theorem loop_of_reach_error (hμ : ∀ s s', step s = .ok (.inl s') → μ s' < μ s) {s t : σ}
    (h : Reach step s t) {e : ε} (he : step t = .error e) :
    loop cut step (μ s + 1) s = .error e := by
  rw [loop_reach hμ h, loop_succ, he]

end Fuel

/-! ## Simulation -/

/-- **Corresponding steps make corresponding runs**: if every step of the second loop that goes
    on or returns is matched by one of the first, a returning run of the second is matched. -/
theorem loop_simulates {cut : ε} {cut' : ε'} {step : σ → Except ε (σ ⊕ ρ)}
    {step' : τ → Except ε' (τ ⊕ ρ')} {R : σ → τ → Prop} {Q : ρ → ρ' → Prop}
    (hgo : ∀ s t t', R s t → step' t = .ok (.inl t') → ∃ s', step s = .ok (.inl s') ∧ R s' t')
    (hret : ∀ s t r', R s t → step' t = .ok (.inr r') → ∃ r, step s = .ok (.inr r) ∧ Q r r') :
    ∀ (n : Nat) (s : σ) (t : τ) (r' : ρ'), R s t → loop cut' step' n t = .ok r' →
      ∃ r, loop cut step n s = .ok r ∧ Q r r'
  | 0, _, _, _, _, h => nomatch h
  | n + 1, s, t, r', hR, h => by
      rw [loop_succ] at h
      cases ht : step' t with
      | error e => rw [ht] at h; cases h
      | ok x =>
        rw [ht] at h
        cases x with
        | inr v =>
          cases h
          obtain ⟨r, hr, hQ⟩ := hret s t r' hR ht
          exact ⟨r, by rw [loop_succ, hr], hQ⟩
        | inl t' =>
          obtain ⟨s', hs', hR'⟩ := hgo s t t' hR ht
          obtain ⟨r, hr, hQ⟩ := loop_simulates hgo hret n s' t' r' hR' h
          exact ⟨r, by rw [loop_succ, hs']; exact hr, hQ⟩

end ModalRs.Lib
