/-
  File:      ModalRs/Lib/Script.lean
  Subject:   Loops whose every round asks the world once: replies come from a script.

  A round takes the loop's state and the next answer of the world. It leaves
  events behind and fails, goes on or returns. `runScript` runs rounds until
  one fails or returns; `cut` is the outcome when the script ends before that.

  * `runScript_error`, `runScript_value`, `runScript_last`, `runScript_goes`: the first round
    of a loop.
  * `script_rule`: an invariant of the state, the events so far and the script
    ahead, kept by every round, holds wherever the loop ends.
-/
import Mathlib.Logic.Basic

namespace ModalRs.Lib

variable {σ ι ω ρ ε : Type}

/-- Runs rounds over a script; the events and the outcome. -/
def runScript (cut : ε) (round : σ → ι → List ω × Except ε (σ ⊕ ρ)) :
    σ → List ι → List ω × Except ε ρ
  | _, [] => ([], .error cut)
  | s, i :: is =>
      match round s i with
      | (es, .error e) => (es, .error e)
      | (es, .ok (.inr r)) => (es, .ok r)
      | (es, .ok (.inl s')) =>
          let (es', out) := runScript cut round s' is
          (es ++ es', out)

/-- Annotations on the script change nothing. -/
theorem runScript_map {κ : Type} {cut : ε} {round : σ → ι → List ω × Except ε (σ ⊕ ρ)}
    (f : κ → ι) : ∀ (ks : List κ) (s : σ),
      runScript cut round s (ks.map f) = runScript cut (fun s k => round s (f k)) s ks
  | [], _ => rfl
  | k :: ks, s => by
      rw [List.map_cons, runScript, runScript]
      rcases round s (f k) with ⟨es, out⟩
      cases out with
      | error e => rfl
      | ok x =>
        cases x with
        | inr r => rfl
        | inl s' =>
          simp only
          rw [runScript_map f ks s']

section Rounds

variable {cut : ε} {round : σ → ι → List ω × Except ε (σ ⊕ ρ)} {s s' : σ} {i : ι} {es : List ω}

/-- A round that fails ends the loop. -/
theorem runScript_error {e : ε} (h : round s i = (es, .error e)) (is : List ι) :
    runScript cut round s (i :: is) = (es, .error e) := by
  rw [runScript, h]

/-- A round that returns ends the loop. -/
theorem runScript_value {r : ρ} (h : round s i = (es, .ok (.inr r))) (is : List ι) :
    runScript cut round s (i :: is) = (es, .ok r) := by
  rw [runScript, h]

/-- A round that ends the loop one way or the other. -/
theorem runScript_last {out : Except ε ρ} (h : round s i = (es, out.map .inr)) (is : List ι) :
    runScript cut round s (i :: is) = (es, out) := by
  cases out with
  | error e => exact runScript_error h is
  | ok r => exact runScript_value h is

/-- A round that goes on leads to the loop from there. -/
theorem runScript_goes (h : round s i = (es, .ok (.inl s'))) (is : List ι) :
    runScript cut round s (i :: is) =
      (es ++ (runScript cut round s' is).1, (runScript cut round s' is).2) := by
  rw [runScript, h]

end Rounds

section Rule

variable {round : σ → ι → List ω × Except ε (σ ⊕ ρ)}
  {I : σ → List ω → List ι → Prop} {Q : List ω → Except ε ρ → Prop}

/-- What a round owes to an invariant `I` and a result `Q`, after the events `past` and with the
    script `is` left. -/
def RoundOk (I : σ → List ω → List ι → Prop) (Q : List ω → Except ε ρ → Prop) (past : List ω)
    (is : List ι) : List ω × Except ε (σ ⊕ ρ) → Prop
  | (es, .error e) => Q (past ++ es) (.error e)
  | (es, .ok (.inr r)) => Q (past ++ es) (.ok r)
  | (es, .ok (.inl s')) => I s' (past ++ es) is

/-- **The invariant rule**: what every round keeps holds where the loop ends. -/
theorem script_rule (cut : ε)
    (hround : ∀ s past i is, I s past (i :: is) → RoundOk I Q past is (round s i))
    (hcut : ∀ s past, I s past [] → Q past (.error cut)) :
    ∀ (is : List ι) (s : σ) (past : List ω), I s past is →
      Q (past ++ (runScript cut round s is).1) (runScript cut round s is).2
  | [], s, past, h => by
      rw [runScript, List.append_nil]
      exact hcut s past h
  | i :: is, s, past, h => by
      have hok := hround s past i is h
      rw [runScript]
      rcases hr : round s i with ⟨es, out⟩
      rw [hr] at hok
      cases out with
      | error e => exact hok
      | ok x =>
        cases x with
        | inr r => exact hok
        | inl s' =>
          have ih := script_rule cut hround hcut is s' (past ++ es) hok
          rw [List.append_assoc] at ih
          exact ih

end Rule

end ModalRs.Lib
