/-
  File:      ModalRs/Lib/Lockstep.lean
  Subject:   Two computations that ask in lockstep, each with a script of its own.

  The scripts are related answer by answer. Then so are the events, the outcomes and
  what is left of the scripts; nothing is said about how the relations look.

  * `Alike`: two outcomes, both errors or both values, and related.
  * `Lockstep`: related scripts lead to related events, outcomes and rests.
  * `Lockstep.lift`, `ask`, `bind`, `handle`: one rule for each way to build a computation.
-/
import Mathlib.Data.List.Forall2
import ModalRs.Lib.Exchange

namespace ModalRs.Lib

/-- Two outcomes are both errors or both values, and these are related. -/
inductive Alike {ε ε' α α' : Type} (err : ε → ε' → Prop) (val : α → α' → Prop) :
    Except ε α → Except ε' α' → Prop where
  | error {e : ε} {e' : ε'} (h : err e e') : Alike err val (.error e) (.error e')
  | ok {a : α} {a' : α'} (h : val a a') : Alike err val (.ok a) (.ok a')

namespace Exchange

variable {ι ι' ω ω' ε ε' α α' β β' : Type}

/-- **Lockstep**: on related scripts, related events, outcomes and rests. -/
def Lockstep (ans : ι → ι' → Prop) (ev : ω → ω' → Prop) (err : ε → ε' → Prop)
    (val : α → α' → Prop) (m : Exchange ι ω ε α) (m' : Exchange ι' ω' ε' α') : Prop :=
  ∀ is is', List.Forall₂ ans is is' →
    List.Forall₂ ev (m is).1 (m' is').1 ∧ Alike err val (m is).2.1 (m' is').2.1 ∧
      List.Forall₂ ans (m is).2.2 (m' is').2.2

namespace Lockstep

variable {ans : ι → ι' → Prop} {ev : ω → ω' → Prop} {err : ε → ε' → Prop} {val : α → α' → Prop}
  {val' : β → β' → Prop}

theorem lift {out : Except ε α} {out' : Except ε' α'} (h : Alike err val out out') :
    Lockstep ans ev err val (lift out) (lift out') := fun _ _ hs => ⟨.nil, h, hs⟩

theorem pure {a : α} {a' : α'} (h : val a a') :
    Lockstep ans ev err val (pure a) (pure a') := lift (.ok h)

theorem ask {cut : ε} {cut' : ε'} {event : ι → ω} {event' : ι' → ω'} {reply : ι → Except ε α}
    {reply' : ι' → Except ε' α'} (hcut : err cut cut')
    (h : ∀ i i', ans i i' → ev (event i) (event' i') ∧ Alike err val (reply i) (reply' i')) :
    Lockstep ans ev err val (ask cut event reply) (ask cut' event' reply') := by
  intro is is' hs
  cases hs with
  | nil => exact ⟨.nil, .error hcut, .nil⟩
  | cons hi hs =>
    obtain ⟨hevent, hreply⟩ := h _ _ hi
    exact ⟨.cons hevent .nil, hreply, hs⟩

/-- Both second parts run, or neither does. -/
theorem bind {m : Exchange ι ω ε α} {m' : Exchange ι' ω' ε' α'} {f : α → Exchange ι ω ε β}
    {f' : α' → Exchange ι' ω' ε' β'} (hm : Lockstep ans ev err val m m')
    (hf : ∀ a a', val a a' → Lockstep ans ev err val' (f a) (f' a')) :
    Lockstep ans ev err val' (m >>= f) (m' >>= f') := by
  intro is is' hs
  have hfirst := hm is is' hs
  rw [bind_apply, bind_apply]
  generalize m is = run at hfirst
  generalize m' is' = run' at hfirst
  obtain ⟨es, out, rest⟩ := run
  obtain ⟨es', out', rest'⟩ := run'
  obtain ⟨hes, hout, hrest⟩ := hfirst
  cases hout with
  | error h => exact ⟨hes, .error h, hrest⟩
  | ok h =>
    obtain ⟨hes₂, hout₂, hrest₂⟩ := hf _ _ h _ _ hrest
    exact ⟨List.rel_append hes hes₂, hout₂, hrest₂⟩

theorem handle {m : Exchange ι ω ε α} {m' : Exchange ι' ω' ε' α'}
    {f : Except ε α → Exchange ι ω ε β} {f' : Except ε' α' → Exchange ι' ω' ε' β'}
    (hm : Lockstep ans ev err val m m')
    (hf : ∀ out out', Alike err val out out' → Lockstep ans ev err val' (f out) (f' out')) :
    Lockstep ans ev err val' (handle m f) (handle m' f') := by
  intro is is' hs
  have hfirst := hm is is' hs
  unfold Exchange.handle
  generalize m is = run at hfirst
  generalize m' is' = run' at hfirst
  obtain ⟨es, out, rest⟩ := run
  obtain ⟨es', out', rest'⟩ := run'
  obtain ⟨hes, hout, hrest⟩ := hfirst
  obtain ⟨hes₂, hout₂, hrest₂⟩ := hf _ _ hout _ _ hrest
  exact ⟨List.rel_append hes hes₂, hout₂, hrest₂⟩

end Lockstep

end Exchange

end ModalRs.Lib
