/-
  File:      ModalRs/Lib/History.lean
  Subject:   Preconditions and postconditions on what was asked so far.

  A computation that asks the world leaves events behind. What it may ask next, and
  what holds of its outcome, is said about all events up to then.

  * `Heeds`: every event is allowed by the ones before it, and the outcome keeps a
    postcondition on all of them.
  * `Heeds.ask`, `Heeds.bind`, `Heeds.handle`, `Heeds.mono`: the rules.
-/
import ModalRs.Lib.Exchange

namespace ModalRs.Lib

namespace Exchange

variable {ι ω ε α β : Type}

/-- Behind the events `past`, whatever the answers are: each event is allowed by those before it,
    and the outcome is as promised of all of them. -/
def Heeds (allowed : List ω → ω → Prop) (past : List ω) (m : Exchange ι ω ε α)
    (post : List ω → Except ε α → Prop) : Prop :=
  ∀ is es out rest, m is = (es, out, rest) →
    (∀ k e, es[k]? = some e → allowed (past ++ es.take k) e) ∧ post (past ++ es) out

variable {allowed : List ω → ω → Prop} {past : List ω} {m : Exchange ι ω ε α}
  {post : List ω → Except ε α → Prop}

/-- Events that are allowed one part after the other. -/
theorem allowed_append {es₁ es₂ : List ω}
    (h₁ : ∀ k e, es₁[k]? = some e → allowed (past ++ es₁.take k) e)
    (h₂ : ∀ k e, es₂[k]? = some e → allowed (past ++ es₁ ++ es₂.take k) e) :
    ∀ k e, (es₁ ++ es₂)[k]? = some e → allowed (past ++ (es₁ ++ es₂).take k) e := by
  intro k e hk
  by_cases hfirst : k < es₁.length
  · rw [List.getElem?_append_left hfirst] at hk
    rw [List.take_append_of_le_length (Nat.le_of_lt hfirst)]
    exact h₁ k e hk
  · have hle := Nat.le_of_not_lt hfirst
    rw [List.getElem?_append_right hle] at hk
    rw [List.take_append, List.take_of_length_le hle, ← List.append_assoc]
    exact h₂ _ e hk

theorem Heeds.lift {out : Except ε α} (h : post past out) :
    Heeds allowed past (lift out : Exchange ι ω ε α) post := by
  intro is es out' rest hrun
  cases hrun
  refine ⟨(by intro k e hk; cases hk), ?_⟩
  rw [List.append_nil]
  exact h

theorem Heeds.pure {a : α} (h : post past (.ok a)) :
    Heeds allowed past (pure a : Exchange ι ω ε α) post :=
  Heeds.lift h

theorem Heeds.ask {cut : ε} {event : ι → ω} {reply : ι → Except ε α} (hcut : post past (.error cut))
    (hevent : ∀ i, allowed past (event i)) (hreply : ∀ i, post (past ++ [event i]) (reply i)) :
    Heeds allowed past (ask cut event reply) post := by
  intro is es out rest hrun
  cases is with
  | nil => exact Heeds.lift hcut [] es out rest hrun
  | cons i is =>
    cases hrun
    refine ⟨fun k e hk => ?_, hreply i⟩
    cases k with
    | zero =>
      cases hk
      rw [List.take_zero, List.append_nil]
      exact hevent i
    | succ k => cases hk

/-- **Goes on with the outcome**, whatever it is. -/
theorem Heeds.handle {f : Except ε α → Exchange ι ω ε β} {mid : List ω → Except ε α → Prop}
    {post : List ω → Except ε β → Prop} (hm : Heeds allowed past m mid)
    (hf : ∀ past' out, mid past' out → Heeds allowed past' (f out) post) :
    Heeds allowed past (handle m f) post := by
  intro is es out rest hrun
  obtain ⟨es₁, out₁, is₁, es₂, h₁, h₂, rfl⟩ := handle_cases hrun
  obtain ⟨hallowed₁, hmid⟩ := hm _ _ _ _ h₁
  obtain ⟨hallowed₂, hpost⟩ := hf _ _ hmid _ _ _ _ h₂
  refine ⟨allowed_append hallowed₁ hallowed₂, ?_⟩
  rw [← List.append_assoc]
  exact hpost

/-- **One after the other**: a failure of the first is the outcome. -/
theorem Heeds.bind {f : α → Exchange ι ω ε β} {mid : List ω → Except ε α → Prop}
    {post : List ω → Except ε β → Prop} (hm : Heeds allowed past m mid)
    (hf : ∀ past' a, mid past' (.ok a) → Heeds allowed past' (f a) post)
    (herror : ∀ past' e, mid past' (.error e) → post past' (.error e)) :
    Heeds allowed past (m >>= f) post := by
  intro is es out rest hrun
  rcases bind_cases hrun with ⟨e, hfail, rfl⟩ | ⟨es₁, a, is₁, es₂, h₁, h₂, rfl⟩
  · obtain ⟨hallowed, hmid⟩ := hm _ _ _ _ hfail
    exact ⟨hallowed, herror _ _ hmid⟩
  · obtain ⟨hallowed₁, hmid⟩ := hm _ _ _ _ h₁
    obtain ⟨hallowed₂, hpost⟩ := hf _ _ hmid _ _ _ _ h₂
    refine ⟨allowed_append hallowed₁ hallowed₂, ?_⟩
    rw [← List.append_assoc]
    exact hpost

theorem Heeds.mono {post' : List ω → Except ε α → Prop} (h : Heeds allowed past m post)
    (hpost : ∀ past' out, post past' out → post' past' out) : Heeds allowed past m post' := by
  intro is es out rest hrun
  obtain ⟨hallowed, hout⟩ := h _ _ _ _ hrun
  exact ⟨hallowed, hpost _ _ hout⟩

end Exchange

end ModalRs.Lib
