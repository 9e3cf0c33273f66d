/-
  File:      ModalRs/Lib/Exchange.lean
  Subject:   Computations that ask the world: replies come from a script, what was asked is left
             behind.

  A computation takes answers from the head of a script. Each answer makes one
  event. It comes back with a value or an error, and with the script that is left.

  * `Exchange`: the computations, a monad.
  * `ask`, `askWhile`: one question, and a loop that asks until it is told enough.
  * `bind_cases`, `handle_cases`: sequences, taken apart.
  * `Within`: what a computation asks, and how it fails, whatever the answers.
  * `FailsFast`: a reply that is a failure is the last one, and the outcome.
  * `Honest`: the events are those of the answers taken, in order. Every
    computation built from the ones above is (`Honest.bind`, `Honest.askWhile`).
  * `Stable`: answers behind the ones it takes change nothing. So are all of them.
  * `Against`: a run against a server, which answers as it likes to what it was
    asked so far. There is only one that ends (`Determined`).
-/
import Mathlib.Data.List.Forall2

namespace ModalRs.Lib

/-- A computation over a script of answers `ι`: its events, its outcome, and the script left. -/
def Exchange (ι ω ε α : Type) : Type := List ι → List ω × Except ε α × List ι

namespace Exchange

variable {ι ω ε α β σ : Type}

instance : Monad (Exchange ι ω ε) where
  pure a is := ([], .ok a, is)
  bind m f is :=
    match m is with
    | (es, .error e, is) => (es, .error e, is)
    | (es, .ok a, is) =>
        let (es', out, is) := f a is
        (es ++ es', out, is)

/-- An outcome that is known already. -/
def lift (out : Except ε α) : Exchange ι ω ε α := fun is => ([], out, is)

/-- One question; `cut` is the outcome when there is no answer. -/
def ask (cut : ε) (event : ι → ω) (reply : ι → Except ε α) : Exchange ι ω ε α
  | [] => ([], .error cut, [])
  | i :: is => ([event i], reply i, is)

/-- Goes on with the outcome, whatever it is. -/
def handle (m : Exchange ι ω ε α) (f : Except ε α → Exchange ι ω ε β) : Exchange ι ω ε β := fun is =>
  match m is with
  | (es, out, is) =>
      let (es', out', is) := f out is
      (es ++ es', out', is)

/-- Asks in rounds until a reply is an error or a value. -/
def askWhile (cut : ε) (event : σ → ι → ω) (reply : σ → ι → Except ε (σ ⊕ α)) :
    σ → Exchange ι ω ε α
  | _, [] => ([], .error cut, [])
  | s, i :: is =>
      match reply s i with
      | .error e => ([event s i], .error e, is)
      | .ok (.inr a) => ([event s i], .ok a, is)
      | .ok (.inl s') =>
          let (es, out, is) := askWhile cut event reply s' is
          (event s i :: es, out, is)

section Cases

variable {m : Exchange ι ω ε α} {f : α → Exchange ι ω ε β} {is rest : List ι} {es : List ω}
  {out : Except ε β}

theorem bind_apply (m : Exchange ι ω ε α) (f : α → Exchange ι ω ε β) (is : List ι) :
    (m >>= f) is =
      match m is with
      | (es, .error e, is) => (es, .error e, is)
      | (es, .ok a, is) =>
          let (es', out, is) := f a is
          (es ++ es', out, is) := rfl

theorem pure_apply (a : α) (is : List ι) : (pure a : Exchange ι ω ε α) is = ([], .ok a, is) := rfl

/-- What asks nothing leaves no event and the whole script. -/
theorem lift_cases {x : Except ε β} (h : (lift x : Exchange ι ω ε β) is = (es, out, rest)) :
    es = [] ∧ out = x ∧ rest = is := by
  cases h
  exact ⟨rfl, rfl, rfl⟩

theorem ask_cons (cut : ε) (event : ι → ω) (reply : ι → Except ε α) (i : ι) (is : List ι) :
    ask cut event reply (i :: is) = ([event i], reply i, is) := rfl

/-- **A sequence, taken apart**: its first part failed, or both parts ran. -/
theorem bind_cases (h : (m >>= f) is = (es, out, rest)) :
    (∃ e, m is = (es, .error e, rest) ∧ out = .error e) ∨
    ∃ es₁ a is₁ es₂, m is = (es₁, .ok a, is₁) ∧ f a is₁ = (es₂, out, rest) ∧ es = es₁ ++ es₂ := by
  rw [bind_apply] at h
  rcases hm : m is with ⟨es₁, out₁, is₁⟩
  rw [hm] at h
  cases out₁ with
  | error e =>
    cases h
    exact Or.inl ⟨e, rfl, rfl⟩
  | ok a =>
    rcases hf : f a is₁ with ⟨es₂, out₂, is₂⟩
    simp only [hf] at h
    cases h
    exact Or.inr ⟨es₁, a, is₁, es₂, rfl, hf, rfl⟩

/-- **A handled computation, taken apart**: both parts ran. -/
theorem handle_cases {g : Except ε α → Exchange ι ω ε β}
    (h : handle m g is = (es, out, rest)) :
    ∃ es₁ out₁ is₁ es₂, m is = (es₁, out₁, is₁) ∧ g out₁ is₁ = (es₂, out, rest) ∧
      es = es₁ ++ es₂ := by
  rcases hm : m is with ⟨es₁, out₁, is₁⟩
  rcases hg : g out₁ is₁ with ⟨es₂, out₂, is₂⟩
  rw [handle, hm] at h
  simp only [hg] at h
  cases h
  exact ⟨es₁, out₁, is₁, es₂, rfl, hg, rfl⟩

/-- A first part that fails. -/
theorem bind_of_error {e : ε} (hm : m is = (es, .error e, rest)) :
    (m >>= f) is = (es, .error e, rest) := by
  rw [bind_apply, hm]

/-- A first part that asks nothing and succeeds. -/
theorem bind_of_silent {a : α} (hm : m is = ([], .ok a, is)) : (m >>= f) is = f a is := by
  rw [bind_apply, hm]
  rfl

end Cases

section Rounds

variable {cut : ε} {event : σ → ι → ω} {reply : σ → ι → Except ε (σ ⊕ α)} {s s' : σ} {i : ι}
  {is rest : List ι} {es : List ω} {out : Except ε α}

/-- A round that fails. -/
theorem askWhile_error {e : ε} (h : reply s i = .error e) :
    askWhile cut event reply s (i :: is) = ([event s i], .error e, is) := by
  rw [askWhile, h]

/-- A round that is told enough. -/
theorem askWhile_value {a : α} (h : reply s i = .ok (.inr a)) :
    askWhile cut event reply s (i :: is) = ([event s i], .ok a, is) := by
  rw [askWhile, h]

/-- A round that leads to another. -/
theorem askWhile_goes (h : reply s i = .ok (.inl s'))
    (hrest : askWhile cut event reply s' is = (es, out, rest)) :
    askWhile cut event reply s (i :: is) = (event s i :: es, out, rest) := by
  rw [askWhile, h]
  simp only [hrest]

end Rounds

/-! ## Bounds on what is asked -/

/-- Whatever the answers, all events are `P` and a failure is `Q`. -/
def Within (P : ω → Prop) (Q : ε → Prop) (m : Exchange ι ω ε α) : Prop :=
  ∀ is es out rest, m is = (es, out, rest) → (∀ e ∈ es, P e) ∧ ∀ e, out = .error e → Q e

section Bounds

variable {P : ω → Prop} {Q : ε → Prop}

theorem Within.lift {out : Except ε α} (h : ∀ e, out = .error e → Q e) :
    Within P Q (lift out : Exchange ι ω ε α) := by
  intro is es out' rest hrun
  cases hrun
  exact ⟨fun _ hmem => (List.not_mem_nil hmem).elim, h⟩

theorem Within.pure (a : α) : Within P Q (pure a : Exchange ι ω ε α) :=
  Within.lift nofun

theorem Within.ask {cut : ε} {event : ι → ω} {reply : ι → Except ε α} (hcut : Q cut)
    (hevent : ∀ i, P (event i)) (hreply : ∀ i e, reply i = .error e → Q e) :
    Within P Q (ask cut event reply) := by
  intro is es out rest hrun
  cases is with
  | nil =>
    cases hrun
    refine ⟨fun _ hmem => (List.not_mem_nil hmem).elim, fun e h => ?_⟩
    cases h
    exact hcut
  | cons i is =>
    cases hrun
    refine ⟨fun e hmem => ?_, hreply i⟩
    rw [List.mem_singleton.mp hmem]
    exact hevent i

theorem Within.bind {m : Exchange ι ω ε α} {f : α → Exchange ι ω ε β} (hm : Within P Q m)
    (hf : ∀ a, Within P Q (f a)) : Within P Q (m >>= f) := by
  intro is es out rest hrun
  rcases bind_cases hrun with ⟨e, hfail, rfl⟩ | ⟨es₁, a, is₁, es₂, h₁, h₂, rfl⟩
  · obtain ⟨hes, he⟩ := hm _ _ _ _ hfail
    refine ⟨hes, fun e' h => ?_⟩
    cases h
    exact he e rfl
  · obtain ⟨hes₁, -⟩ := hm _ _ _ _ h₁
    obtain ⟨hes₂, hout⟩ := hf a _ _ _ _ h₂
    refine ⟨fun e hmem => ?_, hout⟩
    rcases List.mem_append.mp hmem with hmem | hmem
    · exact hes₁ e hmem
    · exact hes₂ e hmem

end Bounds

/-! ## Failing at once -/

/-- An event that fails is the last one, and its failure is the outcome. -/
def FailsFast (failure : ω → Option ε) (m : Exchange ι ω ε α) : Prop :=
  ∀ is es out rest, m is = (es, out, rest) → ∀ (k : Nat) (e : ω) (err : ε),
    es[k]? = some e → failure e = some err → out = .error err ∧ es.length = k + 1

section Failures

variable {failure : ω → Option ε}

theorem FailsFast.lift (out : Except ε α) : FailsFast failure (lift out : Exchange ι ω ε α) := by
  intro is es out' rest hrun k e err hk _
  cases hrun
  cases hk

theorem FailsFast.pure (a : α) : FailsFast failure (pure a : Exchange ι ω ε α) :=
  FailsFast.lift (.ok a)

theorem FailsFast.ask {cut : ε} {event : ι → ω} {reply : ι → Except ε α}
    (hreply : ∀ i err, failure (event i) = some err → reply i = .error err) :
    FailsFast failure (ask cut event reply) := by
  intro is es out rest hrun k e err hk herr
  cases is with
  | nil =>
    cases hrun
    cases hk
  | cons i is =>
    cases hrun
    cases k with
    | zero =>
      cases hk
      exact ⟨hreply i err herr, rfl⟩
    | succ k => cases hk

theorem FailsFast.bind {m : Exchange ι ω ε α} {f : α → Exchange ι ω ε β}
    (hm : FailsFast failure m) (hf : ∀ a, FailsFast failure (f a)) :
    FailsFast failure (m >>= f) := by
  intro is es out rest hrun k e err hk herr
  rcases bind_cases hrun with ⟨e', hfail, rfl⟩ | ⟨es₁, a, is₁, es₂, h₁, h₂, rfl⟩
  · obtain ⟨hout, hlength⟩ := hm _ _ _ _ hfail k e err hk herr
    cases hout
    exact ⟨rfl, hlength⟩
  · by_cases hfirst : k < es₁.length
    · -- the first part came back with a value, so that nothing failed in it
      rw [List.getElem?_append_left hfirst] at hk
      obtain ⟨hout, -⟩ := hm _ _ _ _ h₁ k e err hk herr
      cases hout
    · rw [List.getElem?_append_right (Nat.le_of_not_lt hfirst)] at hk
      obtain ⟨hout, hlength⟩ := hf a _ _ _ _ h₂ _ e err hk herr
      refine ⟨hout, ?_⟩
      rw [List.length_append]
      omega

end Failures

/-! ## Honesty -/

/-- The events are those of the answers taken from the script, in order; and the outcome is one of
    `cut` only when the script has run out. -/
def Honest (cut : ε → Prop) (answered : ω → ι → Prop) (m : Exchange ι ω ε α) : Prop :=
  ∀ is es out rest, m is = (es, out, rest) →
    ∃ taken, is = taken ++ rest ∧ List.Forall₂ answered es taken ∧
      ∀ e, cut e → out = .error e → rest = []

section Honesty

variable {cut : ε → Prop} {answered : ω → ι → Prop}

theorem Honest.lift {out : Except ε α} (hcut : ∀ e, cut e → out ≠ .error e) :
    Honest cut answered (lift out : Exchange ι ω ε α) := by
  intro is es out' rest h
  cases h
  exact ⟨[], rfl, .nil, fun e he h => absurd h (hcut e he)⟩

theorem Honest.pure (a : α) : Honest cut answered (pure a : Exchange ι ω ε α) :=
  Honest.lift fun e _ h => by cases h

theorem Honest.bind {m : Exchange ι ω ε α} {f : α → Exchange ι ω ε β}
    (hm : Honest cut answered m) (hf : ∀ a, Honest cut answered (f a)) :
    Honest cut answered (m >>= f) := by
  intro is es out rest h
  rcases bind_cases h with ⟨e, hfail, rfl⟩ | ⟨es₁, a, is₁, es₂, h₁, h₂, rfl⟩
  · obtain ⟨taken, rfl, hans, hrest⟩ := hm _ _ _ _ hfail
    exact ⟨taken, rfl, hans, fun e he h => hrest e he (by cases h; rfl)⟩
  · obtain ⟨taken₁, rfl, hans₁, -⟩ := hm _ _ _ _ h₁
    obtain ⟨taken₂, rfl, hans₂, hrest⟩ := hf a _ _ _ _ h₂
    exact ⟨taken₁ ++ taken₂, (List.append_assoc _ _ _).symm, List.rel_append hans₁ hans₂, hrest⟩

/-- A handler passes on an outcome of `cut`; it is asked of every other one. -/
theorem Honest.handle {m : Exchange ι ω ε α} {f : Except ε α → Exchange ι ω ε β}
    (hm : Honest cut answered m) (hcut : ∀ e, cut e → f (.error e) = Exchange.lift (.error e))
    (hf : ∀ out, (∀ e, cut e → out ≠ .error e) → Honest cut answered (f out)) :
    Honest cut answered (handle m f) := by
  intro is es out rest h
  obtain ⟨es₁, out₁, is₁, es₂, h₁, h₂, rfl⟩ := handle_cases h
  obtain ⟨taken₁, rfl, hans₁, hrest₁⟩ := hm _ _ _ _ h₁
  by_cases hpassed : ∃ e, cut e ∧ out₁ = .error e
  · obtain ⟨e, he, rfl⟩ := hpassed
    rw [hcut e he] at h₂
    obtain ⟨rfl, rfl, rfl⟩ := lift_cases h₂
    refine ⟨taken₁, rfl, ?_, fun _ _ _ => hrest₁ e he rfl⟩
    rw [List.append_nil]
    exact hans₁
  · have hother : ∀ e, cut e → out₁ ≠ .error e := fun e he hout => hpassed ⟨e, he, hout⟩
    obtain ⟨taken₂, rfl, hans₂, hrest⟩ := hf out₁ hother _ _ _ _ h₂
    exact ⟨taken₁ ++ taken₂, (List.append_assoc _ _ _).symm, List.rel_append hans₁ hans₂, hrest⟩

theorem Honest.ite {p : Prop} [Decidable p] {m n : Exchange ι ω ε α}
    (hm : Honest cut answered m) (hn : Honest cut answered n) :
    Honest cut answered (if p then m else n) := by
  by_cases h : p
  · rw [if_pos h]
    exact hm
  · rw [if_neg h]
    exact hn

theorem Honest.ask {unanswered : ε} {event : ι → ω} {reply : ι → Except ε α}
    (hevent : ∀ i, answered (event i) i) (hcut : ∀ i e, cut e → reply i ≠ .error e) :
    Honest cut answered (ask unanswered event reply) := by
  intro is es out rest h
  cases is with
  | nil =>
    cases h
    exact ⟨[], rfl, .nil, fun _ _ _ => rfl⟩
  | cons i is =>
    cases h
    exact ⟨[i], rfl, .cons (hevent i) .nil, fun e he h => absurd h (hcut i e he)⟩

theorem Honest.askWhile {unanswered : ε} {event : σ → ι → ω}
    {reply : σ → ι → Except ε (σ ⊕ α)} (hevent : ∀ s i, answered (event s i) i)
    (hcut : ∀ s i e, cut e → reply s i ≠ .error e) (s : σ) :
    Honest cut answered (askWhile unanswered event reply s) := by
  intro is
  induction is generalizing s with
  | nil =>
    intro es out rest h
    cases h
    exact ⟨[], rfl, .nil, fun _ _ _ => rfl⟩
  | cons i is ih =>
    intro es out rest h
    rcases hr : reply s i with e | (s' | a)
    · rw [askWhile_error hr] at h
      cases h
      refine ⟨[i], rfl, .cons (hevent s i) .nil, fun e' he h => ?_⟩
      cases h
      exact absurd hr (hcut s i e he)
    · rcases hloop : Exchange.askWhile unanswered event reply s' is with ⟨es', out', rest'⟩
      rw [askWhile_goes hr hloop] at h
      cases h
      obtain ⟨taken, rfl, hans, hrest⟩ := ih s' _ _ _ hloop
      exact ⟨i :: taken, rfl, .cons (hevent s i) hans, hrest⟩
    · rw [askWhile_value hr] at h
      cases h
      exact ⟨[i], rfl, .cons (hevent s i) .nil, fun e _ h => by cases h⟩

end Honesty

/-! ## Stability -/

/-- Answers behind the ones it takes change nothing, unless it was cut off. -/
def Stable (cut : ε) (m : Exchange ι ω ε α) : Prop :=
  ∀ is es out rest, m is = (es, out, rest) → out ≠ .error cut →
    ∀ more, m (is ++ more) = (es, out, rest ++ more)

section Stability

variable {cut : ε}

theorem Stable.lift (out : Except ε α) : Stable cut (lift out : Exchange ι ω ε α) := by
  intro is es out' rest h _ more
  cases h
  rfl

theorem Stable.pure (a : α) : Stable cut (pure a : Exchange ι ω ε α) := Stable.lift (.ok a)

theorem Stable.bind {m : Exchange ι ω ε α} {f : α → Exchange ι ω ε β} (hm : Stable cut m)
    (hf : ∀ a, Stable cut (f a)) : Stable cut (m >>= f) := by
  intro is es out rest h hcut more
  rcases bind_cases h with ⟨e, hfail, rfl⟩ | ⟨es₁, a, is₁, es₂, h₁, h₂, rfl⟩
  · refine bind_of_error (hm _ _ _ _ hfail (fun he => hcut ?_) more)
    cases he
    rfl
  · rw [bind_apply, hm _ _ _ _ h₁ (fun he => by cases he) more]
    simp only [hf a _ _ _ _ h₂ hcut more]

theorem Stable.ite {p : Prop} [Decidable p] {m n : Exchange ι ω ε α} (hm : Stable cut m)
    (hn : Stable cut n) : Stable cut (if p then m else n) := by
  by_cases h : p
  · rw [if_pos h]
    exact hm
  · rw [if_neg h]
    exact hn

theorem Stable.ask (event : ι → ω) (reply : ι → Except ε α) :
    Stable cut (ask cut event reply) := by
  intro is es out rest h hcut more
  cases is with
  | nil =>
    cases h
    exact absurd rfl hcut
  | cons i is =>
    cases h
    rfl

theorem Stable.askWhile (event : σ → ι → ω) (reply : σ → ι → Except ε (σ ⊕ α)) (s : σ) :
    Stable cut (askWhile cut event reply s) := by
  intro is
  induction is generalizing s with
  | nil =>
    intro es out rest h hcut
    cases h
    exact absurd rfl hcut
  | cons i is ih =>
    intro es out rest h hcut more
    rcases hr : reply s i with e | (s' | a)
    · rw [askWhile_error hr] at h
      cases h
      exact askWhile_error hr
    · rcases hloop : Exchange.askWhile cut event reply s' is with ⟨es', out', rest'⟩
      rw [askWhile_goes hr hloop] at h
      cases h
      exact askWhile_goes hr (ih s' _ _ _ hloop hcut more)
    · rw [askWhile_value hr] at h
      cases h
      exact askWhile_value hr

end Stability

/-! ## Runs against a server -/

/-- The answers of the script are those of a server that sees the events so far. -/
def Plays (serve : List ω → ι) (es : List ω) (is : List ι) : Prop :=
  ∀ k, k < es.length → is[k]? = some (serve (es.take k))

/-- A run against a server: its events and its outcome. -/
def Against (serve : List ω → ι) (m : Exchange ι ω ε α) (es : List ω) (out : Except ε α) : Prop :=
  ∃ is rest, m is = (es, out, rest) ∧ Plays serve es is

/-- Against one server there is only one run that is not cut off. -/
def Determined (cut : ε) (m : Exchange ι ω ε α) : Prop :=
  ∀ serve es₁ out₁ es₂ out₂, Against serve m es₁ out₁ → Against serve m es₂ out₂ →
    out₁ ≠ .error cut → out₂ ≠ .error cut → es₁ = es₂ ∧ out₁ = out₂

section Servers

variable {cut : ε} {cuts : ε → Prop} {answered : ω → ι → Prop} {serve : List ω → ι}
  {es es₁ es₂ : List ω} {is taken rest : List ι}

theorem Plays.first {e : ω} {i : ι} (h : Plays serve (e :: es) (i :: is)) : i = serve [] :=
  Option.some.inj (h 0 (Nat.zero_lt_succ _))

theorem Plays.left (h : Plays serve (es₁ ++ es₂) is) : Plays serve es₁ is := by
  intro k hk
  have hlength : k < (es₁ ++ es₂).length := by
    rw [List.length_append]
    exact Nat.lt_add_right _ hk
  rw [h k hlength, List.take_append_of_le_length (Nat.le_of_lt hk)]

/-- Behind some events the server goes on from them. -/
theorem Plays.right (h : Plays serve (es₁ ++ es₂) (taken ++ rest))
    (htaken : taken.length = es₁.length) : Plays (fun es => serve (es₁ ++ es)) es₂ rest := by
  intro k hk
  have hlength : es₁.length + k < (es₁ ++ es₂).length := by
    rw [List.length_append]
    exact Nat.add_lt_add_left hk _
  have hanswer := h _ hlength
  rwa [List.take_length_add_append, ← htaken, List.getElem?_append_right (Nat.le_add_right _ _),
    Nat.add_sub_cancel_left] at hanswer

/-- **A sequence against a server, taken apart**: the second part goes on from the first. -/
theorem Against.bind_cases {m : Exchange ι ω ε α} {f : α → Exchange ι ω ε β} {out : Except ε β}
    (hm : Honest cuts answered m) (h : Against serve (m >>= f) es out) :
    (∃ e, Against serve m es (.error e) ∧ out = .error e) ∨
    ∃ es₁ a es₂, Against serve m es₁ (.ok a) ∧
      Against (fun es => serve (es₁ ++ es)) (f a) es₂ out ∧ es = es₁ ++ es₂ := by
  obtain ⟨is, rest, hrun, hplays⟩ := h
  rcases Exchange.bind_cases hrun with ⟨e, hfail, rfl⟩ | ⟨es₁, a, is₁, es₂, h₁, h₂, rfl⟩
  · exact Or.inl ⟨e, ⟨is, rest, hfail, hplays⟩, rfl⟩
  · obtain ⟨taken, rfl, hans, -⟩ := hm _ _ _ _ h₁
    exact Or.inr ⟨es₁, a, es₂, ⟨_, is₁, h₁, hplays.left⟩,
      ⟨is₁, rest, h₂, hplays.right hans.length_eq.symm⟩, rfl⟩

theorem Determined.lift (out : Except ε α) :
    Determined cut (lift out : Exchange ι ω ε α) := by
  rintro serve es₁ out₁ es₂ out₂ ⟨is₁, rest₁, h₁, -⟩ ⟨is₂, rest₂, h₂, -⟩ - -
  cases h₁
  cases h₂
  exact ⟨rfl, rfl⟩

theorem Determined.pure (a : α) : Determined cut (pure a : Exchange ι ω ε α) :=
  Determined.lift (.ok a)

theorem Determined.ite {p : Prop} [Decidable p] {m n : Exchange ι ω ε α} (hm : Determined cut m)
    (hn : Determined cut n) : Determined cut (if p then m else n) := by
  by_cases h : p
  · rw [if_pos h]
    exact hm
  · rw [if_neg h]
    exact hn

theorem Determined.bind {m : Exchange ι ω ε α} {f : α → Exchange ι ω ε β}
    (hhonest : Honest cuts answered m) (hm : Determined cut m) (hf : ∀ a, Determined cut (f a)) :
    Determined cut (m >>= f) := by
  intro serve es₁ out₁ es₂ out₂ h₁ h₂ hcut₁ hcut₂
  have hvalue : ∀ a : α, (.ok a : Except ε α) ≠ .error cut := fun a h => nomatch h
  have herror : ∀ {e : ε}, (.error e : Except ε β) ≠ .error cut →
      (.error e : Except ε α) ≠ .error cut := by
    intro e hne h
    cases h
    exact hne rfl
  rcases h₁.bind_cases hhonest with ⟨e₁, hm₁, rfl⟩ | ⟨_, a₁, _, hm₁, hf₁, rfl⟩
  · rcases h₂.bind_cases hhonest with ⟨e₂, hm₂, rfl⟩ | ⟨_, a₂, _, hm₂, hf₂, rfl⟩
    · obtain ⟨rfl, hsame⟩ := hm _ _ _ _ _ hm₁ hm₂ (herror hcut₁) (herror hcut₂)
      cases hsame
      exact ⟨rfl, rfl⟩
    · obtain ⟨-, hsame⟩ := hm _ _ _ _ _ hm₁ hm₂ (herror hcut₁) (hvalue a₂)
      cases hsame
  · rcases h₂.bind_cases hhonest with ⟨e₂, hm₂, rfl⟩ | ⟨_, a₂, _, hm₂, hf₂, rfl⟩
    · obtain ⟨-, hsame⟩ := hm _ _ _ _ _ hm₁ hm₂ (hvalue a₁) (herror hcut₂)
      cases hsame
    · obtain ⟨rfl, hsame⟩ := hm _ _ _ _ _ hm₁ hm₂ (hvalue a₁) (hvalue a₂)
      cases hsame
      obtain ⟨rfl, rfl⟩ := hf a₁ _ _ _ _ _ hf₁ hf₂ hcut₁ hcut₂
      exact ⟨rfl, rfl⟩

theorem Determined.ask (event : ι → ω) (reply : ι → Except ε α) :
    Determined cut (ask cut event reply) := by
  rintro serve es₁ out₁ es₂ out₂ ⟨is₁, rest₁, h₁, hplays₁⟩ ⟨is₂, rest₂, h₂, hplays₂⟩ hcut₁ hcut₂
  cases is₁ with
  | nil =>
    cases h₁
    exact absurd rfl hcut₁
  | cons i₁ is₁ =>
    cases is₂ with
    | nil =>
      cases h₂
      exact absurd rfl hcut₂
    | cons i₂ is₂ =>
      cases h₁
      cases h₂
      rw [hplays₁.first, hplays₂.first]
      exact ⟨rfl, rfl⟩

/-- What is behind a round that is not cut off: the server answered it. -/
theorem Against.askWhile_round {event : σ → ι → ω} {reply : σ → ι → Except ε (σ ⊕ α)} {s : σ}
    {out : Except ε α} (h : Against serve (askWhile cut event reply s) es out)
    (hcut : out ≠ .error cut) :
    match reply s (serve []) with
    | .error e => es = [event s (serve [])] ∧ out = .error e
    | .ok (.inr a) => es = [event s (serve [])] ∧ out = .ok a
    | .ok (.inl s') => ∃ es', es = event s (serve []) :: es' ∧
        Against (fun es => serve (event s (serve []) :: es)) (askWhile cut event reply s') es'
          out := by
  obtain ⟨is, rest, hrun, hplays⟩ := h
  cases is with
  | nil =>
    cases hrun
    exact absurd rfl hcut
  | cons i is =>
    rcases hr : reply s i with e | (s' | a)
    · rw [askWhile_error hr] at hrun
      cases hrun
      have hfirst := hplays.first
      subst hfirst
      rw [hr]
      exact ⟨rfl, rfl⟩
    · rcases hloop : askWhile cut event reply s' is with ⟨es', out', rest'⟩
      rw [askWhile_goes hr hloop] at hrun
      cases hrun
      have hfirst := hplays.first
      subst hfirst
      have hsplit : Plays serve ([event s (serve [])] ++ es') ([serve []] ++ is) := hplays
      rw [hr]
      exact ⟨es', rfl, is, _, hloop, hsplit.right rfl⟩
    · rw [askWhile_value hr] at hrun
      cases hrun
      have hfirst := hplays.first
      subst hfirst
      rw [hr]
      exact ⟨rfl, rfl⟩

theorem Determined.askWhile (event : σ → ι → ω) (reply : σ → ι → Except ε (σ ⊕ α)) (s : σ) :
    Determined cut (askWhile cut event reply s) := by
  intro serve es₁
  -- the rounds of the first run are those of the second, one after the other
  induction es₁ generalizing s serve with
  | nil =>
    intro out₁ es₂ out₂ h₁ _ hcut₁ _
    have hround := h₁.askWhile_round hcut₁
    rcases hr : reply s (serve []) with e | (s' | a)
    · rw [hr] at hround
      cases hround.1
    · rw [hr] at hround
      obtain ⟨es', hes, -⟩ := hround
      cases hes
    · rw [hr] at hround
      cases hround.1
  | cons e₁ es₁ ih =>
    intro out₁ es₂ out₂ h₁ h₂ hcut₁ hcut₂
    have hround₁ := h₁.askWhile_round hcut₁
    have hround₂ := h₂.askWhile_round hcut₂
    rcases hr : reply s (serve []) with e | (s' | a)
    · rw [hr] at hround₁ hround₂
      exact ⟨hround₁.1.trans hround₂.1.symm, hround₁.2.trans hround₂.2.symm⟩
    · rw [hr] at hround₁ hround₂
      obtain ⟨es', hes, hrest₁⟩ := hround₁
      obtain ⟨es'', rfl, hrest₂⟩ := hround₂
      cases hes
      obtain ⟨rfl, rfl⟩ := ih _ _ _ _ _ hrest₁ hrest₂ hcut₁ hcut₂
      exact ⟨rfl, rfl⟩
    · rw [hr] at hround₁ hround₂
      exact ⟨hround₁.1.trans hround₂.1.symm, hround₁.2.trans hround₂.2.symm⟩

end Servers

end Exchange

end ModalRs.Lib
