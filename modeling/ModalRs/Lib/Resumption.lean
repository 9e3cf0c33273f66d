/-
  File:      ModalRs/Lib/Resumption.lean
  Subject:   Programs that act step by step, and what they keep to whatever they are answered.

  A program is done with a value, or it performs an action and its answer decides
  how it goes on. What an action does is left to whoever runs the program.

  * `Resumption`: the programs, a monad; `interpret`: a program run alone, from a
    state that answers its actions.
  * `Follows p es q`: after the answered actions `es`, what is left of `p` is `q`.
  * `Discipline`, `Keeps`: an automaton that reads answered actions, and the programs
    that it never stops; `keeps_bind` builds them, `keeps_follows` uses them.
  * `Discipline.after_invariant`: what the automaton keeps.
-/
import Mathlib.Logic.Basic
import Mathlib.Data.List.Induction

namespace ModalRs.Lib

/-- A program over actions `Act`, each answered in its own type. -/
inductive Resumption (Act : Type) (Reply : Act → Type) (α : Type) where
  | done (a : α)
  | act (a : Act) (next : Reply a → Resumption Act Reply α)

/-- An action with its answer. -/
structure Answered (Act : Type) (Reply : Act → Type) where
  action : Act
  reply : Reply action

namespace Resumption

variable {Act : Type} {Reply : Act → Type} {α β γ σ : Type}

def bind : Resumption Act Reply α → (α → Resumption Act Reply β) → Resumption Act Reply β
  | .done a, f => f a
  | .act a next, f => .act a fun r => (next r).bind f

instance : Monad (Resumption Act Reply) where
  pure := .done
  bind := bind

/-! ## Running alone -/

/-- A program run alone: `perform` answers each action and moves the state. -/
def interpret (perform : σ → (a : Act) → Reply a × σ) : Resumption Act Reply α → σ → α × σ
  | .done a, s => (a, s)
  | .act a next, s => (next (perform s a).1).interpret perform (perform s a).2

/-- **A sequence run alone** is its first part, then the second. -/
theorem interpret_bind (perform : σ → (a : Act) → Reply a × σ) (p : Resumption Act Reply α)
    (f : α → Resumption Act Reply β) (s : σ) :
    (p >>= f).interpret perform s =
      (f (p.interpret perform s).1).interpret perform (p.interpret perform s).2 := by
  induction p generalizing s with
  | done a => rfl
  | act a next ih => exact ih _ _

/-! ## Paths -/

/-- After the answered actions `es`, what is left of a program. -/
inductive Follows : Resumption Act Reply α → List (Answered Act Reply) →
    Resumption Act Reply α → Prop where
  | refl (p : Resumption Act Reply α) : Follows p [] p
  | act (a : Act) (next : Reply a → Resumption Act Reply α) (r : Reply a)
      {es : List (Answered Act Reply)} {q : Resumption Act Reply α} (h : Follows (next r) es q) :
      Follows (.act a next) (⟨a, r⟩ :: es) q

/-- One more action. -/
theorem Follows.snoc {p : Resumption Act Reply α} {es : List (Answered Act Reply)} {a : Act}
    {next : Reply a → Resumption Act Reply α} (h : Follows p es (.act a next)) (r : Reply a) :
    Follows p (es ++ [⟨a, r⟩]) (next r) := by
  generalize hq : Resumption.act a next = q at h
  induction h with
  | refl p =>
    subst hq
    exact .act a next r (.refl _)
  | act b next' r' h ih => exact .act b next' r' (ih hq)

theorem Follows.of_done {a : α} {es : List (Answered Act Reply)} {q : Resumption Act Reply α}
    (h : Follows (.done a) es q) : es = [] ∧ q = .done a := by
  cases h
  exact ⟨rfl, rfl⟩

/-! ## Disciplines -/

/-- What each answered action leads to, in each mode; `none` where it is not allowed. -/
abbrev Discipline (Act : Type) (Reply : Act → Type) (μ : Type) : Type :=
  μ → Answered Act Reply → Option μ

variable {μ : Type} {d : Discipline Act Reply μ}

/-- The mode after some answered actions. -/
def Discipline.after (d : Discipline Act Reply μ) : μ → List (Answered Act Reply) → Option μ
  | m, [] => some m
  | m, e :: es => (d m e).bind fun m' => after d m' es

theorem Discipline.after_append {m m' : μ} {es es' : List (Answered Act Reply)} :
    d.after m (es ++ es') = some m' ↔ ∃ m'', d.after m es = some m'' ∧ d.after m'' es' = some m' := by
  induction es generalizing m with
  | nil =>
    constructor
    · exact fun h => ⟨m, rfl, h⟩
    · intro h
      obtain ⟨_, hm, h⟩ := h
      cases hm
      exact h
  | cons e es ih =>
    rw [List.cons_append, after, after]
    cases d m e with
    | none =>
      constructor
      · intro h
        cases h
      · intro h
        obtain ⟨_, h, -⟩ := h
        cases h
    | some m₁ => exact ih

theorem Discipline.after_cons {m m' : μ} {e : Answered Act Reply} {es : List (Answered Act Reply)} :
    d.after m (e :: es) = some m' ↔ ∃ m'', d m e = some m'' ∧ d.after m'' es = some m' := by
  rw [after, Option.bind_eq_some_iff]

theorem Discipline.after_snoc {m m' : μ} {es : List (Answered Act Reply)} {e : Answered Act Reply} :
    d.after m (es ++ [e]) = some m' ↔ ∃ m'', d.after m es = some m'' ∧ d m'' e = some m' := by
  have hone : ∀ m'' : μ, d.after m'' [e] = d m'' e := fun _ => Option.bind_fun_some _
  rw [after_append]
  exact exists_congr fun m'' => and_congr_right fun _ => by rw [hone]

/-- **The reading rule**: what every answered action of a discipline keeps, all of them keep. -/
theorem Discipline.after_invariant {I : μ → List (Answered Act Reply) → Prop} {m m' : μ}
    (hstep : ∀ m es e m', I m es → d m e = some m' → I m' (es ++ [e])) (hm : I m [])
    {es : List (Answered Act Reply)} (h : d.after m es = some m') : I m' es := by
  induction es using List.reverseRecOn generalizing m' with
  | nil =>
    cases h
    exact hm
  | append_singleton es e ih =>
    obtain ⟨m'', hes, he⟩ := after_snoc.mp h
    exact hstep m'' es e m' (ih hes) he

/-- Whatever it is answered, the program does only what is allowed, and ends as `post` says. -/
def Keeps (d : Discipline Act Reply μ) (post : μ → α → Prop) : μ → Resumption Act Reply α → Prop
  | m, .done a => post m a
  | m, .act a next => ∀ r, ∃ m', d m ⟨a, r⟩ = some m' ∧ Keeps d post m' (next r)

/-- **A sequence keeps to a discipline** if its parts do. -/
theorem keeps_bind {mid : μ → α → Prop} {post : μ → β → Prop} {p : Resumption Act Reply α}
    {f : α → Resumption Act Reply β} {m : μ} (hp : Keeps d mid m p)
    (hf : ∀ m' a, mid m' a → Keeps d post m' (f a)) : Keeps d post m (p >>= f) := by
  induction p generalizing m with
  | done a => exact hf m a hp
  | act a next ih =>
    intro r
    obtain ⟨m', hm', hnext⟩ := hp r
    exact ⟨m', hm', ih r hnext⟩

/-- The same of a sequence whose first part may fail. -/
theorem keeps_bindExcept {ε : Type} {mid : μ → Except ε α → Prop} {post : μ → Except ε β → Prop}
    {p : ExceptT ε (Resumption Act Reply) α} {f : α → ExceptT ε (Resumption Act Reply) β} {m : μ}
    (hp : Keeps d mid m p.run) (hok : ∀ m' a, mid m' (.ok a) → Keeps d post m' (f a).run)
    (herror : ∀ m' e, mid m' (.error e) → post m' (.error e)) :
    Keeps d post m (p >>= f).run := by
  refine keeps_bind hp fun m' out hout => ?_
  cases out with
  | ok a => exact hok m' a hout
  | error e => exact herror m' e hout

/-- The same of a value that is mapped. -/
theorem keeps_mapExcept {ε : Type} {mid : μ → Except ε α → Prop} {post : μ → Except ε β → Prop}
    {p : ExceptT ε (Resumption Act Reply) α} {f : α → β} {m : μ} (hp : Keeps d mid m p.run)
    (hok : ∀ m' a, mid m' (.ok a) → post m' (.ok (f a)))
    (herror : ∀ m' e, mid m' (.error e) → post m' (.error e)) : Keeps d post m (f <$> p).run := by
  refine keeps_bind hp fun m' out hout => ?_
  cases out with
  | ok a => exact hok m' a hout
  | error e => exact herror m' e hout

/-- The same of a program that handles the failures of another. -/
theorem keeps_tryCatch {ε : Type} {mid post : μ → Except ε α → Prop}
    {p : ExceptT ε (Resumption Act Reply) α} {handle : ε → ExceptT ε (Resumption Act Reply) α}
    {m : μ} (hp : Keeps d mid m p.run) (hok : ∀ m' a, mid m' (.ok a) → post m' (.ok a))
    (herror : ∀ m' e, mid m' (.error e) → Keeps d post m' (handle e).run) :
    Keeps d post m (tryCatch p handle).run := by
  refine keeps_bind hp fun m' out hout => ?_
  cases out with
  | ok a => exact hok m' a hout
  | error e => exact herror m' e hout

theorem keeps_mono {post post' : μ → α → Prop} (hpost : ∀ m a, post m a → post' m a)
    {p : Resumption Act Reply α} {m : μ} (h : Keeps d post m p) : Keeps d post' m p := by
  induction p generalizing m with
  | done a => exact hpost m a h
  | act a next ih =>
    intro r
    obtain ⟨m', hm', hnext⟩ := h r
    exact ⟨m', hm', ih r hnext⟩

/-- **A program that keeps to a discipline is never stopped by it**, and what is left keeps to it. -/
theorem keeps_follows {post : μ → α → Prop} {p q : Resumption Act Reply α}
    {es : List (Answered Act Reply)} (h : Follows p es q) {m : μ} (hp : Keeps d post m p) :
    ∃ m', d.after m es = some m' ∧ Keeps d post m' q := by
  induction h generalizing m with
  | refl p => exact ⟨m, rfl, hp⟩
  | act a next r h ih =>
    obtain ⟨m', hm', hnext⟩ := hp r
    obtain ⟨m'', hafter, hq⟩ := ih hnext
    refine ⟨m'', ?_, hq⟩
    rw [Discipline.after, hm']
    exact hafter

end Resumption

end ModalRs.Lib
