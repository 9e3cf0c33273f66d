/-
  File:      ModalRs/Lib/Threads.lean
  Subject:   Programs that run at the same time over a shared state, in any interleaving.

  Threads are started with a call each; a thread runs the program of its call. A
  move starts a thread or lets one perform its next action. `perform` is what an
  action does to the shared state; it is given the answer that the world would
  give, which it passes on or replaces by what the state says. Any list of moves is
  an interleaving; a move that is not possible changes nothing.

  * `Pool`: the shared state, the threads, and what has happened.
  * `move_cases`: what a move can do.
  * `run_invariant`: what every move keeps, every run keeps.
  * `run_split`: what has happened, happened at a state that the run passed through.
  * `run_performed`: in particular what a thread has performed.
  * `run_onPath`: a thread is on a path of its call's program.
-/
import ModalRs.Lib.Resumption
import Mathlib.Logic.Function.Basic
import Mathlib.Data.List.Induction

namespace ModalRs.Lib

variable {σ κ Act : Type} {Reply : Act → Type} {α : Type}

/-- What happened: a thread was started, or performed an action. -/
inductive Happening (κ Act : Type) (Reply : Act → Type) where
  | start (i : Nat) (k : κ)
  | step (i : Nat) (e : Answered Act Reply)

/-- What happens next; a step comes with an answer of the world to whatever action it is. -/
inductive Move (κ Act : Type) (Reply : Act → Type) where
  | start (i : Nat) (k : κ)
  | step (i : Nat) (answer : (a : Act) → Reply a)

/-- The shared state, the threads that were started, and what has happened, in order. -/
structure Pool (σ κ Act : Type) (Reply : Act → Type) (α : Type) where
  shared : σ
  threads : Nat → Option (κ × Resumption Act Reply α)
  history : List (Happening κ Act Reply)

namespace Pool

variable (program : κ → Resumption Act Reply α) (perform : σ → (a : Act) → Reply a → Reply a × σ)

def initial (s : σ) : Pool σ κ Act Reply α := ⟨s, fun _ => none, []⟩

def move (g : Pool σ κ Act Reply α) : Move κ Act Reply → Pool σ κ Act Reply α
  | .start i k =>
      match g.threads i with
      | some _ => g
      | none =>
          { g with
            threads := Function.update g.threads i (some (k, program k))
            history := g.history ++ [.start i k] }
  | .step i answer =>
      match g.threads i with
      | some (k, .act a next) =>
          let (r, s) := perform g.shared a (answer a)
          { shared := s
            threads := Function.update g.threads i (some (k, next r))
            history := g.history ++ [.step i ⟨a, r⟩] }
      | _ => g

/-- The pool after some moves. -/
def run (moves : List (Move κ Act Reply)) (g : Pool σ κ Act Reply α) : Pool σ κ Act Reply α :=
  moves.foldl (move program perform) g

variable {program perform}

theorem run_append (ms ms' : List (Move κ Act Reply)) (g : Pool σ κ Act Reply α) :
    run program perform (ms ++ ms') g = run program perform ms' (run program perform ms g) :=
  List.foldl_append

/-- The next action of a thread is performed, and was answered with `r`. -/
structure Steps (perform : σ → (a : Act) → Reply a → Reply a × σ) (g g' : Pool σ κ Act Reply α)
    (i : Nat) (k : κ) (a : Act) (next : Reply a → Resumption Act Reply α) (r : Reply a) : Prop where
  thread : g.threads i = some (k, .act a next)
  shared : ∃ answer, perform g.shared a answer = (r, g'.shared)
  threads : g'.threads = Function.update g.threads i (some (k, next r))
  history : g'.history = g.history ++ [.step i ⟨a, r⟩]

variable (program perform)

/-- A thread that is let step performs its next action. -/
theorem steps_of_thread {g : Pool σ κ Act Reply α} {i : Nat} {k : κ} {a : Act}
    {next : Reply a → Resumption Act Reply α} (h : g.threads i = some (k, .act a next))
    (answer : (a : Act) → Reply a) : Steps perform g (move program perform g (.step i answer)) i k a
      next (perform g.shared a (answer a)).1 := by
  refine ⟨h, ⟨answer a, ?_⟩, ?_, ?_⟩
  all_goals simp only [move, h]

/-- What letting a thread step can do: nothing, or perform its next action. -/
theorem step_cases (g : Pool σ κ Act Reply α) (i : Nat) (answer : (a : Act) → Reply a) :
    move program perform g (.step i answer) = g ∨
    ∃ k a next r, Steps perform g (move program perform g (.step i answer)) i k a next r := by
  rcases hi : g.threads i with _ | ⟨k, a | ⟨a, next⟩⟩
  · exact Or.inl (by simp only [move, hi])
  · exact Or.inl (by simp only [move, hi])
  · exact Or.inr ⟨k, a, next, _, steps_of_thread program perform hi answer⟩

/-- What starting a thread can do: nothing, or start it. -/
theorem start_cases (g : Pool σ κ Act Reply α) (i : Nat) (k : κ) :
    move program perform g (.start i k) = g ∨
    (g.threads i = none ∧ move program perform g (.start i k) =
      { g with
        threads := Function.update g.threads i (some (k, program k))
        history := g.history ++ [.start i k] }) := by
  cases hi : g.threads i with
  | some t => exact Or.inl (by simp only [move, hi])
  | none => exact Or.inr ⟨rfl, by simp only [move, hi]⟩

/-- **What a move can do**: nothing, start a thread, or perform the next action of one. -/
theorem move_cases (g : Pool σ κ Act Reply α) (m : Move κ Act Reply) :
    move program perform g m = g ∨
    (∃ i k, g.threads i = none ∧ move program perform g m =
      { g with
        threads := Function.update g.threads i (some (k, program k))
        history := g.history ++ [.start i k] }) ∨
    ∃ i k a next r, Steps perform g (move program perform g m) i k a next r := by
  cases m with
  | start i k => exact (start_cases program perform g i k).imp_right fun h => Or.inl ⟨i, k, h⟩
  | step i answer => exact (step_cases program perform g i answer).imp_right fun h => Or.inr ⟨i, h⟩

variable {program perform}

/-- **The invariant rule**: what every move keeps holds after every run. -/
theorem run_invariant {I : Pool σ κ Act Reply α → Prop}
    (hmove : ∀ g m, I g → I (move program perform g m)) :
    ∀ (ms : List (Move κ Act Reply)) (g : Pool σ κ Act Reply α), I g → I (run program perform ms g)
  | [], _, h => h
  | m :: ms, g, h => run_invariant hmove ms (move program perform g m) (hmove g m h)

/-- **Whatever has happened, happened at a move**, after what had happened before. -/
theorem run_split {s : σ} {e : Happening κ Act Reply} {before behind : List (Happening κ Act Reply)} :
    ∀ {ms : List (Move κ Act Reply)},
      (run program perform ms (initial (α := α) s)).history = before ++ e :: behind →
      ∃ ms₁ m ms₂, ms = ms₁ ++ m :: ms₂ ∧
        (run program perform ms₁ (initial (α := α) s)).history = before ∧
        (move program perform (run program perform ms₁ (initial (α := α) s)) m).history =
          before ++ [e] := by
  intro ms
  induction ms using List.reverseRecOn generalizing behind with
  | nil => exact fun h => absurd h.symm (List.append_ne_nil_of_right_ne_nil _ (List.cons_ne_nil _ _))
  | append_singleton ms m ih =>
    intro h
    rw [run_append] at h
    -- either the move added nothing, or it added the last event
    have hgrow : (move program perform (run program perform ms (initial s)) m).history =
        (run program perform ms (initial (α := α) s)).history ∨
        ∃ last, (move program perform (run program perform ms (initial s)) m).history =
          (run program perform ms (initial (α := α) s)).history ++ [last] := by
      rcases move_cases program perform (run program perform ms (initial s)) m with
        hsame | ⟨i, k, -, hstart⟩ | ⟨i, k, a, next, r, hstep⟩
      · exact Or.inl (congrArg Pool.history hsame)
      · exact Or.inr ⟨_, congrArg Pool.history hstart⟩
      · exact Or.inr ⟨_, hstep.history⟩
    have hearlier : ∀ behind',
        (run program perform ms (initial (α := α) s)).history = before ++ e :: behind' →
        ∃ ms₁ m' ms₂, ms ++ [m] = ms₁ ++ m' :: ms₂ ∧
          (run program perform ms₁ (initial (α := α) s)).history = before ∧
          (move program perform (run program perform ms₁ (initial (α := α) s)) m').history =
            before ++ [e] := by
      intro behind' h'
      obtain ⟨ms₁, m', ms₂, rfl, hbefore, hafter⟩ := ih h'
      exact ⟨ms₁, m', ms₂ ++ [m], by rw [List.append_assoc, List.cons_append], hbefore, hafter⟩
    change (move program perform (run program perform ms (initial s)) m).history = _ at h
    rcases hgrow with hsame | ⟨last, hlast⟩
    · exact hearlier behind (hsame ▸ h)
    · rw [hlast] at h
      rcases List.eq_nil_or_concat behind with rfl | ⟨behind', b, rfl⟩
      · obtain ⟨hbefore, he⟩ := List.append_inj' h rfl
        cases he
        exact ⟨ms, m, [], rfl, hbefore, by rw [hlast, hbefore]⟩
      · rw [List.concat_eq_append, ← List.cons_append, ← List.append_assoc] at h
        exact hearlier behind' (List.append_inj' h rfl).1

/-- What has happened has happened for good. -/
theorem run_history (ms : List (Move κ Act Reply)) (g : Pool σ κ Act Reply α) :
    g.history <+: (run program perform ms g).history := by
  refine run_invariant (I := fun g' => g.history <+: g'.history) (fun g' m h => ?_) ms g
    List.prefix_rfl
  rcases move_cases program perform g' m with
    hsame | ⟨i, k, -, hstart⟩ | ⟨i, k, a, next, r, hstep⟩
  · rw [hsame]
    exact h
  · rw [hstart]
    exact h.trans (List.prefix_append _ _)
  · rw [hstep.history]
    exact h.trans (List.prefix_append _ _)

/-- **Whatever a thread has performed, it performed at a move**, as its next action. -/
theorem run_performed {s : σ} {ms : List (Move κ Act Reply)} {i : Nat} {e : Answered Act Reply}
    {before behind : List (Happening κ Act Reply)}
    (h : (run program perform ms (initial (α := α) s)).history = before ++ .step i e :: behind) :
    ∃ ms₁ m ms₂ k next, ms = ms₁ ++ m :: ms₂ ∧
      (run program perform ms₁ (initial (α := α) s)).history = before ∧
      Steps perform (run program perform ms₁ (initial s))
        (run program perform (ms₁ ++ [m]) (initial s)) i k e.action next e.reply := by
  obtain ⟨ms₁, m, ms₂, hms, hbefore, hafter⟩ := run_split h
  have hrun : run program perform (ms₁ ++ [m]) (initial (α := α) s) =
      move program perform (run program perform ms₁ (initial s)) m := run_append ms₁ [m] _
  rw [← hbefore] at hafter
  rcases move_cases program perform
      (run program perform ms₁ (initial (α := α) s)) m with
    hsame | ⟨j, k, -, hstart⟩ | ⟨j, k, a, next, r, hstep⟩
  · rw [hsame] at hafter
    exact absurd (List.self_eq_append_right.mp hafter) (List.cons_ne_nil _ _)
  · rw [hstart] at hafter
    cases List.append_cancel_left hafter
  · cases List.append_cancel_left (hstep.history.symm.trans hafter)
    exact ⟨ms₁, m, ms₂, k, next, hms, hbefore, hrun ▸ hstep⟩

/-! ## The path of a thread -/

/-- What a happening is to thread `i`: an action of its own, or nothing. -/
def ownOf (i : Nat) : Happening κ Act Reply → Option (Answered Act Reply)
  | .start _ _ => none
  | .step j e => if j = i then some e else none

/-- The actions of thread `i`, in order. -/
def own (i : Nat) (history : List (Happening κ Act Reply)) : List (Answered Act Reply) :=
  history.filterMap (ownOf i)

theorem own_append (i : Nat) (h h' : List (Happening κ Act Reply)) :
    own i (h ++ h') = own i h ++ own i h' := List.filterMap_append

theorem own_start (i j : Nat) (k : κ) : own i [(.start j k : Happening κ Act Reply)] = [] := rfl

theorem own_self (i : Nat) (e : Answered Act Reply) :
    own i [(.step i e : Happening κ Act Reply)] = [e] := by
  rw [own, List.filterMap_cons, ownOf, if_pos rfl]
  rfl

theorem own_other {i j : Nat} (h : j ≠ i) (e : Answered Act Reply) :
    own i [(.step j e : Happening κ Act Reply)] = [] := by
  rw [own, List.filterMap_cons, ownOf, if_neg h]
  rfl

theorem mem_own {i : Nat} {e : Answered Act Reply} {h : List (Happening κ Act Reply)} :
    e ∈ own i h ↔ .step i e ∈ h := by
  rw [own, List.mem_filterMap]
  constructor
  · rintro ⟨x, hx, hown⟩
    cases x with
    | start j k => cases hown
    | step j e' =>
      by_cases hj : j = i
      · rw [ownOf, if_pos hj] at hown
        cases hown
        exact hj ▸ hx
      · rw [ownOf, if_neg hj] at hown
        cases hown
  · exact fun hx => ⟨_, hx, by rw [ownOf, if_pos rfl]⟩

/-- The threads of a pool are where their actions have brought them. -/
structure OnPath (program : κ → Resumption Act Reply α) (g : Pool σ κ Act Reply α) : Prop where
  idle : ∀ i, g.threads i = none → own i g.history = [] ∧ ∀ k, .start i k ∉ g.history
  path : ∀ i k p, g.threads i = some (k, p) →
    .start i k ∈ g.history ∧ (program k).Follows (own i g.history) p

theorem onPath_initial (s : σ) : OnPath program (initial (α := α) s) where
  idle _ _ := ⟨rfl, fun _ => List.not_mem_nil⟩
  path _ _ _ h := nomatch h

theorem onPath_move {g : Pool σ κ Act Reply α} (h : OnPath program g) (m : Move κ Act Reply) :
    OnPath program (move program perform g m) := by
  rcases move_cases program perform g m with
    hsame | ⟨i, k, hi, hstart⟩ | ⟨i, k, a, next, r, hstep⟩
  · rw [hsame]
    exact h
  · rw [hstart]
    refine ⟨fun j hj => ?_, fun j k' p hj => ?_⟩
    · have hne : j ≠ i := by
        rintro rfl
        simp at hj
      simp only [Function.update_of_ne hne] at hj
      obtain ⟨hown, hnot⟩ := h.idle j hj
      refine ⟨by simp only [own_append, hown, own_start, List.append_nil], fun k' hk' => ?_⟩
      rcases List.mem_append.mp hk' with hk' | hk'
      · exact hnot k' hk'
      · cases List.mem_singleton.mp hk'
        exact hne rfl
    · simp only [own_append, own_start, List.append_nil]
      by_cases hne : j = i
      · subst hne
        simp only [Function.update_self] at hj
        cases hj
        rw [(h.idle j hi).1]
        exact ⟨List.mem_append_right _ (List.mem_singleton.mpr rfl), .refl _⟩
      · simp only [Function.update_of_ne hne] at hj
        obtain ⟨hmem, hpath⟩ := h.path j k' p hj
        exact ⟨List.mem_append_left _ hmem, hpath⟩
  · obtain ⟨hmem, hpath⟩ := h.path i k _ hstep.thread
    refine ⟨fun j hj => ?_, fun j k' p hj => ?_⟩
    · have hne : j ≠ i := by
        rintro rfl
        simp [hstep.threads] at hj
      rw [hstep.threads, Function.update_of_ne hne] at hj
      obtain ⟨hown, hnot⟩ := h.idle j hj
      rw [hstep.history]
      refine ⟨by rw [own_append, hown, own_other (Ne.symm hne), List.append_nil], fun k' hk' => ?_⟩
      rcases List.mem_append.mp hk' with hk' | hk'
      · exact hnot k' hk'
      · cases List.mem_singleton.mp hk'
    · rw [hstep.history, own_append]
      rw [hstep.threads] at hj
      by_cases hne : j = i
      · subst hne
        rw [Function.update_self] at hj
        cases hj
        rw [own_self]
        exact ⟨List.mem_append_left _ hmem, hpath.snoc r⟩
      · rw [Function.update_of_ne hne] at hj
        obtain ⟨hmem', hpath'⟩ := h.path j k' p hj
        rw [own_other (Ne.symm hne), List.append_nil]
        exact ⟨List.mem_append_left _ hmem', hpath'⟩

/-- **A thread is on a path of its program**: after any run, what it has performed leads from the
    program of its call to what it has left. -/
theorem run_onPath (ms : List (Move κ Act Reply)) (s : σ) :
    OnPath program (run program perform ms (initial (α := α) s)) :=
  run_invariant (I := OnPath program) (fun _ m h => onPath_move h m) ms _ (onPath_initial s)

end Pool

end ModalRs.Lib
