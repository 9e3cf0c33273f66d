/-
  File:      ModalRs/Lib/Journal.lean
  Subject:   A machine that answers requests, and a journal of those whose answers were seen.

  * `Machine`: what is answered to a request, and the state behind it.
  * `Machine.log`: the answers to the requests of a journal, each with whether it was seen.
  * `Machine.seen`, `Machine.unseen`: the answers that were seen, and the others.
  * `seen_sublist`, `seen_all_iff`: what is read off the seen answers is part of what is read
    off all, and all of it exactly if the others have nothing.
-/
import Mathlib.Data.List.Flatten
import ModalRs.Lib.Resumption

namespace ModalRs.Lib

/-- A machine with states `σ` that answers requests `M`. -/
structure Machine (σ M : Type) (V : M → Type) where
  reply : σ → (request : M) → V request
  next : σ → M → σ

namespace Machine

variable {σ M β : Type} {V : M → Type} (m : Machine σ M V)

/-- The state behind some requests. -/
def run (s : σ) (requests : List M) : σ := requests.foldl m.next s

/-- The answers to the requests of a journal; a request is marked if its answer was seen. -/
def log : σ → List (M × Bool) → List (Answered M V × Bool)
  | _, [] => []
  | s, (request, mark) :: journal =>
      (⟨request, m.reply s request⟩, mark) :: log (m.next s request) journal

/-- All answers. -/
def answers (s : σ) (journal : List (M × Bool)) : List (Answered M V) :=
  (m.log s journal).map Prod.fst

/-- The answers that were seen. -/
def seen (s : σ) (journal : List (M × Bool)) : List (Answered M V) :=
  ((m.log s journal).filter fun e => e.2).map Prod.fst

/-- The answers that were not seen. -/
def unseen (s : σ) (journal : List (M × Bool)) : List (Answered M V) :=
  ((m.log s journal).filter fun e => !e.2).map Prod.fst

variable {m}

theorem log_snoc {s : σ} {journal : List (M × Bool)} {request : M} {mark : Bool} :
    m.log s (journal ++ [(request, mark)]) = m.log s journal ++
      [(⟨request, m.reply (m.run s (journal.map Prod.fst)) request⟩, mark)] := by
  induction journal generalizing s with
  | nil => rfl
  | cons e journal ih =>
    rw [List.cons_append, log, log, ih]
    rfl

theorem run_snoc {s : σ} {requests : List M} {request : M} :
    m.run s (requests ++ [request]) = m.next (m.run s requests) request := List.foldl_append

theorem seen_snoc {s : σ} {journal : List (M × Bool)} {request : M} :
    m.seen s (journal ++ [(request, true)]) = m.seen s journal ++
      [⟨request, m.reply (m.run s (journal.map Prod.fst)) request⟩] := by
  rw [seen, log_snoc, List.filter_append, List.map_append]
  rfl

theorem seen_snoc_unseen {s : σ} {journal : List (M × Bool)} {request : M} :
    m.seen s (journal ++ [(request, false)]) = m.seen s journal := by
  rw [seen, log_snoc, List.filter_append, List.map_append]
  exact List.append_nil _

theorem answers_snoc {s : σ} {journal : List (M × Bool)} {request : M} {mark : Bool} :
    m.answers s (journal ++ [(request, mark)]) = m.answers s journal ++
      [⟨request, m.reply (m.run s (journal.map Prod.fst)) request⟩] := by
  rw [answers, log_snoc, List.map_append]
  rfl

/-- An answer that was seen is the machine's, in some state. -/
theorem seen_reply {s : σ} {journal : List (M × Bool)} :
    ∀ e ∈ m.seen s journal, ∃ s', e.reply = m.reply s' e.action := by
  induction journal generalizing s with
  | nil => exact fun e he => absurd he List.not_mem_nil
  | cons first journal ih =>
    rcases first with ⟨request, _ | _⟩
    · exact ih
    · intro e he
      rcases List.mem_cons.mp he with rfl | he
      · exact ⟨s, rfl⟩
      · exact ih e he

section Reading

variable {s : σ} {journal : List (M × Bool)} (f : Answered M V → List β)

/-- **What is read off the seen answers** is part of what is read off all, in order. -/
theorem seen_sublist : ((m.seen s journal).flatMap f).Sublist ((m.answers s journal).flatMap f) :=
  ((List.filter_sublist).map _).flatMap f

theorem answers_length : ((m.answers s journal).flatMap f).length =
    ((m.seen s journal).flatMap f).length + ((m.unseen s journal).flatMap f).length := by
  rw [answers, seen, unseen]
  induction m.log s journal with
  | nil => rfl
  | cons e log ih =>
    rcases e with ⟨e, _ | _⟩
    · show (f e ++ (log.map Prod.fst).flatMap f).length =
        (((log.filter fun e => e.2).map Prod.fst).flatMap f).length +
          (f e ++ ((log.filter fun e => !e.2).map Prod.fst).flatMap f).length
      rw [List.length_append, List.length_append, ih]
      omega
    · show (f e ++ (log.map Prod.fst).flatMap f).length =
        (f e ++ ((log.filter fun e => e.2).map Prod.fst).flatMap f).length +
          (((log.filter fun e => !e.2).map Prod.fst).flatMap f).length
      rw [List.length_append, List.length_append, ih]
      omega

/-- It is all of it exactly if the other answers have nothing. -/
theorem seen_all_iff : (m.answers s journal).flatMap f = (m.seen s journal).flatMap f ↔
    (m.unseen s journal).flatMap f = [] := by
  have hlength : ((m.answers s journal).flatMap f).length =
      ((m.seen s journal).flatMap f).length + ((m.unseen s journal).flatMap f).length :=
    answers_length f
  constructor
  · intro heq
    rw [heq] at hlength
    exact List.length_eq_zero_iff.mp (by omega)
  · intro hnone
    rw [hnone, List.length_nil, Nat.add_zero] at hlength
    exact ((seen_sublist f).eq_of_length hlength.symm).symm

end Reading

end Machine

end ModalRs.Lib
