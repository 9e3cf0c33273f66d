/-
  File:      ModalRs/Transport/Backend.lean
  Subject:   A server that keeps a state, behind the network of `Transport/ExactlyOnce.lean`.

  The server is a machine: what it answers follows from what it has applied. The
  network decides what becomes of an attempt; the reply to one that is answered is
  the server's.

  * `Backend`: the server with its journal, and the network around it.
  * `Backend.serve`: what an action of a retried call does to them.
  * `Kept`, `kept_ok`: after any run, the answers that the services have seen are those of the
    machine to the requests that are marked in the journal.
  * `backend_seen`: and of each service, they are the values of its RPCs.
-/
import ModalRs.Lib.Journal
import ModalRs.Transport.ExactlyOnce

namespace ModalRs

open ModalRs.Lib ModalRs.Rust

variable {σ M : Type} {V : M → Type}

/-- The counter of the keys, the state of the server, what becomes of the attempts to come, by their
    number, and the requests that the server has applied, each with whether the reply arrived. -/
structure Backend (σ M : Type) where
  counter : UInt64
  state : σ
  fate : Nat → M → Fate Unit
  sent : Nat
  journal : List (M × Bool)

def Backend.start (s : σ) (fate : Nat → M → Fate Unit) : Backend σ M := ⟨0, s, fate, 0, []⟩

variable (m : Machine σ M V)

/-- The server applies a request. -/
def Backend.apply (w : Backend σ M) (call : M) (arrives : Bool) : Backend σ M :=
  { w with
    state := m.next w.state call
    sent := w.sent + 1
    journal := w.journal ++ [(call, arrives)] }

/-- What an action does; the clock and the timer answer as they like. -/
def Backend.serve (w : Backend σ M) :
    (a : RetryAction M) → a.Reply V → a.Reply V × Backend σ M
  | .takeNumber, _ => (w.counter.toNat, { w with counter := w.counter + 1 })
  | .readClock, nanos => (nanos, w)
  | .attempt call _, _ =>
      match w.fate w.sent call with
      | .requestLost loss => (.error loss.status, { w with sent := w.sent + 1 })
      | .refused status => (.error status, { w with sent := w.sent + 1 })
      | .replyLost loss => (.error loss.status, w.apply m call false)
      | .answered () => (.ok (m.reply w.state call), w.apply m call true)
  | .sleep _, r => (r, w)

/-! ## 1. What the services have seen -/

/-- What a happening has shown to a service: a request that was answered with a response. -/
def repliedHappening {κ : Type} :
    Happening κ (RetryAction M) (RetryAction.Reply V) → Option (Answered M V)
  | .start _ _ => none
  | .step _ e => repliedOf e

/-- How the server stands to what has happened. -/
structure Kept {κ : Type} (s : σ) (w : Backend σ M)
    (h : List (Happening κ (RetryAction M) (RetryAction.Reply V))) : Prop where
  state : w.state = m.run s (w.journal.map Prod.fst)
  seen : h.filterMap repliedHappening = m.seen s w.journal

variable {m}

section Attempt

variable {κ : Type} {s : σ} {w : Backend σ M}
  {h : List (Happening κ (RetryAction M) (RetryAction.Reply V))}

/-- What the server has no part of, or has not applied. -/
theorem Kept.silent (hk : Kept m s w h) {w' : Backend σ M} (hstate : w'.state = w.state)
    (hjournal : w'.journal = w.journal)
    {x : Happening κ (RetryAction M) (RetryAction.Reply V)} (hx : repliedHappening x = none) :
    Kept m s w' (h ++ [x]) where
  state := by
    rw [hstate, hjournal]
    exact hk.state
  seen := by
    rw [List.filterMap_append, List.filterMap_cons_none hx, List.filterMap_nil, List.append_nil,
      hjournal]
    exact hk.seen

/-- What the server applies. -/
theorem Kept.apply_state (hk : Kept m s w h) (call : M) (arrives : Bool) :
    (w.apply m call arrives).state = m.run s ((w.apply m call arrives).journal.map Prod.fst) := by
  have hjournal : (w.apply m call arrives).journal.map Prod.fst =
      w.journal.map Prod.fst ++ [call] := List.map_append
  have hnext : (w.apply m call arrives).state = m.next w.state call := rfl
  rw [hjournal, Machine.run_snoc, ← hk.state, hnext]

/-- **One attempt**, whatever becomes of it. -/
theorem Kept.attempt (hk : Kept m s w h) (i : Nat) (call : M) (ctx : RetryContext)
    (answer : Except Status (V call)) :
    Kept m s (w.serve m (.attempt call ctx) answer).2
      (h ++ [.step i ⟨.attempt call ctx, (w.serve m (.attempt call ctx) answer).1⟩]) := by
  simp only [Backend.serve]
  rcases w.fate w.sent call with loss | loss | status | _
  · refine hk.silent ?_ ?_ ?_ <;> rfl
  · refine ⟨hk.apply_state call false, ?_⟩
    have hjournal : (w.apply m call false).journal = w.journal ++ [(call, false)] := rfl
    rw [hjournal, Machine.seen_snoc_unseen, ← hk.seen, List.filterMap_append]
    exact List.append_nil _
  · refine hk.silent ?_ ?_ ?_ <;> rfl
  · refine ⟨hk.apply_state call true, ?_⟩
    have hjournal : (w.apply m call true).journal = w.journal ++ [(call, true)] := rfl
    rw [hjournal, Machine.seen_snoc, ← hk.seen, ← hk.state, List.filterMap_append]
    rfl

end Attempt

/-! ## 2. Services -/

section Services

variable {Rpc κ α : Type} {Val : Rpc → Type} (interceptor : ModalInterceptor)
  (method : (a : Rpc) → RpcMethod V (Val a))
  (program : κ → Resumption Rpc (fun a => Except ModalError (Val a)) α)

/-- The services over this server, after some moves. -/
def backendSession (m : Machine σ M V) (s : σ) (fate : Nat → M → Fate Unit)
    (moves : List (Move κ (RetryAction M) (RetryAction.Reply V))) :
    Pool (Backend σ M) κ (RetryAction M) (RetryAction.Reply V) (Except (Stop Empty) α) :=
  Pool.run (fun k => (wired interceptor method (program k)).run) (Backend.serve m) moves
    (Pool.initial (.start s fate))

variable {interceptor method program} {s : σ} {fate : Nat → M → Fate Unit}

/-- **The services have seen what the machine answers**, in any interleaving. -/
theorem kept_ok (moves : List (Move κ (RetryAction M) (RetryAction.Reply V))) :
    Kept m s (backendSession interceptor method program m s fate moves).shared
      (backendSession interceptor method program m s fate moves).history := by
  refine Pool.run_invariant (I := fun g => Kept m s g.shared g.history) (fun g x h => ?_) moves _
    ⟨rfl, rfl⟩
  rcases Pool.move_cases (fun k => (wired interceptor method (program k)).run) (Backend.serve m) g x
    with hsame | ⟨i, k, -, hstart⟩ | ⟨i, k, a, next, r, hstep⟩
  · rw [hsame]
    exact h
  · rw [hstart]
    refine h.silent ?_ ?_ ?_ <;> rfl
  · obtain ⟨answer, hserve⟩ := hstep.shared
    obtain ⟨hreply, hshared⟩ := Prod.mk.inj hserve
    rw [hstep.history, ← hshared]
    cases a with
    | readClock => refine h.silent ?_ ?_ ?_ <;> rfl
    | takeNumber => refine h.silent ?_ ?_ ?_ <;> rfl
    | sleep d => refine h.silent ?_ ?_ ?_ <;> rfl
    | attempt call ctx =>
      rw [← hreply]
      exact h.attempt i call ctx answer

/-- What service `i` has been answered. -/
def repliedTo {κ : Type} (i : Nat)
    (h : List (Happening κ (RetryAction M) (RetryAction.Reply V))) : List (Answered M V) :=
  (Pool.own i h).filterMap repliedOf

/-- It is among what the services have seen. -/
theorem repliedTo_seen (moves : List (Move κ (RetryAction M) (RetryAction.Reply V))) (i : Nat) :
    ∀ e ∈ repliedTo i (backendSession interceptor method program m s fate moves).history,
      e ∈ m.seen s (backendSession interceptor method program m s fate moves).shared.journal := by
  intro e he
  obtain ⟨event, hevent, hreplied⟩ := List.mem_filterMap.mp he
  rw [← (kept_ok moves).seen]
  exact List.mem_filterMap.mpr ⟨.step i event, Pool.mem_own.mp hevent, hreplied⟩

/-- **What a service has been answered** is the values of its RPCs that returned `Ok`, whether it has
    returned or not. -/
theorem backend_seen (moves : List (Move κ (RetryAction M) (RetryAction.Reply V))) (i : Nat) (k : κ)
    (q : RetryProgram V (Except (Stop Empty) α))
    (h : (backendSession interceptor method program m s fate moves).threads i = some (k, q)) :
    ∃ as p', Resumption.Follows (program k) as p' ∧
      (∀ (β : Type) (f : Answered M V → β) (f' : (a : Rpc) → Val a → β),
        (∀ a resp, f ⟨(method a).request, resp⟩ = f' a ((method a).response resp)) →
        (repliedTo i (backendSession interceptor method program m s fate moves).history).map f =
          as.filterMap (okValue f')) ∧
      ((∃ val, q = .done (.ok val) ∧ p' = .done val) ∨
      (∀ out, q ≠ .done out) ∧ ∀ val, p' ≠ .done val) :=
  wired_replied ((Pool.run_onPath moves _).path i k q h).2

end Services

end ModalRs
