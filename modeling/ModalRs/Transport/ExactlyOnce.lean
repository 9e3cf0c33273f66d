/-
  File:      ModalRs/Transport/ExactlyOnce.lean
  Subject:   What the server applies of services that run over the retrying transport.

  Attempts carry no key that the server could tell them apart by: it applies every
  request that arrives. A request may be lost, and so may the reply to one that was
  applied. Any services run at the same time.

  * `Network`, `serve`: the server and the network.
  * `served_ok`: the server has applied every request whose attempt was answered, in order,
    and those whose replies were lost, and no other.
  * `blocks_replied`, `attempting_answered`: the attempts that were answered, RPC by RPC.
  * `wired_replied`: what a service has been answered is the values of its RPCs.
  * `applied_exactly_once`: what a service's RPCs say against what the server has applied.
-/
import ModalRs.Transport.Layered

namespace ModalRs

open ModalRs.Lib ModalRs.Rust

/-! ## 1. The server and the network -/

variable {M : Type} {V : M → Type}

/-- The counter of the keys, what becomes of the attempts to come, by their number, and what the
    server has applied; of that, what it has applied although the reply was lost. -/
structure Network (V : M → Type) where
  counter : UInt64
  fate : Nat → (call : M) → Fate (V call)
  sent : Nat
  applied : List M
  lost : List M

def Network.start (fate : Nat → (call : M) → Fate (V call)) : Network V := ⟨0, fate, 0, [], []⟩

/-- An attempt. -/
def Network.receive (w : Network V) (call : M) : Fate (V call) → Network V
  | .requestLost _ | .refused _ => { w with sent := w.sent + 1 }
  | .replyLost _ =>
      { w with sent := w.sent + 1, applied := w.applied ++ [call], lost := w.lost ++ [call] }
  | .answered _ => { w with sent := w.sent + 1, applied := w.applied ++ [call] }

/-- What an action does; the clock and the timer answer as they like. -/
def serve (w : Network V) : (a : RetryAction M) → a.Reply V → a.Reply V × Network V
  | .takeNumber, _ => (w.counter.toNat, { w with counter := w.counter + 1 })
  | .readClock, nanos => (nanos, w)
  | .attempt call _, _ => ((w.fate w.sent call).outcome, w.receive call (w.fate w.sent call))
  | .sleep _, r => (r, w)

section Services

variable {Rpc κ α : Type} {Val : Rpc → Type} (interceptor : ModalInterceptor)
  (method : (a : Rpc) → RpcMethod V (Val a))
  (program : κ → Resumption Rpc (fun a => Except ModalError (Val a)) α)

/-- The services after some moves. -/
def servedSession (fate : Nat → (call : M) → Fate (V call))
    (moves : List (Move κ (RetryAction M) (RetryAction.Reply V))) :
    Pool (Network V) κ (RetryAction M) (RetryAction.Reply V) (Except (Stop Empty) α) :=
  Pool.run (fun k => (wired interceptor method (program k)).run) serve moves
    (Pool.initial (.start fate))

end Services

/-! ## 2. The attempts that were answered -/

/-- What an attempt was answered with, if it was: the request and the response. -/
def repliedOf : RetryEvent V → Option (Answered M V)
  | ⟨.attempt call _, .ok resp⟩ => some ⟨call, resp⟩
  | _ => none

/-- The request of an attempt that was answered with a response. -/
def answeredOf : RetryEvent V → Option M
  | ⟨.attempt call _, .ok _⟩ => some call
  | _ => none

/-- The same of what happens. -/
def answeredRequest {κ : Type} : Happening κ (RetryAction M) (RetryAction.Reply V) → Option M
  | .start _ _ => none
  | .step _ e => answeredOf e

/-- How the server stands to what has happened. -/
structure Served {κ : Type} (w : Network V)
    (h : List (Happening κ (RetryAction M) (RetryAction.Reply V))) : Prop where
  /-- Whatever was answered is applied, in this order. -/
  answered : (h.filterMap answeredRequest).Sublist w.applied
  count : w.applied.length = (h.filterMap answeredRequest).length + w.lost.length

section Attempt

variable {κ : Type} {w : Network V} {h : List (Happening κ (RetryAction M) (RetryAction.Reply V))}

/-- What neither the server nor an answer is part of. -/
theorem Served.silent {w' : Network V} (hs : Served w h) (happlied : w'.applied = w.applied)
    (hlost : w'.lost = w.lost) {x : Happening κ (RetryAction M) (RetryAction.Reply V)}
    (hx : answeredRequest x = none) : Served w' (h ++ [x]) := by
  have hsame : (h ++ [x]).filterMap answeredRequest = h.filterMap answeredRequest := by
    rw [List.filterMap_append, List.filterMap_cons_none hx, List.filterMap_nil, List.append_nil]
  refine ⟨?_, ?_⟩
  · rw [hsame, happlied]
    exact hs.answered
  · rw [hsame, happlied, hlost]
    exact hs.count

/-- **One attempt**, whatever becomes of it. -/
theorem Served.attempt (hs : Served w h) (i : Nat) (call : M) (ctx : RetryContext)
    (fate : Fate (V call)) :
    Served (w.receive call fate) (h ++ [.step i ⟨.attempt call ctx, fate.outcome⟩]) := by
  cases fate with
  | requestLost loss => refine hs.silent ?_ ?_ ?_ <;> rfl
  | refused status => refine hs.silent ?_ ?_ ?_ <;> rfl
  | replyLost loss =>
    have hnone : answeredRequest
        (.step i ⟨.attempt call ctx, (Fate.replyLost loss : Fate (V call)).outcome⟩ :
          Happening κ (RetryAction M) (RetryAction.Reply V)) = none := rfl
    refine ⟨?_, ?_⟩
    · rw [List.filterMap_append, List.filterMap_cons_none hnone, List.filterMap_nil,
        List.append_nil]
      exact hs.answered.trans (List.sublist_append_left _ _)
    · rw [List.filterMap_append, List.filterMap_cons_none hnone, List.filterMap_nil,
        List.append_nil, Network.receive, List.length_append, List.length_append, hs.count]
      simp only [List.length_singleton]
      omega
  | answered reply =>
    have hsome : answeredRequest
        (.step i ⟨.attempt call ctx, (Fate.answered reply : Fate (V call)).outcome⟩ :
          Happening κ (RetryAction M) (RetryAction.Reply V)) = some call := rfl
    refine ⟨?_, ?_⟩
    · rw [List.filterMap_append, List.filterMap_cons_some hsome, List.filterMap_nil]
      exact hs.answered.append (List.Sublist.refl _)
    · rw [List.filterMap_append, List.filterMap_cons_some hsome, List.filterMap_nil,
        Network.receive, List.length_append, List.length_append, hs.count]
      simp only [List.length_singleton]
      omega

end Attempt

section Session

variable {Rpc κ α : Type} {Val : Rpc → Type} {interceptor : ModalInterceptor}
  {method : (a : Rpc) → RpcMethod V (Val a)}
  {program : κ → Resumption Rpc (fun a => Except ModalError (Val a)) α}
  {fate : Nat → (call : M) → Fate (V call)}

/-- **The server has applied what was answered, and what was lost**, after any run. -/
theorem served_ok (moves : List (Move κ (RetryAction M) (RetryAction.Reply V))) :
    Served (servedSession interceptor method program fate moves).shared
      (servedSession interceptor method program fate moves).history := by
  refine Pool.run_invariant (I := fun g => Served g.shared g.history) (fun g m h => ?_) moves _
    ⟨List.Sublist.refl _, rfl⟩
  rcases Pool.move_cases (fun k => (wired interceptor method (program k)).run) serve g m with
    hsame | ⟨i, k, -, hstart⟩ | ⟨i, k, a, next, r, hstep⟩
  · rw [hsame]
    exact h
  · rw [hstart]
    refine h.silent ?_ ?_ ?_ <;> rfl
  · obtain ⟨answer, hserve⟩ := hstep.shared
    obtain ⟨hreply, hshared⟩ := Prod.mk.inj hserve
    rw [hstep.history, ← hshared]
    cases a with
    | readClock => refine h.silent ?_ ?_ ?_ <;> rfl
    | takeNumber => refine h.silent ?_ ?_ ?_ <;> rfl
    | sleep d => refine h.silent ?_ ?_ ?_ <;> rfl
    | attempt call ctx =>
      rw [← hreply]
      exact h.attempt i call ctx _

end Session

/-! ## 3. RPC by RPC -/

section Rpcs

variable {config : GrpcRetryConfig} {call : M} {key : String}

theorem answeredOf_eq (es : List (RetryEvent V)) :
    es.filterMap answeredOf = (es.filterMap repliedOf).map Answered.action := by
  rw [List.map_filterMap]
  refine List.filterMap_congr fun e _ => ?_
  rcases e with ⟨_ | _ | ⟨call, ctx⟩ | d, reply⟩
  · rfl
  · rfl
  · cases reply with
    | ok resp => rfl
    | error status => rfl
  · rfl

/-- Of the attempts that come to a reply, none was answered but the last. -/
theorem attempts_replied {attempt : Nat} {delay : Duration} {es : List (RetryEvent V)}
    {reply : Except Status (V call)} (h : Attempts config call key attempt delay es reply) :
    es.filterMap repliedOf =
      (repliedOf (⟨.attempt call ⟨0, key⟩, reply⟩ : RetryEvent V)).toList := by
  induction h with
  | @last attempt delay reply hstop =>
    cases reply with
    | ok val => rfl
    | error status => rfl
  | again htransient hleft hrest ih => exact ih

/-- **Behind an answer, a retried call is over.** -/
theorem follows_attemptsFrom_answered :
    ∀ {left attempt : Nat} {delay : Duration} {es : List (RetryEvent V)}
      {p : RetryProgram V (Res ModalError (V call))},
      Resumption.Follows (attemptsFrom config call key left attempt delay) es p →
      es.filterMap answeredOf = [] ∨ ∃ out, p = .done out := by
  intro left
  induction left with
  | zero =>
    intro attempt delay es p h
    exact Or.inr ⟨_, h.of_done.2⟩
  | succ left ih =>
    intro attempt delay es p h
    cases h with
    | refl => exact Or.inl rfl
    | act _ _ reply h =>
      cases reply with
      | ok val => exact Or.inr ⟨_, h.of_done.2⟩
      | error status =>
        by_cases hagain : config.isRetryable status.code ∧ attempt < config.maxRetries
        · simp only [if_pos hagain] at h
          cases h with
          | refl => exact Or.inl rfl
          | act _ _ _ h =>
            simp only [Duration.mul] at h
            split at h
            · exact Or.inr ⟨_, h.of_done.2⟩
            · rcases ih h with hnone | hdone
              · exact Or.inl hnone
              · exact Or.inr hdone
        · simp only [if_neg hagain] at h
          exact Or.inr ⟨_, h.of_done.2⟩

variable {α : Type} {t : ModalGrpcTransport} {method : RpcMethod V α} {es : List (RetryEvent V)}

/-- An RPC that has not returned was not answered. -/
theorem attempting_answered {l : RetryProgram V (Except (Stop Empty) (Except ModalError α))}
    (h : Resumption.Follows (t.rpc method).run es l) (hl : ∀ out, l ≠ .done out) :
    es.filterMap answeredOf = [] := by
  rcases follows_rpc h with ⟨p, hp, hne, -⟩ | ⟨out, -, rfl⟩
  · cases hp with
    | refl => rfl
    | act _ _ nanos hp =>
      cases hp with
      | refl => rfl
      | act _ _ seq hp =>
        rcases follows_attemptsFrom_answered hp with hnone | ⟨out, rfl⟩
        · exact hnone
        · exact absurd rfl (hne out)
  · exact absurd rfl (hl _)

variable {Rpc : Type} {Val : Rpc → Type} {interceptor : ModalInterceptor}
  {method : (a : Rpc) → RpcMethod V (Val a)}

/-- What is read off the value of an RPC that returned `Ok`. -/
def okValue {β : Type} (f : (a : Rpc) → Val a → β) :
    Answered Rpc (fun a => Except ModalError (Val a)) → Option β
  | ⟨a, .ok val⟩ => some (f a val)
  | ⟨_, .error _⟩ => none

/-- The request of an RPC that returned `Ok`. -/
def okRequest (method : (a : Rpc) → RpcMethod V (Val a)) :
    Answered Rpc (fun a => Except ModalError (Val a)) → Option M
  | ⟨a, .ok _⟩ => some (method a).request
  | ⟨_, .error _⟩ => none

/-- **Of each RPC that returned `Ok`, one attempt was answered**, with its value, and of no other:
    what `f` reads off the answers is what `f'` reads off the values. -/
theorem blocks_replied {β : Type} {f : Answered M V → β} {f' : (a : Rpc) → Val a → β}
    (hf : ∀ a resp, f ⟨(method a).request, resp⟩ = f' a ((method a).response resp))
    {past : List (RetryEvent V)} {as : List (Answered Rpc fun a => Except ModalError (Val a))}
    (h : RpcBlocks interceptor method past as) :
    (past.filterMap repliedOf).map f = as.filterMap (okValue f') := by
  induction h with
  | nil => rfl
  | @cons a r es es' as hblock _ ih =>
    rw [List.filterMap_append, List.map_append, ih]
    cases hblock with
    | @attempts nanos seq rest reply hattempts =>
      have hrest : List.filterMap repliedOf
          (⟨.readClock, nanos⟩ :: ⟨.takeNumber, seq⟩ :: rest : List (RetryEvent V)) =
          rest.filterMap repliedOf := rfl
      rw [hrest, attempts_replied hattempts]
      cases reply with
      | ok resp => exact congrArg (· :: _) (hf a resp)
      | error status => rfl

/-- The requests of the RPCs that returned `Ok`. -/
theorem okRequest_eq (as : List (Answered Rpc fun a => Except ModalError (Val a))) :
    as.filterMap (okRequest method) = as.filterMap (okValue fun a _ => (method a).request) := by
  refine List.filterMap_congr fun e _ => ?_
  rcases e with ⟨a, _ | _⟩
  · rfl
  · rfl

/-- **What a service has been answered** is the values of its RPCs that returned `Ok`, once each and
    in order, whether it has returned or not. -/
theorem wired_replied {α : Type} {p : Resumption Rpc (fun a => Except ModalError (Val a)) α}
    {es : List (RetryEvent V)} {q : RetryProgram V (Except (Stop Empty) α)}
    (h : Resumption.Follows (wired interceptor method p).run es q) :
    ∃ as p', Resumption.Follows p as p' ∧
      (∀ (β : Type) (f : Answered M V → β) (f' : (a : Rpc) → Val a → β),
        (∀ a resp, f ⟨(method a).request, resp⟩ = f' a ((method a).response resp)) →
        (es.filterMap repliedOf).map f = as.filterMap (okValue f')) ∧
      ((∃ val, q = .done (.ok val) ∧ p' = .done val) ∨
      (∀ out, q ≠ .done out) ∧ ∀ val, p' ≠ .done val) := by
  obtain ⟨past, rest, as, p', rfl, hpast, hfollows, hrest⟩ := follows_wired h
  refine ⟨as, p', hfollows, fun β f f' hf => ?_, ?_⟩
  · rw [List.filterMap_append, List.map_append, blocks_replied hf hpast]
    rcases hrest with ⟨out, -, rfl, -⟩ | ⟨a, next, l, -, -, hl, hattempts⟩
    · exact List.append_nil _
    · have hnone := attempting_answered hattempts hl
      rw [answeredOf_eq, List.map_eq_nil_iff] at hnone
      rw [hnone]
      exact List.append_nil _
  · rcases hrest with ⟨val, rfl, -, rfl⟩ | ⟨a, next, l, rfl, hne, -, -⟩
    · exact Or.inl ⟨val, rfl, rfl⟩
    · exact Or.inr ⟨hne, nofun⟩

end Rpcs

/-! ## 4. Services -/

section Services

variable {Rpc κ α : Type} {Val : Rpc → Type} (interceptor : ModalInterceptor)
  (method : (a : Rpc) → RpcMethod V (Val a))
  (program : κ → Resumption Rpc (fun a => Except ModalError (Val a)) α)
  (fate : Nat → (call : M) → Fate (V call))

/-- What call `i` has seen answered. -/
def answeredTo {κ : Type} (i : Nat)
    (h : List (Happening κ (RetryAction M) (RetryAction.Reply V))) : List M :=
  (Pool.own i h).filterMap answeredOf

/-- **Every RPC that returns `Ok` is applied, and exactly once if no reply is lost**: any services at
    the same time, in any interleaving of their attempts. What was answered is applied in the order
    of the answers; nothing else is applied exactly if no reply to an applied request was lost. Of
    a call, the requests of its RPCs that returned `Ok` were answered once each, in order, whether
    it has returned or not. -/
theorem applied_exactly_once (moves : List (Move κ (RetryAction M) (RetryAction.Reply V))) :
    let g := servedSession interceptor method program fate moves
    (g.history.filterMap answeredRequest).Sublist g.shared.applied ∧
    (g.shared.applied = g.history.filterMap answeredRequest ↔ g.shared.lost = []) ∧
    ∀ i k q, g.threads i = some (k, q) → ∃ as p', Resumption.Follows (program k) as p' ∧
      answeredTo i g.history = as.filterMap (okRequest method) ∧
      ∀ out, q = .done out → ∃ val, out = .ok val ∧ p' = .done val := by
  intro g
  have hserved : Served g.shared g.history := served_ok moves
  refine ⟨hserved.answered, ⟨fun heq => ?_, fun hnone => ?_⟩, fun i k q h => ?_⟩
  · have hcount := hserved.count
    rw [heq] at hcount
    exact List.length_eq_zero_iff.mp (by omega)
  · refine (hserved.answered.eq_of_length ?_).symm
    rw [hserved.count, hnone, List.length_nil, Nat.add_zero]
  · obtain ⟨-, hpath⟩ := (Pool.run_onPath moves _).path i k q h
    obtain ⟨as, p', hfollows, hreplied, hends⟩ := wired_replied hpath
    refine ⟨as, p', hfollows, ?_, ?_⟩
    · rw [answeredTo, answeredOf_eq, okRequest_eq]
      exact hreplied M Answered.action (fun a _ => (method a).request) fun a resp => rfl
    · rintro out rfl
      rcases hends with ⟨val, hout, rfl⟩ | ⟨hne, -⟩
      · cases hout
        exact ⟨val, rfl, rfl⟩
      · exact absurd rfl (hne out)

end Services

/-- A deletion whose first reply is lost: it succeeds, and the server has deleted twice. -/
theorem applied_exactly_once_lost :
    let fate : Nat → (call : NamedMessage) → Fate (call.Response) := fun n call =>
      match call with
      | .queueGetOrCreate .. => .answered "qu-1"
      | .queueDelete _ => if n = 1 then .replyLost .unavailable else .answered ()
      | _ => .refused ⟨.unimplemented, ""⟩
    let moves : List WiredMove := .start 0 (.queueDelete "jobs" none) ::
      List.replicate 8 (.step 0 fun
        | .readClock | .takeNumber => 0
        | .attempt _ _ => .error ⟨.unknown, ""⟩
        | .sleep _ => ())
    let g := servedSession ⟨"ak", "as", "modal-rs/0.1"⟩ namedMethod (NamedCall.program "main") fate
      moves
    g.shared.applied =
        [.queueGetOrCreate "jobs" "main" 0, .queueDelete "qu-1", .queueDelete "qu-1"] ∧
      g.shared.applied ≠ g.history.filterMap answeredRequest := by
  intro fate moves g
  refine ⟨rfl, fun heq => ?_⟩
  have hlost := (applied_exactly_once ⟨"ak", "as", "modal-rs/0.1"⟩ namedMethod
    (NamedCall.program "main") fate moves).2.1.mp heq
  exact absurd (show g.shared.lost = [.queueDelete "qu-1"] from rfl) (by rw [hlost]; exact nofun)

end ModalRs
