/-
  File:      ModalRs/Transport/Calls.lean
  Subject:   A retried call, action by action.

  A call reads the clock, takes a number of the global counter, and makes its
  attempts under the key that the two spell. What is called stays abstract: it
  names the closure that makes the attempts, and has its type of values.

  * `RetryAction`, `retryCall`: the call as a program; run alone it is `retryCallAsync`
    (`alone_retryCall`).
  * `retrying`, `Stands`: the order of its actions; `stands_retryCall`: on every path.
  * `Attempts`: the attempts of a call that is over; `Attempts.paced`: their numbers and
    sleeps; `follows_retryCall`: on every path that ends.
-/
import ModalRs.Lib.Resumption
import ModalRs.Transport.Retry

namespace ModalRs

open ModalRs.Lib ModalRs.Rust

/-! ## 1. The program -/

/-- What a retried call does; `M` is what can be called. -/
inductive RetryAction (M : Type) where
  /-- `SystemTime::now().duration_since(UNIX_EPOCH).unwrap_or_default().as_nanos()`. -/
  | readClock
  /-- `IDEMPOTENCY_COUNTER.fetch_add(1)`. -/
  | takeNumber
  /-- `make_call(ctx)`. -/
  | attempt (call : M) (ctx : RetryContext)
  | sleep (d : Duration)

variable {M : Type} {V : M → Type}

/-- An attempt is answered with a value of what is called, or with a status. -/
abbrev RetryAction.Reply (V : M → Type) : RetryAction M → Type
  | .readClock | .takeNumber => Nat
  | .attempt call _ => Except Status (V call)
  | .sleep _ => Unit

abbrev RetryEvent (V : M → Type) : Type := Answered (RetryAction M) (RetryAction.Reply V)

abbrev RetryProgram (V : M → Type) (α : Type) : Type :=
  Resumption (RetryAction M) (RetryAction.Reply V) α

/-- The attempts from number `attempt` on, `left` of them at most. -/
def attemptsFrom (config : GrpcRetryConfig) (call : M) (key : String) :
    (left attempt : Nat) → Duration → RetryProgram V (Res ModalError (V call))
  | 0, _, _ => .done (.error (.panic .unreachable))
  | left + 1, attempt, delay =>
      .act (.attempt call ⟨attempt, key⟩) fun
        | .ok val => .done (.ok val)
        | .error status =>
            if config.isRetryable status.code ∧ attempt < config.maxRetries then
              .act (.sleep delay) fun _ =>
                match (Duration.mul delay config.backoffFactor : Res ModalError Duration) with
                | .error e => .done (.error e)
                | .ok longer =>
                    attemptsFrom config call key left (attempt + 1) (min longer config.maxDelay)
            else .done (.error (.err (.grpc status)))

/-- Execute a gRPC call with automatic retry on transient errors. -/
def retryCall (config : GrpcRetryConfig) (call : M) : RetryProgram V (Res ModalError (V call)) :=
  .act .readClock fun ts =>
    .act .takeNumber fun seq =>
      attemptsFrom config call (generateIdempotencyKey ts seq) (config.maxRetries + 1) 0
        config.baseDelay

section Alone

variable {α σ : Type}

/-- A world that answers a call alone: it has the clock, the counter and what the attempts do; the
    sleeps are noted. -/
def aloneRetry (nanos seq : Nat) (makeCall : RetryContext → σ → Except Status α × σ) :
    List Duration × σ → (a : RetryAction Unit) → a.Reply (fun _ => α) × (List Duration × σ)
  | w, .readClock => (nanos, w)
  | w, .takeNumber => (seq, w)
  | (sleeps, s), .attempt _ ctx => ((makeCall ctx s).1, sleeps, (makeCall ctx s).2)
  | (sleeps, s), .sleep d => ((), sleeps ++ [d], s)

theorem alone_attemptsFrom {config : GrpcRetryConfig} {nanos seq : Nat} {key : String}
    {makeCall : RetryContext → σ → Except Status α × σ} :
    ∀ (left attempt : Nat) (delay : Duration) (slept : List Duration) (s : σ),
      (attemptsFrom config () key left attempt delay).interpret (aloneRetry nanos seq makeCall)
          (slept, s) =
        let r := retryFrom config makeCall key left attempt delay s
        (r.result, slept ++ r.sleeps, r.world)
  | 0, _, _, slept, s => by
      rw [attemptsFrom, retryFrom, Resumption.interpret]
      simp only [List.append_nil]
  | left + 1, attempt, delay, slept, s => by
      rw [attemptsFrom, retryFrom, Resumption.interpret, aloneRetry]
      rcases makeCall ⟨attempt, key⟩ s with ⟨status | val, s'⟩
      · simp only
        by_cases hagain : config.isRetryable status.code ∧ attempt < config.maxRetries
        · rw [if_pos hagain, if_pos hagain, Resumption.interpret, aloneRetry]
          cases (Duration.mul delay config.backoffFactor : Res ModalError Duration) with
          | error e => rw [Resumption.interpret]
          | ok longer =>
            simp only [alone_attemptsFrom left (attempt + 1) _ (slept ++ [delay]) s',
              List.append_assoc, List.singleton_append]
        · rw [if_neg hagain, if_neg hagain, Resumption.interpret]
          simp only [List.append_nil]
      · simp only [Resumption.interpret, List.append_nil]

/-- **A call alone** is `retryCallAsync`. -/
theorem alone_retryCall (config : GrpcRetryConfig) (nanos seq : Nat)
    (makeCall : RetryContext → σ → Except Status α × σ) (s : σ) :
    (retryCall config ()).interpret (aloneRetry nanos seq makeCall) ([], s) =
      let r := retryCallAsync config nanos seq makeCall s
      (r.result, r.sleeps, r.world) := alone_attemptsFrom _ _ _ [] s

end Alone

/-! ## 2. The order of its actions -/

/-- How far a call is. -/
inductive RetryPhase where
  | fresh
  | clocked (nanos : Nat)
  /-- It has its key, and has made `made` attempts. -/
  | keyed (nanos seq made : Nat)

section Order

variable [DecidableEq M] {config : GrpcRetryConfig} {call : M}

/-- The clock, a number, and attempts under the key that the two spell, counted from zero. -/
def retrying (call : M) :
    Resumption.Discipline (RetryAction M) (RetryAction.Reply V) RetryPhase
  | .fresh, ⟨.readClock, nanos⟩ => some (.clocked nanos)
  | .clocked nanos, ⟨.takeNumber, seq⟩ => some (.keyed nanos seq 0)
  | .keyed nanos seq made, ⟨.attempt called ctx, _⟩ =>
      if called = call ∧ ctx = ⟨made, generateIdempotencyKey nanos seq⟩ then
        some (.keyed nanos seq (made + 1))
      else none
  | .keyed nanos seq made, ⟨.sleep _, _⟩ => some (.keyed nanos seq made)
  | _, _ => none

theorem keeps_attemptsFrom {nanos seq : Nat} : ∀ (left made : Nat) (delay : Duration),
    Resumption.Keeps (retrying (V := V) call) (fun _ _ => True) (.keyed nanos seq made)
      (attemptsFrom config call (generateIdempotencyKey nanos seq) left made delay)
  | 0, _, _ => trivial
  | left + 1, made, delay => by
      intro reply
      refine ⟨.keyed nanos seq (made + 1), if_pos ⟨rfl, rfl⟩, ?_⟩
      cases reply with
      | ok val => exact trivial
      | error status =>
        by_cases hagain : config.isRetryable status.code ∧ made < config.maxRetries
        · simp only [if_pos hagain]
          refine fun _ => ⟨.keyed nanos seq (made + 1), rfl, ?_⟩
          cases (Duration.mul delay config.backoffFactor : Res ModalError Duration) with
          | error e => exact trivial
          | ok longer => exact keeps_attemptsFrom left (made + 1) _
        · simp only [if_neg hagain]
          exact trivial

theorem keeps_retryCall : Resumption.Keeps (retrying (V := V) call) (fun _ _ => True) .fresh
    (retryCall config call) :=
  fun nanos => ⟨.clocked nanos, rfl, fun seq => ⟨.keyed nanos seq 0, rfl, keeps_attemptsFrom _ 0 _⟩⟩

/-- What is called by an attempt, and its context. -/
def attemptOf : RetryEvent V → Option (M × RetryContext)
  | ⟨.attempt call ctx, _⟩ => some (call, ctx)
  | _ => none

/-- What a call has done that is so far. -/
inductive Stands (call : M) : RetryPhase → List (RetryEvent V) → Prop where
  | fresh : Stands call .fresh []
  | clocked (nanos : Nat) : Stands call (.clocked nanos) [⟨.readClock, nanos⟩]
  | keyed (nanos seq made : Nat) (rest : List (RetryEvent V))
      (htail : ∀ e ∈ rest, e.action ≠ .readClock ∧ e.action ≠ .takeNumber)
      (hattempts : rest.filterMap attemptOf =
        (List.range made).map fun n => (call, ⟨n, generateIdempotencyKey nanos seq⟩)) :
      Stands call (.keyed nanos seq made)
        (⟨.readClock, nanos⟩ :: ⟨.takeNumber, seq⟩ :: rest)

theorem Stands.next {m m' : RetryPhase} {es : List (RetryEvent V)} {e : RetryEvent V}
    (h : Stands call m es) (he : retrying call m e = some m') : Stands call m' (es ++ [e]) := by
  cases h with
  | fresh =>
    match e, he with
    | ⟨.readClock, nanos⟩, rfl => exact .clocked nanos
  | clocked nanos =>
    match e, he with
    | ⟨.takeNumber, seq⟩, rfl => exact .keyed nanos seq 0 [] (fun e he => by cases he) rfl
  | keyed nanos seq made rest htail hattempts =>
    have hsnoc : ∀ e : RetryEvent V, e.action ≠ .readClock ∧ e.action ≠ .takeNumber →
        ∀ e' ∈ rest ++ [e], e'.action ≠ .readClock ∧ e'.action ≠ .takeNumber :=
      fun e he => List.forall_mem_append.mpr ⟨htail, List.forall_mem_singleton.mpr he⟩
    match e, he with
    | ⟨.attempt called ctx, reply⟩, he =>
      obtain ⟨⟨hcalled, hctx⟩, hm'⟩ := Option.ite_none_right_eq_some.mp he
      cases hm'
      refine .keyed nanos seq (made + 1) (rest ++ [⟨.attempt called ctx, reply⟩])
        (hsnoc _ ⟨nofun, nofun⟩) ?_
      rw [List.filterMap_append, hattempts, List.range_succ, List.map_append, ← hcalled, hctx]
      rfl
    | ⟨.sleep d, r⟩, rfl =>
      refine .keyed nanos seq made (rest ++ [⟨.sleep d, r⟩]) (hsnoc _ ⟨nofun, nofun⟩) ?_
      rw [List.filterMap_append, hattempts]
      exact List.append_nil _

/-- **Every path of a call is in order.** -/
theorem stands_retryCall {es : List (RetryEvent V)} {q : RetryProgram V (Res ModalError (V call))}
    (h : Resumption.Follows (retryCall config call) es q) : ∃ m, Stands call m es := by
  obtain ⟨m, hafter, -⟩ := Resumption.keeps_follows h keeps_retryCall
  exact ⟨m, Resumption.Discipline.after_invariant (I := Stands call) (fun _ _ _ _ => Stands.next)
    .fresh hafter⟩

end Order

/-! ## 3. A call that is over -/

section Over

variable {config : GrpcRetryConfig} {call : M} {key : String}

/-- The attempts of a call from number `attempt` on, with what they were answered and the sleeps
    between them: the last one is answered with `reply`. -/
inductive Attempts (config : GrpcRetryConfig) (call : M) (key : String) :
    (attempt : Nat) → Duration → List (RetryEvent V) → Except Status (V call) → Prop where
  | last {attempt : Nat} {delay : Duration} {reply : Except Status (V call)}
      (hstop : ¬ (Transient config reply ∧ attempt < config.maxRetries)) :
      Attempts config call key attempt delay [⟨.attempt call ⟨attempt, key⟩, reply⟩] reply
  | again {attempt : Nat} {delay : Duration} {status : Status} {es : List (RetryEvent V)}
      {reply : Except Status (V call)}
      (htransient : config.isRetryable status.code = true) (hleft : attempt < config.maxRetries)
      (hrest : Attempts config call key (attempt + 1)
        (min (delay * config.backoffFactor) config.maxDelay) es reply) :
      Attempts config call key attempt delay
        (⟨.attempt call ⟨attempt, key⟩, .error status⟩ :: ⟨.sleep delay, ()⟩ :: es) reply

/-- How long is slept. -/
def sleepOf : RetryEvent V → Option Duration
  | ⟨.sleep d, _⟩ => some d
  | _ => none

/-- **The pace of the attempts**: they are counted on, under one key, and behind attempt `k`, unless
    it is the last one, there is the `k`-th sleep. -/
theorem Attempts.paced (hfactor : 1 ≤ config.backoffFactor) {attempt : Nat} {delay : Duration}
    {es : List (RetryEvent V)} {reply : Except Status (V call)}
    (h : Attempts config call key attempt delay es reply) (hdelay : delay = config.sleepAt attempt)
    (hallowed : attempt ≤ config.maxRetries) :
    ∃ n, attempt + n ≤ config.maxRetries ∧
      es.filterMap attemptOf = (List.range' attempt (n + 1)).map (fun k => (call, ⟨k, key⟩)) ∧
      es.filterMap sleepOf = (List.range' attempt n).map config.sleepAt := by
  induction h with
  | last => exact ⟨0, hallowed, rfl, rfl⟩
  | @again attempt delay status es reply htransient hleft hrest ih =>
    have hnext : min (delay * config.backoffFactor) config.maxDelay =
        config.sleepAt (attempt + 1) := by
      rw [hdelay]
      exact delayAt_succ (Nat.zero_le _) hfactor attempt
    obtain ⟨n, hn, hattempts, hsleeps⟩ := ih hnext hleft
    have hsleeps : es.filterMap sleepOf = _ := hsleeps
    refine ⟨n + 1, by omega, ?_, ?_⟩
    · exact congrArg ((call, ⟨attempt, key⟩) :: ·) hattempts
    · rw [hdelay]
      exact congrArg (config.sleepAt attempt :: ·) hsleeps

theorem follows_attemptsFrom
    (hmul : max config.baseDelay config.maxDelay * config.backoffFactor ≤ Duration.max) :
    ∀ {left attempt : Nat} {delay : Duration} {es : List (RetryEvent V)}
      {out : Res ModalError (V call)}, attempt + left = config.maxRetries →
      delay ≤ max config.baseDelay config.maxDelay →
      Resumption.Follows (attemptsFrom config call key (left + 1) attempt delay) es (.done out) →
      ∃ reply, Attempts config call key attempt delay es reply ∧ out = resultOf reply := by
  intro left
  induction left with
  | zero =>
    intro attempt delay es out hleft hdelay h
    cases h with
    | act _ _ reply h =>
      have hno : ¬ attempt < config.maxRetries := by omega
      cases reply with
      | ok val =>
        obtain ⟨rfl, hout⟩ := h.of_done
        cases hout
        exact ⟨.ok val, .last fun h => hno h.2, rfl⟩
      | error status =>
        simp only [if_neg fun h : config.isRetryable status.code ∧ _ => hno h.2] at h
        obtain ⟨rfl, hout⟩ := h.of_done
        cases hout
        exact ⟨.error status, .last fun h => hno h.2, rfl⟩
  | succ left ih =>
    intro attempt delay es out hleft hdelay h
    cases h with
    | act _ _ reply h =>
      cases reply with
      | ok val =>
        obtain ⟨rfl, hout⟩ := h.of_done
        cases hout
        refine ⟨.ok val, .last fun h => ?_, rfl⟩
        obtain ⟨⟨_, hok, -⟩, -⟩ := h
        cases hok
      | error status =>
        by_cases hagain : config.isRetryable status.code ∧ attempt < config.maxRetries
        · -- it sleeps and goes on
          simp only [if_pos hagain] at h
          cases h with
          | act _ _ _ h =>
            have hfits : delay * config.backoffFactor ≤ Duration.max :=
              Nat.le_trans (Nat.mul_le_mul_right _ hdelay) hmul
            simp only [Duration.mul, if_pos hfits] at h
            obtain ⟨reply, hrest, hout⟩ := ih (by omega)
              (Nat.le_trans (Nat.min_le_right _ _) (Nat.le_max_right _ _)) h
            exact ⟨reply, .again hagain.1 hagain.2 hrest, hout⟩
        · simp only [if_neg hagain] at h
          obtain ⟨rfl, hout⟩ := h.of_done
          cases hout
          refine ⟨.error status, .last fun h => hagain ?_, rfl⟩
          obtain ⟨⟨_, hstatus, hcode⟩, hlt⟩ := h
          cases hstatus
          exact ⟨hcode, hlt⟩

/-- **A call that is over**: the clock, a number, and attempts up to the one whose reply is its
    result. It does not panic, as long as no delay overflows. -/
theorem follows_retryCall
    (hmul : max config.baseDelay config.maxDelay * config.backoffFactor ≤ Duration.max)
    {es : List (RetryEvent V)} {out : Res ModalError (V call)}
    (h : Resumption.Follows (retryCall config call) es (.done out)) :
    ∃ nanos seq rest reply, es = ⟨.readClock, nanos⟩ :: ⟨.takeNumber, seq⟩ :: rest ∧
      Attempts config call (generateIdempotencyKey nanos seq) 0 config.baseDelay rest reply ∧
      out = resultOf reply := by
  cases h with
  | act _ _ nanos h =>
    cases h with
    | act _ _ seq h =>
      obtain ⟨reply, hrest, hout⟩ := follows_attemptsFrom hmul (Nat.zero_add _)
        (Nat.le_max_left _ _) h
      exact ⟨nanos, seq, _, reply, rfl, hrest, hout⟩

end Over

end ModalRs
