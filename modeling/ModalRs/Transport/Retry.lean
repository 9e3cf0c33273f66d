/-
  File:      ModalRs/Transport/Retry.lean
  Subject:   Retries of transient gRPC errors.

  `retryCallAsync` calls a closure up to `max_retries + 1` times. The closure
  gets the attempt's context and may change the world; the world is whatever
  the caller of the model wants to observe.

  * `GrpcRetryConfig`, `isRetryable`: the configuration and the transient codes.
  * `retryFrom`, `retryCallAsync`: the loop, with the sleeps it makes.
  * `retryFrom_last`, `retryFrom_again`: the two things an attempt can lead to.
  * `scriptedCall`: calls whose outcomes come from a script.
  * `retry_follows_script`: the attempts, the sleeps and the result, for every script.
-/
import Mathlib.Algebra.Order.Ring.Nat
import ModalRs.Error
import ModalRs.Lib.Backoff
import ModalRs.Rust.Time

namespace ModalRs

open ModalRs.Lib ModalRs.Rust

/-- Retry configuration for transient gRPC errors. -/
structure GrpcRetryConfig where
  maxRetries : Nat := 3
  baseDelay : Duration := .fromMillis 100
  maxDelay : Duration := .fromSecs 1
  backoffFactor : Nat := 2
  deriving DecidableEq, Repr

/-- Check if a gRPC status code is retryable. -/
def GrpcRetryConfig.isRetryable (_config : GrpcRetryConfig) (code : Code) : Bool :=
  match code with
  | .deadlineExceeded | .unavailable | .cancelled => true
  | _ => false

/-- `{:x}`. -/
def lowerHex (n : Nat) : String := String.ofList (Nat.toDigits 16 n)

/-- Generate a simple idempotency key from timestamp + atomic counter. -/
def generateIdempotencyKey (nanos seq : Nat) : String := lowerHex nanos ++ "-" ++ lowerHex seq

/-- Context passed to each retry attempt. -/
structure RetryContext where
  attempt : Nat
  idempotencyKey : String
  deriving DecidableEq, Repr

/-- What the retries came to: the sleeps between them, the result, and the world behind them. -/
structure Retried (σ α : Type) where
  sleeps : List Duration
  result : Res ModalError α
  world : σ

variable {σ α : Type}

/-- The attempts from number `attempt` on, `left` of them at most. -/
def retryFrom (config : GrpcRetryConfig) (makeCall : RetryContext → σ → Except Status α × σ)
    (key : String) : (left attempt : Nat) → Duration → σ → Retried σ α
  | 0, _, _, s => ⟨[], .error (.panic .unreachable), s⟩
  | left + 1, attempt, delay, s =>
      match makeCall ⟨attempt, key⟩ s with
      | (.ok val, s) => ⟨[], .ok val, s⟩
      | (.error status, s) =>
          if config.isRetryable status.code ∧ attempt < config.maxRetries then
            -- sleep(delay), then the next delay
            match (Duration.mul delay config.backoffFactor : Res ModalError Duration) with
            | .error e => ⟨[delay], .error e, s⟩
            | .ok longer =>
                let rest := retryFrom config makeCall key left (attempt + 1)
                  (min longer config.maxDelay) s
                { rest with sleeps := delay :: rest.sleeps }
          else ⟨[], .error (.err (.grpc status)), s⟩

/-- Execute a gRPC call with automatic retry on transient errors. -/
def retryCallAsync (config : GrpcRetryConfig) (nanos seq : Nat)
    (makeCall : RetryContext → σ → Except Status α × σ) (s : σ) : Retried σ α :=
  retryFrom config makeCall (generateIdempotencyKey nanos seq) (config.maxRetries + 1) 0
    config.baseDelay s

section Attempt

variable {config : GrpcRetryConfig} {makeCall : RetryContext → σ → Except Status α × σ}
  {key : String} {left attempt : Nat} {delay : Duration} {s s' : σ} {out : Except Status α}

/-- The outcomes that are tried again, as far as there are attempts left. -/
def Transient (config : GrpcRetryConfig) (out : Except Status α) : Prop :=
  ∃ status, out = .error status ∧ config.isRetryable status.code = true

/-- What an outcome is to the caller of the retries. -/
def resultOf : Except Status α → Res ModalError α
  | .ok val => .ok val
  | .error status => .error (.err (.grpc status))

/-- **The last attempt**: its outcome is the result. -/
theorem retryFrom_last (hcall : makeCall ⟨attempt, key⟩ s = (out, s'))
    (hstop : ¬ (Transient config out ∧ attempt < config.maxRetries)) :
    retryFrom config makeCall key (left + 1) attempt delay s = ⟨[], resultOf out, s'⟩ := by
  rw [retryFrom, hcall]
  cases out with
  | ok val => rfl
  | error status =>
    have hno : ¬ (config.isRetryable status.code = true ∧ attempt < config.maxRetries) :=
      fun h => hstop ⟨⟨status, rfl, h.1⟩, h.2⟩
    simp only
    rw [if_neg hno]
    rfl

/-- **An attempt that is tried again**, after a sleep. -/
theorem retryFrom_again (hcall : makeCall ⟨attempt, key⟩ s = (out, s'))
    (hout : Transient config out) (hleft : attempt < config.maxRetries)
    (hmul : delay * config.backoffFactor ≤ Duration.max) :
    retryFrom config makeCall key (left + 1) attempt delay s =
      let rest := retryFrom config makeCall key left (attempt + 1)
        (min (delay * config.backoffFactor) config.maxDelay) s'
      { rest with sleeps := delay :: rest.sleeps } := by
  obtain ⟨status, rfl, hcode⟩ := hout
  rw [retryFrom, hcall]
  simp only
  rw [if_pos ⟨hcode, hleft⟩, Duration.mul, if_pos hmul]

theorem retryFrom_stops (hcall : makeCall ⟨attempt, key⟩ s = (out, s'))
    (hstop : ¬ (Transient config out ∧ attempt < config.maxRetries)) :
    (retryFrom config makeCall key (left + 1) attempt delay s).world = s' := by
  rw [retryFrom_last hcall hstop]

theorem retryFrom_retries (hcall : makeCall ⟨attempt, key⟩ s = (out, s'))
    (hout : Transient config out) (hleft : attempt < config.maxRetries)
    (hmul : delay * config.backoffFactor ≤ Duration.max) :
    (retryFrom config makeCall key (left + 1) attempt delay s).world =
      (retryFrom config makeCall key left (attempt + 1)
        (min (delay * config.backoffFactor) config.maxDelay) s').world := by
  rw [retryFrom_again hcall hout hleft hmul]

end Attempt

/-! ## Scripts -/

/-- Calls whose outcomes come from a script; the world has the contexts of the calls so far. -/
def scriptedCall (outs : Nat → Except Status α) (ctx : RetryContext) (calls : List RetryContext) :
    Except Status α × List RetryContext :=
  (outs calls.length, calls ++ [ctx])

/-- The contexts of the first attempts. -/
def contexts (key : String) (n : Nat) : List RetryContext := (List.range n).map (⟨·, key⟩)

theorem contexts_succ (key : String) (n : Nat) :
    contexts key (n + 1) = contexts key n ++ [⟨n, key⟩] := by
  rw [contexts, List.range_succ, List.map_append]
  rfl

theorem contexts_length (key : String) (n : Nat) : (contexts key n).length = n := by
  rw [contexts, List.length_map, List.length_range]

/-- The index of the last attempt: the outcomes before it are transient, and it is the last one
    allowed or its own outcome is not transient. -/
structure LastAttempt (config : GrpcRetryConfig) (outs : Nat → Except Status α) (m : Nat) :
    Prop where
  allowed : m ≤ config.maxRetries
  before : ∀ k, k < m → Transient config (outs k)
  stops : ¬ (Transient config (outs m) ∧ m < config.maxRetries)

section Script

variable {config : GrpcRetryConfig} (hfactor : 1 ≤ config.backoffFactor)
  (hmax : config.maxDelay * config.backoffFactor ≤ Duration.max)

/-- The sleep before attempt `k + 1`. -/
def GrpcRetryConfig.sleepAt (config : GrpcRetryConfig) (k : Nat) : Duration :=
  delayAt config.baseDelay config.backoffFactor config.maxDelay k

include hfactor hmax

/-- **The attempts from one on**, when all outcomes before it were transient. -/
theorem retryFrom_script (outs : Nat → Except Status α) (key : String) (left attempt : Nat)
    (hleft : attempt + left = config.maxRetries)
    (hbefore : ∀ k, k < attempt → Transient config (outs k)) :
    ∃ n, LastAttempt config outs (attempt + n) ∧
      retryFrom config (scriptedCall outs) key (left + 1) attempt (config.sleepAt attempt)
        (contexts key attempt) =
      ⟨(List.range' attempt n).map config.sleepAt, resultOf (outs (attempt + n)),
        contexts key (attempt + n + 1)⟩ := by
  have hcall : ∀ attempt, scriptedCall outs ⟨attempt, key⟩ (contexts key attempt) =
      (outs attempt, contexts key (attempt + 1)) := by
    intro attempt
    rw [scriptedCall, contexts_length, contexts_succ]
  induction left generalizing attempt with
  | zero =>
    have hstop : ¬ (Transient config (outs attempt) ∧ attempt < config.maxRetries) := by omega
    exact ⟨0, ⟨by omega, hbefore, hstop⟩, retryFrom_last (hcall attempt) hstop⟩
  | succ left ih =>
    by_cases htransient : Transient config (outs attempt)
    · -- it is tried again
      have hnext : min (config.sleepAt attempt * config.backoffFactor) config.maxDelay =
          config.sleepAt (attempt + 1) := delayAt_succ (Nat.zero_le _) hfactor attempt
      have hmul : config.sleepAt attempt * config.backoffFactor ≤ Duration.max :=
        Nat.le_trans (delayAt_mul_le (Nat.zero_le _) attempt) hmax
      have hbefore' : ∀ k, k < attempt + 1 → Transient config (outs k) := by
        intro k hk
        rcases Nat.lt_or_eq_of_le (Nat.le_of_lt_succ hk) with hlt | rfl
        · exact hbefore k hlt
        · exact htransient
      obtain ⟨n, hlast, hrest⟩ := ih (attempt + 1) (by omega) hbefore'
      have hindex : attempt + 1 + n = attempt + (n + 1) := by omega
      rw [hindex] at hlast hrest
      refine ⟨n + 1, hlast, ?_⟩
      rw [retryFrom_again (hcall attempt) htransient (by omega) hmul, hnext, hrest]
      rfl
    · -- its outcome is the result
      have hstop : ¬ (Transient config (outs attempt) ∧ attempt < config.maxRetries) :=
        fun h => htransient h.1
      exact ⟨0, ⟨by omega, hbefore, hstop⟩, retryFrom_last (hcall attempt) hstop⟩

end Script

/-- The first outcome of a script that is a success or not to be tried again. -/
structure FirstDecisive (config : GrpcRetryConfig) (outs : Nat → Except Status α) (i : Nat) :
    Prop where
  before : ∀ k, k < i → Transient config (outs k)
  decisive : ¬ Transient config (outs i)

theorem LastAttempt.of_decisive {config : GrpcRetryConfig} {outs : Nat → Except Status α}
    {m i : Nat} (hm : LastAttempt config outs m) (hi : FirstDecisive config outs i) :
    m = min i config.maxRetries := by
  have hle : m ≤ i := Nat.le_of_not_lt fun hlt => hi.decisive (hm.before i hlt)
  rcases Nat.lt_or_ge m config.maxRetries with hlt | hge
  · have hnot : ¬ Transient config (outs m) := fun h => hm.stops ⟨h, hlt⟩
    have hge : i ≤ m := Nat.le_of_not_lt fun hlt => hnot (hi.before m hlt)
    omega
  · have hallowed := hm.allowed
    omega

/-- **The retries follow the script**: attempts `0, 1, 2, …` with one key, up to the first outcome
    that is a success or not to be tried again, or up to the last retry; its outcome is the result,
    and the sleep before attempt `k + 1` is `base_delay * backoff_factor ^ k`, capped. -/
theorem retry_follows_script (config : GrpcRetryConfig) (hbase : config.baseDelay ≤ config.maxDelay)
    (hfactor : 1 ≤ config.backoffFactor)
    (hmax : config.maxDelay * config.backoffFactor ≤ Duration.max) (nanos seq : Nat)
    (outs : Nat → Except Status α) :
    let r := retryCallAsync config nanos seq (scriptedCall outs) []
    ∃ m, r.world = (List.range (m + 1)).map (fun k => ⟨k, generateIdempotencyKey nanos seq⟩) ∧
      (∀ i, FirstDecisive config outs i → m = min i config.maxRetries) ∧
      ((∀ k, k < config.maxRetries → Transient config (outs k)) → m = config.maxRetries) ∧
      r.result = resultOf (outs m) ∧
      r.sleeps = (List.range m).map (fun k =>
        min (config.baseDelay * config.backoffFactor ^ k) config.maxDelay) ∧
      r.result ≠ .error (.panic .unreachable) := by
  have hnone : ∀ k, k < 0 → Transient config (outs k) := fun k hk => absurd hk (Nat.not_lt_zero k)
  obtain ⟨m, hlast, hrun⟩ := retryFrom_script hfactor hmax outs
    (generateIdempotencyKey nanos seq) config.maxRetries 0 (Nat.zero_add _) hnone
  have hfirst : config.sleepAt 0 = config.baseDelay := delayAt_zero hbase
  rw [hfirst, Nat.zero_add] at hrun
  rw [Nat.zero_add] at hlast
  have hrun : retryCallAsync config nanos seq (scriptedCall outs) [] = _ := hrun
  rw [hrun]
  refine ⟨m, rfl, fun i hi => hlast.of_decisive hi, fun hall => ?_, rfl, ?_, ?_⟩
  · have hallowed := hlast.allowed
    rcases Nat.lt_or_ge m config.maxRetries with hlt | hge
    · exact absurd ⟨hall m hlt, hlt⟩ hlast.stops
    · omega
  · rw [← List.range_eq_range']
    rfl
  · cases outs m with
    | ok val => exact fun h => by cases h
    | error status => exact fun h => by cases h

/-- The default configuration: a server that is away at first, and denies the third attempt. -/
theorem retry_follows_script_denied :
    let outs : Nat → Except Status Nat := fun k =>
      .error ⟨if k < 2 then .unavailable else .permissionDenied, ""⟩
    let r := retryCallAsync {} 255 16 (scriptedCall outs) []
    r.sleeps = [.fromMillis 100, .fromMillis 200] ∧
    ∃ m, r.world = (List.range (m + 1)).map (fun k => ⟨k, generateIdempotencyKey 255 16⟩) ∧
      r.result = resultOf (outs m) := by
  intro outs r
  obtain ⟨m, hworld, -, -, hresult, -⟩ :=
    retry_follows_script {} (by decide) (by decide) (by decide) 255 16 outs
  exact ⟨by decide, m, hworld, hresult⟩

end ModalRs
