/-
  File:      ModalRs/Router/Retrying.lean
  Subject:   The retry loop for transient failures, against any server and any clock.

  A script gives what every attempt meets: the clock before it, the reply, whether
  the client is closed by then, and the clock when the reply is looked at.

  * `RetryOptions.round`, `callWithRetriesOnTransientErrors`: the loop of the source.
  * `RetryOptions.delayOf`: the delay before retry `k`, as the factor makes it.
  * `round_run`, `retry_runs`: what a round and a run of rounds can do.
  * `retries_exact`: without a deadline, which reply decides and what is slept before it.
  * `RetryRuns`: a run in closed form, its panics and its end with the script included.
  * `retries_keep_promise`: every run is of that form, and what such a run promises.
-/
import ModalRs.Lib.Script
import ModalRs.Router.Transient
import ModalRs.Rust.Float

namespace ModalRs.Retrying

open ModalRs.Lib ModalRs.Rust

/-! ## 1. The loop -/

/-- What an attempt meets. -/
structure RetryTurn (α : Type) where
  before : Instant
  reply : Except Status α
  closed : Bool
  after : Instant

/-- What the loop does: it calls the function, or sleeps for so long from then on. -/
inductive RetryEvent where
  | attempt (now : Instant)
  | sleep (now : Instant) (d : Duration)
  deriving DecidableEq

/-- The variables of the loop. -/
structure RetryLoop where
  delay : Duration
  numRetries : Int32
  deriving DecidableEq

def deadlineExceeded : Stop ModalError := .err (.other "deadline exceeded")

def detached : ModalError :=
  .clientClosed "Unable to perform operation on a detached sandbox"

section Loop

variable {α : Type} (opts : RetryOptions) (watched : Bool)

/-- `num_retries >= max`. -/
def spent (numRetries : Int32) : Bool :=
  match opts.maxRetries with
  | some max => max ≤ numRetries
  | none => false

/-- The call was cancelled because the client was closed; only a watched client is asked. -/
def isDetached (t : RetryTurn α) (status : Status) : Bool :=
  watched && t.closed && status.code == .cancelled

/-- The checks behind a failure; if all of them pass, the loop sleeps. -/
def onFailure (l : RetryLoop) (t : RetryTurn α) (status : Status) : Res ModalError Unit := do
  if isDetached watched t status then throw (.err detached)
  if ¬ isTransientCode status.code then throw (.err (.grpc status))
  if spent opts l.numRetries then throw (.err (.grpc status))
  match opts.deadline with
  | some deadline =>
      let wake ← Instant.add t.after l.delay
      if deadline ≤ wake then throw deadlineExceeded
  | none => pure ()

/-- The variables behind the sleep. -/
def RetryLoop.next (l : RetryLoop) : Res ModalError RetryLoop := do
  let delay ← F64.fromSecsF64 (F64.mul (F64.ofDuration l.delay) opts.delayFactor)
  if l.numRetries = Int32.maxValue then throw (.panic .addOverflow)
  pure ⟨delay, l.numRetries + 1⟩

def isOver (now : Instant) : Bool :=
  match opts.deadline with
  | some deadline => deadline ≤ now
  | none => false

/-- One round of the loop. -/
def round (l : RetryLoop) (t : RetryTurn α) :
    List RetryEvent × Res ModalError (RetryLoop ⊕ α) :=
  if isOver opts t.before then ([], .error deadlineExceeded)
  else
    match t.reply with
    | .ok result => ([.attempt t.before], .ok (.inr result))
    | .error status =>
        match onFailure opts watched l t status with
        | .error e => ([.attempt t.before], .error e)
        | .ok () => ([.attempt t.before, .sleep t.after l.delay], (l.next opts).map .inl)

/-- Call a function with retries on transient gRPC errors. `watched` says whether there is a flag
    for the closing of the client. -/
def callWithRetriesOnTransientErrors (turns : List (RetryTurn α)) :
    List RetryEvent × Res ModalError α :=
  runScript .diverged (round opts watched) ⟨opts.baseDelay, 0⟩ turns

end Loop

/-! ## 2. Delays and budgets -/

/-- The delay before retry `k`, if there is one: the base, times the factor `k` times over. -/
def delayOf (opts : RetryOptions) : Nat → Option Duration
  | 0 => some opts.baseDelay
  | k + 1 => (delayOf opts k).bind fun d =>
      F64.toDuration (F64.mul (F64.ofDuration d) opts.delayFactor)

/-- The default delays are 10 ms, doubled every time: rounding changes none of them. -/
theorem delayOf_default : ∀ k ≤ 10,
    delayOf RetryOptions.default k = some (Duration.fromMillis (10 * 2 ^ k)) := by
  decide +kernel

/-- The variables after `k` retries. -/
structure Retried (opts : RetryOptions) (k : Nat) (l : RetryLoop) : Prop where
  delay : delayOf opts k = some l.delay
  count : l.numRetries.toInt = k

theorem retried_start (opts : RetryOptions) : Retried opts 0 ⟨opts.baseDelay, 0⟩ := ⟨rfl, rfl⟩

theorem int32_succ {n : Int32} (h : n ≠ Int32.maxValue) : (n + 1).toInt = n.toInt + 1 := by
  have hlt : n.toInt ≠ Int32.maxValue.toInt := fun heq => h (Int32.toInt_inj.mp heq)
  have hmax : Int32.maxValue.toInt = 2 ^ 31 - 1 := rfl
  have hle := Int32.toInt_le n
  have hge := Int32.le_toInt n
  rw [Int32.toInt_add]
  have hone : (1 : Int32).toInt = 1 := rfl
  rw [hone]
  apply Int.bmod_eq_of_le <;> omega

/-- What the variables can be behind a sleep: one retry further, or the loop has panicked. -/
theorem Retried.next {opts : RetryOptions} {k : Nat} {l : RetryLoop} (h : Retried opts k l) :
    (∃ l', l.next opts = .ok l' ∧ Retried opts (k + 1) l') ∨
    (l.next opts = .error (.panic .unwrapNone) ∧ delayOf opts (k + 1) = none) ∨
    (l.next opts = .error (.panic .addOverflow) ∧ (delayOf opts (k + 1)).isSome ∧
      k + 1 = 2 ^ 31) := by
  have hstep : delayOf opts (k + 1) =
      F64.toDuration (F64.mul (F64.ofDuration l.delay) opts.delayFactor) := by
    rw [delayOf, h.delay, Option.bind_some]
  unfold RetryLoop.next F64.fromSecsF64
  cases hd : F64.toDuration (F64.mul (F64.ofDuration l.delay) opts.delayFactor) with
  | none => exact Or.inr (Or.inl ⟨rfl, hstep.trans hd⟩)
  | some d =>
    by_cases hmax : l.numRetries = Int32.maxValue
    · have hcount : (Int32.maxValue).toInt = k := by rw [← hmax, h.count]
      have hfull : Int32.maxValue.toInt = 2 ^ 31 - 1 := rfl
      refine Or.inr (Or.inr ⟨by simp only [hmax]; rfl, ?_, by omega⟩)
      rw [hstep, hd]
      rfl
    · refine Or.inl ⟨⟨d, l.numRetries + 1⟩, ?_, ?_, ?_⟩
      · simp only [bind, Except.bind, if_neg hmax]
        rfl
      · rw [hstep, hd]
      · rw [int32_succ hmax, h.count, Int.natCast_add, Int.natCast_one]

theorem Retried.lt {opts : RetryOptions} {k : Nat} {l : RetryLoop} (h : Retried opts k l) :
    k < 2 ^ 31 := by
  have hle := Int32.toInt_le l.numRetries
  have hfull : Int32.maxValue.toInt = 2 ^ 31 - 1 := rfl
  have hcount := h.count
  omega

/-! ## 3. What a round can do -/

section Rounds

variable {α : Type} {opts : RetryOptions} {watched : Bool} {k : Nat} {l : RetryLoop}
  {t : RetryTurn α}

/-- A failure that is worth a retry. -/
def isRetryable (watched : Bool) (t : RetryTurn α) : Bool :=
  match t.reply with
  | .ok _ => false
  | .error status => !isDetached watched t status && isTransientCode status.code

/-- The outcome of a call whose last attempt meets `t`. -/
def outcome (watched : Bool) (t : RetryTurn α) : Except ModalError α :=
  match t.reply with
  | .ok result => .ok result
  | .error status => .error (if isDetached watched t status then detached else .grpc status)

/-- How many retries there can be; none for a negative number. -/
def budget (max : Int32) : Nat := max.toInt.toNat

theorem spent_iff {max : Int32} (hmax : opts.maxRetries = some max) (h : Retried opts k l) :
    spent opts l.numRetries = true ↔ budget max ≤ k := by
  have hcount := h.count
  unfold spent budget
  rw [hmax, decide_eq_true_eq, Int32.le_iff_toInt_le, hcount]
  omega

/-- What a round leaves and how it ends, with the variables of `k` retries. -/
inductive RoundRun (opts : RetryOptions) (watched : Bool) (k : Nat) (l : RetryLoop)
    (t : RetryTurn α) : List RetryEvent → Res ModalError (RetryLoop ⊕ α) → Prop where
  /-- The deadline has passed: nothing is attempted. -/
  | late (h : isOver opts t.before = true) :
      RoundRun opts watched k l t [] (.error deadlineExceeded)
  /-- The attempt decides: it succeeds, or fails for good. -/
  | decides (hover : isOver opts t.before = false) (h : isRetryable watched t = false) :
      RoundRun opts watched k l t [.attempt t.before] ((liftExcept (outcome watched t)).map .inr)
  /-- The budget is used up. -/
  | gaveUp (hover : isOver opts t.before = false) (h : isRetryable watched t = true)
      (hspent : spent opts l.numRetries = true) :
      RoundRun opts watched k l t [.attempt t.before] ((liftExcept (outcome watched t)).map .inr)
  /-- The sleep would end at the deadline or behind it. -/
  | noTime (deadline : Instant) (hover : isOver opts t.before = false)
      (h : isRetryable watched t = true) (hspent : spent opts l.numRetries = false)
      (hdeadline : opts.deadline = some deadline) (hmax : t.after + l.delay ≤ Instant.max)
      (hlate : deadline ≤ t.after + l.delay) :
      RoundRun opts watched k l t [.attempt t.before] (.error deadlineExceeded)
  /-- The sleep would end at no instant at all. -/
  | noInstant (deadline : Instant) (hover : isOver opts t.before = false)
      (h : isRetryable watched t = true) (hspent : spent opts l.numRetries = false)
      (hdeadline : opts.deadline = some deadline) (hmax : Instant.max < t.after + l.delay) :
      RoundRun opts watched k l t [.attempt t.before] (.error (.panic .addOverflow))
  /-- The loop sleeps; then it goes round, or the next delay or the counter overflows. -/
  | slept (hover : isOver opts t.before = false) (h : isRetryable watched t = true)
      (hspent : spent opts l.numRetries = false)
      (htime : ∀ deadline, opts.deadline = some deadline →
        t.after + l.delay ≤ Instant.max ∧ t.after + l.delay < deadline) :
      RoundRun opts watched k l t [.attempt t.before, .sleep t.after l.delay]
        ((l.next opts).map .inl)

/-- **What a round can do.** -/
theorem round_run (opts : RetryOptions) (watched : Bool) (k : Nat) (l : RetryLoop)
    (t : RetryTurn α) :
    RoundRun opts watched k l t (round opts watched l t).1 (round opts watched l t).2 := by
  unfold round
  cases hover : isOver opts t.before with
  | true => exact .late hover
  | false =>
    rw [if_neg Bool.false_ne_true]
    cases hreply : t.reply with
    | ok result =>
      have hout : outcome watched t = .ok result := by rw [outcome, hreply]
      have h := RoundRun.decides (l := l) (k := k) hover (show isRetryable watched t = false by
        rw [isRetryable, hreply])
      rw [hout] at h
      exact h
    | error status =>
      have hout : outcome watched t =
          .error (if isDetached watched t status then detached else .grpc status) := by
        rw [outcome, hreply]
      have hretry : isRetryable watched t =
          (!isDetached watched t status && isTransientCode status.code) := by
        rw [isRetryable, hreply]
      cases hdet : isDetached watched t status with
      | true =>
        have h := RoundRun.decides (l := l) (k := k) hover (show isRetryable watched t = false by
          rw [hretry, hdet]; rfl)
        rw [hout, hdet] at h
        simp only [onFailure, hdet]
        exact h
      | false =>
        cases hcode : isTransientCode status.code with
        | false =>
          have h := RoundRun.decides (l := l) (k := k) hover
            (show isRetryable watched t = false by rw [hretry, hdet, hcode]; rfl)
          rw [hout, hdet] at h
          simp only [onFailure, hdet, hcode]
          exact h
        | true =>
          have hretryable : isRetryable watched t = true := by rw [hretry, hdet, hcode]; rfl
          cases hspent : spent opts l.numRetries with
          | true =>
            have h := RoundRun.gaveUp (k := k) hover hretryable hspent
            rw [hout, hdet] at h
            simp only [onFailure, hdet, hcode, hspent]
            exact h
          | false =>
            simp only [onFailure, hdet, hcode, hspent]
            cases hdeadline : opts.deadline with
            | none =>
              refine .slept hover hretryable hspent fun d hd => ?_
              rw [hdeadline] at hd
              cases hd
            | some deadline =>
              simp only [Instant.add]
              by_cases hmax : t.after + l.delay ≤ Instant.max
              · rw [if_pos hmax]
                by_cases hlate : deadline ≤ t.after + l.delay
                · have h := RoundRun.noTime (k := k) deadline hover hretryable hspent hdeadline
                    hmax hlate
                  simp only [bind, Except.bind, if_pos hlate]
                  exact h
                · simp only [bind, Except.bind, if_neg hlate]
                  refine .slept hover hretryable hspent fun d hd => ?_
                  rw [hdeadline] at hd
                  cases hd
                  exact ⟨hmax, Nat.lt_of_not_le hlate⟩
              · rw [if_neg hmax]
                exact .noInstant deadline hover hretryable hspent hdeadline
                  (Nat.lt_of_not_le hmax)

end Rounds

/-! ## 4. What a run can do -/

section Runs

variable {α : Type} (opts : RetryOptions) (watched : Bool)

/-- What is left behind by attempts that were slept on, from the `k`-th on. -/
def waits : Nat → List (RetryTurn α) → List RetryEvent
  | _, [] => []
  | k, t :: ts => .attempt t.before :: .sleep t.after ((delayOf opts k).getD 0) :: waits (k + 1) ts

/-- Attempt `k` fails for now, and a retry is left. -/
structure Refused (k : Nat) (t : RetryTurn α) : Prop where
  early : isOver opts t.before = false
  retryable : isRetryable watched t = true
  budget : ∀ max, opts.maxRetries = some max → k < budget max

/-- It is slept on: a sleep of its delay ends before the deadline. -/
structure Waited (k : Nat) (t : RetryTurn α) : Prop extends Refused opts watched k t where
  delay : (delayOf opts k).isSome
  inTime : ∀ deadline, opts.deadline = some deadline →
    t.after + (delayOf opts k).getD 0 ≤ Instant.max ∧
      t.after + (delayOf opts k).getD 0 < deadline

/-- The loop goes round behind the sleep: there is a next delay, and the counter can count it. -/
structure GoesOn (k : Nat) (t : RetryTurn α) : Prop extends Waited opts watched k t where
  next : (delayOf opts (k + 1)).isSome
  count : k + 1 < 2 ^ 31

/-- The ways a run ends behind `k` retries: what is left behind from there on, and the outcome. No
    two of them can happen on one script. -/
inductive Ends (k : Nat) : List (RetryTurn α) → List RetryEvent → Res ModalError α → Prop where
  /-- The script is over. -/
  | cut : Ends k [] [] (.error .diverged)
  /-- The deadline passes before the attempt. -/
  | late (t : RetryTurn α) (ts : List (RetryTurn α)) (deadline : Instant)
      (hdeadline : opts.deadline = some deadline) (h : deadline ≤ t.before) :
      Ends k (t :: ts) [] (.error deadlineExceeded)
  /-- The attempt decides. -/
  | decides (t : RetryTurn α) (ts : List (RetryTurn α)) (hover : isOver opts t.before = false)
      (h : isRetryable watched t = true → ∃ max, opts.maxRetries = some max ∧ budget max ≤ k) :
      Ends k (t :: ts) [.attempt t.before] (liftExcept (outcome watched t))
  /-- There is no time to sleep before the deadline. -/
  | noTime (t : RetryTurn α) (ts : List (RetryTurn α)) (h : Refused opts watched k t)
      (deadline : Instant) (hdeadline : opts.deadline = some deadline)
      (hmax : t.after + (delayOf opts k).getD 0 ≤ Instant.max)
      (hlate : deadline ≤ t.after + (delayOf opts k).getD 0) :
      Ends k (t :: ts) [.attempt t.before] (.error deadlineExceeded)
  /-- No instant is as late as the end of the sleep; it is computed only if there is a deadline. -/
  | noInstant (t : RetryTurn α) (ts : List (RetryTurn α)) (h : Refused opts watched k t)
      (hdeadline : opts.deadline ≠ none) (hmax : Instant.max < t.after + (delayOf opts k).getD 0) :
      Ends k (t :: ts) [.attempt t.before] (.error (.panic .addOverflow))
  /-- The next delay is no duration: it is negative, NaN or too long. -/
  | noDelay (t : RetryTurn α) (ts : List (RetryTurn α)) (h : Waited opts watched k t)
      (hnone : delayOf opts (k + 1) = none) :
      Ends k (t :: ts) [.attempt t.before, .sleep t.after ((delayOf opts k).getD 0)]
        (.error (.panic .unwrapNone))
  /-- The counter is full. -/
  | full (t : RetryTurn α) (ts : List (RetryTurn α)) (h : Waited opts watched k t)
      (hsome : (delayOf opts (k + 1)).isSome) (hcount : k + 1 = 2 ^ 31) :
      Ends k (t :: ts) [.attempt t.before, .sleep t.after ((delayOf opts k).getD 0)]
        (.error (.panic .addOverflow))

/-- A run in closed form: attempts that the loop goes round behind, and then an end. -/
def RetryRuns (turns : List (RetryTurn α)) (events : List RetryEvent) (out : Res ModalError α) :
    Prop :=
  ∃ done rest es, turns = done ++ rest ∧ events = waits opts 0 done ++ es ∧
    (∀ i t, done[i]? = some t → GoesOn opts watched i t) ∧
    Ends opts watched done.length rest es out

end Runs

section Runs

variable {α : Type} {opts : RetryOptions} {watched : Bool} {k : Nat} {l : RetryLoop}

theorem of_isOver {now : Instant} (h : isOver opts now = true) :
    ∃ deadline, opts.deadline = some deadline ∧ deadline ≤ now := by
  unfold isOver at h
  cases hd : opts.deadline with
  | none =>
    rw [hd] at h
    cases h
  | some deadline =>
    rw [hd] at h
    exact ⟨deadline, rfl, of_decide_eq_true h⟩

theorem refused_of_spent {t : RetryTurn α} (h : Retried opts k l)
    (hover : isOver opts t.before = false) (hretry : isRetryable watched t = true)
    (hspent : spent opts l.numRetries = false) : Refused opts watched k t where
  early := hover
  retryable := hretry
  budget max hmax := by
    have hiff := spent_iff hmax h
    rw [hspent] at hiff
    exact Nat.lt_of_not_le fun hle => Bool.false_ne_true (hiff.mpr hle)

/-- What a round that slept has seen. -/
theorem waited_of_slept {t : RetryTurn α} (h : Retried opts k l)
    (hrefused : Refused opts watched k t)
    (htime : ∀ deadline, opts.deadline = some deadline →
      t.after + l.delay ≤ Instant.max ∧ t.after + l.delay < deadline) :
    Waited opts watched k t where
  toRefused := hrefused
  delay := by rw [h.delay]; rfl
  inTime := by
    rw [h.delay, Option.getD_some]
    exact htime

/-- A failure that is not retried because the budget is used up. -/
theorem budget_of_spent (h : Retried opts k l) (hspent : spent opts l.numRetries = true) :
    ∃ max, opts.maxRetries = some max ∧ budget max ≤ k := by
  cases hmax : opts.maxRetries with
  | none =>
    rw [spent, hmax] at hspent
    cases hspent
  | some max => exact ⟨max, rfl, (spent_iff hmax h).mp hspent⟩

theorem Waited.delay_eq {t : RetryTurn α} (h : Waited opts watched k t) :
    delayOf opts k = some ((delayOf opts k).getD 0) := by
  obtain ⟨d, hd⟩ := Option.isSome_iff_exists.mp h.delay
  rw [hd, Option.getD_some]

/-- What a round with the variables of `k` retries leads to: the end of the run, or a sleep and the
    variables of one retry more. -/
theorem round_leads (h : Retried opts k l) (t : RetryTurn α) (ts : List (RetryTurn α)) :
    (∃ es out, round opts watched l t = (es, out.map .inr) ∧ Ends opts watched k (t :: ts) es out) ∨
    ∃ l', round opts watched l t =
        ([.attempt t.before, .sleep t.after ((delayOf opts k).getD 0)], .ok (.inl l')) ∧
      GoesOn opts watched k t ∧ Retried opts (k + 1) l' := by
  have hdelay : (delayOf opts k).getD 0 = l.delay := by rw [h.delay, Option.getD_some]
  have hrun := round_run opts watched k l t
  rcases hround : round opts watched l t with ⟨es, out⟩
  rw [hround] at hrun
  cases hrun with
  | late hover =>
    obtain ⟨deadline, hd, hle⟩ := of_isOver hover
    exact Or.inl ⟨_, .error _, rfl, .late t ts deadline hd hle⟩
  | decides hover hretry =>
    refine Or.inl ⟨_, _, rfl, .decides t ts hover fun htrue => ?_⟩
    rw [hretry] at htrue
    cases htrue
  | gaveUp hover hretry hspent =>
    exact Or.inl ⟨_, _, rfl, .decides t ts hover fun _ => budget_of_spent h hspent⟩
  | noTime deadline hover hretry hspent hd hmax hlate =>
    have hrefused := refused_of_spent h hover hretry hspent
    exact Or.inl ⟨_, .error _, rfl,
      .noTime t ts hrefused deadline hd (hdelay ▸ hmax) (hdelay ▸ hlate)⟩
  | noInstant deadline hover hretry hspent hd hmax =>
    have hrefused := refused_of_spent h hover hretry hspent
    exact Or.inl ⟨_, .error _, rfl,
      .noInstant t ts hrefused (by rw [hd]; exact Option.some_ne_none _) (hdelay ▸ hmax)⟩
  | slept hover hretry hspent htime =>
    have hwaited := waited_of_slept h (refused_of_spent h hover hretry hspent) htime
    obtain ⟨l', hl', hnext⟩ | ⟨hp, hnone⟩ | ⟨hp, hsome, hcount⟩ := h.next
    · refine Or.inr ⟨l', by rw [hl', hdelay], ⟨hwaited, ?_, hnext.lt⟩, hnext⟩
      rw [hnext.delay]
      rfl
    · refine Or.inl ⟨_, .error _, ?_, .noDelay t ts hwaited hnone⟩
      rw [hp, hdelay]
      rfl
    · refine Or.inl ⟨_, .error _, ?_, .full t ts hwaited hsome hcount⟩
      rw [hp, hdelay]
      rfl

/-- **What a run can do**: so many attempts that are slept on, and then an end. -/
theorem retry_runs (watched : Bool) (h : Retried opts k l) (turns : List (RetryTurn α)) :
    ∃ done rest es out, turns = done ++ rest ∧
      runScript .diverged (round opts watched) l turns = (waits opts k done ++ es, out) ∧
      (∀ i t, done[i]? = some t → GoesOn opts watched (k + i) t) ∧
      Ends opts watched (k + done.length) rest es out := by
  induction turns generalizing k l with
  | nil => exact ⟨[], [], [], _, rfl, rfl, (by intro i t hi; cases hi), .cut⟩
  | cons t ts ih =>
    obtain ⟨es, out, hround, hends⟩ | ⟨l', hround, hgoes, hnext⟩ := round_leads h t ts
    · exact ⟨[], t :: ts, es, out, rfl, runScript_last hround ts, (by intro i t hi; cases hi),
        hends⟩
    · obtain ⟨done, rest, es, out, hts, hrun, hall, hends⟩ := ih hnext
      refine ⟨t :: done, rest, es, out, by rw [hts, List.cons_append], ?_, ?_, ?_⟩
      · rw [runScript_goes hround, hrun]
        rfl
      · intro i t' hi
        cases i with
        | zero =>
          cases hi
          exact hgoes
        | succ i =>
          have hw := hall i t' hi
          rw [Nat.add_right_comm] at hw
          exact hw
      · rw [List.length_cons, Nat.add_comm done.length, ← Nat.add_assoc]
        exact hends

theorem retryRuns (opts : RetryOptions) (watched : Bool) (turns : List (RetryTurn α)) :
    RetryRuns opts watched turns (callWithRetriesOnTransientErrors opts watched turns).1
      (callWithRetriesOnTransientErrors opts watched turns).2 := by
  obtain ⟨done, rest, es, out, hturns, hrun, hall, hends⟩ :=
    retry_runs watched (retried_start opts) turns
  rw [callWithRetriesOnTransientErrors, hrun]
  refine ⟨done, rest, es, hturns, rfl, fun i t hi => ?_, ?_⟩
  · have hgoes := hall i t hi
    rw [Nat.zero_add] at hgoes
    exact hgoes
  · rw [Nat.zero_add] at hends
    exact hends

end Runs

/-! ## 5. Which reply decides -/

section Exact

variable {α : Type} {opts : RetryOptions} {watched : Bool}

theorem takeWhile_of_goes {done : List (RetryTurn α)} (rest : List (RetryTurn α))
    (h : ∀ i t, done[i]? = some t → GoesOn opts watched i t) :
    (done ++ rest).takeWhile (isRetryable watched) =
      done ++ rest.takeWhile (isRetryable watched) := by
  apply List.takeWhile_append_of_pos
  intro t ht
  obtain ⟨i, hi, rfl⟩ := List.mem_iff_getElem.mp ht
  exact (h i _ (List.getElem?_eq_getElem hi)).retryable

/-- The attempts that are slept on are no more than the budget. -/
theorem length_le_budget {done : List (RetryTurn α)} {max : Int32}
    (h : ∀ i t, done[i]? = some t → GoesOn opts watched i t)
    (hmax : opts.maxRetries = some max) : done.length ≤ budget max := by
  cases hlen : done.length with
  | zero => exact Nat.zero_le _
  | succ n =>
    have hn : n < done.length := by omega
    have hlast := (h n _ (List.getElem?_eq_getElem hn)).budget max hmax
    omega

/-- **Which reply decides.** Without a deadline, with a bound on the retries and a duration for each
    delay up to it, the first attempt that is not worth a retry decides, or the one behind the last
    retry of the budget; each attempt before it is slept on for its delay. -/
theorem retries_exact {max : Int32} (hdeadline : opts.deadline = none)
    (hmax : opts.maxRetries = some max) (hdelays : ∀ k ≤ budget max, (delayOf opts k).isSome)
    (turns : List (RetryTurn α)) :
    let n := min (turns.takeWhile (isRetryable watched)).length (budget max)
    callWithRetriesOnTransientErrors opts watched turns =
      match turns[n]? with
      | some t =>
          (waits opts 0 (turns.take n) ++ [.attempt t.before], liftExcept (outcome watched t))
      | none => (waits opts 0 turns, .error .diverged) := by
  intro n
  obtain ⟨done, rest, es, hturns, hevents, hall, hends⟩ := retryRuns opts watched turns
  have hle := length_le_budget hall hmax
  have hwhile := takeWhile_of_goes rest hall
  rw [← hturns] at hwhile
  rcases hrun : callWithRetriesOnTransientErrors opts watched turns with ⟨events, out⟩
  rw [hrun] at hevents hends
  dsimp only at hevents hends
  subst hevents
  cases hends with
  | cut =>
    rw [List.append_nil] at hturns
    subst hturns
    have hn : turns[n]? = none := by
      rw [List.getElem?_eq_none_iff]
      simp only [n, hwhile, List.takeWhile_nil, List.append_nil]
      exact le_min (Nat.le_refl _) hle
    rw [hn, List.append_nil]
  | late t ts deadline hd h =>
    rw [hdeadline] at hd
    cases hd
  | decides t ts hover h =>
    have hn : n = done.length := by
      cases hretry : isRetryable watched t with
      | false =>
        rw [List.takeWhile_cons_of_neg (by rw [hretry]; exact Bool.false_ne_true),
          List.append_nil] at hwhile
        simp only [n, hwhile]
        exact min_eq_left hle
      | true =>
        obtain ⟨max', hmax', hb⟩ := h hretry
        rw [hmax] at hmax'
        cases hmax'
        have hlong : budget max ≤ (turns.takeWhile (isRetryable watched)).length := by
          rw [hwhile, List.length_append]
          omega
        simp only [n, min_eq_right hlong]
        omega
    rw [hn, hturns, List.getElem?_append_right (Nat.le_refl _), Nat.sub_self, List.take_left]
    rfl
  | noTime t ts h deadline hd hm hlate =>
    rw [hdeadline] at hd
    cases hd
  | noInstant t ts h hd hm => exact absurd hdeadline hd
  | noDelay t ts h hnone =>
    have hsome := hdelays (done.length + 1) (h.budget max hmax)
    rw [hnone] at hsome
    cases hsome
  | full t ts h hsome hcount =>
    have hlt := h.budget max hmax
    have hbound := Int32.toInt_le max
    have hfull : Int32.maxValue.toInt = 2 ^ 31 - 1 := rfl
    unfold budget at hlt
    omega

/-- Two refusals for now and an answer, under the default options: 10 ms and 20 ms are slept. -/
theorem retries_exact_third :
    let unavailable : Except Status Nat := .error ⟨.unavailable, "try again"⟩
    let turns : List (RetryTurn Nat) :=
      [⟨0, unavailable, false, 5⟩, ⟨10000005, unavailable, false, 10000009⟩,
        ⟨30000009, .ok 7, false, 30000011⟩]
    callWithRetriesOnTransientErrors RetryOptions.default true turns =
      ([.attempt 0, .sleep 5 10000000, .attempt 10000005, .sleep 10000009 20000000,
        .attempt 30000009], .ok 7) := by
  intro unavailable turns
  have hdelays : ∀ k ≤ budget 10, (delayOf RetryOptions.default k).isSome := fun k hk => by
    rw [delayOf_default k hk]
    rfl
  have hrun := @retries_exact _ _ true _ rfl rfl hdelays turns
  rw [hrun]
  have htake : min (turns.takeWhile (isRetryable true)).length (budget 10) = 2 := rfl
  rw [htake]
  change (waits RetryOptions.default 0 (turns.take 2) ++ [.attempt 30000009], _) = _
  have h0 := delayOf_default 0 (by decide)
  have h1 := delayOf_default 1 (by decide)
  simp only [turns, List.take, waits, h0, h1]
  rfl

end Exact

/-! ## 6. What every run promises -/

def attempts (events : List RetryEvent) : List Instant :=
  events.filterMap fun
    | .attempt now => some now
    | .sleep _ _ => none

def sleeps (events : List RetryEvent) : List (Instant × Duration) :=
  events.filterMap fun
    | .attempt _ => none
    | .sleep now d => some (now, d)

section Promise

variable {α : Type}

/-- The deadline has passed before the next attempt, or it would pass while the loop sleeps behind
    the last one. -/
def OutOfTime (opts : RetryOptions) (watched : Bool) (k : Nat) (turns : List (RetryTurn α))
    (n : Nat) : Prop :=
  ∃ deadline, opts.deadline = some deadline ∧
    ((∃ t, turns[n]? = some t ∧ deadline ≤ t.before) ∨
      ∃ i t, n = i + 1 ∧ turns[i]? = some t ∧ Refused opts watched (k + i) t ∧
        deadline ≤ t.after + (delayOf opts (k + i)).getD 0)

/-- The loop cannot go on behind its last attempt: it would sleep past every instant, the next delay
    is no duration, or the counter is full. -/
def Overflows (opts : RetryOptions) (watched : Bool) (k : Nat) (turns : List (RetryTurn α))
    (n : Nat) : Prop :=
  ∃ i t, n = i + 1 ∧ turns[i]? = some t ∧ Refused opts watched (k + i) t ∧
    (opts.deadline ≠ none ∧ Instant.max < t.after + (delayOf opts (k + i)).getD 0 ∨
      delayOf opts (k + i + 1) = none ∨ k + i + 1 = 2 ^ 31)

/-- What `n` attempts behind `k` retries promise. -/
structure Promised (opts : RetryOptions) (watched : Bool) (k : Nat) (turns : List (RetryTurn α))
    (n : Nat) (events : List RetryEvent) (out : Res ModalError α) : Prop where
  attempts : attempts events = (turns.take n).map (·.before)
  /-- Nothing is attempted, and no sleep ends, when the deadline has passed. -/
  inTime : ∀ deadline, opts.deadline = some deadline →
    (∀ now ∈ Retrying.attempts events, now < deadline) ∧ ∀ s ∈ sleeps events, s.1 + s.2 < deadline
  inBudget : ∀ max, opts.maxRetries = some max → k + n ≤ budget max + 1
  /-- Between two attempts there is one sleep, for the delay of this retry. -/
  slept : n ≤ (sleeps events).length + 1
  delays : ∀ i s, (sleeps events)[i]? = some s → delayOf opts (k + i) = some s.2
  /-- Only a failure that is worth it is followed by another attempt. -/
  retried : ∀ i t, i + 1 < n → turns[i]? = some t → isRetryable watched t = true
  /-- A result is that of the last attempt. -/
  value : ∀ r, out = .ok r → ∃ t, (turns.take n).getLast? = some t ∧ t.reply = .ok r
  /-- A failure is the deadline's, or that of the last attempt: it was not worth a retry, or the
      retries are used up. -/
  failure : ∀ e, out = .error (.err e) →
    (.err e = deadlineExceeded ∧ OutOfTime opts watched k turns n) ∨
    ∃ t, (turns.take n).getLast? = some t ∧ outcome watched t = .error e ∧
      (isRetryable watched t = true → ∃ max, opts.maxRetries = some max ∧ k + n = budget max + 1)
  panic : ∀ p, out = .error (.panic p) → Overflows opts watched k turns n
  /-- The run stops without an outcome only where the script does. -/
  cut : out = .error .diverged →
    n = turns.length ∧ ∀ i t, turns[i]? = some t → GoesOn opts watched (k + i) t

variable {opts : RetryOptions} {watched : Bool} {k : Nat} {turns : List (RetryTurn α)}

theorem lt_deadline {now deadline : Instant} (h : isOver opts now = false)
    (hdeadline : opts.deadline = some deadline) : now < deadline := by
  rw [isOver, hdeadline] at h
  exact Nat.lt_of_not_le (of_decide_eq_false h)

theorem reply_of_outcome {t : RetryTurn α} {r : α} (h : liftExcept (outcome watched t) = .ok r) :
    t.reply = .ok r := by
  unfold outcome at h
  cases hreply : t.reply with
  | error status =>
    rw [hreply] at h
    cases h
  | ok result =>
    rw [hreply] at h
    cases h
    rfl

theorem outcome_of_failure {t : RetryTurn α} {e : ModalError}
    (h : liftExcept (outcome watched t) = .error (.err e)) : outcome watched t = .error e := by
  cases hout : outcome watched t with
  | ok r =>
    rw [hout] at h
    cases h
  | error e' =>
    rw [hout] at h
    cases h
    rfl

theorem OutOfTime.cons {n : Nat} (t : RetryTurn α)
    (h : OutOfTime opts watched (k + 1) turns n) :
    OutOfTime opts watched k (t :: turns) (n + 1) := by
  obtain ⟨deadline, hdeadline, ⟨t', ht', hle⟩ | ⟨i, t', rfl, ht', hrefused, hle⟩⟩ := h
  · exact ⟨deadline, hdeadline, Or.inl ⟨t', ht', hle⟩⟩
  · rw [Nat.add_right_comm, Nat.add_assoc] at hrefused hle
    exact ⟨deadline, hdeadline, Or.inr ⟨i + 1, t', rfl, ht', hrefused, hle⟩⟩

theorem Overflows.cons {n : Nat} (t : RetryTurn α)
    (h : Overflows opts watched (k + 1) turns n) :
    Overflows opts watched k (t :: turns) (n + 1) := by
  obtain ⟨i, t', rfl, ht', hrefused, hwhy⟩ := h
  rw [Nat.add_right_comm, Nat.add_assoc] at hrefused hwhy
  exact ⟨i + 1, t', rfl, ht', hrefused, hwhy⟩

/-- One attempt, and no sleep behind it. -/
theorem promised_one {t : RetryTurn α} {ts : List (RetryTurn α)} {out : Res ModalError α}
    (hk : ∀ max, opts.maxRetries = some max → k ≤ budget max)
    (hover : isOver opts t.before = false) (hvalue : ∀ r, out = .ok r → t.reply = .ok r)
    (hfailure : ∀ e, out = .error (.err e) →
      (.err e = deadlineExceeded ∧ OutOfTime opts watched k (t :: ts) 1) ∨
      outcome watched t = .error e ∧
        (isRetryable watched t = true → ∃ max, opts.maxRetries = some max ∧ budget max ≤ k))
    (hpanic : ∀ p, out = .error (.panic p) → Overflows opts watched k (t :: ts) 1)
    (hcut : out ≠ .error .diverged) :
    Promised opts watched k (t :: ts) 1 [.attempt t.before] out where
  attempts := rfl
  inTime deadline hdeadline := by
    refine ⟨fun now hnow => ?_, List.forall_mem_nil _⟩
    rw [List.mem_singleton.mp hnow]
    exact lt_deadline hover hdeadline
  inBudget max hmax := Nat.succ_le_succ (hk max hmax)
  slept := Nat.le_refl _
  delays i s hs := by cases hs
  retried i t hi := absurd hi (by omega)
  value r hr := ⟨t, rfl, hvalue r hr⟩
  failure e he := by
    obtain hd | ⟨hout, hb⟩ := hfailure e he
    · exact Or.inl hd
    · refine Or.inr ⟨t, rfl, hout, fun hretry => ?_⟩
      obtain ⟨max, hmax, hle⟩ := hb hretry
      have hge := hk max hmax
      exact ⟨max, hmax, by omega⟩
  panic := hpanic
  cut hout := absurd hout hcut

/-- No attempt at all: the deadline has passed, or the script is over. -/
theorem promised_none {out : Res ModalError α}
    (hk : ∀ max, opts.maxRetries = some max → k ≤ budget max)
    (hout : out = .error deadlineExceeded ∧ OutOfTime opts watched k turns 0 ∨
      out = .error .diverged ∧ turns = []) :
    Promised opts watched k turns 0 [] out where
  attempts := rfl
  inTime _ _ := ⟨List.forall_mem_nil _, List.forall_mem_nil _⟩
  inBudget max hmax := Nat.le_succ_of_le (hk max hmax)
  slept := Nat.zero_le _
  delays i s hs := by cases hs
  retried i t hi := absurd hi (Nat.not_lt_zero _)
  value r hr := by obtain ⟨rfl, -⟩ | ⟨rfl, -⟩ := hout <;> cases hr
  failure e he := by
    obtain ⟨rfl, htime⟩ | ⟨rfl, -⟩ := hout
    · cases he
      exact Or.inl ⟨rfl, htime⟩
    · cases he
  panic p hp := by obtain ⟨rfl, -⟩ | ⟨rfl, -⟩ := hout <;> cases hp
  cut hcut := by
    obtain ⟨rfl, -⟩ | ⟨-, rfl⟩ := hout
    · cases hcut
    · exact ⟨rfl, by intro i t hi; cases hi⟩

/-- One attempt and the sleep behind it, and then a panic. -/
theorem promised_slept {t : RetryTurn α} {ts : List (RetryTurn α)} {p : Panic}
    (h : Waited opts watched k t)
    (hwhy : delayOf opts (k + 1) = none ∨ k + 1 = 2 ^ 31) :
    Promised opts watched k (t :: ts) 1
      [.attempt t.before, .sleep t.after ((delayOf opts k).getD 0)] (.error (.panic p)) where
  attempts := rfl
  inTime deadline hdeadline :=
    ⟨List.forall_mem_singleton.mpr (lt_deadline h.early hdeadline),
      List.forall_mem_singleton.mpr (h.inTime deadline hdeadline).2⟩
  inBudget max hmax := Nat.succ_le_succ (Nat.le_of_lt (h.budget max hmax))
  slept := Nat.le_succ 1
  delays i s hs := by
    cases i with
    | zero =>
      cases hs
      exact h.delay_eq
    | succ i => cases hs
  retried i t hi := absurd hi (by omega)
  value r hr := by cases hr
  failure e he := by cases he
  panic p' _ := ⟨0, t, rfl, rfl, h.toRefused, Or.inr hwhy⟩
  cut hcut := by cases hcut

/-- An attempt that the loop goes round behind, before a run that keeps the promise. -/
theorem Promised.goes {t : RetryTurn α} {n : Nat} {es : List RetryEvent}
    {out : Res ModalError α} (hgoes : GoesOn opts watched k t)
    (h : Promised opts watched (k + 1) turns n es out) :
    Promised opts watched k (t :: turns) (n + 1)
      (.attempt t.before :: .sleep t.after ((delayOf opts k).getD 0) :: es) out where
  attempts := congrArg (t.before :: ·) h.attempts
  inTime deadline hdeadline := by
    obtain ⟨hattempts, hsleeps⟩ := h.inTime deadline hdeadline
    constructor
    · exact List.forall_mem_cons.mpr ⟨lt_deadline hgoes.early hdeadline, hattempts⟩
    · exact List.forall_mem_cons.mpr ⟨(hgoes.inTime deadline hdeadline).2, hsleeps⟩
  inBudget max hmax := by
    have hle := h.inBudget max hmax
    omega
  slept := Nat.succ_le_succ h.slept
  delays i s hs := by
    cases i with
    | zero =>
      cases hs
      exact hgoes.delay_eq
    | succ i =>
      have hd := h.delays i s hs
      rw [Nat.add_right_comm] at hd
      exact hd
  retried i t' hi ht' := by
    cases i with
    | zero =>
      cases ht'
      exact hgoes.retryable
    | succ i => exact h.retried i t' (Nat.lt_of_succ_lt_succ hi) ht'
  value r hr := by
    obtain ⟨t', hlast, hreply⟩ := h.value r hr
    exact ⟨t', by rw [List.take_succ_cons, List.getLast?_cons, hlast, Option.getD_some], hreply⟩
  failure e he := by
    obtain ⟨he', htime⟩ | ⟨t', hlast, hout, hb⟩ := h.failure e he
    · exact Or.inl ⟨he', htime.cons t⟩
    · refine Or.inr ⟨t', ?_, hout, fun hretry => ?_⟩
      · rw [List.take_succ_cons, List.getLast?_cons, hlast, Option.getD_some]
      · obtain ⟨max, hmax, heq⟩ := hb hretry
        exact ⟨max, hmax, by omega⟩
  panic p hp := (h.panic p hp).cons t
  cut hcut := by
    obtain ⟨hn, hall⟩ := h.cut hcut
    refine ⟨by rw [hn, List.length_cons], fun i t' hi => ?_⟩
    cases i with
    | zero =>
      cases hi
      exact hgoes
    | succ i =>
      have ht' := hall i t' hi
      rw [Nat.add_right_comm] at ht'
      exact ht'

/-- An end keeps the promise. -/
theorem Ends.promised {es : List RetryEvent} {out : Res ModalError α}
    (h : Ends opts watched k turns es out)
    (hk : ∀ max, opts.maxRetries = some max → k ≤ budget max) :
    ∃ n, Promised opts watched k turns n es out := by
  cases h with
  | cut => exact ⟨0, promised_none hk (Or.inr ⟨rfl, rfl⟩)⟩
  | late t ts deadline hdeadline hle =>
    exact ⟨0, promised_none hk (Or.inl ⟨rfl, deadline, hdeadline, Or.inl ⟨t, rfl, hle⟩⟩)⟩
  | decides t ts hover hretry =>
    refine ⟨1, promised_one hk hover (fun r => reply_of_outcome) (fun e he => Or.inr ⟨?_, hretry⟩)
      ?_ ?_⟩
    · exact outcome_of_failure he
    · intro p hp
      cases hout : outcome watched t <;> rw [hout] at hp <;> cases hp
    · cases outcome watched t <;> intro hcut <;> cases hcut
  | noTime t ts hrefused deadline hdeadline hmax hlate =>
    refine ⟨1, promised_one hk hrefused.early (by intro r hr; cases hr) (fun e he => Or.inl ?_)
      (by intro p hp; cases hp) (by intro hcut; cases hcut)⟩
    cases he
    exact ⟨rfl, deadline, hdeadline, Or.inr ⟨0, t, rfl, rfl, hrefused, hlate⟩⟩
  | noInstant t ts hrefused hdeadline hmax =>
    exact ⟨1, promised_one hk hrefused.early (by intro r hr; cases hr) (by intro e he; cases he)
      (fun _ _ => ⟨0, t, rfl, rfl, hrefused, Or.inl ⟨hdeadline, hmax⟩⟩)
      (by intro hcut; cases hcut)⟩
  | noDelay t ts hwaited hnone => exact ⟨1, promised_slept hwaited (Or.inl hnone)⟩
  | full t ts hwaited hsome hcount => exact ⟨1, promised_slept hwaited (Or.inr hcount)⟩

/-- The promise goes through the attempts that the loop goes round behind. -/
theorem promised_waits {done rest : List (RetryTurn α)} {es : List RetryEvent}
    {out : Res ModalError α} (hall : ∀ i t, done[i]? = some t → GoesOn opts watched (k + i) t)
    (hk : ∀ max, opts.maxRetries = some max → k ≤ budget max)
    (hends : Ends opts watched (k + done.length) rest es out) :
    ∃ n, Promised opts watched k (done ++ rest) n (waits opts k done ++ es) out := by
  induction done generalizing k with
  | nil => exact hends.promised hk
  | cons t ts ih =>
    have hgoes : GoesOn opts watched k t := hall 0 t rfl
    rw [List.length_cons, Nat.add_comm ts.length, ← Nat.add_assoc] at hends
    obtain ⟨n, hn⟩ := ih
      (fun i t' hi => by
        have ht' := hall (i + 1) t' hi
        rw [← Nat.add_assoc, Nat.add_right_comm] at ht'
        exact ht')
      hgoes.budget hends
    exact ⟨n + 1, hn.goes hgoes⟩

theorem RetryRuns.promised {events : List RetryEvent} {out : Res ModalError α}
    (h : RetryRuns opts watched turns events out) :
    ∃ n, Promised opts watched 0 turns n events out := by
  obtain ⟨done, rest, es, rfl, rfl, hall, hends⟩ := h
  apply promised_waits _ (fun _ _ => Nat.zero_le _)
  · rw [Nat.zero_add]
    exact hends
  · intro i t hi
    rw [Nat.zero_add]
    exact hall i t hi

/-- **What every run does and promises**, whatever the options, the server and the clock. It runs in
    closed form, panics and the end of the script included; the budget and the deadline are kept,
    the sleeps are the delays, and the outcome is that of the last attempt, the deadline's, or a
    panic where the loop cannot go on. -/
theorem retries_keep_promise (opts : RetryOptions) (watched : Bool) (turns : List (RetryTurn α)) :
    let (events, out) := callWithRetriesOnTransientErrors opts watched turns
    RetryRuns opts watched turns events out ∧ ∃ n, Promised opts watched 0 turns n events out :=
  ⟨retryRuns opts watched turns, (retryRuns opts watched turns).promised⟩

/-- With a factor of -1.0 the loop sleeps once and panics: no duration is negative. -/
example :
    callWithRetriesOnTransientErrors { RetryOptions.default with delayFactor := 0xBFF0000000000000 }
        false [(⟨0, .error ⟨.unavailable, "try again"⟩, false, 5⟩ : RetryTurn Nat)] =
      ([.attempt 0, .sleep 5 10000000], .error (.panic .unwrapNone)) := by
  decide +kernel

end Promise

end ModalRs.Retrying
