/-
  File:      ModalRs/Queue/PutRetry.lean
  Subject:   Puts into a full queue: what is sent, how long the put sleeps, and how it ends.

  The server's replies come from a script, each with the reading of a clock
  that advances by what the put sleeps, or more.

  * `sleepFor`: a sleep in closed form.
  * `PutRuns`: the runs of a put, with every sleep in closed form.
  * `putLoop_runs`: the loop makes them. A sleep that the deadline cut short is the last.
  * `PutPromise`, `putRuns_promise`: what such a run promises.
  * `put_keeps_promise`: so does every put.
-/
import Mathlib.Algebra.Order.Ring.Nat
import ModalRs.Lib.Backoff
import ModalRs.Queue.Basic

namespace ModalRs.PutRetry

open ModalRs.Lib ModalRs.Pickle ModalRs.Rust

/-! ## 1. Replies, requests and sleeps -/

/-- A reply of the server, and the clock when the put looks at it. -/
structure PutTurn where
  reply : Except Status Unit
  now : Instant

def PutTurn.answer (a : PutTurn) : PutAnswer := ⟨statusToError a.reply, a.now⟩

/-- The server refused the put because the queue is full. -/
def PutTurn.Full (a : PutTurn) : Prop :=
  ∃ status, a.reply = .error status ∧ status.code = .resourceExhausted

def requests (events : List PutEvent) : List PutRequest :=
  events.filterMap fun
    | .request r => some r
    | .sleep _ => none

def sleeps (events : List PutEvent) : List Duration :=
  events.filterMap fun
    | .request _ => none
    | .sleep d => some d

/-- The clock advances by what is slept, or more. -/
def Advances (turns : List PutTurn) (slept : List Duration) : Prop :=
  ∀ k d a b, slept[k]? = some d → turns[k]? = some a → turns[k + 1]? = some b → a.now + d ≤ b.now

/-- The backoff before sleep `k`, uncut: `100 ms * 2 ^ k`, at most 30 s. -/
def backoffAt (k : Nat) : Duration := delayAt queueInitialPutBackoff 2 (.fromSecs 30) k

theorem backoffAt_zero : backoffAt 0 = queueInitialPutBackoff := delayAt_zero (by decide)

/-- Sleep `k` of a put that begins it at `now`: also no longer than the time that is left. -/
def sleepFor (deadline : Option Instant) (k : Nat) (now : Instant) : Duration :=
  match deadline with
  | none => backoffAt k
  | some dl => min (backoffAt k) (dl - now)

/-! ## 2. Runs in closed form -/

/-- The runs of a put, from the one that has slept `k` times on. -/
inductive PutRuns (request : PutRequest) (deadline : Option Instant) :
    Nat → List PutTurn → List PutEvent → Res ModalError Unit → Prop where
  | cut (k : Nat) : PutRuns request deadline k [] [] (.error .diverged)
  | accepted (k : Nat) (a : PutTurn) (turns : List PutTurn) (hreply : a.reply = .ok ()) :
      PutRuns request deadline k (a :: turns) [.request request] (.ok ())
  | refused (k : Nat) (a : PutTurn) (turns : List PutTurn) (status : Status)
      (hreply : a.reply = .error status) (hcode : status.code ≠ .resourceExhausted) :
      PutRuns request deadline k (a :: turns) [.request request] (.error (.err (.grpc status)))
  | givesUp (k : Nat) (a : PutTurn) (turns : List PutTurn) (dl : Instant) (hfull : a.Full)
      (hdeadline : deadline = some dl) (hover : dl ≤ a.now) :
      PutRuns request deadline k (a :: turns) [.request request]
        (.error (.err (.queueFull ("Put failed on " ++ request.queueId))))
  | sleeps (k : Nat) (a : PutTurn) (turns : List PutTurn) (events : List PutEvent)
      (out : Res ModalError Unit) (hfull : a.Full)
      (hleft : ∀ dl, deadline = some dl → a.now < dl)
      (hrest : PutRuns request deadline (k + 1) turns events out) :
      PutRuns request deadline k (a :: turns)
        (.request request :: .sleep (sleepFor deadline (k + 1) a.now) :: events) out

section Loop

variable {l : PutLoop} {k : Nat}

theorem advances_cons {a : PutTurn} {turns : List PutTurn} {d : Duration} {slept : List Duration}
    (h : Advances (a :: turns) (d :: slept)) :
    (∀ b, turns[0]? = some b → a.now + d ≤ b.now) ∧ Advances turns slept :=
  ⟨fun b hb => h 0 d a b rfl rfl hb, fun k d' a' b' hd ha hb => h (k + 1) d' a' b' hd ha hb⟩

/-- Doubling the delay does not saturate below the cap. -/
theorem double_backoff (h : l.delay = backoffAt k) :
    min (Duration.saturatingMul l.delay 2) (.fromSecs 30) = backoffAt (k + 1) := by
  have hcap : Duration.fromSecs 30 ≤ Duration.max := by decide
  have hnext : min (backoffAt k * 2) (.fromSecs 30) = backoffAt (k + 1) :=
    delayAt_succ (Nat.zero_le _) (by decide) k
  rw [← hnext, Duration.saturatingMul, min_assoc, min_eq_right hcap, h]

/-- The next delay of a put whose last sleep was not cut short. -/
theorem backoff_eq (h : l.delay = backoffAt k) {now : Instant}
    (hleft : ∀ dl, l.deadline = some dl → now < dl) :
    l.backoff now = some (sleepFor l.deadline (k + 1) now) := by
  unfold PutLoop.backoff sleepFor
  rw [double_backoff h]
  cases hdl : l.deadline with
  | none => rfl
  | some dl =>
    have hne : Instant.saturatingDurationSince dl now ≠ 0 := Nat.sub_ne_zero_of_lt (hleft dl hdl)
    exact if_neg hne

/-- At or past the deadline there is no next delay. -/
theorem backoff_none {dl now : Instant} (hdl : l.deadline = some dl) (hover : dl ≤ now) :
    l.backoff now = none := by
  unfold PutLoop.backoff
  have hzero : Instant.saturatingDurationSince dl now = 0 := Nat.sub_eq_zero_of_le hover
  rw [hdl]
  exact if_pos hzero

/-- The delay before the next sleep: in closed form, or the next reading is past the deadline. -/
def DelayOk (l : PutLoop) (k : Nat) (turns : List PutTurn) : Prop :=
  l.delay = backoffAt k ∨ ∃ dl, l.deadline = some dl ∧ ∀ a, turns[0]? = some a → dl ≤ a.now

/-- **A sleep that the deadline cuts short is the last**: the reading behind it is at the deadline
    or past it. -/
theorem delayOk_next (k : Nat) {now : Instant} {turns : List PutTurn}
    (hleft : ∀ dl, l.deadline = some dl → now < dl)
    (hclock : ∀ b, turns[0]? = some b → now + sleepFor l.deadline (k + 1) now ≤ b.now) :
    DelayOk { l with delay := sleepFor l.deadline (k + 1) now } (k + 1) turns := by
  rcases hdl : l.deadline with _ | dl
  · exact Or.inl rfl
  · have hbefore := hleft dl hdl
    rcases Nat.le_total (backoffAt (k + 1)) (dl - now) with hwhole | hcut
    · exact Or.inl (Nat.min_eq_left hwhole)
    · refine Or.inr ⟨dl, rfl, fun b hb => ?_⟩
      have hsleep : sleepFor (some dl) (k + 1) now = dl - now := Nat.min_eq_right hcut
      calc dl = now + (dl - now) := (Nat.add_sub_cancel' (Nat.le_of_lt hbefore)).symm
        _ = now + sleepFor l.deadline (k + 1) now := by rw [hdl, hsleep]
        _ ≤ b.now := hclock b hb

/-- The answer to a full queue. -/
theorem full_answer {a : PutTurn} {status : Status} (h : a.answer.reply = .error (.grpc status))
    (hcode : status.code = .resourceExhausted) : a.Full := by
  obtain ⟨status', hreply, hsame⟩ := statusToError_error h
  cases hsame
  exact ⟨status, hreply, hcode⟩

/-- **The loop of `put_internal` makes the runs in closed form**, on every clock that advances by
    what it sleeps. -/
theorem putLoop_runs (turns : List PutTurn) (l : PutLoop) (k : Nat) (hdelay : DelayOk l k turns)
    (hclock : Advances turns
      (sleeps (runScript .diverged PutLoop.round l (turns.map PutTurn.answer)).1)) :
    PutRuns l.request l.deadline k turns
      (runScript .diverged PutLoop.round l (turns.map PutTurn.answer)).1
      (runScript .diverged PutLoop.round l (turns.map PutTurn.answer)).2 := by
  induction turns generalizing l k with
  | nil => exact .cut k
  | cons a turns ih =>
    rw [List.map_cons] at hclock ⊢
    rcases l.round_cases a.answer with ⟨hreply, hround⟩ | ⟨e, hreply, hcode, hround⟩ |
      ⟨status, hreply, hcode, hbackoff⟩
    · rw [runScript_value hround]
      have haccepted : a.reply = .ok () := statusToError_ok hreply
      exact .accepted k a turns haccepted
    · rw [runScript_error hround]
      obtain ⟨status, hrefused, rfl⟩ := statusToError_error hreply
      have hother := hcode status rfl
      exact .refused k a turns status hrefused hother
    · have hfull := full_answer hreply hcode
      by_cases hleft : ∀ dl, l.deadline = some dl → a.now < dl
      · -- there is time left, so no sleep was cut short
        have hwhole : l.delay = backoffAt k := by
          rcases hdelay with hwhole | ⟨dl, hdl, hover⟩
          · exact hwhole
          · have hpast : dl ≤ a.now := hover a rfl
            exact absurd (hleft dl hdl) (Nat.not_lt_of_le hpast)
        have hnext := backoff_eq hwhole hleft
        rcases hbackoff with ⟨hnone, -⟩ | ⟨delay, hsome, hround⟩
        · rw [show a.answer.now = a.now from rfl, hnext] at hnone
          cases hnone
        · rw [show a.answer.now = a.now from rfl, hnext] at hsome
          cases hsome
          rw [runScript_goes hround] at hclock ⊢
          obtain ⟨hreading, hrest⟩ := advances_cons hclock
          have hdelay' := delayOk_next k hleft hreading
          have hruns := ih _ _ hdelay' hrest
          exact .sleeps k a turns _ _ hfull hleft hruns
      · obtain ⟨dl, hdl, hover⟩ : ∃ dl, l.deadline = some dl ∧ dl ≤ a.now := by
          by_contra hno
          exact hleft fun dl hdl => Nat.lt_of_not_le fun hover => hno ⟨dl, hdl, hover⟩
        have hnone : l.backoff a.answer.now = none := backoff_none hdl hover
        rcases hbackoff with ⟨-, hround⟩ | ⟨delay, hsome, -⟩
        · rw [runScript_error hround]
          exact .givesUp k a turns dl hfull hdl hover
        · rw [hnone] at hsome
          cases hsome

end Loop

/-! ## 3. The promise -/

/-- What a put does with the replies that it is given. -/
structure PutPromise (request : PutRequest) (deadline : Option Instant) (turns : List PutTurn)
    (events : List PutEvent) (out : Res ModalError Unit) : Prop where
  /-- Every attempt sends the same request. -/
  same : ∀ r ∈ requests events, r = request
  /-- It returns `Ok` if and only if an `Ok` is reached, with nothing but refusals before it. -/
  ok : out = .ok () ↔ ∃ i a, i < (requests events).length ∧ turns[i]? = some a ∧
    a.reply = .ok () ∧ ∀ j, j < i → ∃ b, turns[j]? = some b ∧ b.Full
  /-- Any other error is returned at once. -/
  refused : ∀ i a status, i < (requests events).length → turns[i]? = some a →
    a.reply = .error status → status.code ≠ .resourceExhausted →
      out = .error (.err (.grpc status)) ∧ (requests events).length = i + 1
  /-- `QueueFull` only comes of a refusal at the deadline or past it. -/
  full : ∀ msg, out = .error (.err (.queueFull msg)) → ∃ dl, deadline = some dl ∧
    ∃ i a, (requests events).length = i + 1 ∧ turns[i]? = some a ∧ a.Full ∧ dl ≤ a.now
  /-- Each sleep is in closed form, and does not end past the deadline. -/
  slept : ∀ k d, (sleeps events)[k]? = some d → ∃ a, turns[k]? = some a ∧
    d = sleepFor deadline (k + 1) a.now ∧ ∀ dl, deadline = some dl → a.now + d ≤ dl

section Promise

variable {request : PutRequest} {deadline : Option Instant} {k : Nat} {turns : List PutTurn}
  {events : List PutEvent} {out : Res ModalError Unit}

theorem runs_same (h : PutRuns request deadline k turns events out) :
    ∀ r ∈ requests events, r = request := by
  have hone : ∀ r ∈ [request], r = request := fun r hr => List.mem_singleton.mp hr
  induction h with
  | cut k => exact fun r hr => absurd hr List.not_mem_nil
  | accepted k a turns hreply => exact hone
  | refused k a turns status hreply hcode => exact hone
  | givesUp k a turns dl hfull hdeadline hover => exact hone
  | sleeps k a turns events out hfull hleft hrest ih => exact List.forall_mem_cons.mpr ⟨rfl, ih⟩

/-- A refusal is no `Ok`. -/
theorem PutTurn.Full.not_ok {a : PutTurn} (h : a.Full) : a.reply ≠ .ok () := by
  obtain ⟨status, hreply, -⟩ := h
  intro hok
  rw [hreply] at hok
  cases hok

/-- The only attempt of a run that ends with it. -/
theorem first_turn {a b : PutTurn} {i : Nat} (hi : i < 1) (hb : (a :: turns)[i]? = some b) :
    b = a := by
  have hzero : i = 0 := by omega
  rw [hzero] at hb
  cases hb
  rfl

theorem runs_ok (h : PutRuns request deadline k turns events out) :
    out = .ok () ↔ ∃ i a, i < (requests events).length ∧ turns[i]? = some a ∧ a.reply = .ok () ∧
      ∀ j, j < i → ∃ b, turns[j]? = some b ∧ b.Full := by
  induction h with
  | cut k =>
    refine ⟨fun hok => (by cases hok), fun hreached => ?_⟩
    obtain ⟨i, a, hi, -⟩ := hreached
    exact absurd hi (Nat.not_lt_zero i)
  | accepted k a turns hreply =>
    exact ⟨fun _ => ⟨0, a, Nat.one_pos, rfl, hreply, fun j hj => absurd hj (Nat.not_lt_zero j)⟩,
      fun _ => rfl⟩
  | refused k a turns status hreply hcode =>
    refine ⟨fun hok => (by cases hok), fun hreached => ?_⟩
    obtain ⟨i, b, hi, hb, hok, -⟩ := hreached
    rw [first_turn hi hb, hreply] at hok
    cases hok
  | givesUp k a turns dl hfull hdeadline hover =>
    refine ⟨fun hok => (by cases hok), fun hreached => ?_⟩
    obtain ⟨i, b, hi, hb, hok, -⟩ := hreached
    rw [first_turn hi hb] at hok
    exact absurd hok hfull.not_ok
  | sleeps k a turns events out hfull hleft hrest ih =>
    rw [ih]
    constructor
    · rintro ⟨i, b, hi, hb, hok, hbefore⟩
      refine ⟨i + 1, b, Nat.succ_lt_succ hi, hb, hok, fun j hj => ?_⟩
      cases j with
      | zero => exact ⟨a, rfl, hfull⟩
      | succ j => exact hbefore j (Nat.lt_of_succ_lt_succ hj)
    · rintro ⟨i, b, hi, hb, hok, hbefore⟩
      cases i with
      | zero =>
        cases hb
        exact absurd hok hfull.not_ok
      | succ i =>
        exact ⟨i, b, Nat.lt_of_succ_lt_succ hi, hb, hok,
          fun j hj => hbefore (j + 1) (Nat.succ_lt_succ hj)⟩

theorem runs_refused (h : PutRuns request deadline k turns events out) :
    ∀ i a status, i < (requests events).length → turns[i]? = some a → a.reply = .error status →
      status.code ≠ .resourceExhausted →
        out = .error (.err (.grpc status)) ∧ (requests events).length = i + 1 := by
  induction h with
  | cut k => exact fun i a status hi => absurd hi (Nat.not_lt_zero i)
  | accepted k a turns hreply =>
    intro i b status hi hb herror
    rw [first_turn hi hb, hreply] at herror
    cases herror
  | refused k a turns status hreply hcode =>
    intro i b status' hi hb herror _
    rw [first_turn hi hb, hreply] at herror
    cases herror
    exact ⟨rfl, by rw [Nat.lt_one_iff.mp hi]; rfl⟩
  | givesUp k a turns dl hfull hdeadline hover =>
    intro i b status hi hb herror hcode
    obtain ⟨status', hreply, hcode'⟩ := hfull
    rw [first_turn hi hb, hreply] at herror
    cases herror
    exact absurd hcode' hcode
  | sleeps k a turns events out hfull hleft hrest ih =>
    intro i b status hi hb herror hcode
    cases i with
    | zero =>
      cases hb
      obtain ⟨status', hreply, hcode'⟩ := hfull
      rw [hreply] at herror
      cases herror
      exact absurd hcode' hcode
    | succ i =>
      obtain ⟨hout, hlength⟩ := ih i b status (Nat.lt_of_succ_lt_succ hi) hb herror hcode
      exact ⟨hout, congrArg (· + 1) hlength⟩

theorem runs_full (h : PutRuns request deadline k turns events out) :
    ∀ msg, out = .error (.err (.queueFull msg)) → ∃ dl, deadline = some dl ∧
      ∃ i a, (requests events).length = i + 1 ∧ turns[i]? = some a ∧ a.Full ∧ dl ≤ a.now := by
  induction h with
  | cut k =>
    intro msg hout
    cases hout
  | accepted k a turns hreply =>
    intro msg hout
    cases hout
  | refused k a turns status hreply hcode =>
    intro msg hout
    cases hout
  | givesUp k a turns dl hfull hdeadline hover =>
    exact fun _ _ => ⟨dl, hdeadline, 0, a, rfl, rfl, hfull, hover⟩
  | sleeps k a turns events out hfull hleft hrest ih =>
    intro msg hout
    obtain ⟨dl, hdl, i, b, hlength, hb, hfullb, hover⟩ := ih msg hout
    exact ⟨dl, hdl, i + 1, b, congrArg (· + 1) hlength, hb, hfullb, hover⟩

/-- The sleeps of a run that has slept `k` times before. -/
theorem runs_slept (h : PutRuns request deadline k turns events out) :
    ∀ j d, (sleeps events)[j]? = some d → ∃ a, turns[j]? = some a ∧
      d = sleepFor deadline (k + j + 1) a.now ∧ ∀ dl, deadline = some dl → a.now + d ≤ dl := by
  induction h with
  | cut k =>
    intro j d hd
    cases hd
  | accepted k a turns hreply =>
    intro j d hd
    cases hd
  | refused k a turns status hreply hcode =>
    intro j d hd
    cases hd
  | givesUp k a turns dl hfull hdeadline hover =>
    intro j d hd
    cases hd
  | sleeps k a turns events out hfull hleft hrest ih =>
    intro j d hd
    cases j with
    | zero =>
      cases hd
      refine ⟨a, rfl, rfl, fun dl hdl => ?_⟩
      have hle : sleepFor deadline (k + 1) a.now ≤ dl - a.now := by
        rw [hdl]
        exact Nat.min_le_right _ _
      calc a.now + sleepFor deadline (k + 1) a.now ≤ a.now + (dl - a.now) :=
            Nat.add_le_add_left hle _
        _ = dl := Nat.add_sub_cancel' (Nat.le_of_lt (hleft dl hdl))
    | succ j =>
      obtain ⟨b, hb, hsleep, hend⟩ := ih j d hd
      refine ⟨b, hb, ?_, hend⟩
      rw [hsleep]
      congr 1
      omega

/-- **A run in closed form keeps the promise.** -/
theorem putRuns_promise (h : PutRuns request deadline 0 turns events out) :
    PutPromise request deadline turns events out where
  same := runs_same h
  ok := runs_ok h
  refused := runs_refused h
  full := runs_full h
  slept k d hd := by
    obtain ⟨a, ha, hsleep, hend⟩ := runs_slept h k d hd
    rw [Nat.zero_add] at hsleep
    exact ⟨a, ha, hsleep, hend⟩

end Promise

/-! ## 4. Puts -/

/-- Every list of values is encoded. -/
theorem mapM_serialize (values : List PickleValue) :
    ∃ encoded, values.mapM pickleSerialize = (.ok encoded : Except ModalError _) :=
  exists_mapM_ok_iff.mpr fun _ _ => ⟨_, rfl⟩

/-- The deadline of a put that starts at `now`. -/
def deadlineFrom (params : QueuePutParams) (now : Instant) : Option Instant :=
  params.timeout.map (now + ·)

/-- The deadline of a put, if it has one, is an instant that exists. -/
def DeadlineExists (params : QueuePutParams) (now : Instant) : Prop :=
  ∀ dl, deadlineFrom params now = some dl → dl ≤ Instant.max

/-- What comes before the loop: a deadline that does not exist panics, else there is a loop. -/
theorem putBegin_cases (queue : Queue) (values : List PickleValue) (params : Option QueuePutParams)
    (now : Instant) {key : PartitionKey} {encoded : List (List UInt8)}
    (hkey : validatePartitionKey (params.getD {}).partition = .ok key)
    (hencoded : values.mapM pickleSerialize = .ok encoded) :
    (¬ DeadlineExists (params.getD {}) now ∧
      queue.putBegin values params now = .error (.panic .addOverflow)) ∨
    DeadlineExists (params.getD {}) now ∧ queue.putBegin values params now = .ok {
      request := ⟨queue.queueId, encoded, key,
        .ofNat (params.getD {}).effectivePartitionTtl.asSecs⟩
      deadline := deadlineFrom (params.getD {}) now
      delay := queueInitialPutBackoff } := by
  unfold Queue.putBegin deadlineOf DeadlineExists deadlineFrom
  dsimp only
  rw [hkey, hencoded]
  cases htimeout : (params.getD {}).timeout with
  | none => exact Or.inr ⟨nofun, rfl⟩
  | some timeout =>
    by_cases hmax : now + timeout ≤ Instant.max
    · refine Or.inr ⟨fun dl hdl => ?_, ?_⟩
      · cases hdl
        exact hmax
      · simp only [Instant.add, if_pos hmax]
        rfl
    · refine Or.inl ⟨fun hexists => hmax (hexists _ rfl), ?_⟩
      simp only [Instant.add, if_neg hmax]
      rfl

/-- A put that panics before its first attempt promises nothing that it does not keep. -/
theorem promise_of_panic (request : PutRequest) (deadline : Option Instant) (turns : List PutTurn)
    (p : Panic) : PutPromise request deadline turns [] (.error (.panic p)) where
  same r hr := absurd hr List.not_mem_nil
  ok := by
    refine ⟨fun hok => (by cases hok), fun hreached => ?_⟩
    obtain ⟨i, a, hi, -⟩ := hreached
    exact absurd hi (Nat.not_lt_zero i)
  refused i a status hi := absurd hi (Nat.not_lt_zero i)
  full msg hout := by cases hout
  slept k d hd := by cases hd

/-- **A put keeps its promise**, for all values, parameters with a valid partition, replies and
    clocks that advance by what it sleeps: what it sends, when it returns what, and how long it
    sleeps. Without a timeout it never returns `QueueFull`. It runs in closed form, up to the last
    reply of the script, unless it panics because there is no instant for its deadline. -/
theorem put_keeps_promise (queue : Queue) (values : List PickleValue)
    (params : Option QueuePutParams) (now : Instant) (turns : List PutTurn) {key : PartitionKey}
    (hkey : validatePartitionKey (params.getD {}).partition = .ok key)
    (hclock : Advances turns
      (sleeps (queue.putInternal values params now (turns.map PutTurn.answer)).1)) :
    ∃ encoded, values.mapM pickleSerialize = .ok encoded ∧
      let (events, out) := queue.putInternal values params now (turns.map PutTurn.answer)
      let request : PutRequest := ⟨queue.queueId, encoded, key,
        .ofNat (params.getD {}).effectivePartitionTtl.asSecs⟩
      PutPromise request (deadlineFrom (params.getD {}) now) turns events out ∧
      ((params.getD {}).timeout = none → ∀ msg, out ≠ .error (.err (.queueFull msg))) ∧
      (DeadlineExists (params.getD {}) now →
        PutRuns request (deadlineFrom (params.getD {}) now) 0 turns events out) ∧
      (¬ DeadlineExists (params.getD {}) now →
        events = [] ∧ out = .error (.panic .addOverflow)) := by
  obtain ⟨encoded, hencoded⟩ := mapM_serialize values
  refine ⟨encoded, hencoded, ?_⟩
  dsimp only
  unfold Queue.putInternal at hclock ⊢
  rcases putBegin_cases queue values params now hkey hencoded with
    ⟨hnot, hpanic⟩ | ⟨hexists, hbegin⟩
  · rw [hpanic]
    exact ⟨promise_of_panic _ _ _ _, fun _ _ hfull => (by cases hfull),
      fun hexists => absurd hexists hnot, fun _ => ⟨rfl, rfl⟩⟩
  · rw [hbegin] at hclock ⊢
    have hruns := putLoop_runs turns _ 0 (Or.inl backoffAt_zero.symm) hclock
    have hpromise := putRuns_promise hruns
    refine ⟨hpromise, fun htimeout msg hfull => ?_, fun _ => hruns,
      fun hnot => absurd hexists hnot⟩
    obtain ⟨dl, hdl, -⟩ := hpromise.full msg hfull
    rw [deadlineFrom, htimeout] at hdl
    cases hdl

/-- The queue is full for 250 ms. -/
def fullTurns : List PutTurn :=
  [⟨.error ⟨.resourceExhausted, "full"⟩, 0⟩,
   ⟨.error ⟨.resourceExhausted, "full"⟩, Duration.fromMillis 200⟩,
   ⟨.error ⟨.resourceExhausted, "full"⟩, Duration.fromMillis 250⟩]

/-- A put that may wait as long sleeps for 200 ms, then for the 50 ms that are left. -/
theorem put_keeps_promise_full :
    let run := Queue.putInternal ⟨"qu-1", "jobs"⟩ [.int 5]
      (some { timeout := some (.fromMillis 250) }) 0 (fullTurns.map PutTurn.answer)
    sleeps run.1 = [.fromMillis 200, .fromMillis 50] ∧
    run.2 = .error (.err (.queueFull "Put failed on qu-1")) ∧
    ∃ encoded, PutRuns ⟨"qu-1", encoded, none, .ofNat (24 * 60 * 60)⟩
      (some (Duration.fromMillis 250)) 0 fullTurns run.1 run.2 := by
  intro run
  have hsleeps : sleeps run.1 = [.fromMillis 200, .fromMillis 50] := by rfl
  have hclock : Advances fullTurns (sleeps run.1) := by
    rw [hsleeps]
    intro k d a b hd ha hb
    match k with
    | 0 =>
      cases hd
      cases ha
      cases hb
      exact Nat.le_of_eq rfl
    | 1 =>
      cases hd
      cases ha
      cases hb
      exact Nat.le_of_eq rfl
    | k + 2 => cases hd
  have hkey : validatePartitionKey ((some { timeout := some (.fromMillis 250) } :
      Option QueuePutParams).getD {}).partition = .ok none := rfl
  obtain ⟨encoded, -, -, -, hruns, -⟩ := put_keeps_promise ⟨"qu-1", "jobs"⟩ [.int 5]
    (some { timeout := some (.fromMillis 250) }) 0 fullTurns hkey hclock
  refine ⟨hsleeps, rfl, encoded, ?_⟩
  have hdeadline : deadlineFrom { timeout := some (.fromMillis 250) } 0 =
      some (Duration.fromMillis 250) := rfl
  have hexists : DeadlineExists { timeout := some (.fromMillis 250) } 0 := by
    intro dl hdl
    cases hdl
    decide
  exact hdeadline ▸ hruns hexists

end ModalRs.PutRetry
