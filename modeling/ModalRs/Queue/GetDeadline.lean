/-
  File:      ModalRs/Queue/GetDeadline.lean
  Subject:   Gets with a timeout: how long each poll may last, and when the get gives up.

  The server's replies come from a script, each with the reading of a clock
  that only advances inside the RPCs (`Polls`).

  * `PollOk`: the invariant of the loop. The next poll ends at the deadline or before it.
  * `GetPromise`, `getLoop_promise`: what a get does with its time.
  * `HasItems`: it never comes back with an empty list.
  * `get_keeps_promise`: for every timeout, or none, and all replies.
-/
import ModalRs.Pickle.Errors
import ModalRs.Queue.Basic

namespace ModalRs.GetDeadline

open ModalRs.Lib ModalRs.Pickle ModalRs.Rust

/-! ## 1. Replies and the clock -/

/-- A reply of the server, and the clock when it comes. -/
structure GetTurn where
  reply : Except Status (List (List UInt8))
  now : Instant

def GetTurn.answer (a : GetTurn) : GetAnswer := ⟨statusToError a.reply, a.now⟩

/-- The instants at which the polls are sent: the first one at `sent`, every other one when the
    reply to the one before comes. -/
def sentAt (sent : Instant) (turns : List GetTurn) : List Instant := sent :: turns.map GetTurn.now

/-- **An RPC lasts no longer than its poll timeout.** An empty reply may come sooner, too. -/
def Polls (sent : Instant) (turns : List GetTurn) (requests : List GetRequest) : Prop :=
  ∀ (k : Nat) (r : GetRequest) (t : Instant) (a : GetTurn), requests[k]? = some r →
    (sentAt sent turns)[k]? = some t → turns[k]? = some a →
    t ≤ a.now ∧ a.now ≤ t + r.timeout

/-- What a poll may last at most after `elapsed`: 50 s, and the time that is left. -/
def pollBound (timeout : Option Duration) (elapsed : Duration) : Duration :=
  match timeout with
  | none => .fromSecs 50
  | some timeout => min (.fromSecs 50) (timeout - elapsed)

theorem polls_cons {sent : Instant} {a : GetTurn} {turns : List GetTurn} {r : GetRequest}
    {requests : List GetRequest} (h : Polls sent (a :: turns) (r :: requests)) :
    (sent ≤ a.now ∧ a.now ≤ sent + r.timeout) ∧ Polls a.now turns requests :=
  ⟨h 0 r sent a rfl rfl rfl, fun k r' t a' hr ht ha => h (k + 1) r' t a' hr ht ha⟩

/-! ## 2. The promise -/

/-- What a get does with its time, from a poll at `sent` on. -/
structure GetPromise (timeout : Option Duration) (start sent : Instant) (turns : List GetTurn)
    (requests : List GetRequest) (out : Res ModalError (List PickleValue)) : Prop where
  /-- Every poll timeout is at most 50 s, and at most the time that is left. -/
  poll : ∀ (k : Nat) (r : GetRequest) (t : Instant), requests[k]? = some r →
    (sentAt sent turns)[k]? = some t → r.timeout ≤ pollBound timeout (t - start)
  /-- No reply comes past the deadline. -/
  total : ∀ T, timeout = some T → ∀ (k : Nat) (a : GetTurn), k < requests.length →
    turns[k]? = some a → a.now - start ≤ T
  /-- `QueueEmpty` only comes of an empty reply at the deadline. -/
  empty : ∀ msg, out = .error (.err (.queueEmpty msg)) → ∃ T, timeout = some T ∧
    ∃ (k : Nat) (a : GetTurn), requests.length = k + 1 ∧ turns[k]? = some a ∧ a.reply = .ok [] ∧
      T ≤ a.now - start

section Promise

variable {timeout : Option Duration} {start sent : Instant} {a : GetTurn} {turns : List GetTurn}
  {r : GetRequest} {out : Res ModalError (List PickleValue)}

/-- The promise of a get without RPCs. -/
theorem promise_none (hout : ∀ msg, out ≠ .error (.err (.queueEmpty msg))) :
    GetPromise timeout start sent turns [] out where
  poll k r t hr := by cases hr
  total T hT k a hk := absurd hk (Nat.not_lt_zero k)
  empty msg h := absurd h (hout msg)

/-- The promise of a get whose last poll this is. -/
theorem promise_last (hpoll : r.timeout ≤ pollBound timeout (sent - start))
    (htotal : ∀ T, timeout = some T → a.now - start ≤ T)
    (hempty : ∀ msg, out = .error (.err (.queueEmpty msg)) →
      ∃ T, timeout = some T ∧ a.reply = .ok [] ∧ T ≤ a.now - start) :
    GetPromise timeout start sent (a :: turns) [r] out where
  poll k r' t hr ht := by
    cases k with
    | zero =>
      cases hr
      cases ht
      exact hpoll
    | succ k => cases hr
  total T hT k b hk hb := by
    cases Nat.lt_one_iff.mp hk
    cases hb
    exact htotal T hT
  empty msg h := by
    obtain ⟨T, hT, hreply, hover⟩ := hempty msg h
    exact ⟨T, hT, 0, a, rfl, rfl, hreply, hover⟩

/-- The promise of a get that polls again. -/
theorem promise_cons {requests : List GetRequest}
    (hpoll : r.timeout ≤ pollBound timeout (sent - start))
    (htotal : ∀ T, timeout = some T → a.now - start ≤ T)
    (h : GetPromise timeout start a.now turns requests out) :
    GetPromise timeout start sent (a :: turns) (r :: requests) out where
  poll k r' t hr ht := by
    cases k with
    | zero =>
      cases hr
      cases ht
      exact hpoll
    | succ k => exact h.poll k r' t hr ht
  total T hT k b hk hb := by
    cases k with
    | zero =>
      cases hb
      exact htotal T hT
    | succ k => exact h.total T hT k b (Nat.lt_of_succ_lt_succ hk) hb
  empty msg hmsg := by
    obtain ⟨T, hT, k, b, hlength, hb, hreply, hover⟩ := h.empty msg hmsg
    exact ⟨T, hT, k + 1, b, congrArg (· + 1) hlength, hb, hreply, hover⟩

end Promise

/-! ## 3. The loop -/

/-- **The next poll ends at the deadline or before it**, and lasts 50 s at most. -/
structure PollOk (l : GetLoop) (sent : Instant) : Prop where
  started : l.start ≤ sent
  short : l.pollTimeout ≤ .fromSecs 50
  ends : ∀ T, l.timeout = some T → (sent - l.start) + l.pollTimeout ≤ T

section Loop

variable {l : GetLoop} {sent : Instant}

theorem PollOk.bound (h : PollOk l sent) :
    l.pollTimeout ≤ pollBound l.timeout (sent - l.start) := by
  unfold pollBound
  cases hT : l.timeout with
  | none => exact h.short
  | some T =>
    have hleft : l.pollTimeout ≤ T - (sent - l.start) := Nat.le_sub_of_add_le' (h.ends T hT)
    exact Nat.le_min.mpr ⟨h.short, hleft⟩

/-- A reply within the poll timeout comes at the deadline or before it. -/
theorem PollOk.elapsed (h : PollOk l sent) {now : Instant} (hnow : now ≤ sent + l.pollTimeout) :
    ∀ T, l.timeout = some T → now - l.start ≤ T := by
  intro T hT
  have hends := h.ends T hT
  have hstart := h.started
  calc now - l.start ≤ sent + l.pollTimeout - l.start := Nat.sub_le_sub_right hnow _
    _ = (sent - l.start) + l.pollTimeout := Nat.sub_add_comm hstart
    _ ≤ T := hends

/-- The rest of the time is left to the next poll. -/
theorem PollOk.again (h : PollOk l sent) {now : Instant} (hsent : sent ≤ now) {T : Duration}
    (hT : l.timeout = some T) (hover : now - l.start < T) :
    PollOk { l with pollTimeout := min l.pollTimeout (T - (now - l.start)) } now where
  started := Nat.le_trans h.started hsent
  short := Nat.le_trans (Nat.min_le_left _ _) h.short
  ends T' hT' := by
    have hsame : T' = T := Option.some.inj (hT'.symm.trans hT)
    have hmin : min l.pollTimeout (T - (now - l.start)) ≤ T - (now - l.start) :=
      Nat.min_le_right _ _
    calc (now - l.start) + min l.pollTimeout (T - (now - l.start))
        ≤ (now - l.start) + (T - (now - l.start)) := Nat.add_le_add_left hmin _
      _ = T := Nat.add_sub_cancel' (Nat.le_of_lt hover)
      _ = T' := hsame.symm

/-- What the decoder stops for, and never is an empty queue. -/
theorem mapM_ne_queueEmpty (raw : List (List UInt8)) (msg : String) :
    raw.mapM pickleDeserialize ≠
      (.error (.err (.queueEmpty msg)) : Res ModalError (List PickleValue)) := by
  intro h
  cases StopsIn.mapM pickleDeserialize_stops raw _ h

/-- **Every run of the loop keeps the promise**, by `PollOk`. -/
theorem getLoop_promise (turns : List GetTurn) (l : GetLoop) (sent : Instant) (hok : PollOk l sent)
    (hclock : Polls sent turns
      (runScript .diverged GetLoop.round l (turns.map GetTurn.answer)).1) :
    GetPromise l.timeout l.start sent turns
      (runScript .diverged GetLoop.round l (turns.map GetTurn.answer)).1
      (runScript .diverged GetLoop.round l (turns.map GetTurn.answer)).2 := by
  induction turns generalizing l sent with
  | nil => exact promise_none (fun msg h => by cases h)
  | cons a turns ih =>
    rw [List.map_cons] at hclock ⊢
    rcases l.round_cases a.answer with ⟨e, hreply, hround⟩ | ⟨raw, hreply, hne, hround⟩ |
      ⟨T, hreply, hT, hover, hround⟩ | ⟨T, hreply, hT, hover, hround⟩ | ⟨hreply, hT, hround⟩
    · rw [runScript_error hround] at hclock ⊢
      obtain ⟨⟨-, hnow⟩, -⟩ := polls_cons hclock
      have htotal := hok.elapsed hnow
      obtain ⟨status, -, rfl⟩ := statusToError_error hreply
      exact promise_last hok.bound htotal fun msg h => by cases h
    · rw [runScript_last hround] at hclock ⊢
      obtain ⟨⟨-, hnow⟩, -⟩ := polls_cons hclock
      have htotal := hok.elapsed hnow
      exact promise_last hok.bound htotal fun msg h => absurd h (mapM_ne_queueEmpty raw msg)
    · -- the time is over
      rw [runScript_error hround] at hclock ⊢
      obtain ⟨⟨-, hnow⟩, -⟩ := polls_cons hclock
      have htotal := hok.elapsed hnow
      have hempty : a.reply = .ok [] := statusToError_ok hreply
      exact promise_last hok.bound htotal fun msg _ => ⟨T, hT, hempty, hover⟩
    · -- there is time left, for a poll that may be shorter
      rw [runScript_goes hround] at hclock ⊢
      obtain ⟨⟨hsent, hnow⟩, hrest⟩ := polls_cons hclock
      have htotal := hok.elapsed hnow
      have hnext := hok.again hsent hT hover
      exact promise_cons hok.bound htotal (ih _ _ hnext hrest)
    · rw [runScript_goes hround] at hclock ⊢
      obtain ⟨⟨hsent, hnow⟩, hrest⟩ := polls_cons hclock
      have htotal := hok.elapsed hnow
      have hstarted : l.start ≤ a.now := Nat.le_trans hok.started hsent
      have hforever : ∀ T, l.timeout = some T → a.now - l.start + l.pollTimeout ≤ T := by
        intro T hsome
        rw [hT] at hsome
        cases hsome
      exact promise_cons hok.bound htotal (ih l a.now ⟨hstarted, hok.short, hforever⟩ hrest)

end Loop

/-! ## 4. Gets -/

/-- The only error of a partition key. -/
theorem validatePartitionKey_error {partition : String} {e : ModalError}
    (h : validatePartitionKey partition = .error e) : ∃ msg, e = .invalid msg := by
  unfold validatePartitionKey at h
  dsimp only at h
  split at h
  · cases h
  · split at h
    · cases h
      exact ⟨_, rfl⟩
    · cases h

/-- What comes before the loop: an invalid partition fails, else the first poll is in order. -/
theorem getBegin_cases (queue : Queue) (n : Int32) (params : Option QueueGetParams)
    (now : Instant) :
    (∃ msg, queue.getBegin n params now = .error (.err (.invalid msg))) ∨
    ∃ l, queue.getBegin n params now = .ok l ∧ l.timeout = (params.getD {}).timeout ∧
      l.start = now ∧ PollOk l now := by
  unfold Queue.getBegin
  dsimp only
  cases hkey : validatePartitionKey (params.getD {}).partition with
  | error e =>
    obtain ⟨msg, rfl⟩ := validatePartitionKey_error hkey
    exact Or.inl ⟨msg, rfl⟩
  | ok key =>
    refine Or.inr ⟨_, rfl, rfl, rfl, ⟨Nat.le_refl now, ?_, fun T hT => ?_⟩⟩
    · dsimp only
      cases (params.getD {}).timeout with
      | none => exact Nat.le_refl _
      | some timeout =>
        by_cases hshort : timeout < Duration.fromSecs 50
        · exact (if_pos hshort).trans_le (Nat.le_of_lt hshort)
        · exact (if_neg hshort).le
    · dsimp only at hT ⊢
      rw [hT, Nat.sub_self, Nat.zero_add]
      by_cases hshort : T < Duration.fromSecs 50
      · exact (if_pos hshort).le
      · exact (if_neg hshort).trans_le (Nat.le_of_not_lt hshort)

/-- Decoded items are as many as there were. -/
theorem mapM_ne_nil {raw : List (List UInt8)} (h : raw ≠ []) :
    raw.mapM pickleDeserialize ≠ (.ok [] : Res ModalError (List PickleValue)) := by
  intro hnil
  have hmap : raw.map pickleDeserialize = [] := map_of_mapM_ok hnil
  exact h (List.map_eq_nil_iff.mp hmap)

/-- A list of items has a first one, and nothing has panicked for want of one. -/
def HasItems (out : Res ModalError (List PickleValue)) : Prop :=
  out ≠ .ok [] ∧ out ≠ .error (.panic .unwrapNone)

theorem hasItems_err (e : ModalError) : HasItems (.error (.err e)) :=
  ⟨fun h => (by cases h), fun h => (by cases h)⟩

theorem hasItems_decoded {raw : List (List UInt8)} (h : raw ≠ []) :
    HasItems (raw.mapM pickleDeserialize) := by
  refine ⟨mapM_ne_nil h, fun hpanic => ?_⟩
  cases StopsIn.mapM pickleDeserialize_stops raw _ hpanic

theorem getInternal_hasItems (queue : Queue) (n : Int32) (params : Option QueueGetParams)
    (now : Instant) (answers : List GetAnswer) :
    HasItems (queue.getInternal n params now answers).2 := by
  have hround : ∀ (l : GetLoop) (past : List GetRequest) (a : GetAnswer) (rest : List GetAnswer),
      True → RoundOk (fun _ _ _ => True) (fun _ out => HasItems out) past rest (l.round a) := by
    intro l past a rest _
    rcases l.round_cases a with ⟨e, -, hround⟩ | ⟨raw, -, hne, hround⟩ |
      ⟨T, -, -, -, hround⟩ | ⟨T, -, -, -, hround⟩ | ⟨-, -, hround⟩
    · rw [hround]
      exact hasItems_err e
    · rw [hround]
      have hitems := hasItems_decoded hne
      cases hdec : (raw.mapM pickleDeserialize : Res ModalError _) with
      | error e =>
        rw [hdec] at hitems
        exact hitems
      | ok vals =>
        rw [hdec] at hitems
        exact hitems
    · rw [hround]
      exact hasItems_err _
    · rw [hround]
      exact trivial
    · rw [hround]
      exact trivial
  have hcut : HasItems (.error .diverged) := ⟨fun h => (by cases h), fun h => (by cases h)⟩
  unfold Queue.getInternal
  rcases getBegin_cases queue n params now with ⟨msg, hinvalid⟩ | ⟨l, hbegin, -⟩
  · rw [hinvalid]
    exact hasItems_err _
  · rw [hbegin]
    exact script_rule (I := fun _ _ _ => True) (Q := fun _ out => HasItems out) Stop.diverged
      hround (fun _ _ _ => hcut) answers l [] trivial

/-- The `unwrap` in `get` always has an item, whatever the replies are. -/
theorem get_unwraps (queue : Queue) (params : Option QueueGetParams) (now : Instant)
    (answers : List GetAnswer) :
    (queue.get params now answers).2 ≠ .error (.panic .unwrapNone) := by
  obtain ⟨hne, hpanic⟩ := getInternal_hasItems queue 1 params now answers
  unfold Queue.get
  dsimp only
  cases hout : (queue.getInternal 1 params now answers).2 with
  | error e =>
    intro h
    cases h
    exact hpanic hout
  | ok vals =>
    cases vals with
    | nil => exact absurd hout hne
    | cons v vals => exact fun h => (by cases h)

/-- **A get keeps its promise**, for all parameters, replies and clocks that advance in its RPCs
    alone: how long it polls, in all and each time, and when it gives up. Without a timeout it never
    returns `QueueEmpty`. It never returns an empty list, so that the `unwrap` of `get` is safe. -/
theorem get_keeps_promise (queue : Queue) (n : Int32) (params : Option QueueGetParams)
    (now : Instant) (turns : List GetTurn)
    (hclock : Polls now turns
      (queue.getInternal n params now (turns.map GetTurn.answer)).1) :
    let (requests, out) := queue.getInternal n params now (turns.map GetTurn.answer)
    GetPromise (params.getD {}).timeout now now turns requests out ∧
    ((params.getD {}).timeout = none → ∀ msg, out ≠ .error (.err (.queueEmpty msg))) ∧
    out ≠ .ok [] ∧ (queue.get params now (turns.map GetTurn.answer)).2 ≠ .error (.panic .unwrapNone) := by
  have hpromise : GetPromise (params.getD {}).timeout now now turns
      (queue.getInternal n params now (turns.map GetTurn.answer)).1
      (queue.getInternal n params now (turns.map GetTurn.answer)).2 := by
    unfold Queue.getInternal at hclock ⊢
    rcases getBegin_cases queue n params now with
      ⟨msg, hinvalid⟩ | ⟨l, hbegin, htimeout, hstart, hok⟩
    · rw [hinvalid]
      exact promise_none (fun msg h => by cases h)
    · rw [hbegin] at hclock ⊢
      have hloop := getLoop_promise turns l now hok hclock
      rw [htimeout, hstart] at hloop
      exact hloop
  refine ⟨hpromise, fun hnone msg hempty => ?_,
    (getInternal_hasItems queue n params now _).1, get_unwraps queue params now _⟩
  obtain ⟨T, hT, -⟩ := hpromise.empty msg hempty
  rw [hnone] at hT
  cases hT

/-- The queue stays empty for 120 s. -/
def emptyTurns : List GetTurn :=
  [⟨.ok [], Duration.fromSecs 50⟩, ⟨.ok [], Duration.fromSecs 100⟩,
   ⟨.ok [], Duration.fromSecs 120⟩]

/-- A get that may take as long polls for 50 s, 50 s and the 20 s that are left. -/
theorem get_keeps_promise_empty :
    let run := Queue.getInternal ⟨"qu-1", "jobs"⟩ 1 (some { timeout := some (.fromSecs 120) }) 0
      (emptyTurns.map GetTurn.answer)
    run.1.map GetRequest.timeout = [.fromSecs 50, .fromSecs 50, .fromSecs 20] ∧
    (∃ msg, run.2 = .error (.err (.queueEmpty msg))) ∧
    GetPromise (some (.fromSecs 120)) 0 0 emptyTurns run.1 run.2 := by
  intro run
  have hclock : Polls 0 emptyTurns run.1 := by
    intro k r t a hr ht ha
    match k with
    | 0 | 1 | 2 =>
      cases hr
      cases ht
      cases ha
      exact ⟨Nat.le_of_ble_eq_true rfl, Nat.le_of_eq rfl⟩
    | k + 3 => cases ha
  obtain ⟨hpromise, -⟩ := get_keeps_promise ⟨"qu-1", "jobs"⟩ 1
    (some { timeout := some (.fromSecs 120) }) 0 emptyTurns hclock
  exact ⟨rfl, ⟨_, rfl⟩, hpromise⟩

end ModalRs.GetDeadline
