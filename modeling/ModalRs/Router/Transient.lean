/-
  File:      ModalRs/Router/Transient.lean
  Subject:   Operations of the command router's client on a flaky network.

  A script gives the failures of an operation's RPCs, in order; then they succeed.

  * `isTransientCode`, `RetryOptions`: what is worth a retry, and how often.
  * `FlakyScript`: fewer transient failures than the retry budget, and at most one
    refusal of the token.
  * `Undisturbed`: no transient failure, and access to a new token if it is needed.
  * `survives_exactly`: only then does an operation return the success.
-/
import ModalRs.Router.Pinning

namespace ModalRs

open ModalRs.Lib ModalRs.Rust

/-! ## 1. Retries -/

/-- gRPC status codes that are considered transient and retryable. -/
def isTransientCode : Code → Bool
  | .deadlineExceeded | .unavailable | .cancelled | .internal | .unknown => true
  | _ => false

/-- Retry options for task command router calls. The factor is the bit pattern of an `f64`. -/
structure RetryOptions where
  baseDelay : Duration
  delayFactor : F64
  maxRetries : Option Int32
  deadline : Option Instant

/-- `RetryOptions::default()`; the factor is 2.0. -/
def RetryOptions.default : RetryOptions where
  baseDelay := Duration.fromMillis 10
  delayFactor := 0x4000000000000000
  maxRetries := some 10
  deadline := none

def ModalError.isTransient : ModalError → Bool
  | .grpc status => isTransientCode status.code
  | _ => false

/-- The failures that the RPCs of an operation meet: fewer transient ones than the retries that are
    in the budget, and at most one refusal of the token. -/
structure FlakyScript (failures : List ModalError) : Prop where
  known : ∀ e ∈ failures, e.isTransient = true ∨ e.isUnauthenticated = true
  few : ∀ max, RetryOptions.default.maxRetries = some max →
    (failures.countP ModalError.isTransient : Int) < max.toInt
  once : failures.countP ModalError.isUnauthenticated ≤ 1

/-! ## 2. Operations under a script -/

/-- The next reply of a script: its next failure, or the success. -/
def scripted {α : Type} (success : α) : List ModalError → Except ModalError α × List ModalError
  | [] => (.ok success, [])
  | e :: failures => (.error e, failures)

/-- A world whose operations meet the failures of a script. -/
def scriptWorld (access : Except ModalError TaskGetCommandRouterAccessResponse)
    (success : (request : RouterRequest) → request.Response) (now : Instant) :
    TaskCommandRouterClient.RouterWorld (List ModalError) where
  access _ failures := (access, failures)
  rpc request _ failures := scripted (success request) failures
  utcNow _ := 0
  instantNow _ := now

/-- What a call returns if its RPC succeeds. -/
def Call.value (success : (request : RouterRequest) → request.Response) : Call → CallValue
  | .snapshotDirectory request => .snapshot (success (.taskSnapshotDirectory request))
  | .execStart request => .started (success (.taskExecStart request))
  | .execWait task execId _ => .exited (success (.taskExecWait ⟨task, execId⟩))
  | .execStdioRead task execId fd offset =>
      .chunks (success (.taskExecStdioRead ⟨task, execId, offset, fd⟩))
  | .mountDirectory _ | .execStdinWrite _ _ _ _ _ | .refreshJwtIfNeeded | .close => .unit

/-- No transient failure; a new token to be had if the old one is refused; no deadline missed. -/
structure Undisturbed (c : TaskCommandRouterClient)
    (access : Except ModalError TaskGetCommandRouterAccessResponse) (now : Instant) (k : Call)
    (failures : List ModalError) : Prop where
  noTransient : ∀ e ∈ failures, e.isTransient = false
  access : failures ≠ [] → ∃ jwt, access = .ok ⟨jwt, c.serverUrl⟩
  inTime : ∀ task execId d, k = .execWait task execId (some d) → now < d

namespace TaskCommandRouterClient

section Script

variable {lib : JwtLibs} {access : Except ModalError TaskGetCommandRouterAccessResponse}
  {success : (request : RouterRequest) → request.Response} {now : Instant} {α β : Type}
  {c : TaskCommandRouterClient} {failures : List ModalError}

/-- Nothing fails but, perhaps, one refusal of the token, and a new one is to be had. -/
def Passes (c : TaskCommandRouterClient)
    (access : Except ModalError TaskGetCommandRouterAccessResponse) (failures : List ModalError) :
    Prop :=
  failures = [] ∨ ∃ e, failures = [e] ∧ e.isUnauthenticated = true ∧
    ∃ jwt, access = .ok ⟨jwt, c.serverUrl⟩

/-- A failure other than a refusal is the result. -/
theorem retry_failed {ω : Type} {grpc : TaskCommandRouterGrpcClient ω}
    {f : String → ω → Except ModalError α × ω} {e : ModalError} {w w' : ω}
    (hf : f c.jwt w = (.error e, w')) (hrefused : ¬ e.isUnauthenticated = true) :
    callWithAuthRetry grpc f c w = (.error e, c, w') := by
  rw [callWithAuthRetry, hf]
  split
  · rename_i heq
    cases heq
  · rename_i heq
    cases heq
    exact absurd rfl hrefused
  · rename_i heq
    cases heq
    rfl

/-- A refusal is followed by a refresh, and by the second attempt if that succeeds. -/
theorem retry_refused {ω : Type} {grpc : TaskCommandRouterGrpcClient ω}
    {f : String → ω → Except ModalError α × ω} {msg : String} {w w' : ω}
    (hf : f c.jwt w = (.error (.grpc ⟨.unauthenticated, msg⟩), w')) :
    callWithAuthRetry grpc f c w =
      match forceRefreshJwt grpc c w' with
      | (.error e, c, w) => (.error e, c, w)
      | (.ok (), c, w) =>
          match f c.jwt w with
          | (result, w) => (result, c, w) := by
  rcases hforce : forceRefreshJwt grpc c w' with ⟨e | _, c', w''⟩
  all_goals simp only [callWithAuthRetry, hf, hforce]

/-- The refresh in a world that grants access with one response. -/
theorem refresh_scripted (hopen : c.closed = false) :
    forceRefreshJwt ((scriptWorld access success now).grpc lib) c failures =
      match access with
      | .error e => (.error e, c, failures)
      | .ok resp =>
          if resp.url ≠ c.serverUrl then
            (.error (.other "task router URL changed during session"), c, failures)
          else (.ok (), { c with jwt := resp.jwt, jwtExp := expiryOf lib resp.jwt }, failures) := by
  rw [forceRefreshJwt, hopen]
  cases access with
  | error e => rfl
  | ok resp => rfl

/-- **The auth retry under a script**: it outlasts a refusal, and no other failure. -/
theorem retry_ok_iff (hopen : c.closed = false) {f : String → ClientM α} {value : α}
    (hf : ∀ jwt c failures, alone (scriptWorld access success now) (f jwt) c failures =
      ((scripted value failures).1, c, (scripted value failures).2)) {a : α} :
    (alone (scriptWorld access success now) (callWithAuthRetryM lib c.taskId c.serverUrl f) c
      failures).1 = .ok a ↔ Passes c access failures ∧ a = value := by
  rw [alone_callWithAuthRetry lib hf]
  rcases failures with _ | ⟨e, rest⟩
  · constructor
    · intro h
      cases h
      exact ⟨Or.inl rfl, rfl⟩
    · intro h
      rw [h.2]
      rfl
  · by_cases hrefused : e.isUnauthenticated = true
    · obtain ⟨msg, rfl⟩ := ModalError.isUnauthenticated_iff.mp hrefused
      rw [retry_refused rfl, refresh_scripted hopen]
      cases access with
      | error e' =>
        constructor
        · intro h
          cases h
        · intro h
          rcases h.1 with hnil | ⟨_, _, -, jwt, hjwt⟩
          · cases hnil
          · cases hjwt
      | ok resp =>
        by_cases hurl : resp.url = c.serverUrl
        · simp only [if_neg (not_not.mpr hurl)]
          rcases rest with _ | ⟨e', rest⟩
          · constructor
            · intro h
              cases h
              exact ⟨Or.inr ⟨_, rfl, rfl, resp.jwt, by rw [← hurl]⟩, rfl⟩
            · intro h
              rw [h.2]
              rfl
          · -- the second attempt fails too
            constructor
            · intro h
              cases h
            · intro h
              rcases h.1 with hnil | ⟨_, hone, -⟩
              · cases hnil
              · cases hone
        · simp only [if_pos hurl]
          constructor
          · intro h
            cases h
          · intro h
            rcases h.1 with hnil | ⟨_, _, -, jwt, hjwt⟩
            · cases hnil
            · cases hjwt
              exact absurd rfl hurl
    · rw [retry_failed rfl hrefused]
      constructor
      · intro h
        cases h
      · intro h
        rcases h.1 with hnil | ⟨e', he, hrefused', -⟩
        · cases hnil
        · cases he
          exact absurd hrefused' hrefused

/-- What is made of a success is returned in its place. -/
theorem wrapped_ok_iff {p : ClientM α} {value : α} {P : Prop}
    (hp : ∀ a, (alone (scriptWorld access success now) p c failures).1 = .ok a ↔ P ∧ a = value)
    (wrap : α → β) {b : β} :
    (alone (scriptWorld access success now) (p >>= fun a => pure (wrap a)) c failures).1 = .ok b ↔
      P ∧ b = wrap value := by
  rw [alone_bind]
  rcases hrun : alone (scriptWorld access success now) p c failures with ⟨out, c', w'⟩
  rw [hrun] at hp
  cases out with
  | error e =>
    constructor
    · intro h
      cases h
    · intro h
      cases (hp value).mpr ⟨h.1, rfl⟩
  | ok a =>
    obtain ⟨hP, rfl⟩ := (hp a).mp rfl
    constructor
    · intro h
      cases h
      exact ⟨hP, rfl⟩
    · intro h
      rw [h.2]
      rfl

/-- The check of the flag does not matter to an open client. -/
theorem alone_ifOpen {world : RouterWorld (List ModalError)} (hopen : c.closed = false)
    (p : ClientM α) : alone world (ifOpen p) c failures = alone world p c failures := by
  have hload : alone world (act .loadClosed) c failures = (.ok c.closed, c, failures) := rfl
  rw [ifOpen, alone_bind, hload, hopen]
  rfl

/-- An error in place of an error is still one. -/
theorem alone_mapError {world : RouterWorld (List ModalError)} (p : ClientM α)
    (g : ModalError → ModalError) {a : α} :
    (alone world (tryCatch p fun e => throw (g e)) c failures).1 = .ok a ↔
      (alone world p c failures).1 = .ok a := by
  rw [alone_tryCatch]
  rcases alone world p c failures with ⟨out, c', w'⟩
  cases out with
  | ok a => rfl
  | error e =>
    constructor
    all_goals
      intro h
      cases h

/-- **Waiting under a script**: as any operation, if the deadline has not passed. -/
theorem execWait_ok_iff (hopen : c.closed = false) {task execId : String}
    {deadline : Option Instant} {a : TaskExecWaitResponse} :
    (alone (scriptWorld access success now)
      (execWait lib c.taskId c.serverUrl task execId deadline) c failures).1 = .ok a ↔
      (Passes c access failures ∧ ∀ d, deadline = some d → now < d) ∧
        a = success (.taskExecWait ⟨task, execId⟩) := by
  have hattempt : ∀ a, (alone (scriptWorld access success now)
      (tryCatch (callWithAuthRetryM lib c.taskId c.serverUrl (rpc (.taskExecWait ⟨task, execId⟩)))
        fun e => throw (deadlineToTimeout execId e)) c failures).1 = .ok a ↔
      Passes c access failures ∧ a = success (.taskExecWait ⟨task, execId⟩) := by
    intro a
    rw [alone_mapError]
    exact retry_ok_iff hopen fun _ _ _ => rfl
  rw [execWait, alone_ifOpen hopen]
  cases deadline with
  | none =>
    rw [hattempt]
    constructor
    · intro h
      exact ⟨⟨h.1, fun _ hd => nomatch hd⟩, h.2⟩
    · intro h
      exact ⟨h.1.1, h.2⟩
  | some d =>
    have hnow : alone (scriptWorld access success now) (act .instantNow) c failures =
        (.ok now, c, failures) := rfl
    simp only [alone_bind, hnow]
    by_cases hpassed : d ≤ now
    · rw [if_pos hpassed]
      constructor
      · intro h
        cases h
      · intro h
        exact absurd (h.1.2 d rfl) (Nat.not_lt.mpr hpassed)
    · rw [if_neg hpassed, hattempt]
      constructor
      · intro h
        refine ⟨⟨h.1, fun d' hd => ?_⟩, h.2⟩
        cases hd
        exact Nat.not_le.mp hpassed
      · intro h
        exact ⟨h.1.1, h.2⟩

/-- An operation that is one RPC under the auth retry. -/
theorem operation_ok_iff (hopen : c.closed = false) {f : String → ClientM α} (value : α)
    (hf : ∀ jwt c failures, alone (scriptWorld access success now) (f jwt) c failures =
      ((scripted value failures).1, c, (scripted value failures).2)) (wrap : α → β) {b : β} :
    (alone (scriptWorld access success now)
      (ifOpen (callWithAuthRetryM lib c.taskId c.serverUrl f) >>= fun a => pure (wrap a)) c
      failures).1 = .ok b ↔ Passes c access failures ∧ b = wrap value := by
  refine wrapped_ok_iff (fun a => ?_) wrap
  rw [alone_ifOpen hopen]
  exact retry_ok_iff hopen hf

/-- **Every operation under a script**: it returns the success just if it passes. -/
theorem method_ok_iff (hopen : c.closed = false) {k : Call} (hk : k.IsOperation) {v : CallValue} :
    (alone (scriptWorld access success now) (k.method lib c.taskId c.serverUrl) c failures).1 =
        .ok v ↔
      (Passes c access failures ∧ ∀ task execId d, k = .execWait task execId (some d) → now < d) ∧
        v = k.value success := by
  -- only waiting has a deadline
  have hnever : (∀ task execId d, k ≠ .execWait task execId (some d)) →
      (Passes c access failures ↔ Passes c access failures ∧
        ∀ task execId d, k = .execWait task execId (some d) → now < d) :=
    fun hne => (and_iff_left fun task execId d h => absurd h (hne task execId d)).symm
  cases k with
  | mountDirectory request =>
    rw [← hnever fun _ _ _ h => nomatch h]
    exact operation_ok_iff hopen _ (f := rpc (.taskMountDirectory request)) (fun _ _ _ => rfl) _
  | snapshotDirectory request =>
    rw [← hnever fun _ _ _ h => nomatch h]
    exact operation_ok_iff hopen _ (f := rpc (.taskSnapshotDirectory request)) (fun _ _ _ => rfl) _
  | execStart request =>
    rw [← hnever fun _ _ _ h => nomatch h]
    exact operation_ok_iff hopen _ (f := rpc (.taskExecStart request)) (fun _ _ _ => rfl) _
  | execStdinWrite task execId offset data eof =>
    rw [← hnever fun _ _ _ h => nomatch h]
    refine operation_ok_iff hopen () (fun jwt c failures => ?_) _
    cases failures
    all_goals rfl
  | execStdioRead task execId fd offset =>
    rw [← hnever fun _ _ _ h => nomatch h]
    exact operation_ok_iff hopen _ (f := rpc (.taskExecStdioRead ⟨task, execId, offset, fd⟩))
      (fun _ _ _ => rfl) _
  | execWait task execId deadline =>
    refine (wrapped_ok_iff (fun a => execWait_ok_iff hopen) CallValue.exited).trans
      (and_congr_left' (and_congr_right' ?_))
    constructor
    · intro h task' execId' d hd
      cases hd
      exact h d rfl
    · intro h d hd
      exact h task execId d (hd ▸ rfl)
  | refreshJwtIfNeeded => exact hk.elim
  | close => exact hk.elim

end Script

end TaskCommandRouterClient

/-! ## 3. What an operation survives -/

section Survives

open TaskCommandRouterClient

variable {access : Except ModalError TaskGetCommandRouterAccessResponse} {now : Instant}
  {c : TaskCommandRouterClient} {failures : List ModalError}

theorem notTransient_of_unauthenticated {e : ModalError} (h : e.isUnauthenticated = true) :
    e.isTransient = false := by
  obtain ⟨msg, rfl⟩ := ModalError.isUnauthenticated_iff.mp h
  rfl

/-- A flaky script passes just if no failure is transient and a new token is to be had. -/
theorem passes_iff (hscript : FlakyScript failures) :
    Passes c access failures ↔ (∀ e ∈ failures, e.isTransient = false) ∧
      (failures ≠ [] → ∃ jwt, access = .ok ⟨jwt, c.serverUrl⟩) := by
  constructor
  · intro h
    rcases h with rfl | ⟨e, rfl, hrefused, haccess⟩
    · exact ⟨fun _ he => absurd he List.not_mem_nil, fun h => absurd rfl h⟩
    · refine ⟨fun e' he' => ?_, fun _ => haccess⟩
      cases List.mem_singleton.mp he'
      exact notTransient_of_unauthenticated hrefused
  · intro h
    obtain ⟨hnone, haccess⟩ := h
    have hrefused : ∀ e ∈ failures, e.isUnauthenticated = true := by
      intro e he
      rcases hscript.known e he with htransient | hrefused
      · rw [hnone e he] at htransient
        cases htransient
      · exact hrefused
    -- all are refusals, so there is at most one
    have hlength : failures.length ≤ 1 := by
      rw [← List.countP_eq_length.mpr hrefused]
      exact hscript.once
    rcases failures with _ | ⟨e, _ | ⟨e', rest⟩⟩
    · exact Or.inl rfl
    · exact Or.inr ⟨e, rfl, hrefused e List.mem_cons_self, haccess (List.cons_ne_nil _ _)⟩
    · exact absurd hlength (by simp only [List.length_cons]; omega)

/-- **What an operation survives.** On an open client, under a script of fewer transient failures
    than the retry budget and at most one refusal of the token, an operation returns the success
    exactly if there is no transient failure, a new token is to be had if one is needed, and the
    deadline of `exec_wait` has not passed. -/
theorem survives_exactly (lib : JwtLibs) (success : (request : RouterRequest) → request.Response)
    {k : Call} (hk : k.IsOperation) (hopen : c.closed = false) (hscript : FlakyScript failures) :
    (alone (scriptWorld access success now) (k.method lib c.taskId c.serverUrl) c failures).1 =
      .ok (k.value success) ↔ Undisturbed c access now k failures := by
  rw [method_ok_iff hopen hk, passes_iff hscript]
  constructor
  · intro h
    obtain ⟨⟨⟨hnone, haccess⟩, hinTime⟩, -⟩ := h
    exact ⟨hnone, haccess, hinTime⟩
  · intro h
    exact ⟨⟨⟨h.noTransient, h.access⟩, h.inTime⟩, rfl⟩

end Survives

/-- What a router answers that succeeds. -/
def sampleSuccess : (request : RouterRequest) → request.Response
  | .taskMountDirectory _ => ()
  | .taskSnapshotDirectory _ => ⟨"im-1"⟩
  | .taskExecStart _ => ⟨⟩
  | .taskExecStdinWrite _ => ⟨⟩
  | .taskExecWait _ => ⟨some (.code 0)⟩
  | .taskExecStdioRead _ => [⟨[0x61]⟩]

/-- **One transient failure ends an operation**: a mount whose first RPC finds the router unavailable
    comes back with that error, though the next RPC would succeed. -/
theorem mountDirectory_unavailable :
    let unavailable := ModalError.grpc ⟨.unavailable, "unavailable"⟩
    let k := Call.mountDirectory ⟨"ta-1", [0x2f], "im-1"⟩
    FlakyScript [unavailable] ∧ sampleClient.closed = false ∧
      (TaskCommandRouterClient.alone
        (scriptWorld (.ok ⟨"h.e30.s", "https://router"⟩) sampleSuccess 0)
        (k.method sampleLibs "ta-1" "https://router") sampleClient [unavailable]).1 =
          .error unavailable ∧
      ¬ .error unavailable = Except.ok (k.value sampleSuccess) :=
  ⟨⟨by decide, fun max hmax => by cases hmax; decide, by decide⟩, rfl, rfl, fun h => nomatch h⟩

/-- A refusal of the token alone is survived. -/
theorem survives_exactly_refusal :
    let refusal := ModalError.grpc ⟨.unauthenticated, "expired"⟩
    let k := Call.execWait "ta-1" "ex-1" (some 5)
    (TaskCommandRouterClient.alone
      (scriptWorld (.ok ⟨"h.eyJleHAiOjF9.s", "https://router"⟩) sampleSuccess 0)
      (k.method sampleLibs "ta-1" "https://router") sampleClient [refusal]).1 =
        .ok (.exited ⟨some (.code 0)⟩) := by
  intro refusal k
  have hscript : FlakyScript [refusal] :=
    ⟨by decide, fun max hmax => by cases hmax; decide, by decide⟩
  refine (survives_exactly (c := sampleClient) (k := k) sampleLibs sampleSuccess trivial rfl
    hscript).mpr ⟨by decide, fun _ => ⟨_, rfl⟩, fun task execId d hk => ?_⟩
  obtain ⟨-, -, hd⟩ := Call.execWait.inj hk
  rw [← Option.some.inj hd]
  decide

end ModalRs
