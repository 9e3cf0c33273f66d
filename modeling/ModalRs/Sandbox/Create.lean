/-
  File:      ModalRs/Sandbox/Create.lean
  Subject:   Creating a sandbox and waiting for its task, against any server.

  The server is a script: each answer says what it would reply to any of the RPCs.

  * `SandboxService.create`, `SandboxService.terminate`: the operations.
  * `Waited`: polls that found the sandbox not scheduled yet.
  * `pollTaskId_run`: how the polling can end.
  * `create_error`: what is left behind by a `create` that fails.
-/
import ModalRs.Sandbox.Params
import ModalRs.Lib.Exchange

namespace ModalRs

open ModalRs.Lib ModalRs.Rust

/-! ## 1. The service -/

/-- Sandbox represents a running Modal Sandbox. -/
structure Sandbox where
  sandboxId : String
  taskId : Option String
  deriving DecidableEq, Repr

/-- What the server would reply to an RPC; a task id comes with whether the sandbox has exited. -/
structure SandboxAnswer where
  sandboxCreate : (appId imageId : String) → SandboxCreateParams → Except ModalError String
  sandboxGetTaskId : (sandboxId : String) → Except ModalError (Option String × Bool)
  sandboxTerminate : (sandboxId : String) → Except ModalError Unit

/-- An RPC that was answered. -/
inductive SandboxEvent where
  | create (appId imageId : String) (params : SandboxCreateParams)
      (reply : Except ModalError String)
  | getTaskId (sandboxId : String) (reply : Except ModalError (Option String × Bool))
  | terminate (sandboxId : String) (reply : Except ModalError Unit)

/-- An operation of the service. -/
abbrev SandboxM (α : Type) : Type := Exchange SandboxAnswer SandboxEvent (Stop ModalError) α

def sandboxCreate (appId imageId : String) (params : SandboxCreateParams) : SandboxM String :=
  .ask .diverged (fun a => .create appId imageId params (a.sandboxCreate appId imageId params))
    fun a => liftExcept (a.sandboxCreate appId imageId params)

def sandboxGetTaskId (sandboxId : String) : SandboxM (Option String × Bool) :=
  .ask .diverged (fun a => .getTaskId sandboxId (a.sandboxGetTaskId sandboxId))
    fun a => liftExcept (a.sandboxGetTaskId sandboxId)

def sandboxTerminate (sandboxId : String) : SandboxM Unit :=
  .ask .diverged (fun a => .terminate sandboxId (a.sandboxTerminate sandboxId))
    fun a => liftExcept (a.sandboxTerminate sandboxId)

namespace SandboxService

/-- 5 minutes at 500ms intervals. -/
def maxAttempts : Nat := 600

def terminatedEarly (sandboxId : String) : ModalError :=
  .other ("Sandbox '" ++ sandboxId ++ "' was terminated before a task could be scheduled")

def noTaskId (sandboxId : String) : ModalError :=
  .other ("Sandbox '" ++ sandboxId ++ "' did not get a task_id after " ++ toString maxAttempts ++
    " attempts")

/-- Poll for task_id, so many times; the pause after each poll takes time and nothing else. -/
def pollTaskId (sandboxId : String) : (attempts : Nat) → SandboxM Sandbox
  | 0 => .lift (.error (.err (noTaskId sandboxId)))
  | attempts + 1 => do
      let (taskId, exited) ← sandboxGetTaskId sandboxId
      match taskId with
      | some tid => pure ⟨sandboxId, some tid⟩
      | none =>
          if exited then .lift (.error (.err (terminatedEarly sandboxId)))
          else pollTaskId sandboxId attempts

/-- Create a new sandbox. -/
def create (appId imageId : String) (params : SandboxCreateParams) : SandboxM Sandbox := do
  let _ ← Exchange.lift (liftExcept (buildSandboxCreateRequestProto appId imageId params))
  let sandboxId ← sandboxCreate appId imageId params
  pollTaskId sandboxId maxAttempts

/-- Terminate a sandbox. -/
def terminate (sandboxId : String) : SandboxM Unit := sandboxTerminate sandboxId

end SandboxService

/-! ## 2. How the polling ends -/

section Polling

variable {sandboxId : String} {script rest : List SandboxAnswer} {es : List SandboxEvent}

/-- So many polls found the sandbox neither scheduled nor exited. -/
def waited (sandboxId : String) (n : Nat) : List SandboxEvent :=
  List.replicate n (.getTaskId sandboxId (.ok (none, false)))

/-- How a polling with so many attempts ends. -/
inductive PollEnd (sandboxId : String) (attempts : Nat) :
    List SandboxEvent → Res ModalError Sandbox → Prop where
  | scheduled (n : Nat) (tid : String) (exited : Bool) (hn : n < attempts) :
      PollEnd sandboxId attempts
        (waited sandboxId n ++ [.getTaskId sandboxId (.ok (some tid, exited))])
        (.ok ⟨sandboxId, some tid⟩)
  | exited (n : Nat) (hn : n < attempts) :
      PollEnd sandboxId attempts (waited sandboxId n ++ [.getTaskId sandboxId (.ok (none, true))])
        (.error (.err (SandboxService.terminatedEarly sandboxId)))
  | failed (n : Nat) (e : ModalError) (hn : n < attempts) :
      PollEnd sandboxId attempts (waited sandboxId n ++ [.getTaskId sandboxId (.error e)])
        (.error (.err e))
  | outOfAttempts :
      PollEnd sandboxId attempts (waited sandboxId attempts)
        (.error (.err (SandboxService.noTaskId sandboxId)))
  | unanswered (n : Nat) (hn : n < attempts) :
      PollEnd sandboxId attempts (waited sandboxId n) (.error .diverged)

/-- One more poll that found nothing, in front. -/
theorem PollEnd.cons {attempts : Nat} {out : Res ModalError Sandbox}
    (h : PollEnd sandboxId attempts es out) :
    PollEnd sandboxId (attempts + 1) (.getTaskId sandboxId (.ok (none, false)) :: es) out := by
  cases h with
  | scheduled n tid exited hn => exact .scheduled (n + 1) tid exited (Nat.succ_lt_succ hn)
  | exited n hn => exact .exited (n + 1) (Nat.succ_lt_succ hn)
  | failed n e hn => exact .failed (n + 1) e (Nat.succ_lt_succ hn)
  | outOfAttempts => exact .outOfAttempts
  | unanswered n hn => exact .unanswered (n + 1) (Nat.succ_lt_succ hn)

/-- **How the polling ends**, for every number of attempts and every script. -/
theorem pollTaskId_run {attempts : Nat} {out : Res ModalError Sandbox}
    (h : SandboxService.pollTaskId sandboxId attempts script = (es, out, rest)) :
    PollEnd sandboxId attempts es out := by
  induction attempts generalizing script es with
  | zero =>
    cases h
    exact .outOfAttempts
  | succ attempts ih =>
    rw [SandboxService.pollTaskId, Exchange.bind_apply] at h
    cases script with
    | nil =>
      cases h
      exact .unanswered 0 (Nat.succ_pos _)
    | cons a is =>
      rw [sandboxGetTaskId, Exchange.ask_cons] at h
      generalize a.sandboxGetTaskId sandboxId = reply at h
      rcases reply with e | ⟨_ | tid, exited⟩
      · cases h
        exact .failed 0 e (Nat.succ_pos _)
      · cases exited with
        | true =>
          cases h
          exact .exited 0 (Nat.succ_pos _)
        | false =>
          rcases hrest : SandboxService.pollTaskId sandboxId attempts is with ⟨es', out', rest'⟩
          simp only [Rust.liftExcept, Bool.false_eq_true, if_false, hrest] at h
          cases h
          exact (ih hrest).cons
      · cases h
        exact .scheduled 0 tid exited (Nat.succ_pos _)

/-- A polling does nothing but poll. -/
theorem PollEnd.polls {attempts : Nat} {out : Res ModalError Sandbox}
    (h : PollEnd sandboxId attempts es out) : ∀ x ∈ es, ∃ reply, x = .getTaskId sandboxId reply := by
  have hwaited : ∀ n, ∀ x ∈ waited sandboxId n, ∃ reply, x = .getTaskId sandboxId reply :=
    fun n x hx => ⟨_, List.eq_of_mem_replicate hx⟩
  have hsnoc : ∀ n reply, ∀ x ∈ waited sandboxId n ++ [.getTaskId sandboxId reply],
      ∃ reply, x = .getTaskId sandboxId reply := by
    intro n reply x hx
    rcases List.mem_append.mp hx with hx | hx
    · exact hwaited n x hx
    · exact ⟨reply, List.mem_singleton.mp hx⟩
  cases h with
  | scheduled n | exited n | failed n => exact hsnoc n _
  | outOfAttempts => exact hwaited attempts
  | unanswered n => exact hwaited n

end Polling

/-! ## 3. How a create goes -/

section Creation

variable {appId imageId : String} {params : SandboxCreateParams} {script rest : List SandboxAnswer}
  {es : List SandboxEvent}

/-- How a create goes: the parameters are checked, the sandbox is created, its task is waited for. -/
inductive CreateRun (appId imageId : String) (params : SandboxCreateParams) :
    List SandboxEvent → Res ModalError Sandbox → Prop where
  | invalid (e : ModalError) (h : buildSandboxCreateRequestProto appId imageId params = .error e) :
      CreateRun appId imageId params [] (.error (.err e))
  | unanswered : CreateRun appId imageId params [] (.error .diverged)
  | refused (e : ModalError) :
      CreateRun appId imageId params [.create appId imageId params (.error e)] (.error (.err e))
  | created (sandboxId : String) (polls : List SandboxEvent) (out : Res ModalError Sandbox)
      (h : PollEnd sandboxId SandboxService.maxAttempts polls out) :
      CreateRun appId imageId params (.create appId imageId params (.ok sandboxId) :: polls) out

/-- **How a create goes**, for all parameters and every script. -/
theorem create_run {out : Res ModalError Sandbox}
    (h : SandboxService.create appId imageId params script = (es, out, rest)) :
    CreateRun appId imageId params es out := by
  rw [SandboxService.create] at h
  cases hbuild : buildSandboxCreateRequestProto appId imageId params with
  | error e =>
    rw [hbuild] at h
    cases h
    exact .invalid e hbuild
  | ok request =>
    rw [hbuild, Exchange.bind_of_silent (a := request) rfl, Exchange.bind_apply] at h
    cases script with
    | nil =>
      cases h
      exact .unanswered
    | cons a is =>
      rw [sandboxCreate, Exchange.ask_cons] at h
      generalize a.sandboxCreate appId imageId params = reply at h
      cases reply with
      | error e =>
        cases h
        exact .refused e
      | ok sandboxId =>
        rcases hpoll : SandboxService.pollTaskId sandboxId SandboxService.maxAttempts is with
          ⟨polls, out', rest'⟩
        simp only [Rust.liftExcept, hpoll] at h
        cases h
        exact .created sandboxId polls out (pollTaskId_run hpoll)

end Creation

/-! ## 4. A create that fails -/

section Failure

variable {appId imageId : String} {params : SandboxCreateParams} {script rest : List SandboxAnswer}
  {es : List SandboxEvent} {e : ModalError}

/-- The sandbox was created on the server. -/
def Created (es : List SandboxEvent) (sandboxId : String) : Prop :=
  ∃ appId imageId params, .create appId imageId params (.ok sandboxId) ∈ es

/-- No create was answered `Ok`. -/
def NoSandbox (es : List SandboxEvent) : Prop := ∀ sandboxId, ¬ Created es sandboxId

/-- One was created, and a reply said that it has exited. -/
def KnownExited (es : List SandboxEvent) : Prop :=
  ∃ sandboxId taskId, Created es sandboxId ∧ .getTaskId sandboxId (.ok (taskId, true)) ∈ es

/-- A terminate was sent. -/
def TerminateSent (es : List SandboxEvent) : Prop :=
  ∃ sandboxId reply, .terminate sandboxId reply ∈ es

/-- A sandbox was created, no poll said that it was scheduled or has exited, and then one failed
    or the attempts were used up: it is left behind. -/
def LeftBehind (appId imageId : String) (params : SandboxCreateParams) (es : List SandboxEvent)
    (e : ModalError) : Prop :=
  ∃ sandboxId,
    (∃ n < SandboxService.maxAttempts, es =
      .create appId imageId params (.ok sandboxId) ::
        (waited sandboxId n ++ [.getTaskId sandboxId (.error e)])) ∨
    (es = .create appId imageId params (.ok sandboxId) ::
        waited sandboxId SandboxService.maxAttempts ∧ e = SandboxService.noTaskId sandboxId)

/-- Whatever comes of it, a create terminates nothing. -/
theorem create_noTerminate {out : Res ModalError Sandbox}
    (h : CreateRun appId imageId params es out) : ¬ TerminateSent es := by
  intro hsent
  obtain ⟨sandboxId, reply, hmem⟩ := hsent
  cases h with
  | invalid | unanswered => cases hmem
  | refused => cases List.mem_singleton.mp hmem
  | created sandboxId' polls out hend =>
    rcases List.mem_cons.mp hmem with hmem | hmem
    · cases hmem
    · obtain ⟨reply', hpoll⟩ := hend.polls _ hmem
      cases hpoll

/-- **A create that fails** was not told of a sandbox, or of one that is known to have exited, or
    left one behind after a failed poll or 600 polls without a task id. It never sends a
    terminate. -/
theorem create_error
    (h : SandboxService.create appId imageId params script = (es, .error (.err e), rest)) :
    (NoSandbox es ∨ KnownExited es ∨ LeftBehind appId imageId params es e) ∧ ¬ TerminateSent es := by
  have hrun := create_run h
  refine ⟨?_, create_noTerminate hrun⟩
  cases hrun with
  | invalid => exact Or.inl fun _ ⟨_, _, _, hmem⟩ => nomatch hmem
  | refused =>
    refine Or.inl fun _ ⟨_, _, _, hmem⟩ => ?_
    cases List.mem_singleton.mp hmem
  | created sandboxId polls out hend =>
    cases hend with
    | exited n hn =>
      have hcreated : Created (.create appId imageId params (.ok sandboxId) ::
          (waited sandboxId n ++ [.getTaskId sandboxId (.ok (none, true))])) sandboxId :=
        ⟨appId, imageId, params, List.mem_cons_self⟩
      refine Or.inr (Or.inl ⟨sandboxId, none, hcreated, List.mem_cons_of_mem _ ?_⟩)
      exact List.mem_append_right _ (List.mem_singleton.mpr rfl)
    | failed n _ hn => exact Or.inr (Or.inr ⟨sandboxId, Or.inl ⟨n, hn, rfl⟩⟩)
    | outOfAttempts => exact Or.inr (Or.inr ⟨sandboxId, Or.inr ⟨rfl, rfl⟩⟩)

/-- A server that creates a sandbox and cannot be reached afterwards. -/
def unreachableAfterCreate : SandboxAnswer where
  sandboxCreate _ _ _ := .ok "sb-1"
  sandboxGetTaskId _ := .error (.grpc ⟨.unavailable, "unavailable"⟩)
  sandboxTerminate _ := .ok ()

/-- **A sandbox is left behind**: it was created, the first poll failed, and nothing was terminated. -/
theorem create_leavesBehind :
    let run := SandboxService.create "ap-1" "im-1" {} (List.replicate 2 unreachableAfterCreate)
    run.2.1 = .error (.err (.grpc ⟨.unavailable, "unavailable"⟩)) ∧
      ¬ NoSandbox run.1 ∧ ¬ KnownExited run.1 ∧ ¬ TerminateSent run.1 := by
  intro run
  have hrun : run.1 = [.create "ap-1" "im-1" {} (.ok "sb-1"),
      .getTaskId "sb-1" (.error (.grpc ⟨.unavailable, "unavailable"⟩))] := rfl
  rw [hrun]
  refine ⟨rfl, fun h => h "sb-1" ⟨_, _, _, List.mem_cons_self⟩, ?_, ?_⟩
  · intro h
    obtain ⟨_, _, -, hmem⟩ := h
    simp at hmem
  · intro h
    obtain ⟨_, _, hmem⟩ := h
    simp at hmem

/-- A `create` whose sandbox is gone before it is scheduled terminates nothing either. -/
theorem create_error_exited :
    let exited : SandboxAnswer :=
      { unreachableAfterCreate with sandboxGetTaskId := fun _ => .ok (none, true) }
    let es : List SandboxEvent :=
      [.create "ap-1" "im-1" {} (.ok "sb-1"), .getTaskId "sb-1" (.ok (none, true))]
    SandboxService.create "ap-1" "im-1" {} [exited, exited] =
        (es, .error (.err (SandboxService.terminatedEarly "sb-1")), []) ∧
      (NoSandbox es ∨ KnownExited es ∨
        LeftBehind "ap-1" "im-1" {} es (SandboxService.terminatedEarly "sb-1")) ∧
      ¬ TerminateSent es := by
  intro exited es
  have hrun : SandboxService.create "ap-1" "im-1" {} [exited, exited] =
      (es, .error (.err (SandboxService.terminatedEarly "sb-1")), []) := rfl
  exact ⟨hrun, create_error hrun⟩

end Failure

end ModalRs
