/-
  File:      ModalRs/Sandbox/TaskId.lean
  Subject:   Waiting for the task of a sandbox: in `get_task_id`, and in `create`.

  `create` polls until a reply tells it enough; `get_task_id` takes the first reply
  for the last.

  * `SandboxService.getTaskId`: the operation.
  * `WaitsLikeCreate`: it waits as the polling in `create` does.
  * `getTaskId_replied`, `pollTaskId_replied`: what each makes of a first reply.
  * `waitsLikeCreate_iff`: when it does.
-/
import ModalRs.Sandbox.Create

namespace ModalRs

open ModalRs.Lib ModalRs.Rust

/-! ## 1. The operation -/

/-- The task id, or else an error. -/
def taskIdOrTerminated (sandboxId : String) : Option String → Res ModalError String
  | some tid => .ok tid
  | none => .error (.err (SandboxService.terminatedEarly sandboxId))

/-- Get the task ID for a sandbox (waits for the sandbox to be scheduled). -/
def SandboxService.getTaskId (sandboxId : String) : SandboxM String := do
  let (taskId, _exited) ← sandboxGetTaskId sandboxId
  Exchange.lift (taskIdOrTerminated sandboxId taskId)

/-- What a reply says: a task id if there is one, and whether the sandbox has exited. -/
abbrev TaskIdReply : Type := Option String × Bool

/-- Neither scheduled nor exited. -/
def notScheduled : TaskIdReply := (none, false)

/-- The server gives these replies, one after the other, when it is asked for the task id. -/
def RepliesTo (sandboxId : String) (script : List SandboxAnswer) (replies : List TaskIdReply) :
    Prop := script.map (·.sandboxGetTaskId sandboxId) = replies.map .ok

/-- The polling in `create`, with its budget of attempts. -/
abbrev createPolling (sandboxId : String) : SandboxM Sandbox :=
  SandboxService.pollTaskId sandboxId SandboxService.maxAttempts

/-- `get_task_id` asks and ends as the polling in `create` does, unless that runs out of attempts,
    and says that the sandbox was terminated only if it was told so. -/
structure WaitsLikeCreate (sandboxId : String) (script : List SandboxAnswer) : Prop where
  same : (createPolling sandboxId script).2.1 ≠
      .error (.err (SandboxService.noTaskId sandboxId)) →
    (SandboxService.getTaskId sandboxId script).1 = (createPolling sandboxId script).1 ∧
    (SandboxService.getTaskId sandboxId script).2.1.map (fun tid => ⟨sandboxId, some tid⟩) =
      (createPolling sandboxId script).2.1
  terminated : (SandboxService.getTaskId sandboxId script).2.1 =
      .error (.err (SandboxService.terminatedEarly sandboxId)) →
    ∃ taskId, .getTaskId sandboxId (.ok (taskId, true)) ∈
      (SandboxService.getTaskId sandboxId script).1

/-! ## 2. One reply -/

section Replied

variable {sandboxId : String} {answer : SandboxAnswer} {script : List SandboxAnswer}

/-- **`get_task_id` is done after one reply**, and takes one without a task id for an exit. -/
theorem getTaskId_replied {taskId : Option String} {exited : Bool}
    (h : answer.sandboxGetTaskId sandboxId = .ok (taskId, exited)) :
    SandboxService.getTaskId sandboxId (answer :: script) =
      ([.getTaskId sandboxId (.ok (taskId, exited))], taskIdOrTerminated sandboxId taskId,
        script) := by
  rw [SandboxService.getTaskId, Exchange.bind_apply, sandboxGetTaskId, Exchange.ask_cons, h]
  rfl

/-- **The polling is done after a reply that says something.** -/
theorem pollTaskId_replied {taskId : Option String} {exited : Bool} (attempts : Nat)
    (h : answer.sandboxGetTaskId sandboxId = .ok (taskId, exited))
    (htold : (taskId, exited) ≠ notScheduled) :
    SandboxService.pollTaskId sandboxId (attempts + 1) (answer :: script) =
      ([.getTaskId sandboxId (.ok (taskId, exited))],
        (taskIdOrTerminated sandboxId taskId).map fun tid => ⟨sandboxId, some tid⟩, script) := by
  rw [SandboxService.pollTaskId, Exchange.bind_apply, sandboxGetTaskId, Exchange.ask_cons, h]
  cases taskId with
  | some tid => rfl
  | none =>
    cases exited with
    | true => rfl
    | false => exact absurd rfl htold

end Replied

/-! ## 3. When they wait alike -/

/-- **When `get_task_id` waits as `create` does**: for every sequence of replies, exactly when the
    first one, if there is any, says that the sandbox is scheduled or has exited. -/
theorem waitsLikeCreate_iff {sandboxId : String} {script : List SandboxAnswer}
    {replies : List TaskIdReply} (hreplies : RepliesTo sandboxId script replies) :
    WaitsLikeCreate sandboxId script ↔ replies.head? ≠ some notScheduled := by
  unfold RepliesTo at hreplies
  cases replies with
  | nil =>
    have hnone : script = [] := List.map_eq_nil_iff.mp hreplies
    subst hnone
    exact ⟨fun _ => nofun, fun _ => ⟨fun _ => ⟨rfl, rfl⟩, nofun⟩⟩
  | cons reply replies =>
    obtain ⟨answer, script, rfl, hreply, -⟩ := List.map_eq_cons_iff.mp hreplies
    obtain ⟨taskId, exited⟩ := reply
    have hget : SandboxService.getTaskId sandboxId (answer :: script) = _ := getTaskId_replied hreply
    constructor
    · intro hwaits hhead
      -- it says that the sandbox was terminated, and no reply did
      cases Option.some.inj hhead
      have hterminated := hwaits.terminated
      rw [hget] at hterminated
      obtain ⟨taskId, hmem⟩ := hterminated rfl
      cases List.mem_singleton.mp hmem
    · intro hhead
      have htold : (taskId, exited) ≠ notScheduled := fun h => hhead (congrArg some h)
      have hpoll : createPolling sandboxId (answer :: script) = _ :=
        pollTaskId_replied 599 hreply htold
      constructor
      · intro _
        rw [hget, hpoll]
        exact ⟨rfl, rfl⟩
      · intro h
        rw [hget] at h ⊢
        cases taskId with
        | none =>
          cases exited with
          | true => exact ⟨none, List.mem_singleton.mpr rfl⟩
          | false => exact absurd rfl htold
        | some tid => cases h

/-- A server that replies this when it is asked for a task id. -/
def taskIdAnswer (reply : TaskIdReply) : SandboxAnswer where
  sandboxCreate _ _ _ := .ok "sb-1"
  sandboxGetTaskId _ := .ok reply
  sandboxTerminate _ := .ok ()

/-- A sandbox that is scheduled at once. -/
theorem waitsLikeCreate_scheduled :
    WaitsLikeCreate "sb-1" [taskIdAnswer (some "ta-1", false), taskIdAnswer (some "ta-1", true)] := by
  have hreplies : RepliesTo "sb-1" [taskIdAnswer (some "ta-1", false), taskIdAnswer (some "ta-1", true)]
      [(some "ta-1", false), (some "ta-1", true)] := rfl
  exact (waitsLikeCreate_iff hreplies).mpr (by decide)

/-- **A sandbox that is slow to schedule is reported as terminated**: at its second reply it has a
    task, which `create` waits for. -/
theorem getTaskId_gives_up :
    let script := [taskIdAnswer notScheduled, taskIdAnswer (some "ta-1", false)]
    (SandboxService.getTaskId "sb-1" script).2.1 =
        .error (.err (SandboxService.terminatedEarly "sb-1")) ∧
      (createPolling "sb-1" script).2.1 = .ok ⟨"sb-1", some "ta-1"⟩ ∧
      ¬ ∀ sandboxId script replies, RepliesTo sandboxId script replies →
        WaitsLikeCreate sandboxId script := by
  intro script
  refine ⟨rfl, rfl, fun hall => ?_⟩
  have hreplies : RepliesTo "sb-1" script [notScheduled, (some "ta-1", false)] := rfl
  obtain ⟨taskId, hmem⟩ := (hall "sb-1" script _ hreplies).terminated rfl
  have hnone : (SandboxEvent.getTaskId "sb-1" (.ok (taskId, true))) ∈
      [SandboxEvent.getTaskId "sb-1" (.ok notScheduled)] := hmem
  cases List.mem_singleton.mp hnone

end ModalRs
