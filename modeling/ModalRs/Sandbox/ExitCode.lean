/-
  File:      ModalRs/Sandbox/ExitCode.lean
  Subject:   The exit code of a sandbox, as three functions read it from one reply.

  * `getReturnCode`: the code for a status, as it is meant.
  * `sandboxPollResult`, `sandboxWaitResult`: what `sandbox_poll` and `sandbox_wait` report.
  * `ReportedAlike`: both report that code.
  * `reportedAlike_iff`: when they do.
-/
import ModalRs.Transport.Messages

namespace ModalRs

/-! ## 1. Three readings -/

/-- Result status from a generic result. -/
inductive GenericResultStatus where
  | unspecified | success | failure | timeout | terminated
  deriving DecidableEq

/-- Get the return code from a generic result status and exit code. -/
def getReturnCode (status : GenericResultStatus) (exitCode : Int32) : Option Int32 :=
  match status with
  | .unspecified => none
  | .timeout => some 124
  | .terminated => some 137
  | _ => some exitCode

/-- Poll result from sandbox_poll. -/
structure SandboxPollResult where
  exitCode : Option Int32
  deriving DecidableEq

/-- Result of waiting on a sandbox. -/
structure SandboxWaitResult where
  exitCode : Int32
  success : Bool
  exception : Option String
  deriving DecidableEq

/-- What `sandbox_poll` makes of a reply. -/
def sandboxPollResult (inner : Pb.SandboxWaitResponse) : SandboxPollResult :=
  match inner.result with
  | some result => if result.status ≠ 0 then ⟨some result.exitcode⟩ else ⟨none⟩
  | none => ⟨none⟩

/-- What `sandbox_wait` makes of a reply. -/
def sandboxWaitResult (inner : Pb.SandboxWaitResponse) : SandboxWaitResult :=
  let result := inner.result.getD ⟨0, 0, ""⟩
  { exitCode := result.exitcode
    success := result.status == 1
    exception := if result.exception = "" then none else some result.exception }

/-! ## 2. One code for a reply -/

/-- The status behind a number; the ones that have no name of their own are failures. -/
def genericResultStatus (status : Int32) : GenericResultStatus :=
  if status = 0 then .unspecified
  else if status = 1 then .success
  else if status = 4 then .timeout
  else if status = 5 then .terminated
  else .failure

/-- The return code of a reply, if the sandbox has finished. -/
def returnCode (inner : Pb.SandboxWaitResponse) : Option Int32 :=
  inner.result.bind fun result => getReturnCode (genericResultStatus result.status) result.exitcode

/-- The poll reports the return code of the reply. So does the wait, which always reports a code:
    there must be one. -/
structure ReportedAlike (inner : Pb.SandboxWaitResponse) : Prop where
  poll : (sandboxPollResult inner).exitCode = returnCode inner
  wait : returnCode inner = some (sandboxWaitResult inner).exitCode

/-- The sandbox has finished, and its exit code is the one that its status stands for. -/
structure FinishedWithCode (inner : Pb.SandboxWaitResponse) (result : Pb.SandboxResult) : Prop where
  reply : inner.result = some result
  finished : result.status ≠ 0
  timeout : result.status = 4 → result.exitcode = 124
  terminated : result.status = 5 → result.exitcode = 137

/-- The code of a status is the one of the reply, unless the status stands for another. -/
theorem getReturnCode_eq_iff {status exitCode : Int32} (h : status ≠ 0) :
    getReturnCode (genericResultStatus status) exitCode = some exitCode ↔
      (status = 4 → exitCode = 124) ∧ (status = 5 → exitCode = 137) := by
  have hfour : (4 : Int32) ≠ 5 := by decide
  unfold genericResultStatus
  rw [if_neg h]
  by_cases hsuccess : status = 1
  · subst hsuccess
    exact ⟨fun _ => ⟨fun h => absurd h (by decide), fun h => absurd h (by decide)⟩, fun _ => rfl⟩
  · rw [if_neg hsuccess]
    by_cases htimeout : status = 4
    · subst htimeout
      rw [if_pos rfl]
      exact ⟨fun hcode => ⟨fun _ => (Option.some.inj hcode).symm, fun h => absurd h hfour⟩,
        fun hcodes => congrArg some (hcodes.1 rfl).symm⟩
    · rw [if_neg htimeout]
      by_cases hterminated : status = 5
      · subst hterminated
        rw [if_pos rfl]
        exact ⟨fun hcode => ⟨fun h => absurd h hfour.symm, fun _ => (Option.some.inj hcode).symm⟩,
          fun hcodes => congrArg some (hcodes.2 rfl).symm⟩
      · rw [if_neg hterminated]
        exact ⟨fun _ => ⟨fun h => absurd h htimeout, fun h => absurd h hterminated⟩, fun _ => rfl⟩

/-- A status that is not 0 has a code. -/
theorem returnCode_of_finished {inner : Pb.SandboxWaitResponse} {result : Pb.SandboxResult}
    (hreply : inner.result = some result) :
    returnCode inner = getReturnCode (genericResultStatus result.status) result.exitcode := by
  rw [returnCode, hreply]
  rfl

/-- **When the exit code is reported one way**: for every reply, exactly when the sandbox has
    finished and, if it timed out or was terminated, the reply itself has 124 or 137. -/
theorem reportedAlike_iff (inner : Pb.SandboxWaitResponse) :
    ReportedAlike inner ↔ ∃ result, FinishedWithCode inner result := by
  constructor
  · intro halike
    have hwait := halike.wait
    cases hreply : inner.result with
    | none =>
      rw [returnCode, hreply] at hwait
      cases hwait
    | some result =>
      have hcode : (sandboxWaitResult inner).exitCode = result.exitcode := by
        rw [sandboxWaitResult, hreply]
        rfl
      rw [returnCode_of_finished hreply, hcode] at hwait
      have hfinished : result.status ≠ 0 := by
        intro hzero
        rw [hzero] at hwait
        cases hwait
      obtain ⟨htimeout, hterminated⟩ := (getReturnCode_eq_iff hfinished).mp hwait
      exact ⟨result, hreply, hfinished, htimeout, hterminated⟩
  · intro h
    obtain ⟨result, hfinished⟩ := h
    have hcode : returnCode inner = some result.exitcode := by
      rw [returnCode_of_finished hfinished.reply]
      exact (getReturnCode_eq_iff hfinished.finished).mpr ⟨hfinished.timeout, hfinished.terminated⟩
    constructor
    · rw [hcode, sandboxPollResult, hfinished.reply]
      simp only [if_pos hfinished.finished]
    · rw [hcode, sandboxWaitResult, hfinished.reply]
      rfl

/-- **Running, timed out and terminated sandboxes**: one that has not finished is waited for with
    code 0, and one that timed out is reported with the code of the reply, here 0. -/
theorem exitCodes_differ :
    let running : Pb.SandboxWaitResponse := ⟨none⟩
    let timedOut : Pb.SandboxWaitResponse := ⟨some ⟨4, 0, ""⟩⟩
    (returnCode running = none ∧ (sandboxWaitResult running).exitCode = 0) ∧
      (returnCode timedOut = some 124 ∧ (sandboxPollResult timedOut).exitCode = some 0 ∧
        (sandboxWaitResult timedOut).exitCode = 0) ∧
      ¬ ∀ inner, ReportedAlike inner := by
  intro running timedOut
  refine ⟨⟨rfl, rfl⟩, ⟨rfl, rfl, rfl⟩, fun hall => ?_⟩
  have hwait := (hall running).wait
  cases hwait

end ModalRs
