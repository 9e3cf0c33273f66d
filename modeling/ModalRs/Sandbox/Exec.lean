/-
  File:      ModalRs/Sandbox/Exec.lean
  Subject:   Executing a command in a sandbox: what is checked against what is sent.

  One function checks the options and builds a request of them; another, which does
  not call it, makes the request that is sent.

  * `buildTaskExecStartRequestProto`: the request that is built.
  * `containerExecRequest`, `SandboxService.exec`: the one that is sent.
  * `exec_sends`: an `exec` with a task and a valid command always sends it.
  * `exec_sendsBuilt_iff`: when the options are refused and sent as they are built.
-/
import ModalRs.Sandbox.Create
import ModalRs.Sandbox.CreateSent

namespace ModalRs

open ModalRs.Lib ModalRs.Rust

/-! ## 1. The options -/

/-- I/O stream configuration. -/
inductive StreamConfig where
  | pipe | ignore
  deriving DecidableEq

/-- SandboxExecParams are options for executing a command in a sandbox. -/
structure SandboxExecParams where
  pty : Bool := false
  stdout : StreamConfig := .pipe
  stderr : StreamConfig := .pipe
  workdir : String := ""
  timeout : Duration := 0
  deriving DecidableEq

/-- Stdout/stderr config proto values. -/
inductive StdoutConfig where
  | pipe | devNull
  deriving DecidableEq

inductive StderrConfig where
  | pipe | devNull
  deriving DecidableEq

def StreamConfig.stdoutConfig : StreamConfig → StdoutConfig
  | .pipe => .pipe
  | .ignore => .devNull

def StreamConfig.stderrConfig : StreamConfig → StderrConfig
  | .pipe => .pipe
  | .ignore => .devNull

/-- TaskExecStartRequest proto representation. -/
structure TaskExecStartRequestProto where
  taskId : String
  execId : String
  command : List String
  ptyInfo : Option PtyInfo
  stdoutConfig : StdoutConfig
  stderrConfig : StderrConfig
  workdir : String
  timeoutSecs : Option UInt32
  deriving DecidableEq

def TaskExecStartRequestProto.getTimeoutSecs (proto : TaskExecStartRequestProto) : UInt32 :=
  proto.timeoutSecs.getD 0

/-- `timeout.as_secs() as u32`. -/
def timeoutAsU32 (timeout : Duration) : UInt32 := UInt32.ofNat timeout.asSecs

/-- Build task exec start request proto. -/
def buildTaskExecStartRequestProto (taskId execId : String) (command : List String)
    (params : SandboxExecParams) : Except ModalError TaskExecStartRequestProto := do
  if params.timeout ≠ 0 ∧ params.timeout % 1000000000 ≠ 0 then
    throw (.invalid "timeout must be a whole number of seconds")
  pure {
    taskId := taskId
    execId := execId
    command := command
    ptyInfo := if params.pty then some { noTerminateOnIdleStdin := true } else none
    stdoutConfig := params.stdout.stdoutConfig
    stderrConfig := params.stderr.stderrConfig
    workdir := params.workdir
    timeoutSecs := if params.timeout ≠ 0 then some (timeoutAsU32 params.timeout) else none }

/-- 64 KiB. -/
def maxArgLen : Nat := 65536

/-- The arguments of a command, all together, must not be too long. -/
def validateExecArgs (args : List String) : Except ModalError Unit :=
  let totalLen := (args.map String.utf8ByteSize).sum
  if maxArgLen < totalLen then
    .error (.invalid ("Total length of CMD arguments must be less than " ++ toString maxArgLen ++
      " bytes, got " ++ toString totalLen))
  else .ok ()

/-! ## 2. The transport and the service -/

/-- Pipe is 2, Devnull is 1. -/
def StreamConfig.output : StreamConfig → Int32
  | .pipe => 2
  | .ignore => 1

/-- The request of `container_exec`. -/
def containerExecRequest (taskId : String) (command : List String) (params : SandboxExecParams) :
    Pb.ContainerExecRequest where
  taskId := taskId
  command := command
  ptyInfo := if params.pty then some ⟨true, 0, 0, "", "", 0, false⟩ else none
  terminateContainerOnExit := false
  runtimeDebug := false
  stdoutOutput := params.stdout.output
  stderrOutput := params.stderr.output
  timeoutSecs := timeoutAsU32 params.timeout
  workdir := nonEmpty params.workdir

/-- What the server would reply to a request: the id of the exec. -/
abbrev ExecAnswer : Type := Pb.ContainerExecRequest → Except ModalError String

/-- A request with its reply. -/
structure ExecEvent where
  request : Pb.ContainerExecRequest
  reply : Except ModalError String

abbrev ExecM (α : Type) : Type := Exchange ExecAnswer ExecEvent (Stop ModalError) α

def containerExec (taskId : String) (command : List String) (params : SandboxExecParams) :
    ExecM String :=
  .ask .diverged
    (fun answer => ⟨containerExecRequest taskId command params,
      answer (containerExecRequest taskId command params)⟩)
    fun answer => liftExcept (answer (containerExecRequest taskId command params))

/-- Execute a command in a sandbox. Returns an exec_id. -/
def SandboxService.exec (sandbox : Sandbox) (command : List String) (params : SandboxExecParams) :
    ExecM String := do
  let _ ← Exchange.lift (liftExcept (validateExecArgs command))
  match sandbox.taskId with
  | none => .lift (.error (.err (.other "sandbox has no task_id; call get_task_id first")))
  | some taskId => containerExec taskId command params

/-! ## 3. Two requests -/

/-- Pipe is 2, Devnull is 1. -/
def StdoutConfig.output : StdoutConfig → Int32
  | .pipe => 2
  | .devNull => 1

def StderrConfig.output : StderrConfig → Int32
  | .pipe => 2
  | .devNull => 1

/-- The request that is sent has the settings of the one that was built; a timeout of 0 is none, and
    so is an empty working directory. -/
structure ExecBuilt (proto : TaskExecStartRequestProto) (request : Pb.ContainerExecRequest) : Prop where
  timeout : request.timeoutSecs = proto.getTimeoutSecs
  pty : request.ptyInfo = proto.ptyInfo.map PtyInfo.message
  workdir : request.workdir.getD "" = proto.workdir
  stdout : request.stdoutOutput = proto.stdoutConfig.output
  stderr : request.stderrOutput = proto.stderrConfig.output

/-- Options that are refused when the request is built are refused by `exec` without an RPC; for all
    others it sends what was built. -/
structure ExecSendsBuilt (sandbox : Sandbox) (command : List String) (params : SandboxExecParams) :
    Prop where
  refused : ∀ taskId execId e, sandbox.taskId = some taskId →
    buildTaskExecStartRequestProto taskId execId command params = .error e →
    ∀ script, ∃ e', SandboxService.exec sandbox command params script = ([], .error (.err e'), script)
  sent : ∀ taskId execId proto, sandbox.taskId = some taskId →
    buildTaskExecStartRequestProto taskId execId command params = .ok proto →
    ∀ answer script, ∃ request,
      (SandboxService.exec sandbox command params (answer :: script)).1 =
        [⟨request, answer request⟩] ∧ ExecBuilt proto request

section Built

variable {taskId execId : String} {command : List String} {params : SandboxExecParams}
  {proto : TaskExecStartRequestProto}

/-- What is refused: a timeout with a fraction of a second. -/
theorem buildTaskExecStartRequestProto_error (taskId execId : String) (command : List String)
    (h : ¬ params.timeout % 1000000000 = 0) :
    ∃ e, buildTaskExecStartRequestProto taskId execId command params = .error e := by
  have hzero : params.timeout ≠ 0 := by
    intro hzero
    rw [hzero] at h
    exact h rfl
  rw [buildTaskExecStartRequestProto, if_pos ⟨hzero, h⟩]
  exact ⟨_, rfl⟩

/-- Nothing else is refused. -/
theorem exists_proto (taskId execId : String) (command : List String)
    (h : params.timeout % 1000000000 = 0) :
    ∃ proto, buildTaskExecStartRequestProto taskId execId command params = .ok proto := by
  rw [buildTaskExecStartRequestProto, if_neg fun hfraction => hfraction.2 h]
  exact ⟨_, rfl⟩

/-- What is built of all others. -/
theorem buildTaskExecStartRequestProto_ok
    (h : buildTaskExecStartRequestProto taskId execId command params = .ok proto) :
    params.timeout % 1000000000 = 0 ∧ proto =
      ⟨taskId, execId, command, if params.pty then some { noTerminateOnIdleStdin := true } else none,
        params.stdout.stdoutConfig, params.stderr.stderrConfig, params.workdir,
        if params.timeout ≠ 0 then some (timeoutAsU32 params.timeout) else none⟩ := by
  unfold buildTaskExecStartRequestProto at h
  obtain ⟨hfraction, h⟩ := except_check_ok h
  cases h
  refine ⟨?_, rfl⟩
  by_cases hzero : params.timeout = 0
  · rw [hzero]
  · exact not_not.mp fun hno => hfraction ⟨hzero, hno⟩

/-- **What is sent of all that is built**: everything but the settings of a terminal. -/
theorem execBuilt_iff (h : buildTaskExecStartRequestProto taskId execId command params = .ok proto) :
    ExecBuilt proto (containerExecRequest taskId command params) ↔ params.pty = false := by
  obtain ⟨-, rfl⟩ := buildTaskExecStartRequestProto_ok h
  constructor
  · intro hbuilt
    have hpty := hbuilt.pty
    simp only [containerExecRequest] at hpty
    cases hparams : params.pty with
    | false => rfl
    | true =>
      rw [hparams] at hpty
      exact absurd hpty (by decide)
  · intro hparams
    constructor
    · simp only [containerExecRequest, TaskExecStartRequestProto.getTimeoutSecs]
      by_cases hzero : params.timeout = 0
      · rw [if_neg (not_not.mpr hzero), hzero]
        rfl
      · rw [if_pos hzero]
        rfl
    · simp only [containerExecRequest]
      rw [hparams]
      rfl
    · simp only [containerExecRequest, nonEmpty]
      by_cases hempty : params.workdir = ""
      · rw [if_pos hempty, hempty]
        rfl
      · rw [if_neg hempty]
        rfl
    · simp only [containerExecRequest]
      cases params.stdout with
      | pipe => rfl
      | ignore => rfl
    · simp only [containerExecRequest]
      cases params.stderr with
      | pipe => rfl
      | ignore => rfl

end Built

/-! ## 4. When they agree -/

section Exec

variable {sandbox : Sandbox} {taskId : String} {command : List String} {params : SandboxExecParams}

/-- **An `exec` sends its request**, whatever the options. -/
theorem exec_sends (htask : sandbox.taskId = some taskId) (hvalid : validateExecArgs command = .ok ())
    (answer : ExecAnswer) (script : List ExecAnswer) :
    (SandboxService.exec sandbox command params (answer :: script)).1 =
      [⟨containerExecRequest taskId command params,
        answer (containerExecRequest taskId command params)⟩] := by
  rw [SandboxService.exec, hvalid, htask, Exchange.bind_of_silent (a := ()) rfl]
  rfl

/-- A fraction of a second is refused when the request is built, and `exec` sends one. -/
theorem not_sendsBuilt_of_fraction (htask : sandbox.taskId = some taskId)
    (hvalid : validateExecArgs command = .ok ()) (h : ¬ params.timeout % 1000000000 = 0) :
    ¬ ExecSendsBuilt sandbox command params := by
  intro hsends
  let answer : ExecAnswer := fun _ => .ok "ex-1"
  obtain ⟨e, he⟩ := buildTaskExecStartRequestProto_error taskId "" command h
  obtain ⟨e', hrefused⟩ := hsends.refused taskId "" e htask he [answer]
  have hsent : (SandboxService.exec sandbox command params [answer]).1 = _ :=
    exec_sends htask hvalid answer []
  rw [hrefused] at hsent
  cases hsent

/-- **When the options that are checked are sent**: exactly when the timeout is a whole number of
    seconds and no terminal is asked for. -/
theorem exec_sendsBuilt_iff (htask : sandbox.taskId = some taskId)
    (hvalid : validateExecArgs command = .ok ()) :
    ExecSendsBuilt sandbox command params ↔
      params.timeout % 1000000000 = 0 ∧ params.pty = false := by
  constructor
  · intro hsends
    have hwhole : params.timeout % 1000000000 = 0 :=
      not_not.mp fun hno => not_sendsBuilt_of_fraction htask hvalid hno hsends
    refine ⟨hwhole, ?_⟩
    obtain ⟨proto, hbuild⟩ := exists_proto taskId "" command hwhole
    obtain ⟨request, hrequest, hbuilt⟩ :=
      hsends.sent taskId "" proto htask hbuild (fun _ => .ok "ex-1") []
    rw [exec_sends htask hvalid] at hrequest
    cases hrequest
    exact (execBuilt_iff hbuild).mp hbuilt
  · intro h
    obtain ⟨hwhole, hpty⟩ := h
    constructor
    · intro taskId' execId e _ he
      obtain ⟨proto, hbuild⟩ := exists_proto taskId' execId command hwhole
      rw [hbuild] at he
      cases he
    · intro taskId' execId proto htask' hbuild answer script
      rw [htask] at htask'
      cases htask'
      exact ⟨_, exec_sends htask hvalid answer script, (execBuilt_iff hbuild).mpr hpty⟩

end Exec

/-- A sandbox with a task. -/
def scheduledSandbox : Sandbox := ⟨"sb-1", some "ta-1"⟩

/-- Thirty seconds, in a directory, without a terminal. -/
theorem exec_sendsBuilt_plain :
    ExecSendsBuilt scheduledSandbox ["ls"]
      { workdir := "/tmp", timeout := Duration.fromSecs 30, stderr := .ignore } :=
  (exec_sendsBuilt_iff rfl rfl).mpr ⟨by decide, rfl⟩

/-- **What is refused is sent, and a terminal is not the one that was built**: half a second becomes
    no timeout, and a terminal comes without a window size, names or the flag for idle input. -/
theorem exec_sends_other :
    (∃ e, buildTaskExecStartRequestProto "ta-1" "ex-1" ["ls"]
        { timeout := Duration.fromMillis 500 } = .error e) ∧
    (containerExecRequest "ta-1" ["ls"] { timeout := Duration.fromMillis 500 }).timeoutSecs = 0 ∧
    (containerExecRequest "ta-1" ["ls"] { pty := true }).ptyInfo =
      some ⟨true, 0, 0, "", "", 0, false⟩ ∧
    ¬ ∀ (sandbox : Sandbox) (taskId : String) (command : List String) (params : SandboxExecParams),
      sandbox.taskId = some taskId → validateExecArgs command = .ok () →
      ExecSendsBuilt sandbox command params := by
  let params : SandboxExecParams := { timeout := Duration.fromMillis 500 }
  have hfraction : ¬ params.timeout % 1000000000 = 0 := by decide
  refine ⟨buildTaskExecStartRequestProto_error "ta-1" "ex-1" ["ls"] hfraction, by decide, rfl,
    fun hall => ?_⟩
  exact not_sendsBuilt_of_fraction rfl rfl hfraction
    (hall scheduledSandbox "ta-1" ["ls"] params rfl rfl)

end ModalRs
