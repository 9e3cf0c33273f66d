/-
  File:      ModalRs/Sandbox/CreateSent.lean
  Subject:   The request that creates a sandbox: what was checked against what is sent.

  `create` builds one request to check the parameters, throws it away, and the transport
  makes another one of them, with guards of its own.

  * `PtyInfo.message`: PTY settings as they go over the wire.
  * `SendsBuilt`: the two requests have the same settings.
  * `milliCpu_getD`, `memoryMb_getD`: the guards of the transport, field by field.
  * `create_sendsBuilt_iff`: when they have.
-/
import ModalRs.Sandbox.Wire

namespace ModalRs

open ModalRs.Rust

/-! ## 1. Two requests -/

/-- PTY settings as they go over the wire; a shell is type 0. -/
def PtyInfo.message (info : PtyInfo) : Pb.PtyInfo where
  enabled := info.enabled
  winszRows := info.winszRows
  winszCols := info.winszCols
  envTerm := info.envTerm
  envColorterm := info.envColorterm
  ptyType := match info.ptyType with
    | .shell => 0
  noTerminateOnIdleStdin := info.noTerminateOnIdleStdin

/-- The definition has the timeout, the PTY settings and the resources of the request that was
    built. -/
structure DefinitionBuilt (proto : SandboxCreateRequestProto) (definition : Pb.Sandbox) : Prop where
  timeout : definition.timeoutSecs = proto.timeoutSecs
  pty : definition.ptyInfo = proto.ptyInfo.map PtyInfo.message
  cpu : definition.resources.map (·.milliCpu) = some proto.cpuMilli
  cpuLimit : definition.resources.map (·.milliCpuMax) = some proto.cpuMilliMax
  memory : definition.resources.map (·.memoryMb) = some proto.memoryMb
  memoryLimit : definition.resources.map (·.memoryMbMax) = some proto.memoryMbMax

/-- The request that is sent has the settings of the one that was built. -/
def SendsBuilt (proto : SandboxCreateRequestProto) (request : Pb.SandboxCreateRequest) : Prop :=
  ∃ definition, request.definition = some definition ∧ DefinitionBuilt proto definition

/-! ## 2. The guards of the transport -/

/-- **CPUs**: the guard changes nothing, as what is not positive is 0 milli-CPUs anyway. -/
theorem milliCpu_getD (cpu : F64) : (milliCpu cpu).getD 0 = milli cpu := by
  unfold milliCpu
  by_cases h : F64.lt 0 cpu = true
  · rw [if_pos h]
    rfl
  · rw [if_neg h]
    exact (F64.asU32_mul_of_not_pos (by decide) h).symm

/-- **Memory**: the guard makes 0 of what is negative. -/
theorem memoryMb_getD (mib : Int32) : (memoryMb mib).getD 0 = mib.toUInt32 ↔ 0 ≤ mib := by
  unfold memoryMb
  by_cases h : mib > 0
  · rw [if_pos h]
    exact ⟨fun _ => Int32.le_of_lt h, fun _ => rfl⟩
  · rw [if_neg h, Option.getD_none]
    constructor
    · intro hzero
      have hmib : mib = 0 := by
        rw [← Int32.toInt32_toUInt32 mib, ← hzero]
        rfl
      rw [hmib]
      decide
    · intro hge
      rw [Int32.le_antisymm (Int32.not_lt.mp h) hge]
      rfl

/-! ## 3. The settings that are sent -/

section Sent

variable {appId imageId : String} {params : SandboxCreateParams}
  {volumes : List (HashMap.Entry String Volume)} {proto : SandboxCreateRequestProto}
  {request : Pb.SandboxCreateRequest}

/-- What a request is built of, and the check of the memory. -/
theorem buildSandboxCreateRequestProto_ok
    (h : buildSandboxCreateRequestProto appId imageId params = .ok proto) :
    0 ≤ params.memoryMib ∧ proto =
      ⟨appId, imageId, params.timeoutSecs.getD 300, if params.pty then some {} else none,
        milli params.cpu, milli params.cpuLimit, params.memoryMib.toUInt32,
        params.memoryLimitMib.toUInt32, params.customDomain⟩ := by
  unfold buildSandboxCreateRequestProto at h
  obtain ⟨-, h⟩ := except_check_ok h
  obtain ⟨hmemory, h⟩ := except_check_ok h
  obtain ⟨-, h⟩ := except_check_ok h
  obtain ⟨-, h⟩ := except_check_ok h
  obtain ⟨-, h⟩ := except_check_ok h
  obtain ⟨-, h⟩ := except_check_ok h
  cases h
  exact ⟨Int32.not_lt.mp hmemory, rfl⟩

/-- **When the settings that were checked are sent**: for all parameters that are accepted, exactly
    when the memory limit is not negative. -/
theorem create_sendsBuilt_iff (hbuild : buildSandboxCreateRequestProto appId imageId params = .ok proto)
    (hsend : sandboxCreateRequest appId imageId params volumes = .ok request) :
    SendsBuilt proto request ↔ 0 ≤ params.memoryLimitMib := by
  obtain ⟨hmemory, rfl⟩ := buildSandboxCreateRequestProto_ok hbuild
  obtain ⟨config, -, rfl⟩ := sandboxCreateRequest_ok hsend
  constructor
  · intro h
    obtain ⟨_, hdefinition, hbuilt⟩ := h
    cases hdefinition
    exact (memoryMb_getD _).mp (Option.some.inj hbuilt.memoryLimit)
  · intro hlimit
    refine ⟨_, rfl, rfl, ?_, ?_, ?_, ?_, ?_⟩
    · -- the transport writes out the default settings
      simp only [sandboxDefinition]
      cases params.pty with
      | true => rfl
      | false => rfl
    · exact congrArg some (milliCpu_getD params.cpu)
    · exact congrArg some (milliCpu_getD params.cpuLimit)
    · exact congrArg some ((memoryMb_getD _).mpr hmemory)
    · exact congrArg some ((memoryMb_getD _).mpr hlimit)

/-- A terminal, and memory with a limit on it. -/
theorem create_sendsBuilt_limited :
    let params : SandboxCreateParams := { pty := true, memoryMib := 64, memoryLimitMib := 128 }
    ∃ proto request, buildSandboxCreateRequestProto "ap-1" "im-1" params = .ok proto ∧
      sandboxCreateRequest "ap-1" "im-1" params [] = .ok request ∧ SendsBuilt proto request := by
  intro params
  have hlimit : 0 ≤ params.memoryLimitMib := by decide
  refine ⟨_, _, rfl, rfl, ?_⟩
  exact (create_sendsBuilt_iff (rfl : buildSandboxCreateRequestProto _ _ params = _) rfl).mpr hlimit

/-- **A negative limit is checked as one number and sent as another**: as the largest `u32` in the
    request that was built, and as none at all in the one that is sent. -/
theorem create_sends_other :
    let params : SandboxCreateParams := { memoryLimitMib := -1 }
    (∃ proto request definition resources,
      buildSandboxCreateRequestProto "ap-1" "im-1" params = .ok proto ∧
      sandboxCreateRequest "ap-1" "im-1" params [] = .ok request ∧
      request.definition = some definition ∧ definition.resources = some resources ∧
      proto.memoryMbMax = 4294967295 ∧ resources.memoryMbMax = 0) ∧
    ¬ ∀ (appId imageId : String) (params : SandboxCreateParams)
      (volumes : List (HashMap.Entry String Volume)) (proto : SandboxCreateRequestProto)
      (request : Pb.SandboxCreateRequest),
      buildSandboxCreateRequestProto appId imageId params = .ok proto →
      sandboxCreateRequest appId imageId params volumes = .ok request →
      SendsBuilt proto request := by
  intro params
  refine ⟨⟨_, _, _, _, rfl, rfl, rfl, rfl, rfl, rfl⟩, fun hall => ?_⟩
  obtain ⟨_, hdefinition, hbuilt⟩ := hall "ap-1" "im-1" params [] _ _ rfl rfl
  cases hdefinition
  exact absurd hbuilt.memoryLimit (by decide)

end Sent

end ModalRs
