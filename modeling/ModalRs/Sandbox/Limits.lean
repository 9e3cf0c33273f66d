/-
  File:      ModalRs/Sandbox/Limits.lean
  Subject:   The CPUs and the memory of a sandbox, and their limits on the wire.

  The limits are checked before they are rounded to milli-CPUs and cut to 32 bits.

  * `WithinLimit`: a request is not above its limit.
  * `milli_within`: milli-CPUs keep the order of the CPUs.
  * `created_within_limits`: what is accepted is within its limits when it is sent.
-/
import ModalRs.Rust.FloatOrder
import ModalRs.Sandbox.CreateSent

namespace ModalRs

open ModalRs.Rust

/-! ## 1. Milli-CPUs -/

/-- A request is not above its limit; 0 stands for no limit. -/
def WithinLimit (request limit : UInt32) : Prop := limit = 0 ∨ request ≤ limit

/-- The number of milli-CPUs is that of the CPUs, 1000 times over. -/
theorem thousand_isPositive : F64.IsPositive 0x408F400000000000 := ⟨by decide, by decide, by decide⟩

/-- **Milli-CPUs keep the order of the CPUs**, through the rounding and the saturation; a limit that
    is NaN is none. -/
theorem milli_within {cpu cpuLimit : F64} (h : F64.lt cpuLimit cpu = false) :
    WithinLimit (milli cpu) (milli cpuLimit) := by
  cases hnan : F64.isNaN cpuLimit with
  | false => exact Or.inr (F64.asU32_mul_mono thousand_isPositive hnan h)
  | true =>
    refine Or.inl (F64.asU32_mul_of_not_pos thousand_isPositive.sign ?_)
    rw [F64.lt, hnan, Bool.not_true, Bool.and_false, Bool.false_and]
    exact Bool.false_ne_true

/-! ## 2. What is sent -/

/-- The limits that are accepted for a sandbox; one that is not positive is none. -/
theorem buildSandboxCreateRequestProto_limits {appId imageId : String}
    {params : SandboxCreateParams} {proto : SandboxCreateRequestProto}
    (h : buildSandboxCreateRequestProto appId imageId params = .ok proto) :
    (F64.lt 0 params.cpuLimit = true → F64.lt params.cpuLimit params.cpu = false) ∧
      0 ≤ params.memoryMib ∧
      (params.memoryLimitMib > 0 → params.memoryMib ≤ params.memoryLimitMib) := by
  unfold buildSandboxCreateRequestProto at h
  obtain ⟨-, h⟩ := except_check_ok h
  obtain ⟨hmemory, h⟩ := except_check_ok h
  obtain ⟨-, h⟩ := except_check_ok h
  obtain ⟨hcpu, h⟩ := except_check_ok h
  obtain ⟨-, h⟩ := except_check_ok h
  obtain ⟨hlimit, -⟩ := except_check_ok h
  refine ⟨fun hpos => ?_, Int32.not_lt.mp hmemory, fun hpos => ?_⟩
  · exact Bool.eq_false_iff.mpr fun hlt => hcpu ⟨hpos, hlt⟩
  · exact Int32.not_lt.mp fun hlt => hlimit ⟨hpos, hlt⟩

/-- **What is asked for is within its limits**: in the request that is sent for parameters that were
    accepted, no limit but 0 is below its request. -/
theorem created_within_limits {appId imageId : String} {params : SandboxCreateParams}
    {volumes : List (HashMap.Entry String Volume)} {proto : SandboxCreateRequestProto}
    {request : Pb.SandboxCreateRequest}
    (hbuild : buildSandboxCreateRequestProto appId imageId params = .ok proto)
    (hsend : sandboxCreateRequest appId imageId params volumes = .ok request) :
    ∃ definition resources, request.definition = some definition ∧
      definition.resources = some resources ∧
      WithinLimit resources.milliCpu resources.milliCpuMax ∧
      WithinLimit resources.memoryMb resources.memoryMbMax := by
  obtain ⟨hcpu, hmemory, hlimit⟩ := buildSandboxCreateRequestProto_limits hbuild
  obtain ⟨config, -, rfl⟩ := sandboxCreateRequest_ok hsend
  refine ⟨_, _, rfl, rfl, ?_, ?_⟩
  · show WithinLimit ((milliCpu params.cpu).getD 0) ((milliCpu params.cpuLimit).getD 0)
    by_cases hpos : F64.lt 0 params.cpuLimit = true
    · rw [milliCpu_getD, milliCpu_getD]
      exact milli_within (hcpu hpos)
    · rw [milliCpu, milliCpu, if_neg hpos]
      exact Or.inl rfl
  · show WithinLimit ((memoryMb params.memoryMib).getD 0) ((memoryMb params.memoryLimitMib).getD 0)
    by_cases hpos : params.memoryLimitMib > 0
    · have hlimit' : 0 ≤ params.memoryLimitMib := Int32.le_of_lt hpos
      rw [(memoryMb_getD _).mpr hmemory, (memoryMb_getD _).mpr hlimit']
      exact Or.inr (Int32.toUInt32_le hmemory (hlimit hpos))
    · rw [memoryMb, memoryMb, if_neg hpos]
      exact Or.inl rfl

/-- A CPU and a half of at most two, and memory without a limit. -/
theorem created_within_limits_two :
    let params : SandboxCreateParams :=
      { cpu := 0x3FF8000000000000, cpuLimit := 0x4000000000000000, memoryMib := 128 }
    ∃ proto request definition resources,
      buildSandboxCreateRequestProto "ap-1" "im-1" params = .ok proto ∧
      sandboxCreateRequest "ap-1" "im-1" params [] = .ok request ∧
      request.definition = some definition ∧ definition.resources = some resources ∧
      WithinLimit resources.milliCpu resources.milliCpuMax := by
  intro params
  have haccepted : (buildSandboxCreateRequestProto "ap-1" "im-1" params).toBool = true := by
    decide +kernel
  cases hbuild : buildSandboxCreateRequestProto "ap-1" "im-1" params with
  | error e =>
    rw [hbuild] at haccepted
    cases haccepted
  | ok proto =>
    have hsend : sandboxCreateRequest "ap-1" "im-1" params [] =
      .ok ⟨"ap-1", some (sandboxDefinition "im-1" params [] none), ""⟩ := rfl
    obtain ⟨definition, resources, hdefinition, hresources, hcpu, -⟩ :=
      created_within_limits hbuild hsend
    exact ⟨proto, _, definition, resources, rfl, hsend, hdefinition, hresources, hcpu⟩

end ModalRs
