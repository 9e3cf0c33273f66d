/-
  File:      ModalRs/Cls.lean
  Subject:   The options of a class: layers that are merged, and the proto that is built of them.

  * `ServiceOptions`, `ServiceOption`: the options, and their names with their types.
  * `mergeServiceOptions`, `buildFunctionOptionsProto`: the functions of the source.
  * `mergeAll`: layer after layer. `mergeAll_get`: the last layer that sets an option decides.
  * `layers_decide`: what is built of any layers, and that the layers can be merged in any grouping.
  * `layers_within_limits`: no request on the wire is above its limit.
-/
import Mathlib.Data.List.Induction
import ModalRs.Sandbox.Limits

namespace ModalRs

open ModalRs.Rust

/-! ## 1. Options -/

/-- Retries represents retry policy configuration for a Modal Function/Cls; the coefficient is
    the bits of an `f32`. -/
structure Retries where
  maxRetries : Int32
  backoffCoefficient : UInt32
  initialDelay : Duration
  maxDelay : Duration
  deriving DecidableEq

/-- ServiceOptions holds runtime configuration for a Modal class. -/
structure ServiceOptions where
  cpu : Option F64 := none
  cpuLimit : Option F64 := none
  memoryMib : Option Int32 := none
  memoryLimitMib : Option Int32 := none
  gpu : Option String := none
  env : Option (HashMap String String) := none
  secrets : Option (List Secret) := none
  volumes : Option (HashMap String Volume) := none
  retries : Option Retries := none
  maxContainers : Option Int32 := none
  bufferContainers : Option Int32 := none
  scaledownWindow : Option Duration := none
  timeout : Option Duration := none
  maxConcurrentInputs : Option Int32 := none
  targetConcurrentInputs : Option Int32 := none
  batchMaxSize : Option Int32 := none
  batchWait : Option Duration := none

/-- Resources proto representation. -/
structure ResourcesProto where
  milliCpu : UInt32 := 0
  milliCpuMax : UInt32 := 0
  memoryMb : UInt32 := 0
  memoryMbMax : UInt32 := 0
  deriving DecidableEq

/-- FunctionOptionsProto representation. -/
structure FunctionOptionsProto where
  resources : Option ResourcesProto := none
  deriving DecidableEq

def hasOptions (o : ServiceOptions) : Bool :=
  o.cpu.isSome || o.cpuLimit.isSome || o.memoryMib.isSome || o.memoryLimitMib.isSome ||
    o.gpu.isSome || o.env.isSome || o.secrets.isSome || o.volumes.isSome || o.retries.isSome ||
    o.maxContainers.isSome || o.bufferContainers.isSome || o.scaledownWindow.isSome ||
    o.timeout.isSome || o.maxConcurrentInputs.isSome || o.targetConcurrentInputs.isSome ||
    o.batchMaxSize.isSome || o.batchWait.isSome

/-- The milli-CPUs that are asked for, and their limit. -/
def cpuResources (options : ServiceOptions) : Except ModalError (UInt32 × UInt32) := do
  if options.cpu.isNone ∧ options.cpuLimit.isSome then
    throw (.invalid "must also specify non-zero CPU request when CPULimit is specified")
  match options.cpu with
  | none => pure (0, 0)
  | some cpu =>
      if F64.lt cpu 0 ∨ F64.beq cpu 0 then
        throw (.invalid ("the CPU request (" ++ F64.display cpu ++ ") must be a positive number"))
      match options.cpuLimit with
      | none => pure (milli cpu, 0)
      | some cpuLimit =>
          if F64.lt cpuLimit cpu then
            throw (.invalid ("the CPU request (" ++ F64.displayFixed 6 cpu ++
              ") cannot be higher than CPULimit (" ++ F64.displayFixed 6 cpuLimit ++ ")"))
          pure (milli cpu, milli cpuLimit)

/-- The memory that is asked for, and its limit. -/
def memoryResources (options : ServiceOptions) : Except ModalError (UInt32 × UInt32) := do
  if options.memoryMib.isNone ∧ options.memoryLimitMib.isSome then
    throw (.invalid
      "must also specify non-zero MemoryMiB request when MemoryLimitMiB is specified")
  match options.memoryMib with
  | none => pure (0, 0)
  | some memory =>
      if memory ≤ 0 then
        throw (.invalid ("the MemoryMiB request (" ++ toString memory.toInt ++
          ") must be a positive number"))
      match options.memoryLimitMib with
      | none => pure (memory.toUInt32, 0)
      | some memoryLimit =>
          if memoryLimit < memory then
            throw (.invalid ("the MemoryMiB request (" ++ toString memory.toInt ++
              ") cannot be higher than MemoryLimitMiB (" ++ toString memoryLimit.toInt ++ ")"))
          pure (memory.toUInt32, memoryLimit.toUInt32)

/-- Build function options proto from service options. `none` if there are none, or no options are
    set; the CPUs are checked before the memory. -/
def buildFunctionOptionsProto (options : Option ServiceOptions) :
    Except ModalError (Option FunctionOptionsProto) :=
  match options with
  | none => pure none
  | some options =>
      if ¬ hasOptions options then pure none
      else if options.cpu.isSome ∨ options.cpuLimit.isSome ∨ options.memoryMib.isSome ∨
          options.memoryLimitMib.isSome ∨ options.gpu.isSome then do
        let (milliCpu, milliCpuMax) ← cpuResources options
        let (memoryMb, memoryMbMax) ← memoryResources options
        pure (some ⟨some ⟨milliCpu, milliCpuMax, memoryMb, memoryMbMax⟩⟩)
      else pure (some {})

/-- Merge two service options, with `new` taking precedence over `base`. -/
def mergeServiceOptions (base new : Option ServiceOptions) : ServiceOptions :=
  match base with
  | none => new.getD {}
  | some base =>
      match new with
      | none => base
      | some new => {
          cpu := new.cpu.or base.cpu
          cpuLimit := new.cpuLimit.or base.cpuLimit
          memoryMib := new.memoryMib.or base.memoryMib
          memoryLimitMib := new.memoryLimitMib.or base.memoryLimitMib
          gpu := new.gpu.or base.gpu
          env := new.env.or base.env
          secrets := new.secrets.or base.secrets
          volumes := new.volumes.or base.volumes
          retries := new.retries.or base.retries
          maxContainers := new.maxContainers.or base.maxContainers
          bufferContainers := new.bufferContainers.or base.bufferContainers
          scaledownWindow := new.scaledownWindow.or base.scaledownWindow
          timeout := new.timeout.or base.timeout
          maxConcurrentInputs := new.maxConcurrentInputs.or base.maxConcurrentInputs
          targetConcurrentInputs := new.targetConcurrentInputs.or base.targetConcurrentInputs
          batchMaxSize := new.batchMaxSize.or base.batchMaxSize
          batchWait := new.batchWait.or base.batchWait }

/-! ## 2. Layers -/

/-- The options by name. -/
inductive ServiceOption : Type → Type where
  | cpu : ServiceOption F64
  | cpuLimit : ServiceOption F64
  | memoryMib : ServiceOption Int32
  | memoryLimitMib : ServiceOption Int32
  | gpu : ServiceOption String
  | env : ServiceOption (HashMap String String)
  | secrets : ServiceOption (List Secret)
  | volumes : ServiceOption (HashMap String Volume)
  | retries : ServiceOption Retries
  | maxContainers : ServiceOption Int32
  | bufferContainers : ServiceOption Int32
  | scaledownWindow : ServiceOption Duration
  | timeout : ServiceOption Duration
  | maxConcurrentInputs : ServiceOption Int32
  | targetConcurrentInputs : ServiceOption Int32
  | batchMaxSize : ServiceOption Int32
  | batchWait : ServiceOption Duration

/-- What options say of one of them. -/
def ServiceOption.get {α : Type} (o : ServiceOptions) : ServiceOption α → Option α
  | .cpu => o.cpu
  | .cpuLimit => o.cpuLimit
  | .memoryMib => o.memoryMib
  | .memoryLimitMib => o.memoryLimitMib
  | .gpu => o.gpu
  | .env => o.env
  | .secrets => o.secrets
  | .volumes => o.volumes
  | .retries => o.retries
  | .maxContainers => o.maxContainers
  | .bufferContainers => o.bufferContainers
  | .scaledownWindow => o.scaledownWindow
  | .timeout => o.timeout
  | .maxConcurrentInputs => o.maxConcurrentInputs
  | .targetConcurrentInputs => o.targetConcurrentInputs
  | .batchMaxSize => o.batchMaxSize
  | .batchWait => o.batchWait

/-- Options are known by what they say of each. -/
theorem ServiceOptions.ext_get {o o' : ServiceOptions}
    (h : ∀ {α : Type} (f : ServiceOption α), f.get o = f.get o') : o = o' := by
  obtain ⟨⟩ := o
  obtain ⟨⟩ := o'
  congr
  · exact h .cpu
  · exact h .cpuLimit
  · exact h .memoryMib
  · exact h .memoryLimitMib
  · exact h .gpu
  · exact h .env
  · exact h .secrets
  · exact h .volumes
  · exact h .retries
  · exact h .maxContainers
  · exact h .bufferContainers
  · exact h .scaledownWindow
  · exact h .timeout
  · exact h .maxConcurrentInputs
  · exact h .targetConcurrentInputs
  · exact h .batchMaxSize
  · exact h .batchWait

/-- **Options are set** if one of them is. -/
theorem hasOptions_iff (o : ServiceOptions) :
    hasOptions o = true ↔ ∃ (α : Type) (f : ServiceOption α), (f.get o).isSome = true := by
  constructor
  · intro h
    simp only [hasOptions, Bool.or_eq_true] at h
    rcases h with ((((((((((((((((h | h) | h) | h) | h) | h) | h) | h) | h) | h) | h) | h) | h) | h) |
      h) | h) | h)
    · exact ⟨_, .cpu, h⟩
    · exact ⟨_, .cpuLimit, h⟩
    · exact ⟨_, .memoryMib, h⟩
    · exact ⟨_, .memoryLimitMib, h⟩
    · exact ⟨_, .gpu, h⟩
    · exact ⟨_, .env, h⟩
    · exact ⟨_, .secrets, h⟩
    · exact ⟨_, .volumes, h⟩
    · exact ⟨_, .retries, h⟩
    · exact ⟨_, .maxContainers, h⟩
    · exact ⟨_, .bufferContainers, h⟩
    · exact ⟨_, .scaledownWindow, h⟩
    · exact ⟨_, .timeout, h⟩
    · exact ⟨_, .maxConcurrentInputs, h⟩
    · exact ⟨_, .targetConcurrentInputs, h⟩
    · exact ⟨_, .batchMaxSize, h⟩
    · exact ⟨_, .batchWait, h⟩
  · intro h
    obtain ⟨α, f, h⟩ := h
    cases f <;> simp only [ServiceOption.get] at h <;>
      simp only [hasOptions, h, Bool.true_or, Bool.or_true]

/-- What nothing says. -/
theorem get_default {α : Type} (f : ServiceOption α) : f.get {} = none := by
  cases f <;> rfl

/-- What a layer says of an option. -/
def ServiceOption.said {α : Type} (f : ServiceOption α) (layer : Option ServiceOptions) : Option α :=
  layer.bind fun o => f.get o

/-- **What is merged says what the new options say**, or else what the old ones do. -/
theorem merge_get {α : Type} (f : ServiceOption α) (base new : Option ServiceOptions) :
    f.get (mergeServiceOptions base new) = (f.said new).or (f.said base) := by
  cases base with
  | none =>
    cases new with
    | none => exact get_default f
    | some new => exact Option.or_none.symm
  | some base =>
    cases new with
    | none => rfl
    | some new => cases f <;> rfl

/-- The options of a class, layer after layer; there are none before the first. -/
def mergeAll (layers : List (Option ServiceOptions)) : Option ServiceOptions :=
  layers.foldl (fun base new => some (mergeServiceOptions base new)) none

/-- What the layers say of an option: what the last one that sets it does. -/
def lastSet {α : Type} (f : ServiceOption α) (layers : List (Option ServiceOptions)) : Option α :=
  (layers.filterMap f.said).getLast?

theorem lastSet_append {α : Type} (f : ServiceOption α) (layers layers' : List (Option ServiceOptions)) :
    lastSet f (layers ++ layers') = (lastSet f layers').or (lastSet f layers) := by
  rw [lastSet, List.filterMap_append, List.getLast?_append]
  rfl

theorem lastSet_singleton {α : Type} (f : ServiceOption α) (layer : Option ServiceOptions) :
    lastSet f [layer] = f.said layer := by
  unfold lastSet
  cases h : f.said layer with
  | none => rw [List.filterMap_cons_none h]; rfl
  | some v => rw [List.filterMap_cons_some h]; rfl

/-- **The last layer that sets an option decides.** -/
theorem mergeAll_said {α : Type} (f : ServiceOption α) (layers : List (Option ServiceOptions)) :
    f.said (mergeAll layers) = lastSet f layers := by
  induction layers using List.reverseRecOn with
  | nil => rfl
  | append_singleton layers new ih =>
    rw [lastSet_append, lastSet_singleton, ← ih, ← merge_get, mergeAll, List.foldl_append]
    rfl

/-- Layers that are merged in groups say what they say one by one. -/
theorem lastSet_groups {α : Type} (f : ServiceOption α)
    (groups : List (List (Option ServiceOptions))) :
    lastSet f (groups.map mergeAll) = lastSet f groups.flatten := by
  induction groups with
  | nil => rfl
  | cons group groups ih =>
    rw [List.flatten_cons, lastSet_append, ← ih, List.map_cons, ← List.singleton_append,
      lastSet_append, lastSet_singleton, mergeAll_said]

/-- An option is set by the layers if one of them sets it. -/
theorem lastSet_isSome {α : Type} (f : ServiceOption α) (layers : List (Option ServiceOptions)) :
    (lastSet f layers).isSome = true ↔ ∃ layer ∈ layers, (f.said layer).isSome = true := by
  induction layers using List.reverseRecOn with
  | nil => exact ⟨fun h => (by cases h), fun ⟨_, h, _⟩ => (List.not_mem_nil h).elim⟩
  | append_singleton layers new ih =>
    rw [lastSet_append, lastSet_singleton, Option.isSome_or, Bool.or_eq_true, ih]
    simp only [List.mem_append, List.mem_singleton]
    constructor
    · rintro (h | ⟨layer, hmem, h⟩)
      · exact ⟨new, Or.inr rfl, h⟩
      · exact ⟨layer, Or.inl hmem, h⟩
    · rintro ⟨layer, hmem | rfl, h⟩
      · exact Or.inr ⟨layer, hmem, h⟩
      · exact Or.inl h

/-! ## 3. What is built of the layers -/

/-- No option is set. -/
def NothingSet (layer : Option ServiceOptions) : Prop :=
  ∀ (α : Type) (f : ServiceOption α), f.said layer = none

theorem nothingSet_iff (o : ServiceOptions) : NothingSet (some o) ↔ hasOptions o = false := by
  rw [← Bool.not_eq_true, hasOptions_iff]
  constructor
  · rintro h ⟨α, f, hsome⟩
    rw [show f.get o = none from h α f] at hsome
    cases hsome
  · intro h α f
    exact Option.not_isSome_iff_eq_none.mp fun hsome => h ⟨α, f, hsome⟩

/-- **There is nothing to build** exactly where no option is set. -/
theorem build_none_iff (options : Option ServiceOptions) :
    buildFunctionOptionsProto options = .ok none ↔ NothingSet options := by
  cases options with
  | none => exact ⟨fun _ α f => rfl, fun _ => rfl⟩
  | some o =>
    rw [nothingSet_iff]
    cases ho : hasOptions o with
    | false =>
      refine ⟨fun _ => rfl, fun _ => ?_⟩
      simp only [buildFunctionOptionsProto, ho]
      rfl
    | true =>
      refine ⟨fun h => ?_, fun h => (by cases h)⟩
      rw [buildFunctionOptionsProto, ho, if_neg (by decide)] at h
      split at h
      case isTrue =>
        obtain ⟨cpu, -, h⟩ := except_bind_ok h
        obtain ⟨memory, -, h⟩ := except_bind_ok h
        cases h
      case isFalse => cases h

/-- What is built depends on what is said, and on nothing else. -/
theorem build_congr {options options' : Option ServiceOptions}
    (h : ∀ (α : Type) (f : ServiceOption α), f.said options = f.said options') :
    buildFunctionOptionsProto options = buildFunctionOptionsProto options' := by
  have hnothing : NothingSet options ↔ NothingSet options' :=
    forall_congr' fun α => forall_congr' fun f => by rw [h α f]
  cases options with
  | none =>
    have hset : NothingSet options' := hnothing.mp fun _ _ => rfl
    rw [(build_none_iff options').mpr hset]
    rfl
  | some o =>
    cases options' with
    | none => exact (build_none_iff (some o)).mpr (hnothing.mpr fun _ _ => rfl)
    | some o' =>
      have heq : o = o' := ServiceOptions.ext_get fun f => h _ f
      rw [heq]

/-- **What the layers decide**: of every option, the last layer that sets it; nothing is built where
    none of them sets any; and in whatever groups they are merged, the same is built. -/
theorem layers_decide (layers : List (Option ServiceOptions)) :
    (∀ (α : Type) (f : ServiceOption α), f.said (mergeAll layers) = lastSet f layers) ∧
    (buildFunctionOptionsProto (mergeAll layers) = .ok none ↔ ∀ layer ∈ layers, NothingSet layer) ∧
    ∀ groups : List (List (Option ServiceOptions)), groups.flatten = layers →
      buildFunctionOptionsProto (mergeAll (groups.map mergeAll)) =
        buildFunctionOptionsProto (mergeAll layers) := by
  refine ⟨fun α f => mergeAll_said f layers, ?_, ?_⟩
  · rw [build_none_iff]
    constructor
    · intro h layer hmem α f
      have hnone : lastSet f layers = none := (mergeAll_said f layers).symm.trans (h α f)
      by_contra hsome
      have hset := (lastSet_isSome f layers).mpr
        ⟨layer, hmem, Option.isSome_iff_ne_none.mpr hsome⟩
      rw [hnone] at hset
      cases hset
    · intro h α f
      rw [mergeAll_said]
      by_contra hsome
      obtain ⟨layer, hmem, hset⟩ :=
        (lastSet_isSome f layers).mp (Option.isSome_iff_ne_none.mpr hsome)
      rw [h layer hmem α f] at hset
      cases hset
  · rintro groups rfl
    refine build_congr fun α f => ?_
    rw [mergeAll_said, mergeAll_said, lastSet_groups]

/-! ## 4. Requests and their limits -/

/-- The CPUs that are accepted. -/
theorem cpuResources_ok {options : ServiceOptions} {request limit : UInt32}
    (h : cpuResources options = .ok (request, limit)) :
    WithinLimit request limit ∧ request = (options.cpu.map milli).getD 0 ∧
      limit = (options.cpuLimit.map milli).getD 0 := by
  unfold cpuResources at h
  obtain ⟨hboth, h⟩ := except_check_ok h
  cases hcpu : options.cpu with
  | none =>
    have hlimit : options.cpuLimit = none := by
      rw [hcpu] at hboth
      simpa using hboth
    rw [hcpu] at h
    cases h
    rw [hlimit]
    exact ⟨Or.inl rfl, rfl, rfl⟩
  | some cpu =>
    rw [hcpu] at h
    obtain ⟨-, h⟩ := except_check_ok h
    cases hlimit : options.cpuLimit with
    | none =>
      rw [hlimit] at h
      cases h
      exact ⟨Or.inl rfl, rfl, rfl⟩
    | some cpuLimit =>
      rw [hlimit] at h
      obtain ⟨hle, h⟩ := except_check_ok h
      cases h
      exact ⟨milli_within (Bool.eq_false_iff.mpr hle), rfl, rfl⟩

theorem memoryResources_ok {options : ServiceOptions} {request limit : UInt32}
    (h : memoryResources options = .ok (request, limit)) :
    WithinLimit request limit ∧ request = (options.memoryMib.map Int32.toUInt32).getD 0 ∧
      limit = (options.memoryLimitMib.map Int32.toUInt32).getD 0 := by
  unfold memoryResources at h
  obtain ⟨hboth, h⟩ := except_check_ok h
  cases hmemory : options.memoryMib with
  | none =>
    have hlimit : options.memoryLimitMib = none := by
      rw [hmemory] at hboth
      simpa using hboth
    rw [hmemory] at h
    cases h
    rw [hlimit]
    exact ⟨Or.inl rfl, rfl, rfl⟩
  | some memory =>
    rw [hmemory] at h
    obtain ⟨hpositive, h⟩ := except_check_ok h
    cases hlimit : options.memoryLimitMib with
    | none =>
      rw [hlimit] at h
      cases h
      exact ⟨Or.inl rfl, rfl, rfl⟩
    | some memoryLimit =>
      rw [hlimit] at h
      obtain ⟨hle, h⟩ := except_check_ok h
      cases h
      refine ⟨Or.inr (Int32.toUInt32_le ?_ (Int32.not_lt.mp hle)), rfl, rfl⟩
      exact Int32.le_of_lt (Int32.not_le.mp hpositive)

/-- **What the layers ask for is within its limits**, on the wire: of CPUs and of memory the last
    request and the last limit are sent, and no limit but 0 is below the request. -/
theorem layers_within_limits {layers : List (Option ServiceOptions)} {r : ResourcesProto}
    (h : buildFunctionOptionsProto (mergeAll layers) = .ok (some ⟨some r⟩)) :
    WithinLimit r.milliCpu r.milliCpuMax ∧ WithinLimit r.memoryMb r.memoryMbMax ∧
      r = ⟨((lastSet .cpu layers).map milli).getD 0, ((lastSet .cpuLimit layers).map milli).getD 0,
        ((lastSet .memoryMib layers).map Int32.toUInt32).getD 0,
        ((lastSet .memoryLimitMib layers).map Int32.toUInt32).getD 0⟩ := by
  simp only [← mergeAll_said]
  cases hmerged : mergeAll layers with
  | none =>
    rw [hmerged] at h
    cases h
  | some o =>
    rw [hmerged, buildFunctionOptionsProto] at h
    split at h
    case isTrue => cases h
    case isFalse =>
      split at h
      case isFalse => cases h
      case isTrue =>
        obtain ⟨⟨milliCpu, milliCpuMax⟩, hcpu, h⟩ := except_bind_ok h
        obtain ⟨⟨memoryMb, memoryMbMax⟩, hmemory, h⟩ := except_bind_ok h
        cases h
        obtain ⟨hcpuWithin, rfl, rfl⟩ := cpuResources_ok hcpu
        obtain ⟨hmemoryWithin, rfl, rfl⟩ := memoryResources_ok hmemory
        exact ⟨hcpuWithin, hmemoryWithin, rfl⟩

/-- Half a CPU, and on top of it a limit that is larger than a `u32` of milli-CPUs. -/
theorem layers_within_limits_saturated :
    let layers : List (Option ServiceOptions) :=
      [some { cpu := some 0x3FE0000000000000, gpu := some "T4" }, none,
        some { cpuLimit := some 0x4270000000000000 }]
    let r : ResourcesProto := ⟨500, 4294967295, 0, 0⟩
    buildFunctionOptionsProto (mergeAll layers) = .ok (some ⟨some r⟩) ∧
      WithinLimit r.milliCpu r.milliCpuMax := by
  intro layers r
  have h : buildFunctionOptionsProto (mergeAll layers) = .ok (some ⟨some r⟩) := rfl
  exact ⟨h, (layers_within_limits h).1⟩

end ModalRs
