/-
  File:      ModalRs/Sandbox/Wire.lean
  Subject:   The request that creates a sandbox, as the transport sends it.

  * `sandboxCreateRequest`: the request for some parameters. The volumes come in an
    order in which their map may be iterated.
  * `ParamField`, `Agree`: the options of a sandbox, and when two sets agree on one.
  * `request_determines`: what a request still tells of its parameters.
  * `dropped_exactly`: which options make a difference.
-/
import ModalRs.Sandbox.Params
import ModalRs.Transport.Messages

namespace ModalRs

open ModalRs.Rust

/-! ## 1. The transport -/

/-- The GPU config of a sandbox; the count is whatever parses. -/
def sandboxGpuConfig (gpu : String) : Except ModalError (Option Pb.GpuConfig) :=
  if gpu = "" then .ok none
  else if ':' ∈ gpu.toList then
    let gpuType := gpu.toList.takeWhile (· ≠ ':')
    let countStr := (gpu.toList.dropWhile (· ≠ ':')).drop 1
    match parseU32 countStr with
    | .error _ => .error (.invalid ("invalid GPU count: " ++ String.ofList countStr ++
        ", value must be a positive integer"))
    | .ok count => .ok (some ⟨0, count, upper gpuType⟩)
  else .ok (some ⟨0, 1, upper gpu.toList⟩)

/-- A string that is left out if it is empty. -/
def nonEmpty (s : String) : Option String := if s = "" then none else some s

/-- A list that is left out if it is empty. -/
def nonEmptyList {α : Type} (xs : List α) : Option (List α) := if xs.isEmpty then none else some xs

def volumeMount (e : HashMap.Entry String Volume) : Pb.VolumeMount :=
  ⟨e.2.volumeId, e.1, true, e.2.isReadOnly⟩

def networkAccess (params : SandboxCreateParams) : Pb.NetworkAccess :=
  if params.blockNetwork then ⟨2, []⟩
  else if !params.cidrAllowlist.isEmpty then ⟨3, params.cidrAllowlist⟩
  else ⟨1, []⟩

def portSpec (unencrypted : Bool) (port : Int32) : Pb.PortSpec := ⟨port.toUInt32, unencrypted, none⟩

def openPorts (params : SandboxCreateParams) : List Pb.PortSpec :=
  params.encryptedPorts.map (portSpec false) ++ params.unencryptedPorts.map (portSpec true)

/-- The milli-CPUs of a request, which is left out unless it is positive. -/
def milliCpu (cpu : F64) : Option UInt32 := if F64.lt 0 cpu then some (milli cpu) else none

def memoryMb (mib : Int32) : Option UInt32 := if mib > 0 then some mib.toUInt32 else none

def sandboxResources (params : SandboxCreateParams) (gpuConfig : Option Pb.GpuConfig) :
    Pb.Resources where
  milliCpu := (milliCpu params.cpu).getD 0
  gpuConfig := gpuConfig
  memoryMb := (memoryMb params.memoryMib).getD 0
  milliCpuMax := (milliCpu params.cpuLimit).getD 0
  memoryMbMax := (memoryMb params.memoryLimitMib).getD 0

def sandboxDefinition (imageId : String) (params : SandboxCreateParams)
    (volumes : List (HashMap.Entry String Volume)) (gpuConfig : Option Pb.GpuConfig) :
    Pb.Sandbox where
  entrypointArgs := params.command
  imageId := imageId
  secretIds := params.secrets.map (·.secretId)
  timeoutSecs := params.timeoutSecs.getD 300
  workdir := nonEmpty params.workdir
  ptyInfo := if params.pty then some ⟨true, 24, 80, "xterm-256color", "truecolor", 0, false⟩ else none
  networkAccess := some (networkAccess params)
  volumeMounts := volumes.map volumeMount
  resources := some (sandboxResources params gpuConfig)
  schedulerPlacement := (nonEmptyList params.regions).map .mk
  cloudProviderStr := params.cloud
  customDomain := params.customDomain.getD ""
  openPorts := nonEmptyList (openPorts params)
  name := nonEmpty params.name

/-- The request of `sandbox_create`, unless the GPU string is invalid. -/
def sandboxCreateRequest (appId imageId : String) (params : SandboxCreateParams)
    (volumes : List (HashMap.Entry String Volume)) : Except ModalError Pb.SandboxCreateRequest := do
  let gpuConfig ← sandboxGpuConfig params.gpu
  pure ⟨appId, some (sandboxDefinition imageId params volumes gpuConfig), ""⟩

/-! ## 2. What differs -/

/-- The options that are to reach the server. -/
inductive ParamField where
  | command | env | secrets | volumes | encryptedPorts | unencryptedPorts | idleTimeoutSecs
  | workdir | cloud | regions | name
  deriving DecidableEq

/-- A volume as it is mounted: its path, its id, and whether it is read-only. -/
def volumeView (e : HashMap.Entry String Volume) : String × String × Bool :=
  (e.1, e.2.volumeId, e.2.isReadOnly)

/-- Two sets of parameters agree on an option: secrets by id, volumes by path, id and flag. -/
def Agree (p q : SandboxCreateParams) : ParamField → Prop
  | .command => p.command = q.command
  | .env => p.env = q.env
  | .secrets => p.secrets.map (·.secretId) = q.secrets.map (·.secretId)
  | .volumes => p.volumes.entries.map volumeView = q.volumes.entries.map volumeView
  | .encryptedPorts => p.encryptedPorts = q.encryptedPorts
  | .unencryptedPorts => p.unencryptedPorts = q.unencryptedPorts
  | .idleTimeoutSecs => p.idleTimeoutSecs = q.idleTimeoutSecs
  | .workdir => p.workdir = q.workdir
  | .cloud => p.cloud = q.cloud
  | .regions => p.regions = q.regions
  | .name => p.name = q.name

/-- They have everything else in common. -/
structure AgreeElsewhere (p q : SandboxCreateParams) : Prop where
  pty : p.pty = q.pty
  cpu : p.cpu = q.cpu
  cpuLimit : p.cpuLimit = q.cpuLimit
  memoryMib : p.memoryMib = q.memoryMib
  memoryLimitMib : p.memoryLimitMib = q.memoryLimitMib
  gpu : p.gpu = q.gpu
  timeoutSecs : p.timeoutSecs = q.timeoutSecs
  blockNetwork : p.blockNetwork = q.blockNetwork
  cidrAllowlist : p.cidrAllowlist = q.cidrAllowlist
  customDomain : p.customDomain = q.customDomain

/-- They differ in one option and in nothing else. -/
structure DifferOnlyIn (f : ParamField) (p q : SandboxCreateParams) : Prop where
  differ : ¬ Agree p q f
  others : ∀ g, g ≠ f → Agree p q g
  elsewhere : AgreeElsewhere p q

/-- `create` gets as far as sending the request. -/
def CreateAccepts (appId imageId : String) (p : SandboxCreateParams) : Prop :=
  (∃ proto, buildSandboxCreateRequestProto appId imageId p = .ok proto) ∧
    ∃ config, sandboxGpuConfig p.gpu = .ok config

/-! ## 3. What a request tells -/

theorem nonEmpty_inj {s t : String} (h : nonEmpty s = nonEmpty t) : s = t := by
  unfold nonEmpty at h
  split_ifs at h with hs ht
  · rw [hs, ht]
  · exact Option.some.inj h

theorem nonEmptyList_inj {α : Type} {xs ys : List α} (h : nonEmptyList xs = nonEmptyList ys) :
    xs = ys := by
  unfold nonEmptyList at h
  split_ifs at h with hxs hys
  · rw [List.isEmpty_iff.mp hxs, List.isEmpty_iff.mp hys]
  · exact Option.some.inj h

theorem portSpec_injective (unencrypted : Bool) : Function.Injective (portSpec unencrypted) := by
  intro x y h
  have hport : x.toUInt32 = y.toUInt32 := congrArg Pb.PortSpec.port h
  cases x
  cases y
  exact congrArg Int32.ofUInt32 hport

/-- The ports of one kind, among all that are open. -/
theorem filter_openPorts (p : SandboxCreateParams) :
    (openPorts p).filter (!·.unencrypted) = p.encryptedPorts.map (portSpec false) ∧
      (openPorts p).filter (·.unencrypted) = p.unencryptedPorts.map (portSpec true) := by
  simp [openPorts, List.filter_append, List.filter_map, Function.comp_def, portSpec]

theorem openPorts_inj {p q : SandboxCreateParams} (h : openPorts p = openPorts q) :
    p.encryptedPorts = q.encryptedPorts ∧ p.unencryptedPorts = q.unencryptedPorts := by
  have hp := filter_openPorts p
  have hq := filter_openPorts q
  rw [h] at hp
  exact ⟨List.map_injective_iff.mpr (portSpec_injective false) (hp.1.symm.trans hq.1),
    List.map_injective_iff.mpr (portSpec_injective true) (hp.2.symm.trans hq.2)⟩

/-- A volume is mounted as it looks. -/
def mountView (v : String × String × Bool) : Pb.VolumeMount := ⟨v.2.1, v.1, true, v.2.2⟩

theorem map_volumeMount (volumes : List (HashMap.Entry String Volume)) :
    volumes.map volumeMount = (volumes.map volumeView).map mountView := by
  rw [List.map_map]
  rfl

theorem mountView_injective : Function.Injective mountView := by
  intro v w h
  obtain ⟨path, id, ro⟩ := v
  obtain ⟨path', id', ro'⟩ := w
  cases h
  rfl

section Requests

variable {appId imageId : String} {p q : SandboxCreateParams}
  {po qo : List (HashMap.Entry String Volume)} {r s : Pb.SandboxCreateRequest}

/-- A request that is sent holds the definition, with the GPU config of the GPU string. -/
theorem sandboxCreateRequest_ok (h : sandboxCreateRequest appId imageId p po = .ok r) :
    ∃ config, sandboxGpuConfig p.gpu = .ok config ∧
      r = ⟨appId, some (sandboxDefinition imageId p po config), ""⟩ := by
  unfold sandboxCreateRequest at h
  cases hgpu : sandboxGpuConfig p.gpu with
  | error e =>
    rw [hgpu] at h
    cases h
  | ok config =>
    rw [hgpu] at h
    cases h
    exact ⟨config, rfl, rfl⟩

/-- Accepted parameters give a request, in whatever order the volumes come. -/
theorem CreateAccepts.request (h : CreateAccepts appId imageId p)
    (po : List (HashMap.Entry String Volume)) : ∃ r, sandboxCreateRequest appId imageId p po = .ok r := by
  obtain ⟨-, config, hgpu⟩ := h
  refine ⟨⟨appId, some (sandboxDefinition imageId p po config), ""⟩, ?_⟩
  rw [sandboxCreateRequest, hgpu]
  rfl

/-- **What a request still tells**: every option but the environment and the idle timeout. -/
theorem request_determines {f : ParamField} (hp : p.volumes.Iterates po) (hq : q.volumes.Iterates qo)
    (hr : sandboxCreateRequest appId imageId p po = .ok r)
    (hs : sandboxCreateRequest appId imageId q qo = .ok r)
    (hf : f ≠ .env ∧ f ≠ .idleTimeoutSecs) : Agree p q f := by
  obtain ⟨config, -, rfl⟩ := sandboxCreateRequest_ok hr
  obtain ⟨config', -, hsame⟩ := sandboxCreateRequest_ok hs
  have hdef : sandboxDefinition imageId p po config = sandboxDefinition imageId q qo config' :=
    Option.some.inj (congrArg Pb.SandboxCreateRequest.definition hsame)
  cases f with
  | command => exact congrArg Pb.Sandbox.entrypointArgs hdef
  | env => exact absurd rfl hf.1
  | secrets => exact congrArg Pb.Sandbox.secretIds hdef
  | volumes =>
    have hmounts : po.map volumeMount = qo.map volumeMount := congrArg Pb.Sandbox.volumeMounts hdef
    rw [map_volumeMount, map_volumeMount] at hmounts
    have hviews : po.map volumeView = qo.map volumeView :=
      List.map_injective_iff.mpr mountView_injective hmounts
    unfold Agree
    rw [← hp.view, ← hq.view, hviews]
  | encryptedPorts =>
    exact (openPorts_inj (nonEmptyList_inj (congrArg Pb.Sandbox.openPorts hdef))).1
  | unencryptedPorts =>
    exact (openPorts_inj (nonEmptyList_inj (congrArg Pb.Sandbox.openPorts hdef))).2
  | idleTimeoutSecs => exact absurd rfl hf.2
  | workdir => exact nonEmpty_inj (congrArg Pb.Sandbox.workdir hdef)
  | cloud => exact congrArg Pb.Sandbox.cloudProviderStr hdef
  | regions =>
    have hplace := congrArg Pb.Sandbox.schedulerPlacement hdef
    have hinj : Function.Injective Pb.SchedulerPlacement.mk := fun _ _ h => by
      cases h
      rfl
    exact nonEmptyList_inj (Option.map_injective hinj hplace)
  | name => exact nonEmpty_inj (congrArg Pb.Sandbox.name hdef)

/-- Nothing else goes into a request: if the volumes look the same in their orders, it is the same. -/
theorem request_eq (hfields : ∀ f, f ≠ .env → f ≠ .idleTimeoutSecs → Agree p q f)
    (helse : AgreeElsewhere p q) (hviews : qo.map volumeView = po.map volumeView) :
    sandboxCreateRequest appId imageId q qo = sandboxCreateRequest appId imageId p po := by
  have hmounts : qo.map volumeMount = po.map volumeMount := by
    rw [map_volumeMount, map_volumeMount, hviews]
  have hcommand : p.command = q.command := hfields .command nofun nofun
  have hsecrets : p.secrets.map (·.secretId) = q.secrets.map (·.secretId) :=
    hfields .secrets nofun nofun
  have hencrypted : p.encryptedPorts = q.encryptedPorts := hfields .encryptedPorts nofun nofun
  have hunencrypted : p.unencryptedPorts = q.unencryptedPorts :=
    hfields .unencryptedPorts nofun nofun
  have hworkdir : p.workdir = q.workdir := hfields .workdir nofun nofun
  have hcloud : p.cloud = q.cloud := hfields .cloud nofun nofun
  have hregions : p.regions = q.regions := hfields .regions nofun nofun
  have hname : p.name = q.name := hfields .name nofun nofun
  have hports : openPorts q = openPorts p := by rw [openPorts, openPorts, hencrypted, hunencrypted]
  have hnetwork : networkAccess q = networkAccess p := by
    rw [networkAccess, networkAccess, helse.blockNetwork, helse.cidrAllowlist]
  have hresources : sandboxResources q = sandboxResources p := by
    funext config
    rw [sandboxResources, sandboxResources, helse.cpu, helse.cpuLimit, helse.memoryMib,
      helse.memoryLimitMib]
  have hdef : sandboxDefinition imageId q qo = sandboxDefinition imageId p po := by
    funext config
    rw [sandboxDefinition, sandboxDefinition, hcommand, hsecrets, helse.timeoutSecs, hworkdir,
      helse.pty, hnetwork, hmounts, hresources, hregions, hcloud, helse.customDomain, hports, hname]
  rw [sandboxCreateRequest, sandboxCreateRequest, helse.gpu, hdef]

/-- **Which options make a difference**: for parameters that differ in one option only, the
    requests always differ, unless that option is the environment or the idle timeout. -/
theorem dropped_exactly {f : ParamField} (hp : CreateAccepts appId imageId p)
    (hq : CreateAccepts appId imageId q) (hdiff : DifferOnlyIn f p q) :
    (∀ po qo r s, p.volumes.Iterates po → q.volumes.Iterates qo →
        sandboxCreateRequest appId imageId p po = .ok r →
        sandboxCreateRequest appId imageId q qo = .ok s → r ≠ s) ↔
      f ≠ .env ∧ f ≠ .idleTimeoutSecs := by
  constructor
  · intro hdistinct
    by_contra hf
    have hlost : f = .env ∨ f = .idleTimeoutSecs := by
      by_contra hne
      exact hf (not_or.mp hne)
    have hfields : ∀ g, g ≠ .env → g ≠ .idleTimeoutSecs → Agree p q g := by
      intro g henv hidle
      rcases hlost with rfl | rfl
      · exact hdiff.others g henv
      · exact hdiff.others g hidle
    have hvolumes : p.volumes.entries.map volumeView = q.volumes.entries.map volumeView :=
      hfields .volumes nofun nofun
    obtain ⟨po, hpo⟩ := HashMap.exists_iterates p.volumes
    obtain ⟨qo, hqo, hviews⟩ := HashMap.exists_iterates_of_view hvolumes hpo
    obtain ⟨r, hr⟩ := hp.request po
    obtain ⟨s, hs⟩ := hq.request qo
    have hsame : sandboxCreateRequest appId imageId q qo = sandboxCreateRequest appId imageId p po :=
      request_eq hfields hdiff.elsewhere hviews
    rw [hr, hs] at hsame
    exact hdistinct po qo r s hpo hqo hr hs (Except.ok.inj hsame).symm
  · intro hf po qo r s hpo hqo hr hs hsame
    subst hsame
    exact hdiff.differ (request_determines hpo hqo hr hs hf)

/-- **An environment and an idle timeout are lost**: with and without either, the request is the
    same. -/
theorem request_drops :
    let plain : SandboxCreateParams := { command := ["sleep", "60"] }
    let withEnv : SandboxCreateParams := { plain with env := [⟨"KEY", "value"⟩].toFinmap }
    let withIdle : SandboxCreateParams := { plain with idleTimeoutSecs := some 60 }
    (CreateAccepts "ap-1" "im-1" plain ∧ CreateAccepts "ap-1" "im-1" withEnv ∧
        CreateAccepts "ap-1" "im-1" withIdle) ∧
      DifferOnlyIn .env plain withEnv ∧ DifferOnlyIn .idleTimeoutSecs plain withIdle ∧
      ∃ r, sandboxCreateRequest "ap-1" "im-1" plain [] = .ok r ∧
        sandboxCreateRequest "ap-1" "im-1" withEnv [] = .ok r ∧
        sandboxCreateRequest "ap-1" "im-1" withIdle [] = .ok r := by
  intro plain withEnv withIdle
  have haccepted : CreateAccepts "ap-1" "im-1" plain := ⟨⟨_, rfl⟩, _, rfl⟩
  have henvElse : AgreeElsewhere plain withEnv := ⟨rfl, rfl, rfl, rfl, rfl, rfl, rfl, rfl, rfl, rfl⟩
  have hidleElse : AgreeElsewhere plain withIdle :=
    ⟨rfl, rfl, rfl, rfl, rfl, rfl, rfl, rfl, rfl, rfl⟩
  refine ⟨⟨haccepted, haccepted, haccepted⟩, ⟨?_, ?_, henvElse⟩, ⟨?_, ?_, hidleElse⟩, _, rfl, rfl,
    rfl⟩
  · intro henv
    have hlookup := congrArg (Finmap.lookup "KEY") (show plain.env = withEnv.env from henv)
    simp [plain, withEnv] at hlookup
  · intro g hg
    cases g <;> first | rfl | exact absurd rfl hg
  · intro hidle
    cases (show (none : Option UInt32) = some 60 from hidle)
  · intro g hg
    cases g <;> first | rfl | exact absurd rfl hg

/-- A command makes a difference. -/
theorem dropped_exactly_command :
    let p : SandboxCreateParams := { command := ["sleep", "60"] }
    let q : SandboxCreateParams := { command := ["sleep", "90"] }
    CreateAccepts "ap-1" "im-1" p ∧ CreateAccepts "ap-1" "im-1" q ∧ DifferOnlyIn .command p q ∧
      ∀ po qo r s, p.volumes.Iterates po → q.volumes.Iterates qo →
        sandboxCreateRequest "ap-1" "im-1" p po = .ok r →
        sandboxCreateRequest "ap-1" "im-1" q qo = .ok s → r ≠ s := by
  intro p q
  have hp : CreateAccepts "ap-1" "im-1" p := ⟨⟨_, rfl⟩, _, rfl⟩
  have hq : CreateAccepts "ap-1" "im-1" q := ⟨⟨_, rfl⟩, _, rfl⟩
  have hdiff : DifferOnlyIn .command p q := by
    refine ⟨?_, ?_, ⟨rfl, rfl, rfl, rfl, rfl, rfl, rfl, rfl, rfl, rfl⟩⟩
    · intro hcommand
      exact absurd (show ["sleep", "60"] = ["sleep", "90"] from hcommand) (by decide)
    · intro g hg
      cases g <;> first | rfl | exact absurd rfl hg
  exact ⟨hp, hq, hdiff, (dropped_exactly hp hq hdiff).mpr ⟨nofun, nofun⟩⟩

end Requests

end ModalRs
