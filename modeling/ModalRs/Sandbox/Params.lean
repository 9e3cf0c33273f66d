/-
  File:      ModalRs/Sandbox/Params.lean
  Subject:   What a sandbox is created with, and how that is checked.

  * `SandboxCreateParams`: the options, as the caller gives them.
  * `buildSandboxCreateRequestProto`: their validation.
-/
import ModalRs.Image.Basic
import ModalRs.Rust.Float
import ModalRs.Rust.HashMap

namespace ModalRs

open ModalRs.Rust

/-- Volume represents a Modal Volume that provides persistent storage. -/
structure Volume where
  volumeId : String
  name : String
  isReadOnly : Bool
  deriving DecidableEq

/-- Create a new Volume with the given ID and name. -/
def Volume.new (volumeId name : String) : Volume := ⟨volumeId, name, false⟩

/-- ReadOnly configures Volume to mount as read-only. -/
def Volume.readOnly (v : Volume) : Volume := { v with isReadOnly := true }

/-- SandboxCreateParams are options for creating a sandbox. -/
structure SandboxCreateParams where
  command : List String := []
  pty : Bool := false
  cpu : F64 := 0
  cpuLimit : F64 := 0
  memoryMib : Int32 := 0
  memoryLimitMib : Int32 := 0
  gpu : String := ""
  timeoutSecs : Option UInt32 := none
  idleTimeoutSecs : Option UInt32 := none
  workdir : String := ""
  env : HashMap String String := ∅
  secrets : List Secret := []
  volumes : HashMap String Volume := ∅
  encryptedPorts : List Int32 := []
  unencryptedPorts : List Int32 := []
  blockNetwork : Bool := false
  cidrAllowlist : List String := []
  cloud : String := ""
  regions : List String := []
  name : String := ""
  customDomain : Option String := none

inductive PtyType where
  | shell
  deriving DecidableEq

/-- PTY configuration defaults. -/
structure PtyInfo where
  enabled : Bool := true
  winszRows : UInt32 := 24
  winszCols : UInt32 := 80
  envTerm : String := "xterm-256color"
  envColorterm : String := "truecolor"
  ptyType : PtyType := .shell
  noTerminateOnIdleStdin : Bool := false
  deriving DecidableEq

/-- SandboxCreateRequest proto representation. -/
structure SandboxCreateRequestProto where
  appId : String
  imageId : String
  timeoutSecs : UInt32
  ptyInfo : Option PtyInfo
  cpuMilli : UInt32
  cpuMilliMax : UInt32
  memoryMb : UInt32
  memoryMbMax : UInt32
  customDomain : Option String
  deriving DecidableEq

/-- `(cpu * 1000.0) as u32`. -/
def milli (cpu : F64) : UInt32 := F64.asU32 (F64.mul cpu 0x408F400000000000)

/-- Build sandbox create request proto. -/
def buildSandboxCreateRequestProto (appId imageId : String) (params : SandboxCreateParams) :
    Except ModalError SandboxCreateRequestProto := do
  if F64.lt params.cpu 0 then
    throw (.invalid ("the CPU request (" ++ F64.display params.cpu ++
      ") must be a positive number"))
  if params.memoryMib < 0 then
    throw (.invalid ("the MemoryMiB request (" ++ toString params.memoryMib.toInt ++
      ") must be a positive number"))
  if F64.lt 0 params.cpuLimit ∧ F64.beq params.cpu 0 then
    throw (.invalid "must also specify non-zero CPU request when CPULimit is specified")
  if F64.lt 0 params.cpuLimit ∧ F64.lt params.cpuLimit params.cpu then
    throw (.invalid ("the CPU request (" ++ F64.displayFixed 6 params.cpu ++
      ") cannot be higher than CPULimit (" ++ F64.displayFixed 6 params.cpuLimit ++ ")"))
  if params.memoryLimitMib > 0 ∧ params.memoryMib = 0 then
    throw (.invalid
      "must also specify non-zero MemoryMiB request when MemoryLimitMiB is specified")
  if params.memoryLimitMib > 0 ∧ params.memoryLimitMib < params.memoryMib then
    throw (.invalid ("the MemoryMiB request (" ++ toString params.memoryMib.toInt ++
      ") cannot be higher than MemoryLimitMiB (" ++ toString params.memoryLimitMib.toInt ++ ")"))
  pure {
    appId := appId
    imageId := imageId
    timeoutSecs := params.timeoutSecs.getD 300
    ptyInfo := if params.pty then some {} else none
    cpuMilli := milli params.cpu
    cpuMilliMax := milli params.cpuLimit
    memoryMb := params.memoryMib.toUInt32
    memoryMbMax := params.memoryLimitMib.toUInt32
    customDomain := params.customDomain }

end ModalRs
