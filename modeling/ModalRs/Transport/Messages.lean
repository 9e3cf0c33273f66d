/-
  File:      ModalRs/Transport/Messages.lean
  Subject:   The messages of the protocol, as far as the client knows them.

  A request has the fields that the client sets; it leaves all others of the
  protocol at their defaults. A response has the fields that the client reads. An
  enumeration has the values that the client names, and all others by their numbers.
-/
import Mathlib.Logic.Basic

namespace ModalRs.Pb

structure GpuConfig where
  type : Int32
  count : UInt32
  gpuType : String
  deriving DecidableEq

/-! ## 1. Sandboxes -/

structure PtyInfo where
  enabled : Bool
  winszRows : UInt32
  winszCols : UInt32
  envTerm : String
  envColorterm : String
  ptyType : Int32
  noTerminateOnIdleStdin : Bool
  deriving DecidableEq

structure NetworkAccess where
  networkAccessType : Int32
  allowedCidrs : List String
  deriving DecidableEq

structure VolumeMount where
  volumeId : String
  mountPath : String
  allowBackgroundCommits : Bool
  readOnly : Bool
  deriving DecidableEq

structure PortSpec where
  port : UInt32
  unencrypted : Bool
  tunnelType : Option Int32
  deriving DecidableEq

structure Resources where
  milliCpu : UInt32
  gpuConfig : Option GpuConfig
  memoryMb : UInt32
  milliCpuMax : UInt32
  memoryMbMax : UInt32
  deriving DecidableEq

structure SchedulerPlacement where
  regions : List String
  deriving DecidableEq

structure Sandbox where
  entrypointArgs : List String
  imageId : String
  secretIds : List String
  timeoutSecs : UInt32
  workdir : Option String
  ptyInfo : Option PtyInfo
  networkAccess : Option NetworkAccess
  volumeMounts : List VolumeMount
  resources : Option Resources
  schedulerPlacement : Option SchedulerPlacement
  cloudProviderStr : String
  customDomain : String
  openPorts : Option (List PortSpec)
  name : Option String
  deriving DecidableEq

structure SandboxCreateRequest where
  appId : String
  definition : Option Sandbox
  environmentName : String
  deriving DecidableEq

structure ContainerExecRequest where
  taskId : String
  command : List String
  ptyInfo : Option PtyInfo
  terminateContainerOnExit : Bool
  runtimeDebug : Bool
  stdoutOutput : Int32
  stderrOutput : Int32
  timeoutSecs : UInt32
  workdir : Option String
  deriving DecidableEq

/-- A `GenericResult` as the sandbox calls read it: the status by its number. -/
structure SandboxResult where
  status : Int32
  exitcode : Int32
  exception : String
  deriving DecidableEq

structure SandboxWaitResponse where
  result : Option SandboxResult
  deriving DecidableEq

structure SandboxTag where
  tagName : String
  tagValue : String
  deriving DecidableEq

/-- A timestamp is of any type: nothing is computed with it. -/
structure SandboxListRequest (T : Type) where
  appId : String
  beforeTimestamp : T
  environmentName : String
  includeFinished : Bool
  tags : List SandboxTag
  deriving DecidableEq

structure SandboxInfo (T : Type) where
  id : String
  createdAt : T
  deriving DecidableEq

structure SandboxListResponse (T : Type) where
  sandboxes : List (SandboxInfo T)
  deriving DecidableEq

/-! ## 2. Images -/

structure BaseImage where
  dockerTag : String
  imageId : String
  deriving DecidableEq

structure Image where
  dockerfileCommands : List String
  baseImages : List BaseImage
  secretIds : List String
  gpuConfig : Option GpuConfig
  deriving DecidableEq

structure ImageGetOrCreateRequest where
  image : Option Image
  appId : String
  existingImageId : String
  buildFunctionId : String
  forceBuild : Bool
  deploymentNamespace : Int32
  builderVersion : String
  allowGlobalDeployment : Bool
  ignoreCache : Bool
  deriving DecidableEq

/-- A `GenericResult` as the image calls read it: the status by its number, and the text. -/
structure ImageResult where
  status : Int32
  exception : String
  deriving DecidableEq

structure ImageGetOrCreateResponse where
  imageId : String
  result : Option ImageResult
  deriving DecidableEq

/-- The timeout is in whole seconds here. -/
structure ImageJoinStreamingRequest where
  imageId : String
  timeout : Nat
  lastEntryId : String
  includeLogsForFinished : Bool
  deriving DecidableEq

structure ImageJoinStreamingResponse where
  result : Option ImageResult
  entryId : String
  eof : Bool
  deriving DecidableEq

/-! ## 3. Functions -/

inductive DataFormat where
  | pickle | asgi | generatorDone | cbor
  | other (code : Int32)
  deriving DecidableEq

inductive FunctionCallType where
  | unary
  | other (code : Int32)
  deriving DecidableEq

inductive FunctionCallInvocationType where
  | sync
  | other (code : Int32)
  deriving DecidableEq

inductive GenericStatus where
  | success | timeout | internalFailure
  | other (code : Int32)
  deriving DecidableEq

inductive ArgsOneof where
  | args (bytes : List UInt8)
  | argsBlobId (blobId : String)
  deriving DecidableEq

structure FunctionInput where
  dataFormat : DataFormat
  argsOneof : Option ArgsOneof
  methodName : Option String
  deriving DecidableEq

structure FunctionPutInputsItem where
  idx : Int32
  input : Option FunctionInput
  deriving DecidableEq

structure FunctionPutInputsResponseItem where
  inputJwt : String
  deriving DecidableEq

structure FunctionMapResponse where
  functionCallId : String
  functionCallJwt : String
  pipelinedInputs : List FunctionPutInputsResponseItem
  deriving DecidableEq

structure FunctionRetryInputsItem where
  inputJwt : String
  input : Option FunctionInput
  retryCount : Nat
  deriving DecidableEq

structure FunctionRetryInputsResponse where
  inputJwts : List String
  deriving DecidableEq

inductive DataOneof where
  | data (bytes : List UInt8)
  | dataBlobId (blobId : String)
  deriving DecidableEq

structure GenericResult where
  status : GenericStatus
  exception : String
  dataOneof : Option DataOneof
  deriving DecidableEq

structure FunctionGetOutputsItem where
  result : Option GenericResult
  dataFormat : DataFormat
  deriving DecidableEq

structure FunctionGetOutputsResponse where
  outputs : List FunctionGetOutputsItem
  deriving DecidableEq

structure AttemptStartResponse where
  attemptToken : String
  deriving DecidableEq

structure AttemptAwaitResponse where
  output : Option FunctionGetOutputsItem
  deriving DecidableEq

structure AttemptRetryResponse where
  attemptToken : String
  deriving DecidableEq

structure BlobGetResponse where
  downloadUrl : String
  deriving DecidableEq

structure FunctionHandleMetadata where
  supportedInputFormats : List DataFormat
  webUrl : String
  useMethodName : String
  deriving DecidableEq

/-! ## 4. Class parameters -/

inductive DefaultOneof where
  | stringDefault (value : String)
  | intDefault (value : Int64)
  | boolDefault (value : Bool)
  | bytesDefault (value : List UInt8)
  | other
  deriving DecidableEq

structure ClassParameterSpec where
  name : String
  type : Int32
  hasDefault : Bool
  defaultOneof : Option DefaultOneof
  deriving DecidableEq

inductive ValueOneof where
  | stringValue (value : String)
  | intValue (value : Int64)
  | boolValue (value : Bool)
  | bytesValue (value : List UInt8)
  deriving DecidableEq

structure ClassParameterValue where
  name : String
  type : Int32
  valueOneof : Option ValueOneof
  deriving DecidableEq

structure ClassParameterSet where
  parameters : List ClassParameterValue
  deriving DecidableEq

/-! ## 5. Files -/

inductive FileExecRequestOneof where
  | fileOpenRequest (fileDescriptor : Option String) (path mode : String)
  | fileReadRequest (fileDescriptor : String) (n : Option UInt32)
  | fileReadLineRequest (fileDescriptor : String)
  | fileWriteRequest (fileDescriptor : String) (data : List UInt8)
  | fileFlushRequest (fileDescriptor : String)
  | fileSeekRequest (fileDescriptor : String) (offset whence : Int32)
  | fileCloseRequest (fileDescriptor : String)
  | fileLsRequest (path : String)
  | fileMkdirRequest (path : String) (makeParents : Bool)
  | fileRmRequest (path : String) (recursive : Bool)
  deriving DecidableEq

structure ContainerFilesystemExecRequest where
  taskId : String
  fileExecRequestOneof : Option FileExecRequestOneof
  deriving DecidableEq

structure FilesystemRuntimeOutputBatch where
  output : List (List UInt8)
  /-- The message of an error. -/
  error : Option String
  eof : Bool
  deriving DecidableEq

end ModalRs.Pb
