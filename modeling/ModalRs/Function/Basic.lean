/-
  File:      ModalRs/Function/Basic.lean
  Subject:   Functions, their inputs, and the calls of a function.

  * `Function.createInput`: arguments as an input, if the function takes them.
  * `Function.remote`: the call; `remoteLoop` awaits and retries.
-/
import ModalRs.Function.Invocation

namespace ModalRs

open ModalRs.Lib ModalRs.Rust

/-- Function references a deployed Modal Function. -/
structure Function where
  functionId : String
  handleMetadata : Option Pb.FunctionHandleMetadata
  deriving DecidableEq

namespace Function

variable {V : Type}

/-- Get the handle metadata, or return an error if not set. -/
def getHandleMetadata (f : Function) : Except ModalError Pb.FunctionHandleMetadata :=
  match f.handleMetadata with
  | some m => .ok m
  | none => .error (.other "unexpected error: function has not been hydrated")

/-- Get supported input formats from handle metadata. -/
def getSupportedInputFormats (f : Function) : List Pb.DataFormat :=
  match f.getHandleMetadata with
  | .ok m => m.supportedInputFormats
  | .error _ => []

/-- Get the web URL for this function, if it's a web endpoint. -/
def getWebUrl (f : Function) : String :=
  match f.getHandleMetadata with
  | .ok m => m.webUrl
  | .error _ => ""

/-- Check that this function is not a web endpoint. -/
def checkNoWebUrl (f : Function) (fnName : String) : Except ModalError Unit :=
  if f.getWebUrl ≠ "" then
    .error (.invalid ("A webhook Function cannot be invoked for remote execution with '" ++ fnName ++
      "'. Invoke this Function via its web url '" ++ f.getWebUrl ++ "' instead"))
  else .ok ()

/-- Create a FunctionInput from args and kwargs, serialized as CBOR. -/
def createInput (lib : Ciborium V) (f : Function) (args : List V) (kwargs : V) :
    Except ModalError Pb.FunctionInput := do
  if ¬ .cbor ∈ f.getSupportedInputFormats then
    throw (.invalid ("cannot call Modal Function from Rust SDK since it was deployed with an " ++
      "incompatible Python SDK version. Redeploy with Modal Python SDK >= 1.2"))
  let argsBytes ← cborSerialize lib args kwargs
  let metadata ← f.getHandleMetadata
  if argsBytes.length > maxObjectSizeBytes then
    throw (.other "function input exceeds max object size; blob upload not yet implemented")
  pure {
    dataFormat := .cbor
    argsOneof := some (.args argsBytes)
    methodName := if metadata.useMethodName = "" then none else some metadata.useMethodName }

/-- Await the output, and retry as long as that is an internal failure and retries are left. -/
def remoteLoop (lib : Ciborium V) (invocation : ControlPlaneInvocation) (retryCount : Nat) :
    InvocationM (InvocationResult V) :=
  (invocation.awaitOutput lib none).handle fun
    | .ok result => pure result
    | .error (.err (.internalFailure msg)) =>
        if retryCount ≤ maxSystemRetries then do
          match ← invocation.retry retryCount with
          | (.ok (), invocation) => remoteLoop lib invocation (retryCount + 1)
          | (.error e, _) => fail e
        else fail (.internalFailure msg)
    | .error e => .lift (.error e)
  termination_by maxSystemRetries + 1 - retryCount

/-- Remote executes a single input on a remote Function and waits for the result. -/
def remote (lib : Ciborium V) (f : Function) (args : List V) (kwargs : V) :
    InvocationM (InvocationResult V) := do
  Exchange.lift (answered (f.checkNoWebUrl "Remote"))
  let input ← Exchange.lift (answered (f.createInput lib args kwargs))
  let invocation ← ControlPlaneInvocation.create f.functionId input .sync
  remoteLoop lib invocation 0

end Function

end ModalRs
