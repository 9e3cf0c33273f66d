/-
  File:      ModalRs/Function/Invocation.lean
  Subject:   Invocations of a function on either plane, against any server.

  The server is a script: each answer says what it would reply to any request, and
  how far the clock moves meanwhile. The time of day that a poll carries is left out.

  * `InvocationRequest`: the RPCs and the download of a blob; `sent`: what was sent.
  * `pollFunctionOutput`, `processResult`: how an output is waited for and read.
  * `ControlPlaneInvocation`, `InputPlaneInvocation`: the invocations; `Invocation`: either.
-/
import ModalRs.Lib.Exchange
import ModalRs.Lib.Resumption
import ModalRs.Rust.Float
import ModalRs.Error
import ModalRs.Transport.Messages

namespace ModalRs

open ModalRs.Lib ModalRs.Rust

/-! ## 1. Requests and answers -/

/-- A call of the gRPC client, or of the blob downloader. -/
inductive InvocationRequest where
  | functionMap (functionId : String) (functionCallType : Pb.FunctionCallType)
      (functionCallInvocationType : Pb.FunctionCallInvocationType)
      (pipelinedInputs : List Pb.FunctionPutInputsItem)
  | functionGetOutputs (functionCallId : String) (maxValues : UInt32) (timeout : Duration)
      (lastEntryId : String) (clearOnSuccess : Bool)
  | functionRetryInputs (functionCallJwt : String) (inputs : List Pb.FunctionRetryInputsItem)
  | attemptStart (functionId : String) (input : Pb.FunctionPutInputsItem)
  | attemptAwait (attemptToken : String) (timeout : Duration)
  | attemptRetry (functionId : String) (input : Pb.FunctionPutInputsItem) (attemptToken : String)
  | blobGet (blobId : String)
  | download (url : String)
  deriving DecidableEq

abbrev InvocationRequest.Response : InvocationRequest → Type
  | .functionMap .. => Pb.FunctionMapResponse
  | .functionGetOutputs .. => Pb.FunctionGetOutputsResponse
  | .functionRetryInputs .. => Pb.FunctionRetryInputsResponse
  | .attemptStart .. => Pb.AttemptStartResponse
  | .attemptAwait .. => Pb.AttemptAwaitResponse
  | .attemptRetry .. => Pb.AttemptRetryResponse
  | .blobGet _ => Pb.BlobGetResponse
  | .download _ => List UInt8

abbrev InvocationRequest.Reply (r : InvocationRequest) : Type := Except ModalError r.Response

/-- What would be replied to any request, and how long that takes. -/
structure InvocationAnswer where
  reply : (r : InvocationRequest) → r.Reply
  took : Duration

/-- A request with its reply. -/
abbrev InvocationEvent : Type := Answered InvocationRequest InvocationRequest.Reply

/-- Why there is no value: an error, or a request that nobody has answered yet. -/
inductive Halt where
  | err (e : ModalError)
  | waiting (request : InvocationRequest)

/-- A method of an invocation. -/
abbrev InvocationM (α : Type) : Type := Exchange InvocationAnswer InvocationEvent Halt α

/-- The outcome of what was answered. -/
def answered {α : Type} : Except ModalError α → Except Halt α
  | .ok a => .ok a
  | .error e => .error (.err e)

/-- A request, and the reply as it is. -/
def InvocationRequest.call (r : InvocationRequest) : InvocationM r.Reply :=
  .ask (.waiting r) (fun a => ⟨r, a.reply r⟩) fun a => .ok (a.reply r)

/-- A request that has to succeed. -/
def InvocationRequest.require (r : InvocationRequest) : InvocationM r.Response :=
  .ask (.waiting r) (fun a => ⟨r, a.reply r⟩) fun a => answered (a.reply r)

def fail {α : Type} (e : ModalError) : InvocationM α := .lift (.error (.err e))

/-- The request that is waited for. -/
def pending {α : Type} : Except Halt α → List InvocationRequest
  | .error (.waiting r) => [r]
  | _ => []

/-- All that was sent, in order: what was answered, and what is waited for. -/
def sent {α : Type} (es : List InvocationEvent) (out : Except Halt α) : List InvocationRequest :=
  es.map (·.action) ++ pending out

/-! ## 2. Outputs -/

/-- `ciborium`, as far as the client uses it; errors are their texts. -/
structure Ciborium (V : Type) where
  array : List V → V
  intoWriter : V → Except String (List UInt8)
  fromReader : List UInt8 → Except String V

/-- Result from a successful invocation. -/
inductive InvocationResult (V : Type) where
  | cbor (value : V)
  | generatorDone (data : List UInt8)
  | null
  deriving DecidableEq

/-- Polling timeout for FunctionGetOutputs. -/
def outputsTimeout : Duration := Duration.fromSecs 55

def maxSystemRetries : Nat := 8

/-- Return the max object size for inline data: 2 MiB. -/
def maxObjectSizeBytes : Nat := 2 * 1024 * 1024

section Outputs

variable {V : Type}

/-- Serialize arguments to CBOR for function input. -/
def cborSerialize (lib : Ciborium V) (args : List V) (kwargs : V) :
    Except ModalError (List UInt8) :=
  match lib.intoWriter (lib.array [lib.array args, kwargs]) with
  | .ok buf => .ok buf
  | .error e => .error (.serialization ("failed to encode CBOR: " ++ e))

/-- Deserialize data according to its DataFormat. -/
def deserializeDataFormat (lib : Ciborium V) (data : Option (List UInt8)) :
    Pb.DataFormat → Except ModalError (InvocationResult V)
  | .cbor =>
      match data with
      | none | some [] => .ok .null
      | some bytes =>
          match lib.fromReader bytes with
          | .ok value => .ok (.cbor value)
          | .error e => .error (.serialization ("failed to decode CBOR: " ++ e))
  | .pickle => .error (.serialization
      "PICKLE output format is not supported - remote function must return CBOR format")
  | .asgi => .error (.serialization "ASGI data format is not supported in Rust")
  | .generatorDone => .ok (.generatorDone (data.getD []))
  | .other code => .error (.serialization ("unsupported data format: " ++ toString code.toInt))

/-- Download a blob by its ID: the URL from the server, then the data from the URL. -/
def blobDownload (blobId : String) : InvocationM (List UInt8) := do
  let resp ← (InvocationRequest.blobGet blobId).require
  (InvocationRequest.download resp.downloadUrl).require

/-- Extract data from either inline or blob. -/
def resultData : Option Pb.DataOneof → InvocationM (Option (List UInt8))
  | some (.data d) => pure (some d)
  | some (.dataBlobId blobId) => do
      let data ← blobDownload blobId
      pure (some data)
  | none => pure none

/-- Process the result from an invocation output. -/
def processResult (lib : Ciborium V) (result : Option Pb.GenericResult)
    (dataFormat : Pb.DataFormat) : InvocationM (InvocationResult V) :=
  match result with
  | none => fail (.remote "Received null result from invocation")
  | some result => do
      let data ← resultData result.dataOneof
      match result.status with
      | .timeout => fail (.functionTimeout result.exception)
      | .internalFailure => fail (.internalFailure result.exception)
      | .other _ => fail (.remote result.exception)
      | .success => .lift (answered (deserializeDataFormat lib data dataFormat))

/-- How an invocation asks for its output, and what it finds in the response. -/
structure GetOutput where
  request : Duration → InvocationRequest
  output : (timeout : Duration) → (request timeout).Response → Option Pb.FunctionGetOutputsItem

def timeoutExceeded (total : Duration) : ModalError :=
  .functionTimeout ("Timeout exceeded: " ++ F64.displayFixed 1 (F64.ofDuration total) ++ "s")

/-- Polls until there is an output or the time is up; `elapsed` is what has passed so far. -/
def pollOutput (getOutput : GetOutput) (timeout : Option Duration) :
    (elapsed pollTimeout : Duration) → InvocationM Pb.FunctionGetOutputsItem
  | _, pollTimeout, [] => ([], .error (.waiting (getOutput.request pollTimeout)), [])
  | elapsed, pollTimeout, a :: is =>
      let r := getOutput.request pollTimeout
      let e : InvocationEvent := ⟨r, a.reply r⟩
      match a.reply r with
      | .error err => ([e], .error (.err err), is)
      | .ok response =>
          match getOutput.output pollTimeout response, timeout with
          | some item, _ => ([e], .ok item, is)
          | none, none =>
              let (es, out, is) := pollOutput getOutput timeout (elapsed + a.took) pollTimeout is
              (e :: es, out, is)
          | none, some total =>
              let elapsed := elapsed + a.took
              if total ≤ elapsed then ([e], .error (.err (timeoutExceeded total)), is)
              else
                let (es, out, is) :=
                  pollOutput getOutput timeout elapsed (min outputsTimeout (total - elapsed)) is
                (e :: es, out, is)

/-- How a poll was answered, and how the polling goes on with the rest of the script. -/
inductive PollStep (getOutput : GetOutput) (timeout : Option Duration)
    (elapsed pollTimeout : Duration) (a : InvocationAnswer) (is : List InvocationAnswer) :
    List InvocationEvent → Except Halt Pb.FunctionGetOutputsItem → List InvocationAnswer → Prop where
  | failed (err : ModalError) (h : a.reply (getOutput.request pollTimeout) = .error err) :
      PollStep getOutput timeout elapsed pollTimeout a is [] (.error (.err err)) is
  | found (response : (getOutput.request pollTimeout).Response) (item : Pb.FunctionGetOutputsItem)
      (h : a.reply (getOutput.request pollTimeout) = .ok response)
      (hitem : getOutput.output pollTimeout response = some item) :
      PollStep getOutput timeout elapsed pollTimeout a is [] (.ok item) is
  | timedOut (total : Duration) (response : (getOutput.request pollTimeout).Response)
      (h : a.reply (getOutput.request pollTimeout) = .ok response)
      (hitem : getOutput.output pollTimeout response = none) (htimeout : timeout = some total)
      (hdue : total ≤ elapsed + a.took) :
      PollStep getOutput timeout elapsed pollTimeout a is [] (.error (.err (timeoutExceeded total)))
        is
  | again (pollTimeout' : Duration) (response : (getOutput.request pollTimeout).Response)
      (h : a.reply (getOutput.request pollTimeout) = .ok response)
      (hitem : getOutput.output pollTimeout response = none)
      (hnext : timeout = none ∧ pollTimeout' = pollTimeout ∨ ∃ total, timeout = some total ∧
        elapsed + a.took < total ∧
        pollTimeout' = min outputsTimeout (total - (elapsed + a.took)))
      {es : List InvocationEvent} {out : Except Halt Pb.FunctionGetOutputsItem}
      {rest : List InvocationAnswer}
      (hrest : pollOutput getOutput timeout (elapsed + a.took) pollTimeout' is = (es, out, rest)) :
      PollStep getOutput timeout elapsed pollTimeout a is es out rest

/-- **One poll, taken apart.** -/
theorem pollOutput_cons {g : GetOutput} {timeout : Option Duration} {elapsed pollTimeout : Duration}
    {a : InvocationAnswer} {is rest : List InvocationAnswer} {es : List InvocationEvent}
    {out : Except Halt Pb.FunctionGetOutputsItem}
    (h : pollOutput g timeout elapsed pollTimeout (a :: is) = (es, out, rest)) :
    ∃ es', es = ⟨g.request pollTimeout, a.reply (g.request pollTimeout)⟩ :: es' ∧
      PollStep g timeout elapsed pollTimeout a is es' out rest := by
  unfold pollOutput at h
  cases hreply : a.reply (g.request pollTimeout) with
  | error err =>
    simp only [hreply] at h
    cases h
    exact ⟨[], rfl, .failed err hreply⟩
  | ok response =>
    simp only [hreply] at h
    cases hitem : g.output pollTimeout response with
    | some item =>
      simp only [hitem] at h
      cases h
      exact ⟨[], rfl, .found response item hreply hitem⟩
    | none =>
      cases timeout with
      | none =>
        rcases hrest : pollOutput g none (elapsed + a.took) pollTimeout is with ⟨es', out', rest'⟩
        simp only [hitem, hrest] at h
        cases h
        exact ⟨es', rfl, .again pollTimeout response hreply hitem (Or.inl ⟨rfl, rfl⟩) hrest⟩
      | some total =>
        by_cases hdue : total ≤ elapsed + a.took
        · simp only [hitem, if_pos hdue] at h
          cases h
          exact ⟨[], rfl, .timedOut total response hreply hitem rfl hdue⟩
        · rcases hrest : pollOutput g (some total) (elapsed + a.took)
            (min outputsTimeout (total - (elapsed + a.took))) is with ⟨es', out', rest'⟩
          simp only [hitem, if_neg hdue, hrest] at h
          cases h
          exact ⟨es', rfl, .again _ response hreply hitem
            (Or.inr ⟨total, rfl, Nat.lt_of_not_le hdue, rfl⟩) hrest⟩

/-- Poll for function output, retrying on empty results until timeout. -/
def pollFunctionOutput (lib : Ciborium V) (getOutput : GetOutput) (timeout : Option Duration) :
    InvocationM (InvocationResult V) := do
  let pollTimeout := match timeout with
    | some t => min t outputsTimeout
    | none => outputsTimeout
  let item ← pollOutput getOutput timeout 0 pollTimeout
  processResult lib item.result item.dataFormat

end Outputs

/-! ## 3. The control plane -/

/-- Control plane invocation — routes through the Modal control plane. -/
structure ControlPlaneInvocation where
  functionCallId : String
  input : Option Pb.FunctionInput
  functionCallJwt : String
  inputJwt : String
  deriving DecidableEq

namespace ControlPlaneInvocation

/-- The token of the first input of a new call. -/
def firstInputJwt (response : Pb.FunctionMapResponse) : String :=
  (response.pipelinedInputs.head?.map (·.inputJwt)).getD ""

/-- Create a control plane invocation by calling FunctionMap. -/
def create (functionId : String) (input : Pb.FunctionInput)
    (invocationType : Pb.FunctionCallInvocationType) : InvocationM ControlPlaneInvocation := do
  let item : Pb.FunctionPutInputsItem := ⟨0, some input⟩
  let response ←
    (InvocationRequest.functionMap functionId .unary invocationType [item]).require
  pure ⟨response.functionCallId, some input, response.functionCallJwt, firstInputJwt response⟩

/-- Create from an existing function call ID. -/
def fromFunctionCallId (functionCallId : String) : ControlPlaneInvocation :=
  ⟨functionCallId, none, "", ""⟩

def getOutput (functionCallId : String) : GetOutput where
  request timeout := .functionGetOutputs functionCallId 1 timeout "0-0" true
  output _ response := response.outputs.head?

/-- Wait for the function output, with an optional timeout. -/
def awaitOutput {V : Type} (lib : Ciborium V) (inv : ControlPlaneInvocation)
    (timeout : Option Duration) : InvocationM (InvocationResult V) :=
  pollFunctionOutput lib (getOutput inv.functionCallId) timeout

/-- With the token of a retry's response, if it has one. -/
def renew (inv : ControlPlaneInvocation) (response : Pb.FunctionRetryInputsResponse) :
    ControlPlaneInvocation :=
  match response.inputJwts.head? with
  | some jwt => { inv with inputJwt := jwt }
  | none => inv

/-- Retry the invocation: the outcome, and the invocation behind it. -/
def retry (inv : ControlPlaneInvocation) (retryCount : Nat) :
    InvocationM (Except ModalError Unit × ControlPlaneInvocation) :=
  match inv.input with
  | none => pure (.error (.other "cannot retry Function invocation - input missing"), inv)
  | some input => do
      let retryItem : Pb.FunctionRetryInputsItem := ⟨inv.inputJwt, some input, retryCount⟩
      match ← (InvocationRequest.functionRetryInputs inv.functionCallJwt [retryItem]).call with
      | .error e => pure (.error e, inv)
      | .ok response => pure (.ok (), inv.renew response)

end ControlPlaneInvocation

/-! ## 4. The input plane -/

/-- Input plane invocation — routes through the Modal input plane for lower latency. -/
structure InputPlaneInvocation where
  functionId : String
  input : Pb.FunctionPutInputsItem
  attemptToken : String
  deriving DecidableEq

namespace InputPlaneInvocation

/-- Create an input plane invocation by calling AttemptStart. -/
def create (functionId : String) (input : Pb.FunctionInput) :
    InvocationM InputPlaneInvocation := do
  let item : Pb.FunctionPutInputsItem := ⟨0, some input⟩
  let response ← (InvocationRequest.attemptStart functionId item).require
  pure ⟨functionId, item, response.attemptToken⟩

def getOutput (attemptToken : String) : GetOutput where
  request timeout := .attemptAwait attemptToken timeout
  output _ resp := resp.output

/-- Wait for the function output, with an optional timeout. -/
def awaitOutput {V : Type} (lib : Ciborium V) (inv : InputPlaneInvocation)
    (timeout : Option Duration) : InvocationM (InvocationResult V) :=
  pollFunctionOutput lib (getOutput inv.attemptToken) timeout

/-- Retry the invocation: the outcome, and the invocation behind it. -/
def retry (inv : InputPlaneInvocation) (_retryCount : Nat) :
    InvocationM (Except ModalError Unit × InputPlaneInvocation) := do
  match ← (InvocationRequest.attemptRetry inv.functionId inv.input inv.attemptToken).call with
  | .error e => pure (.error e, inv)
  | .ok resp => pure (.ok (), { inv with attemptToken := resp.attemptToken })

end InputPlaneInvocation

/-! ## 5. Either plane -/

/-- The implementations of the trait `Invocation`. -/
inductive Invocation where
  | controlPlane (inv : ControlPlaneInvocation)
  | inputPlane (inv : InputPlaneInvocation)
  deriving DecidableEq

namespace Invocation

def getOutput : Invocation → GetOutput
  | .controlPlane inv => ControlPlaneInvocation.getOutput inv.functionCallId
  | .inputPlane inv => InputPlaneInvocation.getOutput inv.attemptToken

def awaitOutput {V : Type} (lib : Ciborium V) :
    Invocation → Option Duration → InvocationM (InvocationResult V)
  | .controlPlane inv, timeout => inv.awaitOutput lib timeout
  | .inputPlane inv, timeout => inv.awaitOutput lib timeout

/-- Both poll, each with its own request. -/
theorem awaitOutput_eq {V : Type} (lib : Ciborium V) (inv : Invocation)
    (timeout : Option Duration) :
    inv.awaitOutput lib timeout = pollFunctionOutput lib inv.getOutput timeout := by
  cases inv <;> rfl

/-- Retry the invocation: the outcome, and the invocation behind it. -/
def retry : Invocation → Nat → InvocationM (Except ModalError Unit × Invocation)
  | .controlPlane inv, retryCount => do
      let (r, inv) ← inv.retry retryCount
      pure (r, .controlPlane inv)
  | .inputPlane inv, retryCount => do
      let (r, inv) ← inv.retry retryCount
      pure (r, .inputPlane inv)

end Invocation

end ModalRs
