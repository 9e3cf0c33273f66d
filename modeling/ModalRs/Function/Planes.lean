/-
  File:      ModalRs/Function/Planes.lean
  Subject:   The input plane agrees with the control plane.

  The input plane is the faster way to call a function. It has requests of its own for
  each that the control plane has, and tokens of its own.

  * `Counterpart`: the request of the input plane for one of the control plane.
  * `AnswersAlike`: servers whose replies to counterparts say the same.
  * `lockstep_pollOutput`, `lockstep_retry`: the parts of an invocation go in lockstep.
  * `planes_agree`: so do whole sessions, with the same results and the same polls.
-/
import ModalRs.Function.Session
import ModalRs.Lib.Lockstep

namespace ModalRs

open ModalRs.Lib ModalRs.Lib.Exchange ModalRs.Rust

/-! ## 1. Requests and replies that say the same -/

/-- The request of the input plane for one of the control plane: the same function and input, the
    same time to wait, whatever the tokens. The requests for blobs are the same. -/
inductive Counterpart : InvocationRequest → InvocationRequest → Prop where
  | start (functionId : String) (invocationType : Pb.FunctionCallInvocationType)
      (item : Pb.FunctionPutInputsItem) :
      Counterpart (.functionMap functionId .unary invocationType [item])
        (.attemptStart functionId item)
  | await (functionCallId attemptToken : String) (timeout : Duration) :
      Counterpart (.functionGetOutputs functionCallId 1 timeout "0-0" true)
        (.attemptAwait attemptToken timeout)
  | retry (functionCallJwt inputJwt functionId attemptToken : String) (input : Pb.FunctionInput)
      (retryCount : Nat) :
      Counterpart (.functionRetryInputs functionCallJwt [⟨inputJwt, some input, retryCount⟩])
        (.attemptRetry functionId ⟨0, some input⟩ attemptToken)
  | blobGet (blobId : String) : Counterpart (.blobGet blobId) (.blobGet blobId)
  | download (url : String) : Counterpart (.download url) (.download url)

/-- Responses that say the same: the first output, or the same blob. The others bring tokens. -/
def ResponsesAlike : (r r' : InvocationRequest) → r.Response → r'.Response → Prop
  | .functionGetOutputs .., .attemptAwait .., response, resp => response.outputs.head? = resp.output
  | .blobGet _, .blobGet _, response, resp => response = resp
  | .download _, .download _, data, data' => data = data'
  | _, _, _, _ => True

/-- Replies that say the same, or the same error. -/
def RepliesAlike (r r' : InvocationRequest) : r.Reply → r'.Reply → Prop :=
  Alike (· = ·) (ResponsesAlike r r')

/-- Answers that take the same time, and say the same to counterparts. -/
def AnswersAlike (a a' : InvocationAnswer) : Prop :=
  a.took = a'.took ∧ ∀ r r', Counterpart r r' → RepliesAlike r r' (a.reply r) (a'.reply r')

def EventsAlike (e e' : InvocationEvent) : Prop :=
  Counterpart e.action e'.action ∧ RepliesAlike e.action e'.action e.reply e'.reply

/-- The same error, or counterparts that are waited for. -/
def HaltsAlike : Halt → Halt → Prop
  | .err e, .err e' => e = e'
  | .waiting r, .waiting r' => Counterpart r r'
  | _, _ => False

/-- An invocation of each plane, with the same input. -/
def InvocationsAlike : Invocation → Invocation → Prop
  | .controlPlane inv, .inputPlane inv' =>
      ∃ input, inv.input = some input ∧ inv'.input = ⟨0, some input⟩
  | _, _ => False

/-- Two parts of an invocation in lockstep, one on each plane. -/
abbrev PlanesAgree {α α' : Type} (val : α → α' → Prop) :
    InvocationM α → InvocationM α' → Prop :=
  Lockstep AnswersAlike EventsAlike HaltsAlike val

/-! ## 2. The parts of an invocation -/

section Parts

variable {r r' : InvocationRequest}

theorem lockstep_call (h : Counterpart r r') :
    PlanesAgree (RepliesAlike r r') r.call r'.call :=
  .ask h fun _ _ ha => ⟨⟨h, ha.2 r r' h⟩, .ok (ha.2 r r' h)⟩

theorem lockstep_require (h : Counterpart r r') :
    PlanesAgree (ResponsesAlike r r') r.require r'.require := by
  refine .ask h fun a a' ha => ⟨⟨h, ha.2 r r' h⟩, ?_⟩
  have hreply := ha.2 r r' h
  generalize a.reply r = reply at hreply
  generalize a'.reply r' = reply' at hreply
  cases hreply with
  | error he => exact .error he
  | ok hresponse => exact .ok hresponse

theorem lockstep_answered {α : Type} (x : Except ModalError α) :
    PlanesAgree (· = ·) (Exchange.lift (answered x)) (Exchange.lift (answered x)) := by
  refine .lift ?_
  cases x with
  | error e => exact .error rfl
  | ok a => exact .ok rfl

theorem lockstep_fail {α : Type} (e : ModalError) :
    PlanesAgree (· = ·) (fail e : InvocationM α) (fail e) := .lift (.error rfl)

theorem lockstep_blobDownload (blobId : String) :
    PlanesAgree (· = ·) (blobDownload blobId) (blobDownload blobId) := by
  refine .bind (lockstep_require (.blobGet blobId)) fun resp resp' h => ?_
  have heq : resp = resp' := h
  rw [heq]
  exact lockstep_require (.download resp'.downloadUrl)

theorem lockstep_resultData (data : Option Pb.DataOneof) :
    PlanesAgree (· = ·) (resultData data) (resultData data) := by
  match data with
  | none => exact .pure rfl
  | some (.data d) => exact .pure rfl
  | some (.dataBlobId blobId) =>
    refine .bind (lockstep_blobDownload blobId) fun d d' h => ?_
    rw [h]
    exact .pure rfl

variable {V : Type} (lib : Ciborium V)

theorem lockstep_processResult (result : Option Pb.GenericResult) (dataFormat : Pb.DataFormat) :
    PlanesAgree (· = ·) (processResult lib result dataFormat)
      (processResult lib result dataFormat) := by
  cases result with
  | none => exact lockstep_fail _
  | some result =>
    refine .bind (lockstep_resultData result.dataOneof) fun d d' h => ?_
    rw [h]
    cases result.status with
    | timeout => exact lockstep_fail _
    | internalFailure => exact lockstep_fail _
    | other code => exact lockstep_fail _
    | success => exact lockstep_answered _

/-- Two ways to ask for an output that are counterparts. -/
structure GetOutput.Alike (g g' : GetOutput) : Prop where
  request : ∀ t, Counterpart (g.request t) (g'.request t)
  output : ∀ t response resp, ResponsesAlike (g.request t) (g'.request t) response resp →
    g.output t response = g'.output t resp

/-- **The polls go in lockstep**: an output ends both, and so does the deadline. -/
theorem lockstep_pollOutput {g g' : GetOutput} (hg : g.Alike g') (timeout : Option Duration)
    (elapsed pollTimeout : Duration) :
    PlanesAgree (· = ·) (pollOutput g timeout elapsed pollTimeout)
      (pollOutput g' timeout elapsed pollTimeout) := by
  intro is is' hs
  induction hs generalizing elapsed pollTimeout with
  | nil => exact ⟨.nil, .error (hg.request pollTimeout), .nil⟩
  | @cons a a' is is' ha hs ih =>
    have hreply := ha.2 _ _ (hg.request pollTimeout)
    have hevent : EventsAlike ⟨g.request pollTimeout, a.reply _⟩
        ⟨g'.request pollTimeout, a'.reply _⟩ := ⟨hg.request pollTimeout, hreply⟩
    have hoccurs := hg.output pollTimeout
    unfold pollOutput
    simp only []
    generalize a.reply (g.request pollTimeout) = reply at hreply hevent ⊢
    generalize a'.reply (g'.request pollTimeout) = reply' at hreply hevent ⊢
    cases hreply with
    | error he => exact ⟨.cons hevent .nil, .error he, hs⟩
    | @ok response resp hresponse =>
      simp only [hoccurs response resp hresponse, ← ha.1]
      cases g'.output pollTimeout resp with
      | some item => exact ⟨.cons hevent .nil, .ok rfl, hs⟩
      | none =>
        cases timeout with
        | none =>
          obtain ⟨hes, hout, hrest⟩ := ih (elapsed + a.took) pollTimeout
          exact ⟨.cons hevent hes, hout, hrest⟩
        | some total =>
          by_cases hdue : total ≤ elapsed + a.took
          · simp only [if_pos hdue]
            exact ⟨.cons hevent .nil, .error rfl, hs⟩
          · simp only [if_neg hdue]
            obtain ⟨hes, hout, hrest⟩ :=
              ih (elapsed + a.took) (min outputsTimeout (total - (elapsed + a.took)))
            exact ⟨.cons hevent hes, hout, hrest⟩

theorem getOutput_alike (functionCallId attemptToken : String) :
    (ControlPlaneInvocation.getOutput functionCallId).Alike
      (InputPlaneInvocation.getOutput attemptToken) where
  request t := .await functionCallId attemptToken t
  output _ _ _ h := h

theorem lockstep_awaitOutput {inv inv' : Invocation} (h : InvocationsAlike inv inv')
    (timeout : Option Duration) :
    PlanesAgree (· = ·) (inv.awaitOutput lib timeout) (inv'.awaitOutput lib timeout) := by
  cases inv with
  | inputPlane inv => exact h.elim
  | controlPlane inv =>
    cases inv' with
    | controlPlane inv' => exact h.elim
    | inputPlane inv' =>
      refine .bind (lockstep_pollOutput (getOutput_alike _ _) timeout 0 _)
        fun item item' hitem => ?_
      rw [hitem]
      exact lockstep_processResult lib item'.result item'.dataFormat

/-- **The retries go in lockstep**: both succeed, each with its own new token, or both fail. -/
theorem lockstep_retry {inv inv' : Invocation} (h : InvocationsAlike inv inv') (retryCount : Nat) :
    PlanesAgree (fun x x' => x.1 = x'.1 ∧ InvocationsAlike x.2 x'.2)
      (inv.retry retryCount) (inv'.retry retryCount) := by
  cases inv with
  | inputPlane inv => exact h.elim
  | controlPlane inv =>
    cases inv' with
    | controlPlane inv' => exact h.elim
    | inputPlane inv' =>
      obtain ⟨input, hinput, hinput'⟩ := h
      have hown : PlanesAgree (fun x x' => x.1 = x'.1 ∧ x.2.input = some input ∧
          x'.2.input = ⟨0, some input⟩) (inv.retry retryCount) (inv'.retry retryCount) := by
        rw [ControlPlaneInvocation.retry, InputPlaneInvocation.retry, hinput, hinput']
        refine .bind (lockstep_call (.retry _ _ _ _ input retryCount))
          fun reply reply' hreply => ?_
        cases hreply with
        | @error e e' he =>
          have heq : e = e' := he
          rw [heq]
          exact .pure ⟨rfl, hinput, hinput'⟩
        | @ok response resp _ =>
          exact .pure ⟨rfl, (renew_input inv response).trans hinput, rfl⟩
      exact .bind hown fun x x' hx => .pure ⟨hx.1, input, hx.2⟩

end Parts

/-! ## 3. Sessions -/

section Sessions

variable {V : Type} (lib : Ciborium V)

/-- Two outcomes of a session that are the same, up to the tokens. -/
abbrev SameResults {R : Type} (x x' : R × Invocation) : Prop :=
  x.1 = x'.1 ∧ InvocationsAlike x.2 x'.2

theorem lockstep_perform {inv inv' : Invocation} (h : InvocationsAlike inv inv')
    (op : InvocationOp) :
    PlanesAgree SameResults (inv.perform lib op) (inv'.perform lib op) := by
  cases op with
  | await timeout =>
    refine .handle (lockstep_awaitOutput lib h timeout) fun out out' hout => ?_
    cases hout with
    | ok hresult =>
      rw [hresult]
      exact .pure ⟨rfl, h⟩
    | @error halt halt' hhalt =>
      match halt, halt', hhalt with
      | .err e, .err _, rfl => exact .pure ⟨rfl, h⟩
      | .waiting r, .waiting r', hr => exact .lift (.error hr)
  | retry retryCount =>
    refine .bind (lockstep_retry h retryCount) fun x x' hx => ?_
    obtain ⟨r, inv⟩ := x
    obtain ⟨r', inv'⟩ := x'
    exact .pure ⟨congrArg InvocationOutcome.retried hx.1, hx.2⟩

theorem lockstep_performAll (ops : List InvocationOp) {inv inv' : Invocation}
    (h : InvocationsAlike inv inv') :
    PlanesAgree SameResults (inv.performAll lib ops) (inv'.performAll lib ops) := by
  induction ops generalizing inv inv' with
  | nil => exact .pure ⟨rfl, h⟩
  | cons op ops ih =>
    refine .bind (lockstep_perform lib h op) fun x x' hx => ?_
    obtain ⟨outcome, inv⟩ := x
    obtain ⟨outcome', inv'⟩ := x'
    refine .bind (ih hx.2) fun xs xs' hxs => ?_
    obtain ⟨outcomes, inv⟩ := xs
    obtain ⟨outcomes', inv'⟩ := xs'
    exact .pure ⟨congrArg₂ List.cons hx.1 hxs.1, hxs.2⟩

variable (functionId : String) (input : Pb.FunctionInput)
  (invocationType : Pb.FunctionCallInvocationType)

theorem lockstep_create :
    PlanesAgree InvocationsAlike
      (InvocationStart.controlPlane functionId input invocationType).create
      (InvocationStart.inputPlane functionId input).create := by
  refine .bind (.bind (lockstep_require (.start functionId invocationType ⟨0, some input⟩))
    fun response resp _ => ?_) fun inv inv' hinv => .pure hinv
  exact .pure ⟨input, rfl, rfl⟩

/-- **The planes agree**: with servers that say the same, a session on the input plane sends the
    counterpart of each request that one on the control plane sends, waits as long, and comes to the
    same results. -/
theorem planes_agree {ops : List InvocationOp} {script script' : List InvocationAnswer}
    (h : List.Forall₂ AnswersAlike script script') :
    List.Forall₂ EventsAlike
        (invocationSession lib (.controlPlane functionId input invocationType) ops script).1
        (invocationSession lib (.inputPlane functionId input) ops script').1 ∧
      Alike HaltsAlike SameResults
        (invocationSession lib (.controlPlane functionId input invocationType) ops script).2.1
        (invocationSession lib (.inputPlane functionId input) ops script').2.1 := by
  have hsessions := Lockstep.bind (lockstep_create functionId input invocationType)
    fun inv inv' hinv => lockstep_performAll lib ops hinv
  obtain ⟨hevents, hout, -⟩ := hsessions script script' h
  exact ⟨hevents, hout⟩

end Sessions

/-- The input plane of `outputServer`. -/
def attemptServer (status : Pb.GenericStatus) (data : List UInt8) : InvocationAnswer where
  took := 0
  reply
    | .attemptStart .. => .ok ⟨"attempt-1"⟩
    | .attemptAwait .. => .ok ⟨some ⟨some ⟨status, "worker lost", some (.data data)⟩, .cbor⟩⟩
    | .attemptRetry .. => .ok ⟨"attempt-2"⟩
    | _ => .error (.other "unexpected")

theorem outputServer_alike (status : Pb.GenericStatus) (data : List UInt8) :
    AnswersAlike (outputServer status data) (attemptServer status data) := by
  refine ⟨rfl, fun r r' h => ?_⟩
  cases h with
  | start functionId invocationType item => exact .ok trivial
  | await functionCallId attemptToken timeout => exact .ok rfl
  | retry functionCallJwt inputJwt functionId attemptToken input retryCount => exact .ok trivial
  | blobGet blobId => exact .error rfl
  | download url => exact .error rfl

/-- An output that is lost, a retry, and the next output: both planes come to it. -/
theorem planes_agree_retried :
    let input : Pb.FunctionInput := ⟨.cbor, some (.args [0x82, 0x80, 0xA0]), none⟩
    let ops : List InvocationOp := [.await none, .retry 0, .await none]
    let control := invocationSession encodedCbor (.controlPlane "fu-1" input .sync) ops
      [outputServer .success [], outputServer .internalFailure [], outputServer .success [],
        outputServer .success [7]]
    let attempts := invocationSession encodedCbor (.inputPlane "fu-1" input) ops
      [attemptServer .success [], attemptServer .internalFailure [], attemptServer .success [],
        attemptServer .success [7]]
    List.Forall₂ EventsAlike control.1 attempts.1 ∧
      Alike HaltsAlike SameResults control.2.1 attempts.2.1 := by
  intro input ops control attempts
  exact planes_agree encodedCbor "fu-1" input .sync
    (.cons (outputServer_alike _ _) (.cons (outputServer_alike _ _)
      (.cons (outputServer_alike _ _) (.cons (outputServer_alike _ _) .nil))))

end ModalRs
