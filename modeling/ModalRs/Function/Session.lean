/-
  File:      ModalRs/Function/Session.lean
  Subject:   An invocation in use: awaits and retries in any order, against any server.

  * `InvocationStart`: how an invocation comes about. `InvocationOp`: a method of it.
  * `invocationSession`: the methods one after the other, whatever their outcomes.
  * `InvocationStart.held`: the invocation, as the log gives it: the start, and the tokens
    that were replied last.
  * `InProgress`: the method that sends a request. `Due`: the requests that may come behind a
    log while a method is in progress. `invocationSession_due`: no others do.
-/
import ModalRs.Function.Remote
import ModalRs.Lib.History

namespace ModalRs

open ModalRs.Lib ModalRs.Rust

/-! ## 1. Sessions -/

/-- How an invocation comes about. -/
inductive InvocationStart where
  | controlPlane (functionId : String) (input : Pb.FunctionInput)
      (invocationType : Pb.FunctionCallInvocationType)
  | functionCall (functionCallId : String)
  | inputPlane (functionId : String) (input : Pb.FunctionInput)

/-- A method of an invocation. -/
inductive InvocationOp where
  | await (timeout : Option Duration)
  | retry (retryCount : Nat)

/-- What a method returns. -/
inductive InvocationOutcome (V : Type) where
  | awaited (result : Except ModalError (InvocationResult V))
  | retried (result : Except ModalError Unit)

def InvocationStart.create : InvocationStart → InvocationM Invocation
  | .controlPlane functionId input invocationType => do
      let inv ← ControlPlaneInvocation.create functionId input invocationType
      pure (.controlPlane inv)
  | .functionCall functionCallId =>
      pure (.controlPlane (.fromFunctionCallId functionCallId))
  | .inputPlane functionId input => do
      let inv ← InputPlaneInvocation.create functionId input
      pure (.inputPlane inv)

section Sessions

variable {V : Type} (lib : Ciborium V)

/-- One method. An await borrows the invocation; its failure is an outcome like any other. -/
def Invocation.perform (inv : Invocation) :
    InvocationOp → InvocationM (InvocationOutcome V × Invocation)
  | .await timeout =>
      (inv.awaitOutput lib timeout).handle fun
        | .ok result => pure (.awaited (.ok result), inv)
        | .error (.err e) => pure (.awaited (.error e), inv)
        | .error (.waiting r) => .lift (.error (.waiting r))
  | .retry retryCount => do
      let (r, inv) ← inv.retry retryCount
      pure (.retried r, inv)

/-- Methods one after the other: what they return, and the invocation in the end. -/
def Invocation.performAll :
    List InvocationOp → Invocation → InvocationM (List (InvocationOutcome V) × Invocation)
  | [], inv => pure ([], inv)
  | op :: ops, inv => do
      let (outcome, inv) ← inv.perform lib op
      let (outcomes, inv) ← performAll ops inv
      pure (outcome :: outcomes, inv)

/-- An invocation from its start on. -/
def invocationSession (start : InvocationStart) (ops : List InvocationOp) :
    InvocationM (List (InvocationOutcome V) × Invocation) := do
  let inv ← start.create
  inv.performAll lib ops

/-- Run on `script`, the part `m` sends `r` when its own log is `own`. -/
def Sends {α : Type} (m : InvocationM α) (script : List InvocationAnswer)
    (own : List InvocationEvent) (r : InvocationRequest) : Prop :=
  ∃ es out rest k, m script = (es, out, rest) ∧ (sent es out)[k]? = some r ∧ own = es.take k

/-- What is in progress when a session sends `r` behind the log `past`: a method, or the start. The
    methods before it have come to their ends, and it goes on with the replies they have left. -/
inductive InProgress (start : InvocationStart) (ops : List InvocationOp)
    (script : List InvocationAnswer) (past : List InvocationEvent) (r : InvocationRequest) :
    Option InvocationOp → Prop where
  | start (h : Sends start.create script past r) : InProgress start ops script past r none
  | method {before after : List InvocationOp} {op : InvocationOp}
      {outcomes : List (InvocationOutcome V)} {inv : Invocation} {done own : List InvocationEvent}
      {rest : List InvocationAnswer} (hops : ops = before ++ op :: after)
      (hdone : invocationSession lib start before script = (done, .ok (outcomes, inv), rest))
      (hpast : past = done ++ own) (h : Sends (inv.perform lib op) rest own r) :
      InProgress start ops script past r (some op)

end Sessions

/-! ## 2. What the log says -/

/-- The request that starts an invocation, if one does. -/
def InvocationStart.request : InvocationStart → Option InvocationRequest
  | .controlPlane functionId input invocationType =>
      some (.functionMap functionId .unary invocationType [⟨0, some input⟩])
  | .functionCall _ => none
  | .inputPlane functionId input => some (.attemptStart functionId ⟨0, some input⟩)

/-- The token of an attempt, if a reply brings one. -/
def attemptToken? : InvocationEvent → Option String
  | ⟨.attemptStart .., .ok response⟩ => some response.attemptToken
  | ⟨.attemptRetry .., .ok resp⟩ => some resp.attemptToken
  | _ => none

/-- The latest of these tokens. -/
def latestAttempt (past : List InvocationEvent) : Option String :=
  (past.filterMap attemptToken?).getLast?

/-- The reply to a function map. -/
def mapped? : InvocationEvent → Option Pb.FunctionMapResponse
  | ⟨.functionMap .., .ok m⟩ => some m
  | _ => none

/-- The invocation, as the log gives it. -/
def InvocationStart.held : InvocationStart → List InvocationEvent → Option Invocation
  | .controlPlane _ input _, past =>
      (past.head?.bind mapped?).map fun m => .controlPlane { m.invocation input with
        inputJwt := latestJwt (ControlPlaneInvocation.firstInputJwt m) (retryReplies past) }
  | .functionCall functionCallId, past =>
      some (.controlPlane { ControlPlaneInvocation.fromFunctionCallId functionCallId with
        inputJwt := latestJwt "" (retryReplies past) })
  | .inputPlane functionId input, past =>
      (latestAttempt past).map fun token => .inputPlane ⟨functionId, ⟨0, some input⟩, token⟩

/-- The request of a retry; an invocation without its input cannot be retried. -/
def Invocation.retryRequest : Invocation → Nat → Option InvocationRequest
  | .controlPlane inv, retryCount =>
      inv.input.map fun input => (inv.dueRetry input retryCount).request
  | .inputPlane inv, _ => some (.attemptRetry inv.functionId inv.input inv.attemptToken)

/-- The blob that an output is in, if a reply brings such an output. -/
def blobOf (e : InvocationEvent) : Option String :=
  match (outputOf e).bind (·.result) with
  | some result =>
      match result.dataOneof with
      | some (.dataBlobId blobId) => some blobId
      | _ => none
  | none => none

/-- A poll within the time of an await. -/
def InWindow (timeout : Option Duration) (t : Duration) : Prop :=
  t ≤ outputsTimeout ∧ ∀ total, timeout = some total → t ≤ total

/-- The requests that may come behind the log `past`, while a method or the start is in progress. -/
inductive Due (start : InvocationStart) (past : List InvocationEvent) :
    Option InvocationOp → InvocationRequest → Prop where
  | start (r : InvocationRequest) (hpast : past = []) (h : start.request = some r) :
      Due start past none r
  | poll (timeout : Option Duration) (inv : Invocation) (t : Duration)
      (h : start.held past = some inv) (ht : InWindow timeout t) :
      Due start past (some (.await timeout)) (inv.getOutput.request t)
  | retry (retryCount : Nat) (inv : Invocation) (r : InvocationRequest)
      (h : start.held past = some inv) (hr : inv.retryRequest retryCount = some r) :
      Due start past (some (.retry retryCount)) r
  | blob (timeout : Option Duration) (e : InvocationEvent) (blobId : String)
      (hlast : past.getLast? = some e) (h : blobOf e = some blobId) :
      Due start past (some (.await timeout)) (.blobGet blobId)
  | download (timeout : Option Duration) (blobId : String) (response : Pb.BlobGetResponse)
      (hlast : past.getLast? = some ⟨.blobGet blobId, .ok response⟩) :
      Due start past (some (.await timeout)) (.download response.downloadUrl)

/-! ## 3. How an event changes what is held -/

/-- The invocation behind an event. -/
def Invocation.after (e : InvocationEvent) : Invocation → Invocation
  | .controlPlane inv =>
      .controlPlane { inv with inputJwt := ((retryReply? e).bind newJwt).getD inv.inputJwt }
  | .inputPlane inv =>
      .inputPlane { inv with attemptToken := (attemptToken? e).getD inv.attemptToken }

theorem latestJwt_snoc (inputJwt : String) (past : List InvocationEvent) (e : InvocationEvent) :
    latestJwt inputJwt (retryReplies (past ++ [e])) =
      ((retryReply? e).bind newJwt).getD (latestJwt inputJwt (retryReplies past)) := by
  unfold latestJwt retryReplies
  rw [List.filterMap_append, List.filterMap_append, List.getLast?_append]
  cases hreply : retryReply? e with
  | none =>
    rw [List.filterMap_cons_none hreply]
    rfl
  | some reply =>
    rw [List.filterMap_cons_some hreply, Option.bind_some]
    cases hjwt : newJwt reply with
    | none =>
      rw [List.filterMap_nil, List.filterMap_cons_none hjwt]
      rfl
    | some jwt =>
      rw [List.filterMap_nil, List.filterMap_cons_some hjwt]
      rfl

theorem latestAttempt_snoc (past : List InvocationEvent) (e : InvocationEvent) :
    latestAttempt (past ++ [e]) = (attemptToken? e).or (latestAttempt past) := by
  unfold latestAttempt
  rw [List.filterMap_append, List.getLast?_append]
  cases htoken : attemptToken? e with
  | none =>
    rw [List.filterMap_cons_none htoken]
    rfl
  | some token =>
    rw [List.filterMap_cons_some htoken]
    rfl

theorem mapped_append {past : List InvocationEvent} {m : Pb.FunctionMapResponse}
    (h : past.head?.bind mapped? = some m) (e : InvocationEvent) :
    (past ++ [e]).head?.bind mapped? = some m := by
  cases past with
  | nil => cases h
  | cons first past => exact h

/-- **An event changes what is held** by the token that it brings, and by nothing else. -/
theorem held_snoc {start : InvocationStart} {past : List InvocationEvent} {inv : Invocation}
    (h : start.held past = some inv) (e : InvocationEvent) :
    start.held (past ++ [e]) = some (inv.after e) := by
  cases start with
  | controlPlane functionId input invocationType =>
    obtain ⟨m, hm, rfl⟩ := Option.map_eq_some_iff.mp h
    rw [InvocationStart.held, mapped_append hm, Option.map_some, latestJwt_snoc]
    rfl
  | functionCall functionCallId =>
    cases h
    rw [InvocationStart.held, latestJwt_snoc]
    rfl
  | inputPlane functionId input =>
    obtain ⟨token, htoken, rfl⟩ := Option.map_eq_some_iff.mp h
    rw [InvocationStart.held, latestAttempt_snoc, htoken, Option.or_some, Option.map_some]
    rfl

/-- An await changes nothing. -/
theorem after_awaits {e : InvocationEvent} (h : e.action.Awaits) (inv : Invocation) :
    inv.after e = inv := by
  obtain ⟨r, reply⟩ := e
  cases r with
  | functionGetOutputs | attemptAwait | blobGet | download => cases inv <;> rfl
  | functionMap | functionRetryInputs | attemptStart | attemptRetry => exact h.elim

theorem held_awaits {start : InvocationStart} {past : List InvocationEvent} {inv : Invocation}
    (h : start.held past = some inv) {e : InvocationEvent} (he : e.action.Awaits) :
    start.held (past ++ [e]) = some inv := by
  rw [held_snoc h, after_awaits he]

/-! ## 4. What every part of a session keeps -/

section Keeping

variable {V : Type} {lib : Ciborium V} {start : InvocationStart} {op : Option InvocationOp}
  {past : List InvocationEvent} {inv : Invocation}

/-- The outcome of a part: `holds` of a value, `failed` behind an error; and what is waited for is
    due. -/
def Sound {α : Type} (start : InvocationStart) (op : Option InvocationOp)
    (failed : List InvocationEvent → Prop) (holds : List InvocationEvent → α → Prop) :
    List InvocationEvent → Except Halt α → Prop
  | past, .ok a => holds past a
  | past, .error (.err _) => failed past
  | past, .error (.waiting r) => Due start past op r

/-- A part of a session, behind the log `past`. -/
abbrev KeepsDue {α : Type} (start : InvocationStart) (op : Option InvocationOp)
    (past : List InvocationEvent) (m : InvocationM α) (failed : List InvocationEvent → Prop)
    (holds : List InvocationEvent → α → Prop) : Prop :=
  Exchange.Heeds (fun past e => Due start past op e.action) past m (Sound start op failed holds)

theorem keepsDue_pure {α : Type} {a : α} {failed : List InvocationEvent → Prop}
    {holds : List InvocationEvent → α → Prop} (h : holds past a) :
    KeepsDue start op past (pure a) failed holds :=
  Exchange.Heeds.pure h

theorem keepsDue_call {r : InvocationRequest} {failed : List InvocationEvent → Prop}
    {H : List InvocationEvent → r.Reply → Prop} (hdue : Due start past op r)
    (h : ∀ reply, H (past ++ [⟨r, reply⟩]) reply) :
    KeepsDue start op past r.call failed H :=
  Exchange.Heeds.ask hdue (fun _ => hdue) fun a => h (a.reply r)

theorem keepsDue_require {r : InvocationRequest} {failed : List InvocationEvent → Prop}
    {H : List InvocationEvent → r.Response → Prop} (hdue : Due start past op r)
    (herror : ∀ e, failed (past ++ [⟨r, .error e⟩]))
    (hok : ∀ response, H (past ++ [⟨r, .ok response⟩]) response) :
    KeepsDue start op past r.require failed H := by
  refine Exchange.Heeds.ask hdue (fun _ => hdue) fun a => ?_
  cases hreply : a.reply r with
  | error e => exact herror e
  | ok response => exact hok response

/-- A sequence whose first part leaves `mid`. -/
theorem keepsDue_bind {α β : Type} {m : InvocationM α} {f : α → InvocationM β}
    {failed : List InvocationEvent → Prop} (mid : List InvocationEvent → α → Prop)
    {holds : List InvocationEvent → β → Prop} (hm : KeepsDue start op past m failed mid)
    (hf : ∀ past' a, mid past' a → KeepsDue start op past' (f a) failed holds) :
    KeepsDue start op past (m >>= f) failed holds :=
  Exchange.Heeds.bind hm hf fun _ e h => match e, h with
    | .err _, h => h
    | .waiting _, h => h

/-- An output that was found: the log ends with the reply that brings it. -/
def Found (start : InvocationStart) (inv : Invocation) (past : List InvocationEvent)
    (item : Pb.FunctionGetOutputsItem) : Prop :=
  start.held past = some inv ∧ ∃ e, past.getLast? = some e ∧ outputOf e = some item

theorem getOutput_awaits (inv : Invocation) (t : Duration) :
    (inv.getOutput.request t).Awaits := by
  cases inv <;> trivial

/-- **The polling asks with the token that is held**, and within the time of the await. -/
theorem keepsDue_pollOutput {timeout : Option Duration} (elapsed pollTimeout : Duration)
    (hcap : pollTimeout ≤ outputsTimeout)
    (htotal : ∀ total, timeout = some total → pollTimeout ≤ total)
    (hheld : start.held past = some inv) :
    KeepsDue start (some (.await timeout)) past
      (pollOutput inv.getOutput timeout elapsed pollTimeout)
      (fun past => start.held past = some inv) (Found start inv) := by
  intro is
  induction is generalizing past elapsed pollTimeout with
  | nil =>
    intro es out rest h
    cases h
    refine ⟨(by intro k e hk; cases hk), ?_⟩
    rw [List.append_nil]
    exact .poll timeout inv pollTimeout hheld ⟨hcap, htotal⟩
  | cons a is ih =>
    intro es out rest h
    obtain ⟨es', rfl, hstep⟩ := pollOutput_cons h
    have hdue : Due start past (some (.await timeout)) (inv.getOutput.request pollTimeout) :=
      .poll timeout inv pollTimeout hheld ⟨hcap, htotal⟩
    generalize hlast : (⟨inv.getOutput.request pollTimeout,
      a.reply (inv.getOutput.request pollTimeout)⟩ : InvocationEvent) = last
    have hheld' : start.held (past ++ [last]) = some inv :=
      held_awaits hheld (by rw [← hlast]; exact getOutput_awaits inv pollTimeout)
    have hfirst : ∀ k e, [last][k]? = some e →
        Due start (past ++ [last].take k) (some (.await timeout)) e.action := by
      intro k e hk
      cases k with
      | succ k => cases hk
      | zero =>
        cases hk
        rw [List.take_zero, List.append_nil, ← hlast]
        exact hdue
    cases hstep with
    | failed err hreply => exact ⟨hfirst, hheld'⟩
    | found response item hreply hitem =>
      refine ⟨hfirst, hheld', last, List.getLast?_concat, ?_⟩
      rw [← hlast, hreply, inv.getOutput_polls.output, hitem]
    | timedOut total response hreply hitem htimeout hlate => exact ⟨hfirst, hheld'⟩
    | again pollTimeout' response hreply hitem hnext hrest =>
      have hwindow : pollTimeout' ≤ outputsTimeout ∧
          ∀ total, timeout = some total → pollTimeout' ≤ total := by
        rcases hnext with ⟨hnone, rfl⟩ | ⟨total, htimeout, hlt, rfl⟩
        · exact ⟨hcap, htotal⟩
        · refine ⟨Nat.min_le_left _ _, fun total' htotal' => ?_⟩
          rw [htimeout] at htotal'
          cases htotal'
          exact le_trans (Nat.min_le_right _ _) (Nat.sub_le _ _)
      obtain ⟨hallowed, hpost⟩ := ih _ pollTimeout' hwindow.1 hwindow.2 hheld' _ _ _ hrest
      refine ⟨@Exchange.allowed_append _
        (fun past e => Due start past (some (.await timeout)) e.action) past [last] es'
        hfirst hallowed, ?_⟩
      rw [List.append_assoc] at hpost
      exact hpost

/-- What holds behind any await holds: the invocation is still there. -/
abbrev Held {α : Type} (start : InvocationStart) (inv : Invocation) (past : List InvocationEvent)
    (_ : α) : Prop := start.held past = some inv

theorem keepsDue_blobDownload {timeout : Option Duration} {e : InvocationEvent} {blobId : String}
    (hheld : start.held past = some inv) (hlast : past.getLast? = some e)
    (hblob : blobOf e = some blobId) :
    KeepsDue start (some (.await timeout)) past (blobDownload blobId)
      (fun past => start.held past = some inv) (Held start inv) := by
  unfold blobDownload
  refine keepsDue_bind (fun past' resp => start.held past' = some inv ∧
    past'.getLast? = some ⟨.blobGet blobId, .ok resp⟩) ?_ fun past' resp ⟨hheld', hlast'⟩ => ?_
  · refine keepsDue_require (.blob timeout e blobId hlast hblob) (fun err => ?_)
      fun resp => ⟨?_, ?_⟩
    · exact held_awaits hheld trivial
    · exact held_awaits hheld trivial
    · exact List.getLast?_concat
  · exact keepsDue_require (.download timeout blobId resp hlast')
      (fun err => held_awaits hheld' trivial) fun data => held_awaits hheld' trivial

/-- **Reading an output asks for the blob that it is in**, and for nothing else. -/
theorem keepsDue_processResult {timeout : Option Duration} {item : Pb.FunctionGetOutputsItem}
    (h : Found start inv past item) :
    KeepsDue start (some (.await timeout)) past (processResult lib item.result item.dataFormat)
      (fun past => start.held past = some inv) (Held start inv) := by
  obtain ⟨hheld, e, hlast, houtput⟩ := h
  unfold processResult
  cases hresult : item.result with
  | none => exact Exchange.Heeds.lift hheld
  | some result =>
    refine keepsDue_bind (Held start inv) ?_ fun past' data hheld' => ?_
    · cases hdata : result.dataOneof with
      | none => exact keepsDue_pure hheld
      | some d =>
        cases d with
        | data bytes => exact keepsDue_pure hheld
        | dataBlobId blobId =>
          have hblob : blobOf e = some blobId := by
            rw [blobOf, houtput, Option.bind_some, hresult]
            simp only [hdata]
          exact keepsDue_bind _ (keepsDue_blobDownload hheld hlast hblob)
            fun past'' bytes hheld'' => keepsDue_pure hheld''
    · cases result.status with
      | success =>
        simp only
        cases deserializeDataFormat lib data item.dataFormat with
        | ok value => exact Exchange.Heeds.lift hheld'
        | error err => exact Exchange.Heeds.lift hheld'
      | timeout | internalFailure | other => exact Exchange.Heeds.lift hheld'

theorem keepsDue_awaitOutput (timeout : Option Duration) (hheld : start.held past = some inv) :
    KeepsDue start (some (.await timeout)) past (inv.awaitOutput lib timeout)
      (fun past => start.held past = some inv) (Held start inv) := by
  rw [Invocation.awaitOutput_eq]
  refine keepsDue_bind _ (keepsDue_pollOutput 0 _ ?_ ?_ hheld) fun past' item hfound =>
    keepsDue_processResult hfound
  · cases timeout with
    | none => exact Nat.le_refl _
    | some total => exact Nat.min_le_right _ _
  · intro total htotal
    rw [htotal]
    exact Nat.min_le_left _ _

/-- The invocation that a part comes back with is the one that the log gives. -/
abbrev Renewed {α : Type} (start : InvocationStart) (past : List InvocationEvent)
    (r : α × Invocation) : Prop := start.held past = some r.2

/-- The retry of a control plane's invocation brings what `after` says. -/
theorem renew_after (inv : ControlPlaneInvocation) (r : RetrySent)
    (response : Pb.FunctionRetryInputsResponse) :
    Invocation.controlPlane (inv.renew response) =
      (Invocation.controlPlane inv).after (r.event (.ok response)) := by
  rw [renew_eq]
  rfl

/-- **A retry sends what is due**, and its reply is kept. -/
theorem keepsDue_retry (retryCount : Nat) (hheld : start.held past = some inv) :
    KeepsDue start (some (.retry retryCount)) past (inv.retry retryCount) (fun _ => True)
      (Renewed start) := by
  cases inv with
  | controlPlane inv =>
    refine keepsDue_bind (fun past' r => start.held past' = some (.controlPlane r.2)) ?_
      fun past' r hr => keepsDue_pure hr
    unfold ControlPlaneInvocation.retry
    cases hinput : inv.input with
    | none => exact keepsDue_pure hheld
    | some input =>
      have hdue : Due start past (some (.retry retryCount))
          (inv.dueRetry input retryCount).request :=
        .retry retryCount (.controlPlane inv) _ hheld (by
          rw [Invocation.retryRequest, hinput]
          rfl)
      refine keepsDue_bind _ (keepsDue_call (H := fun past' reply =>
        past' = past ++ [⟨(inv.dueRetry input retryCount).request, reply⟩]) hdue
        fun reply => rfl) ?_
      rintro past' reply rfl
      have hsnoc := held_snoc hheld ⟨(inv.dueRetry input retryCount).request, reply⟩
      cases reply with
      | error e => exact keepsDue_pure hsnoc
      | ok response =>
        refine keepsDue_pure ?_
        have hrenew := renew_after inv (inv.dueRetry input retryCount) response
        exact hsnoc.trans (congrArg some hrenew.symm)
  | inputPlane inv =>
    refine keepsDue_bind (fun past' r => start.held past' = some (.inputPlane r.2)) ?_
      fun past' r hr => keepsDue_pure hr
    unfold InputPlaneInvocation.retry
    have hdue : Due start past (some (.retry retryCount))
        (.attemptRetry inv.functionId inv.input inv.attemptToken) :=
      .retry retryCount (.inputPlane inv) _ hheld rfl
    refine keepsDue_bind _ (keepsDue_call (H := fun past' reply =>
      past' = past ++ [⟨.attemptRetry inv.functionId inv.input inv.attemptToken, reply⟩])
      hdue fun reply => rfl) ?_
    rintro past' reply rfl
    have hsnoc := held_snoc hheld
      ⟨.attemptRetry inv.functionId inv.input inv.attemptToken, reply⟩
    cases reply with
    | error e => exact keepsDue_pure hsnoc
    | ok resp => exact keepsDue_pure hsnoc

/-- **A method sends what is due while it is in progress.** -/
theorem keepsDue_perform (op : InvocationOp) (hheld : start.held past = some inv) :
    KeepsDue start (some op) past (inv.perform lib op) (fun _ => True) (Renewed start) := by
  cases op with
  | await timeout =>
    unfold Invocation.perform
    refine Exchange.Heeds.handle (keepsDue_awaitOutput timeout hheld) fun past' out hout => ?_
    cases out with
    | ok result => exact keepsDue_pure hout
    | error h =>
      cases h with
      | err e => exact keepsDue_pure hout
      | waiting r => exact Exchange.Heeds.lift hout
  | retry retryCount =>
    exact keepsDue_bind _ (keepsDue_retry retryCount hheld) fun past' r hr => keepsDue_pure hr

theorem keepsDue_create :
    KeepsDue start none [] start.create (fun _ => True)
      fun past inv => start.held past = some inv := by
  cases start with
  | controlPlane functionId input invocationType =>
    refine keepsDue_bind (fun past inv =>
      InvocationStart.held (.controlPlane functionId input invocationType) past =
        some (.controlPlane inv)) ?_ fun past inv h => keepsDue_pure h
    refine keepsDue_bind _ (keepsDue_require (H := fun past response =>
      past = [⟨.functionMap functionId .unary invocationType [⟨0, some input⟩], .ok response⟩])
      (.start _ rfl rfl) (fun _ => trivial) fun response => rfl) ?_
    rintro past response rfl
    exact keepsDue_pure rfl
  | functionCall functionCallId => exact keepsDue_pure rfl
  | inputPlane functionId input =>
    refine keepsDue_bind (fun past inv =>
      InvocationStart.held (.inputPlane functionId input) past = some (.inputPlane inv)) ?_
      fun past inv h => keepsDue_pure h
    refine keepsDue_bind _ (keepsDue_require (H := fun past response =>
      past = [⟨.attemptStart functionId ⟨0, some input⟩, .ok response⟩])
      (.start _ rfl rfl) (fun _ => trivial) fun response => rfl) ?_
    rintro past response rfl
    exact keepsDue_pure rfl

end Keeping

/-! ## 5. Whole sessions -/

section Whole

variable {V : Type} {lib : Ciborium V} {start : InvocationStart} {ops : List InvocationOp}
  {script rest : List InvocationAnswer} {es done : List InvocationEvent}

/-- What a part sends is due, the request it waits for included. -/
theorem KeepsDue.sends {α : Type} {op : Option InvocationOp} {past own : List InvocationEvent}
    {m : InvocationM α} {failed : List InvocationEvent → Prop}
    {holds : List InvocationEvent → α → Prop} {r : InvocationRequest}
    (h : KeepsDue start op past m failed holds) (hsends : Sends m script own r) :
    Due start (past ++ own) op r := by
  obtain ⟨es, out, rest, k, hrun, hk, rfl⟩ := hsends
  obtain ⟨hallowed, hpost⟩ := h _ _ _ _ hrun
  unfold sent at hk
  by_cases hfirst : k < es.length
  · rw [List.getElem?_append_left (by rw [List.length_map]; exact hfirst), List.getElem?_map] at hk
    obtain ⟨e, he, rfl⟩ := Option.map_eq_some_iff.mp hk
    exact hallowed k e he
  · have hle := Nat.le_of_not_lt hfirst
    rw [List.getElem?_append_right (by rw [List.length_map]; exact hle)] at hk
    rw [List.take_of_length_le hle]
    match out, hpost, hk with
    | .error (.waiting r'), hpost, hk =>
      obtain rfl := List.mem_singleton.mp (List.mem_of_getElem? hk)
      exact hpost
    | .error (.err e), hpost, hk => cases hk
    | .ok a, hpost, hk => cases hk

/-- The requests of one part after those of another. -/
theorem sent_second {α : Type} {es₁ es₂ : List InvocationEvent} {out : Except Halt α} {k : Nat}
    {r : InvocationRequest} (h : (sent (es₁ ++ es₂) out)[k]? = some r) (hk : es₁.length ≤ k) :
    (sent es₂ out)[k - es₁.length]? = some r := by
  rw [sent_append, List.getElem?_append_right (by rwa [List.length_map]), List.length_map] at h
  exact h

theorem sent_first {α β : Type} {es₁ es₂ : List InvocationEvent} {out₁ : Except Halt α}
    {out : Except Halt β} {k : Nat} {r : InvocationRequest}
    (h : (sent (es₁ ++ es₂) out)[k]? = some r) (hk : k < es₁.length) :
    (sent es₁ out₁)[k]? = some r := by
  rw [sent_append, List.getElem?_append_left (by rwa [List.length_map])] at h
  rw [sent, List.getElem?_append_left (by rwa [List.length_map])]
  exact h

/-- One more method behind those that have come to their ends. -/
theorem performAll_snoc {inv inv' inv'' : Invocation} {before : List InvocationOp}
    {op : InvocationOp} {outcomes : List (InvocationOutcome V)} {outcome : InvocationOutcome V}
    {own : List InvocationEvent} {rest' : List InvocationAnswer}
    (h : inv.performAll lib before script = (done, .ok (outcomes, inv'), rest))
    (hop : inv'.perform lib op rest = (own, .ok (outcome, inv''), rest')) :
    inv.performAll lib (before ++ [op]) script =
      (done ++ own, .ok (outcomes ++ [outcome], inv''), rest') := by
  induction before generalizing inv script done outcomes with
  | nil =>
    cases h
    rw [List.nil_append, Invocation.performAll, Exchange.bind_apply, hop]
    simp only [Invocation.performAll, Exchange.bind_apply, Exchange.pure_apply, List.append_nil,
      List.nil_append]
  | cons first before ih =>
    rw [Invocation.performAll] at h
    rcases Exchange.bind_cases h with ⟨e, -, hout⟩ | ⟨es₁, ⟨o, i⟩, is₁, es₂, h₁, h₂, rfl⟩
    · cases hout
    · rcases Exchange.bind_cases h₂ with ⟨e, -, hout⟩ | ⟨es₃, ⟨os, j⟩, is₂, es₄, h₃, h₄, rfl⟩
      · cases hout
      · cases h₄
        rw [List.cons_append, Invocation.performAll, Exchange.bind_apply, h₁]
        simp only [Exchange.bind_apply, ih h₃, Exchange.pure_apply, List.append_nil,
          List.append_assoc, List.cons_append]

theorem invocationSession_snoc {inv inv' : Invocation} {before : List InvocationOp}
    {op : InvocationOp} {outcomes : List (InvocationOutcome V)} {outcome : InvocationOutcome V}
    {own : List InvocationEvent} {rest' : List InvocationAnswer}
    (h : invocationSession lib start before script = (done, .ok (outcomes, inv), rest))
    (hop : inv.perform lib op rest = (own, .ok (outcome, inv'), rest')) :
    invocationSession lib start (before ++ [op]) script =
      (done ++ own, .ok (outcomes ++ [outcome], inv'), rest') := by
  unfold invocationSession at h ⊢
  rcases Exchange.bind_cases h with ⟨e, -, hout⟩ | ⟨es₁, inv₁, is₁, es₂, h₁, h₂, rfl⟩
  · cases hout
  · rw [Exchange.bind_apply, h₁]
    simp only [performAll_snoc h₂ hop, List.append_assoc]

/-- What is due of the methods `left`, behind those that have come to their ends. -/
def DueFrom (lib : Ciborium V) (start : InvocationStart) (ops : List InvocationOp)
    (script : List InvocationAnswer) (done es : List InvocationEvent)
    (out : Except Halt (List (InvocationOutcome V) × Invocation)) : Prop :=
  ∀ k r, (sent es out)[k]? = some r → ∃ op,
    InProgress lib start ops script (done ++ es.take k) r op ∧ Due start (done ++ es.take k) op r

/-- What a part that has come to its end sends, and then what is due behind it. -/
theorem DueFrom.append {α : Type} {op : Option InvocationOp} {es₁ es₂ : List InvocationEvent}
    {out₁ : Except Halt α} {out : Except Halt (List (InvocationOutcome V) × Invocation)}
    (h₁ : ∀ k r, (sent es₁ out₁)[k]? = some r →
      InProgress lib start ops script (done ++ es₁.take k) r op ∧
        Due start (done ++ es₁.take k) op r)
    (h₂ : DueFrom lib start ops script (done ++ es₁) es₂ out) :
    DueFrom lib start ops script done (es₁ ++ es₂) out := by
  intro k r hk
  by_cases hfirst : k < es₁.length
  · rw [List.take_append_of_le_length (Nat.le_of_lt hfirst)]
    exact ⟨op, h₁ k r (sent_first hk hfirst)⟩
  · have hle := Nat.le_of_not_lt hfirst
    rw [List.take_append, List.take_of_length_le hle, ← List.append_assoc]
    exact h₂ _ r (sent_second hk hle)

/-- **Method after method**, by induction on those that are left: the next one goes on from where
    the ones before it ended. -/
theorem performAll_due {before left : List InvocationOp} {outcomes : List (InvocationOutcome V)}
    {inv : Invocation} {rest' : List InvocationAnswer}
    {out : Except Halt (List (InvocationOutcome V) × Invocation)} (hops : ops = before ++ left)
    (hdone : invocationSession lib start before script = (done, .ok (outcomes, inv), rest))
    (hheld : start.held done = some inv) (hrun : inv.performAll lib left rest = (es, out, rest')) :
    DueFrom lib start ops script done es out ∧
      ∀ outcomes' inv', out = .ok (outcomes', inv') →
        start.held (done ++ es) = some inv' ∧ outcomes'.length = left.length := by
  induction left generalizing before outcomes inv done rest es out with
  | nil =>
    cases hrun
    refine ⟨fun k r hk => (by cases hk), fun outcomes' inv' hout => ?_⟩
    cases hout
    rw [List.append_nil]
    exact ⟨hheld, rfl⟩
  | cons op left ih =>
    have hkeeps : KeepsDue start (some op) done (inv.perform lib op) (fun _ => True)
        (Renewed start) := keepsDue_perform op hheld
    -- what the method itself sends
    have hown : ∀ {es₁ out₁ is₁}, inv.perform lib op rest = (es₁, out₁, is₁) →
        ∀ k r, (sent es₁ out₁)[k]? = some r →
          InProgress lib start ops script (done ++ es₁.take k) r (some op) ∧
            Due start (done ++ es₁.take k) (some op) r := by
      intro es₁ out₁ is₁ h₁ k r hk
      have hsends : Sends (inv.perform lib op) rest (es₁.take k) r := ⟨_, _, _, k, h₁, hk, rfl⟩
      exact ⟨.method hops hdone rfl hsends, hkeeps.sends hsends⟩
    rw [Invocation.performAll] at hrun
    rcases Exchange.bind_cases hrun with ⟨e, h₁, rfl⟩ | ⟨es₁, ⟨o, inv₁⟩, is₁, es₂, h₁, h₂, rfl⟩
    · refine ⟨fun k r hk => ⟨some op, ?_⟩, fun _ _ hout => (by cases hout)⟩
      rw [sent_error] at hk
      exact hown h₁ k r hk
    · have hheld₁ : start.held (done ++ es₁) = some inv₁ := (hkeeps _ _ _ _ h₁).2
      have hdone₁ := invocationSession_snoc hdone h₁
      have hops₁ : ops = (before ++ [op]) ++ left := by
        rw [hops, List.append_assoc, List.singleton_append]
      rcases Exchange.bind_cases h₂ with ⟨e, h₃, rfl⟩ | ⟨es₃, ⟨os, inv₂⟩, is₂, es₄, h₃, h₄, rfl⟩
      · obtain ⟨hrest, -⟩ := ih hops₁ hdone₁ hheld₁ h₃
        exact ⟨DueFrom.append (hown h₁) hrest, fun _ _ hout => (by cases hout)⟩
      · cases h₄
        rw [List.append_nil]
        obtain ⟨hrest, hend⟩ := ih hops₁ hdone₁ hheld₁ h₃
        refine ⟨DueFrom.append (hown h₁) hrest, fun outcomes' inv' hout => ?_⟩
        cases hout
        obtain ⟨hheld₂, hlength⟩ := hend _ _ rfl
        rw [← List.append_assoc, List.length_cons, List.length_cons, hlength]
        exact ⟨hheld₂, rfl⟩

/-- **Every request of a session is due**, against any server and for any methods in any order: it
    is what the method in progress and the replies so far call for, and nothing else is ever sent. -/
theorem invocationSession_due {out : Except Halt (List (InvocationOutcome V) × Invocation)}
    (h : invocationSession lib start ops script = (es, out, rest)) :
    (∀ k r, (sent es out)[k]? = some r → ∃ op,
      InProgress lib start ops script (es.take k) r op ∧ Due start (es.take k) op r) ∧
      ∀ outcomes inv, out = .ok (outcomes, inv) →
        start.held es = some inv ∧ outcomes.length = ops.length := by
  have hkeeps : KeepsDue start none [] start.create (fun _ => True)
      fun past inv => start.held past = some inv := keepsDue_create
  have hown : ∀ {es₁ out₁ is₁}, start.create script = (es₁, out₁, is₁) →
      ∀ k r, (sent es₁ out₁)[k]? = some r →
        InProgress lib start ops script (es₁.take k) r none ∧ Due start (es₁.take k) none r := by
    intro es₁ out₁ is₁ h₁ k r hk
    have hsends : Sends start.create script (es₁.take k) r := ⟨_, _, _, k, h₁, hk, rfl⟩
    exact ⟨.start hsends, hkeeps.sends hsends⟩
  have hrun := h
  unfold invocationSession at hrun
  rcases Exchange.bind_cases hrun with ⟨e, h₁, rfl⟩ | ⟨es₁, inv₁, is₁, es₂, h₁, h₂, rfl⟩
  · refine ⟨fun k r hk => ⟨none, ?_⟩, fun _ _ hout => (by cases hout)⟩
    rw [sent_error] at hk
    exact hown h₁ k r hk
  · have hdone : invocationSession lib start [] script = (es₁, .ok ([], inv₁), is₁) := by
      unfold invocationSession
      rw [Exchange.bind_apply, h₁]
      simp only [Invocation.performAll, Exchange.pure_apply, List.append_nil]
    obtain ⟨hrest, hend⟩ := performAll_due rfl hdone (hkeeps _ _ _ _ h₁).2 h₂
    have hall : DueFrom lib start ops script [] (es₁ ++ es₂) out := .append (hown h₁) hrest
    exact ⟨hall, hend⟩

end Whole

/-- A retry, an await whose output is a failure, and another retry: its token is that of the first
    retry's reply. -/
theorem invocationSession_due_retried :
    let input : Pb.FunctionInput := ⟨.cbor, some (.args [0x82, 0x80, 0xA0]), none⟩
    let start := InvocationStart.controlPlane "fu-1" input .sync
    let ops : List InvocationOp := [.retry 0, .await none, .retry 1]
    let run := invocationSession encodedCbor start ops
      (List.replicate 4 (outputServer .internalFailure []))
    let second : InvocationRequest := (dueRetry "call-jwt" "retry-jwt" input 1).request
    (sent run.1 run.2.1)[3]? = some second ∧ ∃ op,
      InProgress encodedCbor start ops (List.replicate 4 (outputServer .internalFailure []))
        (run.1.take 3) second op ∧ Due start (run.1.take 3) op second := by
  intro input start ops run second
  have hsecond : (sent run.1 run.2.1)[3]? = some second := rfl
  have hrun : invocationSession encodedCbor start ops
      (List.replicate 4 (outputServer .internalFailure [])) = (run.1, run.2.1, run.2.2) := rfl
  have hdue := (invocationSession_due hrun).1
  exact ⟨hsecond, hdue 3 second hsecond⟩

end ModalRs
