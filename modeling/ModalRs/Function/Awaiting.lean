/-
  File:      ModalRs/Function/Awaiting.lean
  Subject:   Awaiting an output: which requests it makes, and what ends the polling.

  * `AsksOnly`: all that a computation asks is of one kind; `processResult_asks`.
  * `outputOf`, `failureOf`: what a reply brings. `NoOutput`: neither of them.
  * `PollingEnd`, `pollOutput_end`: the polling ends when it is told of an output or of an
    error, when it is late, or when there is no reply.
  * `failsFast_await`: an error that is replied is the last reply, and the outcome.
  * `Heard`: the replies are the script's, in order, and nothing is waited for before its
    end; `heard_await`.
-/
import ModalRs.Function.Invocation

namespace ModalRs

open ModalRs.Lib ModalRs.Rust

variable {V : Type} {lib : Ciborium V}

/-! ## 1. What is asked -/

/-- A computation that only makes requests of one kind. -/
def AsksOnly {α : Type} (P : InvocationRequest → Prop) (m : InvocationM α) : Prop :=
  Exchange.Within (fun e : InvocationEvent => P e.action)
    (fun h : Halt => ∀ r, h = .waiting r → P r) m

section Asks

variable {α : Type} {P : InvocationRequest → Prop}

theorem answered_waiting {x : Except ModalError α} {h : Halt} {r : InvocationRequest}
    (hx : answered x = .error h) : h ≠ .waiting r := by
  cases x with
  | ok a => cases hx
  | error e =>
    cases hx
    exact nofun

theorem asksOnly_answered (x : Except ModalError α) : AsksOnly P (Exchange.lift (answered x)) :=
  Exchange.Within.lift fun _ hx _ hr => absurd hr (answered_waiting hx)

theorem asksOnly_fail (e : ModalError) : AsksOnly P (fail e : InvocationM α) :=
  asksOnly_answered (.error e)

theorem asksOnly_require {r : InvocationRequest} (hr : P r) : AsksOnly P r.require := by
  refine Exchange.Within.ask ?_ (fun _ => hr) fun _ _ hx _ hwait =>
    absurd hwait (answered_waiting hx)
  intro r' h
  cases h
  exact hr

theorem resultData_asks (hblob : ∀ id, P (.blobGet id)) (hurl : ∀ url, P (.download url))
    (data : Option Pb.DataOneof) : AsksOnly P (resultData data) := by
  unfold resultData
  cases data with
  | none => exact Exchange.Within.pure _
  | some data =>
    cases data with
    | data bytes => exact Exchange.Within.pure _
    | dataBlobId blobId =>
      have hdownload : AsksOnly P (blobDownload blobId) :=
        Exchange.Within.bind (asksOnly_require (hblob _)) fun _ => asksOnly_require (hurl _)
      exact Exchange.Within.bind hdownload fun _ => Exchange.Within.pure _

/-- **Reading a result asks for blobs alone.** -/
theorem processResult_asks (hblob : ∀ id, P (.blobGet id)) (hurl : ∀ url, P (.download url))
    (result : Option Pb.GenericResult) (dataFormat : Pb.DataFormat) :
    AsksOnly P (processResult lib result dataFormat) := by
  unfold processResult
  cases result with
  | none => exact asksOnly_fail _
  | some result =>
    refine Exchange.Within.bind (resultData_asks hblob hurl _) fun data => ?_
    cases result.status with
    | success => exact asksOnly_answered _
    | timeout | internalFailure | other => exact asksOnly_fail _

theorem pollOutput_asks {g : GetOutput} (hg : ∀ t, P (g.request t)) (timeout : Option Duration)
    (elapsed pollTimeout : Duration) : AsksOnly P (pollOutput g timeout elapsed pollTimeout) := by
  intro is
  induction is generalizing elapsed pollTimeout with
  | nil =>
    intro es out rest h
    cases h
    refine ⟨fun _ hmem => (List.not_mem_nil hmem).elim, fun h hout r hr => ?_⟩
    cases hout
    cases hr
    exact hg _
  | cons a is ih =>
    intro es out rest h
    obtain ⟨es', rfl, hstep⟩ := pollOutput_cons h
    have hbound : (∀ e ∈ es', P e.action) ∧
        ∀ h, out = .error h → ∀ r, h = .waiting r → P r := by
      cases hstep with
      | failed | timedOut =>
        refine ⟨fun _ hmem => (List.not_mem_nil hmem).elim, fun h hout r hr => ?_⟩
        cases hout
        cases hr
      | found => exact ⟨fun _ hmem => (List.not_mem_nil hmem).elim, nofun⟩
      | again pollTimeout' response _ _ _ hrest => exact ih _ _ _ _ _ hrest
    refine ⟨fun e hmem => ?_, hbound.2⟩
    rcases List.mem_cons.mp hmem with rfl | hmem
    · exact hg _
    · exact hbound.1 e hmem

/-- All that such a computation sends, answered or not. -/
theorem AsksOnly.sent {m : InvocationM α} (hm : AsksOnly P m) {is rest : List InvocationAnswer}
    {es : List InvocationEvent} {out : Except Halt α} (h : m is = (es, out, rest)) :
    ∀ r ∈ ModalRs.sent es out, P r := by
  obtain ⟨hes, hout⟩ := hm is es out rest h
  intro r hr
  rcases List.mem_append.mp hr with hr | hr
  · obtain ⟨e, he, rfl⟩ := List.mem_map.mp hr
    exact hes e he
  · cases out with
    | ok result => cases hr
    | error halt =>
      cases halt with
      | err e => cases hr
      | waiting r' =>
        rw [List.mem_singleton.mp hr]
        exact hout _ rfl _ rfl

theorem sent_append (es es' : List InvocationEvent) (out : Except Halt α) :
    ModalRs.sent (es ++ es') out = es.map (·.action) ++ ModalRs.sent es' out := by
  simp [ModalRs.sent]

theorem sent_cons (e : InvocationEvent) (es : List InvocationEvent) (out : Except Halt α) :
    ModalRs.sent (e :: es) out = e.action :: ModalRs.sent es out := rfl

/-- What is sent does not depend on what was to come of it. -/
theorem sent_error (es : List InvocationEvent) (halt : Halt) (β : Type) :
    ModalRs.sent es (.error halt : Except Halt α) =
      ModalRs.sent es (.error halt : Except Halt β) := by
  cases halt <;> rfl

end Asks

/-! ## 2. Replies -/

/-- The timeout that a poll carries. -/
def InvocationRequest.pollTimeout : InvocationRequest → Option Duration
  | .functionGetOutputs _ _ timeout _ _ => some timeout
  | .attemptAwait _ timeout => some timeout
  | _ => none

/-- The output that a reply brings. -/
def outputOf : InvocationEvent → Option Pb.FunctionGetOutputsItem
  | ⟨.functionGetOutputs .., .ok response⟩ => response.outputs.head?
  | ⟨.attemptAwait .., .ok resp⟩ => resp.output
  | _ => none

/-- The error that is replied. -/
def failureOf (e : InvocationEvent) : Option ModalError :=
  match e.reply with
  | .ok _ => none
  | .error err => some err

/-- A reply without an error and without an output. -/
def NoOutput (e : InvocationEvent) : Prop := failureOf e = none ∧ outputOf e = none

theorem failureOf_ok {e : InvocationEvent} {response : e.action.Response}
    (h : e.reply = .ok response) : failureOf e = none := by
  rw [failureOf, h]

theorem failureOf_error {e : InvocationEvent} {err : ModalError} (h : e.reply = .error err) :
    failureOf e = some err := by
  rw [failureOf, h]

theorem failureOf_eq_some {e : InvocationEvent} {err : ModalError}
    (h : failureOf e = some err) : e.reply = .error err := by
  cases hreply : e.reply with
  | ok response =>
    rw [failureOf_ok hreply] at h
    cases h
  | error err' =>
    rw [failureOf_error hreply] at h
    cases h
    rfl

/-- A reply that is an error brings no output. -/
theorem outputOf_error {e : InvocationEvent} {err : ModalError} (h : failureOf e = some err) :
    outputOf e = none := by
  have hreply := failureOf_eq_some h
  obtain ⟨r, reply⟩ := e
  dsimp only at hreply
  subst hreply
  cases r <;> rfl

/-- An output comes of a poll. -/
theorem outputOf_poll {e : InvocationEvent} (h : e.action.pollTimeout = none) :
    outputOf e = none := by
  obtain ⟨r, reply⟩ := e
  cases r with
  | functionGetOutputs | attemptAwait => cases h
  | _ => rfl

/-- What asks for an output with a poll, and finds in the reply what the reply brings. -/
structure GetOutput.Polls (g : GetOutput) : Prop where
  timeout : ∀ t, (g.request t).pollTimeout = some t
  output : ∀ t response, outputOf ⟨g.request t, .ok response⟩ = g.output t response

/-- Both planes poll. -/
theorem Invocation.getOutput_polls (inv : Invocation) : inv.getOutput.Polls := by
  cases inv with
  | controlPlane inv => exact ⟨fun _ => rfl, fun _ _ => rfl⟩
  | inputPlane inv => exact ⟨fun _ => rfl, fun _ _ => rfl⟩

/-! ## 3. How the polling ends -/

/-- How long the first so many replies took. -/
def elapsedAfter (script : List InvocationAnswer) (replies : Nat) : Duration :=
  ((script.take replies).map InvocationAnswer.took).sum

theorem elapsedAfter_cons (a : InvocationAnswer) (script : List InvocationAnswer) (n : Nat) :
    elapsedAfter (a :: script) (n + 1) = a.took + elapsedAfter script n := rfl

/-- How the polling ends, at `now`, and what it was told. -/
inductive PollingEnd (timeout : Option Duration) (now : Duration) :
    List InvocationEvent → Except Halt Pb.FunctionGetOutputsItem → Prop where
  | waiting {es : List InvocationEvent} (hes : ∀ e ∈ es, NoOutput e) (r : InvocationRequest) :
      PollingEnd timeout now es (.error (.waiting r))
  | timedOut {es : List InvocationEvent} (hes : ∀ e ∈ es, NoOutput e) (total : Duration)
      (htimeout : timeout = some total) (hdue : total ≤ now) :
      PollingEnd timeout now es (.error (.err (timeoutExceeded total)))
  | failed {es : List InvocationEvent} (hes : ∀ e ∈ es, NoOutput e) (e : InvocationEvent)
      (err : ModalError) (he : failureOf e = some err) :
      PollingEnd timeout now (es ++ [e]) (.error (.err err))
  | found {es : List InvocationEvent} (hes : ∀ e ∈ es, NoOutput e) (e : InvocationEvent)
      (item : Pb.FunctionGetOutputsItem) (he : failureOf e = none)
      (hitem : outputOf e = some item) : PollingEnd timeout now (es ++ [e]) (.ok item)

theorem PollingEnd.cons {timeout : Option Duration} {now : Duration} {es : List InvocationEvent}
    {out : Except Halt Pb.FunctionGetOutputsItem} (h : PollingEnd timeout now es out)
    {e : InvocationEvent} (he : NoOutput e) : PollingEnd timeout now (e :: es) out := by
  cases h with
  | waiting hes r => exact .waiting (List.forall_mem_cons.mpr ⟨he, hes⟩) r
  | timedOut hes total htimeout hdue =>
    exact .timedOut (List.forall_mem_cons.mpr ⟨he, hes⟩) total htimeout hdue
  | failed hes e' err herr => exact .failed (List.forall_mem_cons.mpr ⟨he, hes⟩) e' err herr
  | found hes e' item hok hitem =>
    exact .found (List.forall_mem_cons.mpr ⟨he, hes⟩) e' item hok hitem

section Polling

variable {g : GetOutput} {timeout : Option Duration} {elapsed pollTimeout : Duration}
  {script rest : List InvocationAnswer} {es : List InvocationEvent}
  {out : Except Halt Pb.FunctionGetOutputsItem}

/-- **How the polling ends**, on every script; each event is of one answer that was taken. -/
theorem pollOutput_end (hg : g.Polls)
    (h : pollOutput g timeout elapsed pollTimeout script = (es, out, rest)) :
    PollingEnd timeout (elapsed + elapsedAfter script es.length) es out ∧
      rest = script.drop es.length := by
  induction script generalizing elapsed pollTimeout es with
  | nil =>
    cases h
    exact ⟨.waiting (fun _ hmem => (List.not_mem_nil hmem).elim) _, rfl⟩
  | cons a is ih =>
    obtain ⟨es', rfl, hstep⟩ := pollOutput_cons h
    have hnone : ∀ e ∈ ([] : List InvocationEvent), NoOutput e :=
      fun _ hmem => (List.not_mem_nil hmem).elim
    cases hstep with
    | failed err hreply => exact ⟨.failed hnone _ err (failureOf_error hreply), rfl⟩
    | found response item hreply hitem =>
      have houtput : outputOf ⟨g.request pollTimeout, a.reply (g.request pollTimeout)⟩ =
          some item := by
        rw [hreply, hg.output, hitem]
      exact ⟨.found hnone _ item (failureOf_ok hreply) houtput, rfl⟩
    | timedOut total response hreply hitem htimeout hdue =>
      have hno : NoOutput ⟨g.request pollTimeout, a.reply (g.request pollTimeout)⟩ := by
        refine ⟨failureOf_ok hreply, ?_⟩
        rw [hreply, hg.output, hitem]
      exact ⟨.timedOut (List.forall_mem_singleton.mpr hno) total htimeout hdue, rfl⟩
    | again pollTimeout' response hreply hitem hnext hrest =>
      have hno : NoOutput ⟨g.request pollTimeout, a.reply (g.request pollTimeout)⟩ := by
        refine ⟨failureOf_ok hreply, ?_⟩
        rw [hreply, hg.output, hitem]
      obtain ⟨hend, hdrop⟩ := ih hrest
      rw [Nat.add_assoc, ← elapsedAfter_cons] at hend
      exact ⟨hend.cons hno, hdrop⟩

/-- The replies of the polling that are errors. -/
theorem PollingEnd.failsFast {now : Duration} (h : PollingEnd timeout now es out) (k : Nat)
    (e : InvocationEvent) (err : ModalError) (hk : es[k]? = some e)
    (herr : failureOf e = some err) : out = .error (.err err) ∧ es.length = k + 1 := by
  have hno : ∀ es' : List InvocationEvent, (∀ e ∈ es', NoOutput e) → es'[k]? ≠ some e := by
    intro es' hes' hmem
    have hnone : failureOf e = none := (hes' e (List.mem_of_getElem? hmem)).1
    rw [hnone] at herr
    cases herr
  -- what is behind replies that are no errors is the last one
  have hlast : ∀ (es' : List InvocationEvent) (e' : InvocationEvent), (∀ e ∈ es', NoOutput e) →
      (es' ++ [e'])[k]? = some e → k = es'.length ∧ e' = e := by
    intro es' e' hes' hmem
    by_cases hlt : k < es'.length
    · rw [List.getElem?_append_left hlt] at hmem
      exact absurd hmem (hno es' hes')
    · rw [List.getElem?_append_right (Nat.le_of_not_lt hlt), List.getElem?_singleton] at hmem
      split at hmem
      · next hzero =>
        cases hmem
        exact ⟨by omega, rfl⟩
      · cases hmem
  cases h with
  | waiting hes r => exact absurd hk (hno es hes)
  | timedOut hes total htimeout hdue => exact absurd hk (hno es hes)
  | failed hes e' err' herr' =>
    obtain ⟨rfl, rfl⟩ := hlast _ e' hes hk
    rw [herr'] at herr
    cases herr
    exact ⟨rfl, List.length_append⟩
  | found hes e' item hok hitem =>
    obtain ⟨rfl, rfl⟩ := hlast _ e' hes hk
    rw [hok] at herr
    cases herr

end Polling

/-! ## 4. Failing at once -/

/-- The error of a reply, as what an invocation fails with. -/
def haltOf (e : InvocationEvent) : Option Halt := (failureOf e).map .err

theorem haltOf_eq_some {e : InvocationEvent} {h : Halt} (he : haltOf e = some h) :
    ∃ err, failureOf e = some err ∧ h = .err err := by
  obtain ⟨err, herr, rfl⟩ := Option.map_eq_some_iff.mp he
  exact ⟨err, herr, rfl⟩

theorem failsFast_require (r : InvocationRequest) : Exchange.FailsFast haltOf r.require := by
  refine Exchange.FailsFast.ask fun a h he => ?_
  obtain ⟨err, herr, rfl⟩ := haltOf_eq_some he
  have hreply : a.reply r = .error err := failureOf_eq_some herr
  rw [hreply]
  rfl

theorem failsFast_resultData (data : Option Pb.DataOneof) :
    Exchange.FailsFast haltOf (resultData data) := by
  unfold resultData
  cases data with
  | none => exact Exchange.FailsFast.pure _
  | some data =>
    cases data with
    | data bytes => exact Exchange.FailsFast.pure _
    | dataBlobId blobId =>
      have hdownload : Exchange.FailsFast haltOf (blobDownload blobId) :=
        Exchange.FailsFast.bind (failsFast_require _) fun _ => failsFast_require _
      exact Exchange.FailsFast.bind hdownload fun _ => Exchange.FailsFast.pure _

theorem failsFast_processResult (result : Option Pb.GenericResult) (dataFormat : Pb.DataFormat) :
    Exchange.FailsFast haltOf (processResult lib result dataFormat) := by
  unfold processResult
  cases result with
  | none => exact Exchange.FailsFast.lift _
  | some result =>
    refine Exchange.FailsFast.bind (failsFast_resultData _) fun data => ?_
    cases result.status with
    | success => exact Exchange.FailsFast.lift _
    | timeout | internalFailure | other => exact Exchange.FailsFast.lift _

/-- **An error that is replied ends the await**, and is its outcome. -/
theorem failsFast_await {g : GetOutput} (hg : g.Polls) (timeout : Option Duration) :
    Exchange.FailsFast haltOf (pollFunctionOutput lib g timeout) := by
  refine Exchange.FailsFast.bind ?_ fun item => failsFast_processResult _ _
  intro is es out rest h k e halt hk he
  obtain ⟨err, herr, rfl⟩ := haltOf_eq_some he
  exact (pollOutput_end hg h).1.failsFast k e err hk herr

/-! ## 5. Hearing every reply -/

/-- The reply is the one of this answer. -/
def InvocationEvent.AnsweredBy (e : InvocationEvent) (a : InvocationAnswer) : Prop :=
  e.reply = a.reply e.action

/-- A request is waited for. -/
def Halt.Waits (h : Halt) : Prop := ∃ r, h = .waiting r

/-- **The replies are those of the script**, in order; and a request is only waited for when there
    is no answer left. -/
abbrev Heard {α : Type} (m : InvocationM α) : Prop :=
  Exchange.Honest Halt.Waits InvocationEvent.AnsweredBy m

/-- A run that has taken its replies from the script, in order, and waits only at its end. -/
structure Hears {α : Type} (script : List InvocationAnswer) (es : List InvocationEvent)
    (out : Except Halt α) (rest : List InvocationAnswer) : Prop where
  inOrder : ∃ taken, script = taken ++ rest ∧ List.Forall₂ InvocationEvent.AnsweredBy es taken
  waits : ∀ r, out = .error (.waiting r) → rest = []

section Hearing

variable {α : Type}

theorem Heard.hears {m : InvocationM α} (hm : Heard m) {script rest : List InvocationAnswer}
    {es : List InvocationEvent} {out : Except Halt α} (h : m script = (es, out, rest)) :
    Hears script es out rest := by
  obtain ⟨taken, hscript, hanswered, hcut⟩ := hm script es out rest h
  exact ⟨⟨taken, hscript, hanswered⟩, fun r => hcut (.waiting r) ⟨r, rfl⟩⟩

theorem heard_answered (x : Except ModalError α) :
    Heard (Exchange.lift (answered x) : InvocationM α) := by
  refine Exchange.Honest.lift fun h hwaits hx => ?_
  obtain ⟨r, rfl⟩ := hwaits
  exact answered_waiting hx rfl

theorem heard_fail (e : ModalError) : Heard (fail e : InvocationM α) := heard_answered (.error e)

theorem heard_call (r : InvocationRequest) : Heard r.call :=
  Exchange.Honest.ask (fun _ => rfl) fun _ _ _ h => nomatch h

theorem heard_require (r : InvocationRequest) : Heard r.require := by
  refine Exchange.Honest.ask (fun _ => rfl) fun a h hwaits hx => ?_
  obtain ⟨r', rfl⟩ := hwaits
  exact answered_waiting hx rfl

theorem heard_resultData (data : Option Pb.DataOneof) : Heard (resultData data) := by
  unfold resultData
  cases data with
  | none => exact Exchange.Honest.pure _
  | some data =>
    cases data with
    | data bytes => exact Exchange.Honest.pure _
    | dataBlobId blobId =>
      have hdownload : Heard (blobDownload blobId) :=
        Exchange.Honest.bind (heard_require _) fun _ => heard_require _
      exact Exchange.Honest.bind hdownload fun _ => Exchange.Honest.pure _

theorem heard_processResult (result : Option Pb.GenericResult) (dataFormat : Pb.DataFormat) :
    Heard (processResult lib result dataFormat) := by
  unfold processResult
  cases result with
  | none => exact heard_fail _
  | some result =>
    refine Exchange.Honest.bind (heard_resultData _) fun data => ?_
    cases result.status with
    | success => exact heard_answered _
    | timeout | internalFailure | other => exact heard_fail _

theorem heard_pollOutput (g : GetOutput) (timeout : Option Duration)
    (elapsed pollTimeout : Duration) : Heard (pollOutput g timeout elapsed pollTimeout) := by
  intro is
  induction is generalizing elapsed pollTimeout with
  | nil =>
    intro es out rest h
    cases h
    exact ⟨[], rfl, .nil, fun _ _ _ => rfl⟩
  | cons a is ih =>
    intro es out rest h
    obtain ⟨es', rfl, hstep⟩ := pollOutput_cons h
    have hone : List.Forall₂ InvocationEvent.AnsweredBy
        [⟨g.request pollTimeout, a.reply (g.request pollTimeout)⟩] [a] := .cons rfl .nil
    cases hstep with
    | failed | timedOut =>
      refine ⟨[a], rfl, hone, fun halt hwaits hout => ?_⟩
      obtain ⟨r, rfl⟩ := hwaits
      cases hout
    | found => exact ⟨[a], rfl, hone, fun _ _ hout => by cases hout⟩
    | again pollTimeout' response _ _ _ hrest =>
      obtain ⟨taken, rfl, hans, hcut⟩ := ih _ _ _ _ _ hrest
      exact ⟨a :: taken, rfl, .cons rfl hans, hcut⟩

/-- **An await hears the replies in order**, and waits for none before the end of the script. -/
theorem heard_await (g : GetOutput) (timeout : Option Duration) :
    Heard (pollFunctionOutput lib g timeout) :=
  Exchange.Honest.bind (heard_pollOutput g timeout 0 _) fun _ => heard_processResult _ _

end Hearing

end ModalRs
