/-
  File:      ModalRs/Function/Remote.lean
  Subject:   A remote call as its requests: one function map, then awaits and retries.

  * `Awaited`: an await of a call's output; `AwaitsOnly`: it sends nothing else.
  * `LoopRun`: how awaits and retries follow one another; `remoteLoop_run`.
  * `retriesSent`, `retryReplies`, `latestJwt`: the retries of a run, and the token
    that is due.
  * `remote_keeps_chain`: one function map, the retries that are due, and the outcome.
-/
import ModalRs.Function.Awaiting
import ModalRs.Function.Basic

namespace ModalRs

open ModalRs.Lib ModalRs.Rust

variable {V : Type} {lib : Ciborium V}

/-! ## 1. Awaiting -/

/-- A request that awaits an output or fetches it. -/
def InvocationRequest.Awaits : InvocationRequest → Prop
  | .functionGetOutputs .. | .attemptAwait .. | .blobGet _ | .download _ => True
  | .functionMap .. | .functionRetryInputs .. | .attemptStart .. | .attemptRetry .. => False

/-- A computation that only awaits. -/
def AwaitsOnly {α : Type} (m : InvocationM α) : Prop :=
  Exchange.Within (fun e : InvocationEvent => e.action.Awaits)
    (fun h : Halt => ∀ r, h = .waiting r → r.Awaits) m

/-- **Awaiting an output only awaits**: it maps nothing and retries nothing. -/
theorem pollFunctionOutput_awaits {g : GetOutput} (hg : ∀ t, (g.request t).Awaits)
    (timeout : Option Duration) : AwaitsOnly (pollFunctionOutput lib g timeout) :=
  Exchange.Within.bind (pollOutput_asks hg _ _ _) fun _ =>
    processResult_asks (fun _ => trivial) (fun _ => trivial) _ _

/-- What awaiting the output of a call can leave: its events and its outcome. -/
def Awaited (lib : Ciborium V) (functionCallId : String) (es : List InvocationEvent)
    (out : Except Halt (InvocationResult V)) : Prop :=
  ∃ is rest, pollFunctionOutput lib (ControlPlaneInvocation.getOutput functionCallId) none is =
    (es, out, rest)

theorem awaited_of_run {inv : ControlPlaneInvocation} {script rest : List InvocationAnswer}
    {es : List InvocationEvent} {out : Except Halt (InvocationResult V)}
    (h : inv.awaitOutput lib none script = (es, out, rest)) :
    Awaited lib inv.functionCallId es out := ⟨script, rest, h⟩

/-! ## 2. Awaits and retries in turn -/

/-- A retry as it is sent. -/
structure RetrySent where
  functionCallJwt : String
  inputs : List Pb.FunctionRetryInputsItem
  deriving DecidableEq

abbrev RetrySent.request (r : RetrySent) : InvocationRequest :=
  .functionRetryInputs r.functionCallJwt r.inputs

def RetrySent.event (r : RetrySent) (reply : Except ModalError Pb.FunctionRetryInputsResponse) :
    InvocationEvent := ⟨r.request, reply⟩

/-- The retry that is due with these tokens. -/
abbrev dueRetry (functionCallJwt inputJwt : String) (input : Pb.FunctionInput) (retryCount : Nat) :
    RetrySent := ⟨functionCallJwt, [⟨inputJwt, some input, retryCount⟩]⟩

abbrev ControlPlaneInvocation.dueRetry (inv : ControlPlaneInvocation) (input : Pb.FunctionInput)
    (retryCount : Nat) : RetrySent :=
  ModalRs.dueRetry inv.functionCallJwt inv.inputJwt input retryCount

/-- A retry that is not answered. -/
theorem retry_nil {inv : ControlPlaneInvocation} {input : Pb.FunctionInput}
    (hinput : inv.input = some input) (k : Nat) :
    inv.retry k [] = ([], .error (.waiting (inv.dueRetry input k).request), []) := by
  unfold ControlPlaneInvocation.retry
  rw [hinput]
  rfl

/-- A retry, answered: the tokens are those of before unless it succeeds. -/
theorem retry_cons {inv : ControlPlaneInvocation} {input : Pb.FunctionInput}
    (hinput : inv.input = some input) (k : Nat) (a : InvocationAnswer)
    (is : List InvocationAnswer) :
    inv.retry k (a :: is) =
      ([(inv.dueRetry input k).event (a.reply (inv.dueRetry input k).request)],
        .ok (match a.reply (inv.dueRetry input k).request with
          | .error e => (.error e, inv)
          | .ok response => (.ok (), inv.renew response)), is) := by
  unfold ControlPlaneInvocation.retry
  rw [hinput]
  simp only [Exchange.bind_apply, InvocationRequest.call, Exchange.ask_cons]
  cases a.reply (inv.dueRetry input k).request with
  | error e => rfl
  | ok response => rfl

/-- **A retry that fails leaves the tokens as they were.** -/
theorem retry_failed {inv inv' : ControlPlaneInvocation} {k : Nat} {e : ModalError}
    {is rest : List InvocationAnswer} {es : List InvocationEvent}
    (h : inv.retry k is = (es, .ok (.error e, inv'), rest)) : inv' = inv := by
  cases hinput : inv.input with
  | none =>
    unfold ControlPlaneInvocation.retry at h
    rw [hinput] at h
    cases h
    rfl
  | some input =>
    cases is with
    | nil =>
      rw [retry_nil hinput] at h
      cases h
    | cons a is =>
      rw [retry_cons hinput] at h
      cases hreply : a.reply (inv.dueRetry input k).request with
      | error e' =>
        simp only [hreply] at h
        cases h
        rfl
      | ok response =>
        simp only [hreply] at h
        cases h

/-- How a remote call goes on with an invocation that was retried so often. -/
inductive LoopRun (lib : Ciborium V) (input : Pb.FunctionInput) :
    ControlPlaneInvocation → Nat → List InvocationEvent → Except Halt (InvocationResult V) →
      Prop where
  | awaited {inv : ControlPlaneInvocation} {k : Nat} {es : List InvocationEvent}
      {out : Except Halt (InvocationResult V)} (h : Awaited lib inv.functionCallId es out)
      (hspent : ∀ msg, out = .error (.err (.internalFailure msg)) → maxSystemRetries < k) :
      LoopRun lib input inv k es out
  | retrying {inv : ControlPlaneInvocation} {k : Nat} {es : List InvocationEvent} {msg : String}
      (h : Awaited lib inv.functionCallId es (.error (.err (.internalFailure msg))))
      (hk : k ≤ maxSystemRetries) :
      LoopRun lib input inv k es (.error (.waiting (inv.dueRetry input k).request))
  | retryFailed {inv : ControlPlaneInvocation} {k : Nat} {es : List InvocationEvent} {msg : String}
      (h : Awaited lib inv.functionCallId es (.error (.err (.internalFailure msg))))
      (hk : k ≤ maxSystemRetries) (e : ModalError) :
      LoopRun lib input inv k (es ++ [(inv.dueRetry input k).event (.error e)]) (.error (.err e))
  | retried {inv : ControlPlaneInvocation} {k : Nat} {es es' : List InvocationEvent} {msg : String}
      {out : Except Halt (InvocationResult V)}
      (h : Awaited lib inv.functionCallId es (.error (.err (.internalFailure msg))))
      (hk : k ≤ maxSystemRetries) (response : Pb.FunctionRetryInputsResponse)
      (hrest : LoopRun lib input (inv.renew response) (k + 1) es' out) :
      LoopRun lib input inv k (es ++ (inv.dueRetry input k).event (.ok response) :: es') out

/-- **A retry changes the input token alone.** -/
theorem renew_eq (inv : ControlPlaneInvocation) (response : Pb.FunctionRetryInputsResponse) :
    inv.renew response =
      { inv with inputJwt := response.inputJwts.head?.getD inv.inputJwt } := by
  unfold ControlPlaneInvocation.renew
  cases response.inputJwts.head? <;> rfl

theorem renew_input (inv : ControlPlaneInvocation) (response : Pb.FunctionRetryInputsResponse) :
    (inv.renew response).input = inv.input := by
  rw [renew_eq]

theorem renew_functionCallId (inv : ControlPlaneInvocation)
    (response : Pb.FunctionRetryInputsResponse) :
    (inv.renew response).functionCallId = inv.functionCallId := by
  rw [renew_eq]

theorem renew_functionCallJwt (inv : ControlPlaneInvocation)
    (response : Pb.FunctionRetryInputsResponse) :
    (inv.renew response).functionCallJwt = inv.functionCallJwt := by
  rw [renew_eq]

theorem renew_inputJwt (inv : ControlPlaneInvocation) (response : Pb.FunctionRetryInputsResponse) :
    (inv.renew response).inputJwt = response.inputJwts.head?.getD inv.inputJwt := by
  rw [renew_eq]

/-- One round of a remote call: an await, and the retry that follows it, if one does. -/
inductive LoopStep (lib : Ciborium V) (input : Pb.FunctionInput) (inv : ControlPlaneInvocation)
    (k : Nat) (script : List InvocationAnswer) :
    List InvocationEvent → Except Halt (InvocationResult V) → List InvocationAnswer → Prop where
  | returned {es : List InvocationEvent} {out : Except Halt (InvocationResult V)}
      {rest : List InvocationAnswer} (hawait : inv.awaitOutput lib none script = (es, out, rest))
      (hspent : ∀ msg, out = .error (.err (.internalFailure msg)) → maxSystemRetries < k) :
      LoopStep lib input inv k script es out rest
  | waits {es : List InvocationEvent} {msg : String}
      (hawait : inv.awaitOutput lib none script = (es, .error (.err (.internalFailure msg)), []))
      (hk : k ≤ maxSystemRetries) :
      LoopStep lib input inv k script es (.error (.waiting (inv.dueRetry input k).request)) []
  | failed {es : List InvocationEvent} {msg : String} {a : InvocationAnswer}
      {is : List InvocationAnswer}
      (hawait : inv.awaitOutput lib none script =
        (es, .error (.err (.internalFailure msg)), a :: is))
      (hk : k ≤ maxSystemRetries) (e : ModalError)
      (hreply : a.reply (inv.dueRetry input k).request = .error e) :
      LoopStep lib input inv k script (es ++ [(inv.dueRetry input k).event (.error e)])
        (.error (.err e)) is
  | retried {es es' : List InvocationEvent} {msg : String} {a : InvocationAnswer}
      {is rest : List InvocationAnswer} {out : Except Halt (InvocationResult V)}
      (hawait : inv.awaitOutput lib none script =
        (es, .error (.err (.internalFailure msg)), a :: is))
      (hk : k ≤ maxSystemRetries) (response : Pb.FunctionRetryInputsResponse)
      (hreply : a.reply (inv.dueRetry input k).request = .ok response)
      (hrest : Function.remoteLoop lib (inv.renew response) (k + 1) is = (es', out, rest)) :
      LoopStep lib input inv k script (es ++ (inv.dueRetry input k).event (.ok response) :: es')
        out rest

/-- **One round of a remote call, taken apart.** -/
theorem remoteLoop_step {input : Pb.FunctionInput} {inv : ControlPlaneInvocation} {k : Nat}
    {script rest : List InvocationAnswer} {es : List InvocationEvent}
    {out : Except Halt (InvocationResult V)} (hinput : inv.input = some input)
    (h : Function.remoteLoop lib inv k script = (es, out, rest)) :
    LoopStep lib input inv k script es out rest := by
  rw [Function.remoteLoop] at h
  obtain ⟨es₁, out₁, is₁, es₂, hawait, hnext, rfl⟩ := Exchange.handle_cases h
  -- what is not retried is the outcome
  have hreturned : ∀ out', (Exchange.lift out' : InvocationM (InvocationResult V)) is₁ =
        (es₂, out, rest) → out' = out₁ →
      (∀ msg, out₁ = .error (.err (.internalFailure msg)) → maxSystemRetries < k) →
      LoopStep lib input inv k script (es₁ ++ es₂) out rest := by
    intro out' hlift hsame hspent
    obtain ⟨rfl, rfl, rfl⟩ := Exchange.lift_cases hlift
    rw [List.append_nil]
    subst hsame
    exact .returned hawait hspent
  cases out₁ with
  | ok result => exact hreturned _ hnext rfl fun msg h => by cases h
  | error halt =>
    cases halt with
    | waiting r => exact hreturned _ hnext rfl fun msg h => by cases h
    | err e =>
      cases e with
      | internalFailure msg =>
        by_cases hk : k ≤ maxSystemRetries
        · simp only [if_pos hk] at hnext
          cases is₁ with
          | nil =>
            rw [Exchange.bind_apply, retry_nil hinput] at hnext
            cases hnext
            rw [List.append_nil]
            exact .waits hawait hk
          | cons a is₁ =>
            rw [Exchange.bind_apply, retry_cons hinput] at hnext
            cases hreply : a.reply (inv.dueRetry input k).request with
            | error e =>
              simp only [hreply] at hnext
              cases hnext
              exact .failed hawait hk e hreply
            | ok response =>
              rcases hrest : Function.remoteLoop lib (inv.renew response) (k + 1) is₁ with
                ⟨es', out', rest'⟩
              simp only [hreply, hrest] at hnext
              cases hnext
              exact .retried hawait hk response hreply hrest
        · simp only [if_neg hk] at hnext
          exact hreturned _ hnext rfl fun _ _ => Nat.lt_of_not_le hk
      | _ => exact hreturned _ hnext rfl fun msg h => by cases h

/-- **How a remote call goes**, from any invocation and any count on. -/
theorem remoteLoop_run {input : Pb.FunctionInput} {inv : ControlPlaneInvocation} {k : Nat}
    {script rest : List InvocationAnswer} {es : List InvocationEvent}
    {out : Except Halt (InvocationResult V)} (hinput : inv.input = some input)
    (h : Function.remoteLoop lib inv k script = (es, out, rest)) :
    LoopRun lib input inv k es out := by
  -- by induction on the retries that are left
  induction hleft : maxSystemRetries + 1 - k using Nat.strongRecOn
    generalizing inv k script es with
  | ind left ih =>
    cases remoteLoop_step hinput h with
    | returned hawait hspent => exact .awaited (awaited_of_run hawait) hspent
    | waits hawait hk => exact .retrying (awaited_of_run hawait) hk
    | failed hawait hk e hreply => exact .retryFailed (awaited_of_run hawait) hk e
    | retried hawait hk response hreply hrest =>
      have hless : maxSystemRetries + 1 - (k + 1) < left := by omega
      exact .retried (awaited_of_run hawait) hk response
        (ih _ hless ((renew_input inv response).trans hinput) hrest rfl)

/-! ## 3. The retries of a run -/

def InvocationRequest.retry? : InvocationRequest → Option RetrySent
  | .functionRetryInputs functionCallJwt inputs => some ⟨functionCallJwt, inputs⟩
  | _ => none

def InvocationRequest.isFunctionMap : InvocationRequest → Bool
  | .functionMap .. => true
  | _ => false

def retryReply? : InvocationEvent → Option (Except ModalError Pb.FunctionRetryInputsResponse)
  | ⟨.functionRetryInputs _ _, reply⟩ => some reply
  | _ => none

/-- The retries that were sent, in order. -/
def retriesSent {α : Type} (es : List InvocationEvent) (out : Except Halt α) : List RetrySent :=
  (sent es out).filterMap InvocationRequest.retry?

/-- The replies to retries, in order. -/
def retryReplies (es : List InvocationEvent) :
    List (Except ModalError Pb.FunctionRetryInputsResponse) := es.filterMap retryReply?

/-- The token of a reply, if it contains one. -/
def newJwt : Except ModalError Pb.FunctionRetryInputsResponse → Option String
  | .ok response => response.inputJwts.head?
  | .error _ => none

/-- The token of the latest reply that contains one, or else the one of before. -/
def latestJwt (inputJwt : String)
    (replies : List (Except ModalError Pb.FunctionRetryInputsResponse)) : String :=
  (replies.filterMap newJwt).getLast?.getD inputJwt

theorem latestJwt_cons (inputJwt : String) (response : Pb.FunctionRetryInputsResponse)
    (replies : List (Except ModalError Pb.FunctionRetryInputsResponse)) :
    latestJwt inputJwt (.ok response :: replies) =
      latestJwt (response.inputJwts.head?.getD inputJwt) replies := by
  unfold latestJwt
  rw [List.filterMap_cons, newJwt]
  cases response.inputJwts.head? with
  | none => rfl
  | some jwt =>
    simp only [List.getLast?_cons, Option.getD_some]

section Retries

variable {input : Pb.FunctionInput} {inv : ControlPlaneInvocation} {k : Nat}
  {es es' : List InvocationEvent} {out : Except Halt (InvocationResult V)} {functionCallId : String}

/-- Awaiting sends what awaits. -/
theorem Awaited.sent_awaits (h : Awaited lib functionCallId es out) :
    ∀ r ∈ sent es out, r.Awaits := by
  obtain ⟨is, rest, hrun⟩ := h
  have hg : ∀ t, ((ControlPlaneInvocation.getOutput functionCallId).request t).Awaits :=
    fun _ => trivial
  exact AsksOnly.sent (pollFunctionOutput_awaits hg none) hrun

theorem Awaited.events_await (h : Awaited lib functionCallId es out) :
    ∀ r ∈ es.map (·.action), r.Awaits :=
  fun r hr => h.sent_awaits r (List.mem_append_left _ hr)

theorem retry?_of_awaits {r : InvocationRequest} (h : r.Awaits) : r.retry? = none := by
  cases r <;> first | rfl | exact h.elim

theorem isFunctionMap_of_awaits {r : InvocationRequest} (h : r.Awaits) :
    r.isFunctionMap = false := by
  cases r <;> first | rfl | exact h.elim

theorem Awaited.retriesSent_nil (h : Awaited lib functionCallId es out) :
    retriesSent es out = [] :=
  List.filterMap_eq_nil_iff.mpr fun r hr => retry?_of_awaits (h.sent_awaits r hr)

/-- The events of an await have no retry among them. -/
theorem Awaited.events_retry (h : Awaited lib functionCallId es out) :
    (es.map (·.action)).filterMap InvocationRequest.retry? = [] ∧ retryReplies es = [] := by
  constructor
  · exact List.filterMap_eq_nil_iff.mpr fun r hr => retry?_of_awaits (h.events_await r hr)
  · refine List.filterMap_eq_nil_iff.mpr fun e he => ?_
    have hr : e.action.Awaits := h.events_await _ (List.mem_map_of_mem he)
    obtain ⟨r, reply⟩ := e
    cases r <;> first | rfl | exact hr.elim

/-- What was sent while awaiting, and then a retry. -/
theorem Awaited.retriesSent_append (h : Awaited lib functionCallId es out) (r : RetrySent)
    (reply : Except ModalError Pb.FunctionRetryInputsResponse)
    (out' : Except Halt (InvocationResult V)) :
    retriesSent (es ++ r.event reply :: es') out' = r :: retriesSent es' out' := by
  unfold retriesSent
  rw [sent_append, List.filterMap_append, h.events_retry.1, sent_cons]
  rfl

theorem Awaited.retryReplies_append (h : Awaited lib functionCallId es out) (r : RetrySent)
    (reply : Except ModalError Pb.FunctionRetryInputsResponse) :
    retryReplies (es ++ r.event reply :: es') = reply :: retryReplies es' := by
  have hsplit : retryReplies (es ++ r.event reply :: es') =
      retryReplies es ++ retryReplies (r.event reply :: es') := List.filterMap_append
  rw [hsplit, h.events_retry.2]
  rfl

/-- **Every retry is the one that is due**, from any invocation and any count on. -/
theorem LoopRun.retries_due (h : LoopRun lib input inv k es out) :
    ∀ j r, (retriesSent es out)[j]? = some r →
      r = dueRetry inv.functionCallJwt (latestJwt inv.inputJwt ((retryReplies es).take j)) input
        (k + j) := by
  induction h with
  | awaited h hspent =>
    intro j r hr
    rw [h.retriesSent_nil] at hr
    cases hr
  | @retrying inv k es msg h hk =>
    intro j r hr
    have hone : retriesSent es (.error (.waiting (inv.dueRetry input k).request) :
        Except Halt (InvocationResult V)) = [inv.dueRetry input k] := by
      unfold retriesSent sent
      rw [List.filterMap_append, h.events_retry.1]
      rfl
    rw [hone] at hr
    cases j with
    | zero =>
      cases hr
      rfl
    | succ j => cases hr
  | @retryFailed inv k es msg h hk e =>
    intro j r hr
    rw [h.retriesSent_append] at hr
    cases j with
    | zero =>
      cases hr
      rfl
    | succ j => cases hr
  | @retried inv k es es' msg out h hk response hrest ih =>
    intro j r hr
    rw [h.retriesSent_append] at hr
    cases j with
    | zero =>
      cases hr
      rfl
    | succ j =>
      have hdue := ih j r hr
      rw [h.retryReplies_append, List.take_succ_cons, latestJwt_cons, ← renew_inputJwt, hdue,
        renew_functionCallJwt, Nat.add_assoc, Nat.add_comm 1 j]

/-- **A retry that fails is the last thing sent**, and its error is the outcome. -/
theorem LoopRun.retry_error (h : LoopRun lib input inv k es out) :
    ∀ (j : Nat) (e : ModalError), (retryReplies es)[j]? = some (.error e) →
      out = .error (.err e) ∧ ∃ es₀ r, es = es₀ ++ [RetrySent.event r (.error e)] := by
  induction h with
  | awaited h | retrying h =>
    intro j e hj
    rw [h.events_retry.2] at hj
    cases hj
  | @retryFailed inv k es msg h hk e' =>
    intro j e hj
    rw [h.retryReplies_append] at hj
    cases j with
    | zero =>
      cases hj
      exact ⟨rfl, es, _, rfl⟩
    | succ j => cases hj
  | @retried inv k es es' msg out h hk response hrest ih =>
    intro j e hj
    rw [h.retryReplies_append] at hj
    cases j with
    | zero => cases hj
    | succ j =>
      obtain ⟨hout, es₀, r, rfl⟩ := ih j e hj
      refine ⟨hout, es ++ (inv.dueRetry input k).event (.ok response) :: es₀, r, ?_⟩
      rw [List.append_assoc, List.cons_append]

/-- Awaits and retries map nothing. -/
theorem LoopRun.maps_nothing (h : LoopRun lib input inv k es out) :
    ∀ r ∈ sent es out, r.isFunctionMap = false := by
  induction h with
  | awaited h hspent => exact fun r hr => isFunctionMap_of_awaits (h.sent_awaits r hr)
  | retrying h hk =>
    exact List.forall_mem_append.mpr
      ⟨fun r hr => isFunctionMap_of_awaits (h.events_await r hr), List.forall_mem_singleton.mpr rfl⟩
  | retryFailed h hk e =>
    rw [sent_append]
    exact List.forall_mem_append.mpr
      ⟨fun r hr => isFunctionMap_of_awaits (h.events_await r hr), List.forall_mem_singleton.mpr rfl⟩
  | retried h hk response hrest ih =>
    rw [sent_append, sent_cons]
    exact List.forall_mem_append.mpr
      ⟨fun r hr => isFunctionMap_of_awaits (h.events_await r hr),
        List.forall_mem_cons.mpr ⟨rfl, ih⟩⟩

/-- A round: the output was an internal failure, and a retry of it succeeded. -/
structure Round where
  awaited : List InvocationEvent
  failure : String
  retry : RetrySent
  response : Pb.FunctionRetryInputsResponse

def Round.events (r : Round) : List InvocationEvent := r.awaited ++ [r.retry.event (.ok r.response)]

/-- How a remote call ends behind so many rounds. -/
inductive RemoteEnd (lib : Ciborium V) (functionCallId : String) :
    (rounds : Nat) → List InvocationEvent → Except Halt (InvocationResult V) → Prop where
  | awaited {rounds : Nat} {last : List InvocationEvent} {out : Except Halt (InvocationResult V)}
      (h : Awaited lib functionCallId last out)
      (hspent : ∀ msg, out = .error (.err (.internalFailure msg)) → rounds = maxSystemRetries + 1) :
      RemoteEnd lib functionCallId rounds last out
  | retrying {rounds : Nat} {last : List InvocationEvent} {msg : String}
      (h : Awaited lib functionCallId last (.error (.err (.internalFailure msg))))
      (hleft : rounds ≤ maxSystemRetries) (r : RetrySent) :
      RemoteEnd lib functionCallId rounds last (.error (.waiting r.request))
  | retryFailed {rounds : Nat} {last : List InvocationEvent} {msg : String}
      (h : Awaited lib functionCallId last (.error (.err (.internalFailure msg))))
      (hleft : rounds ≤ maxSystemRetries) (r : RetrySent) (e : ModalError) :
      RemoteEnd lib functionCallId rounds (last ++ [r.event (.error e)]) (.error (.err e))

/-- **Which outcome is returned**: every earlier one was an internal failure that was retried. -/
theorem LoopRun.rounds (h : LoopRun lib input inv k es out) (hk : k ≤ maxSystemRetries + 1) :
    ∃ rounds last, es = List.flatMap Round.events rounds ++ last ∧
      (∀ r ∈ rounds, Awaited lib inv.functionCallId r.awaited
        (.error (.err (.internalFailure r.failure)))) ∧
      RemoteEnd lib inv.functionCallId (k + rounds.length) last out := by
  induction h with
  | awaited h hspent =>
    refine ⟨[], _, rfl, fun _ hmem => (List.not_mem_nil hmem).elim, .awaited h fun msg hmsg => ?_⟩
    have hlt := hspent msg hmsg
    rw [List.length_nil]
    omega
  | retrying h hleft =>
    exact ⟨[], _, rfl, fun _ hmem => (List.not_mem_nil hmem).elim, .retrying h hleft _⟩
  | retryFailed h hleft e =>
    exact ⟨[], _, rfl, fun _ hmem => (List.not_mem_nil hmem).elim, .retryFailed h hleft _ e⟩
  | @retried inv k es es' msg out h hleft response hrest ih =>
    obtain ⟨rounds, last, rfl, hrounds, hend⟩ := ih (Nat.succ_le_succ hleft)
    rw [renew_functionCallId] at hrounds hend
    refine ⟨⟨es, msg, inv.dueRetry input k, response⟩ :: rounds, last, ?_, ?_, ?_⟩
    · rw [List.flatMap_cons, Round.events, List.append_assoc, List.append_assoc]
      rfl
    · intro r hr
      rcases List.mem_cons.mp hr with rfl | hr
      · exact h
      · exact hrounds r hr
    · rw [List.length_cons, Nat.add_comm rounds.length 1, ← Nat.add_assoc]
      exact hend

end Retries

/-! ## 4. A remote call -/

section Call

variable {f : Function} {args : List V} {kwargs : V} {input : Pb.FunctionInput}
  {script rest : List InvocationAnswer} {es : List InvocationEvent}
  {out : Except Halt (InvocationResult V)}

/-- The function map of a call. -/
abbrev Function.mapRequest (f : Function) (input : Pb.FunctionInput) : InvocationRequest :=
  .functionMap f.functionId .unary .sync [⟨0, some input⟩]

/-- The invocation that a function map leads to. -/
abbrev Pb.FunctionMapResponse.invocation (m : Pb.FunctionMapResponse) (input : Pb.FunctionInput) :
    ControlPlaneInvocation :=
  ⟨m.functionCallId, some input, m.functionCallJwt, ControlPlaneInvocation.firstInputJwt m⟩

/-- **A remote call, taken apart**: its function map, and the loop that runs on the rest of the
    script. -/
theorem remote_cases (hweb : f.getWebUrl = "")
    (hinput : f.createInput lib args kwargs = .ok input)
    (h : f.remote lib args kwargs script = (es, out, rest)) :
    (script = [] ∧ es = [] ∧ out = .error (.waiting (f.mapRequest input))) ∨
    (∃ a is e, script = a :: is ∧ a.reply (f.mapRequest input) = .error e ∧
      es = [⟨f.mapRequest input, .error e⟩] ∧ out = .error (.err e)) ∨
    ∃ a is m es', script = a :: is ∧ a.reply (f.mapRequest input) = .ok m ∧
      es = ⟨f.mapRequest input, .ok m⟩ :: es' ∧
      Function.remoteLoop lib (m.invocation input) 0 is = (es', out, rest) := by
  have hcheck : f.checkNoWebUrl "Remote" = .ok () := if_neg (not_not.mpr hweb)
  rw [Function.remote, hcheck, Exchange.bind_of_silent (a := ()) rfl, hinput,
    Exchange.bind_of_silent (a := input) rfl] at h
  cases script with
  | nil =>
    cases h
    exact Or.inl ⟨rfl, rfl, rfl⟩
  | cons a is =>
    rw [ControlPlaneInvocation.create, Exchange.bind_apply, Exchange.bind_apply,
      InvocationRequest.require, Exchange.ask_cons] at h
    generalize hreply : a.reply (f.mapRequest input) = reply at h
    cases reply with
    | error e =>
      cases h
      exact Or.inr (Or.inl ⟨a, _, e, rfl, hreply, rfl, rfl⟩)
    | ok m =>
      rcases hloop : Function.remoteLoop lib (m.invocation input) 0 is with ⟨es', out', rest'⟩
      simp only [answered, Exchange.pure_apply, List.append_nil, hloop] at h
      cases h
      exact Or.inr (Or.inr ⟨a, is, m, es', rfl, hreply, rfl, hloop⟩)

/-- A call that is refused before anything is sent. -/
theorem remote_refused (hrefused : f.getWebUrl ≠ "" ∨ ∃ e, f.createInput lib args kwargs = .error e)
    (h : f.remote lib args kwargs script = (es, out, rest)) :
    es = [] ∧ ∃ e, out = .error (.err e) := by
  by_cases hweb : f.getWebUrl = ""
  · rcases hrefused with hne | ⟨e, hinput⟩
    · exact absurd hweb hne
    · have hcheck : f.checkNoWebUrl "Remote" = .ok () := if_neg (not_not.mpr hweb)
      rw [Function.remote, hcheck, Exchange.bind_of_silent (a := ()) rfl, hinput] at h
      cases h
      exact ⟨rfl, e, rfl⟩
  · have hcheck : ∃ e, f.checkNoWebUrl "Remote" = .error e := ⟨_, if_pos hweb⟩
    obtain ⟨e, hcheck⟩ := hcheck
    rw [Function.remote, hcheck] at h
    cases h
    exact ⟨rfl, e, rfl⟩

/-- **How a remote call goes**, for every script: the function map, then awaits and retries. -/
theorem remote_run (hweb : f.getWebUrl = "") (hinput : f.createInput lib args kwargs = .ok input)
    (h : f.remote lib args kwargs script = (es, out, rest)) :
    (es = [] ∧ out = .error (.waiting (f.mapRequest input))) ∨
    (∃ e, es = [⟨f.mapRequest input, .error e⟩] ∧ out = .error (.err e)) ∨
    ∃ m es', es = ⟨f.mapRequest input, .ok m⟩ :: es' ∧
      LoopRun lib input (m.invocation input) 0 es' out := by
  rcases remote_cases hweb hinput h with ⟨-, rfl, rfl⟩ | ⟨a, is, e, -, -, rfl, rfl⟩ |
    ⟨a, is, m, es', -, -, rfl, hloop⟩
  · exact Or.inl ⟨rfl, rfl⟩
  · exact Or.inr (Or.inl ⟨e, rfl, rfl⟩)
  · exact Or.inr (Or.inr ⟨m, es', rfl, remoteLoop_run rfl hloop⟩)

theorem heard_retry (inv : ControlPlaneInvocation) (k : Nat) : Heard (inv.retry k) := by
  unfold ControlPlaneInvocation.retry
  cases inv.input with
  | none => exact Exchange.Honest.pure _
  | some input =>
    refine Exchange.Honest.bind (heard_call _) fun reply => ?_
    cases reply with
    | error e => exact Exchange.Honest.pure _
    | ok response => exact Exchange.Honest.pure _

theorem heard_remoteLoop (inv : ControlPlaneInvocation) (k : Nat) :
    Heard (Function.remoteLoop lib inv k) := by
  -- by induction on the retries that are left
  induction hleft : maxSystemRetries + 1 - k using Nat.strongRecOn generalizing inv k with
  | ind left ih =>
    rw [Function.remoteLoop]
    refine Exchange.Honest.handle (heard_await _ _) ?_ fun out hout => ?_
    · rintro h ⟨r, rfl⟩
      rfl
    · cases out with
      | ok result => exact Exchange.Honest.pure _
      | error halt =>
        cases halt with
        | waiting r => exact absurd rfl (hout (.waiting r) ⟨r, rfl⟩)
        | err e =>
          cases e with
          | internalFailure msg =>
            by_cases hk : k ≤ maxSystemRetries
            · simp only [if_pos hk]
              have hless : maxSystemRetries + 1 - (k + 1) < left := by omega
              refine Exchange.Honest.bind (heard_retry inv k) fun r => ?_
              obtain ⟨e | _, inv'⟩ := r
              · exact heard_fail e
              · exact ih _ hless inv' (k + 1) rfl
            · simp only [if_neg hk]
              exact heard_fail _
          | _ => exact heard_fail _

/-- **A remote call hears the replies in order**, and waits only at the end of the script. -/
theorem heard_remote (f : Function) (args : List V) (kwargs : V) :
    Heard (f.remote lib args kwargs) := by
  unfold Function.remote ControlPlaneInvocation.create
  refine Exchange.Honest.bind (heard_answered _) fun _ => ?_
  refine Exchange.Honest.bind (heard_answered _) fun input => ?_
  refine Exchange.Honest.bind ?_ fun inv => heard_remoteLoop inv 0
  exact Exchange.Honest.bind (heard_require _) fun response => Exchange.Honest.pure _

theorem event_injective {reply reply' : Except ModalError Pb.FunctionMapResponse}
    {es' : List InvocationEvent}
    (hmem : (⟨f.mapRequest input, reply⟩ : InvocationEvent) ∈ ⟨f.mapRequest input, reply'⟩ :: es')
    (hrest : ∀ r ∈ es'.map (·.action), r.isFunctionMap = false) : reply = reply' := by
  rcases List.mem_cons.mp hmem with hmem | hmem
  · cases hmem
    rfl
  · cases hrest _ (List.mem_map_of_mem hmem)

/-- **A remote call keeps the token chain**: one function map, every retry with the tokens that are
    due, and the outcome of the first await that is not to be retried. It takes its replies from
    the script, in order, and waits only when the script has run out. -/
theorem remote_keeps_chain (hweb : f.getWebUrl = "")
    (hinput : f.createInput lib args kwargs = .ok input)
    (h : f.remote lib args kwargs script = (es, out, rest)) :
    Hears script es out rest ∧ (sent es out).head? = some (f.mapRequest input) ∧
    (sent es out).countP InvocationRequest.isFunctionMap = 1 ∧
    (∀ e : ModalError, (⟨f.mapRequest input, .error e⟩ : InvocationEvent) ∈ es →
      es.length = 1 ∧ out = .error (.err e)) ∧
    ∀ m : Pb.FunctionMapResponse, (⟨f.mapRequest input, .ok m⟩ : InvocationEvent) ∈ es →
      (∀ k r, (retriesSent es out)[k]? = some r →
        r = dueRetry m.functionCallJwt (latestJwt (ControlPlaneInvocation.firstInputJwt m)
          ((retryReplies es).take k)) input k) ∧
      (∀ (k : Nat) (e : ModalError), (retryReplies es)[k]? = some (.error e) →
        out = .error (.err e) ∧ ∃ es₀ r, es = es₀ ++ [RetrySent.event r (.error e)]) ∧
      (∀ (inv inv' : ControlPlaneInvocation) k e is es' rest',
        inv.retry k is = (es', .ok (.error e, inv'), rest') → inv' = inv) ∧
      ∃ (rounds : List Round) (last : List InvocationEvent),
        es = ⟨f.mapRequest input, .ok m⟩ :: (rounds.flatMap Round.events ++ last) ∧
        (∀ r ∈ rounds, Awaited lib m.functionCallId r.awaited
          (.error (.err (.internalFailure r.failure)))) ∧
        RemoteEnd lib m.functionCallId rounds.length last out := by
  refine ⟨(heard_remote f args kwargs).hears h, ?_⟩
  rcases remote_run hweb hinput h with ⟨rfl, rfl⟩ | ⟨e, rfl, rfl⟩ | ⟨m, es', rfl, hrun⟩
  · exact ⟨rfl, rfl, fun e he => (List.not_mem_nil he).elim, fun m hm => (List.not_mem_nil hm).elim⟩
  · refine ⟨rfl, rfl, fun e' he => ?_, fun m hm => ?_⟩
    · cases List.mem_singleton.mp he
      exact ⟨rfl, rfl⟩
    · cases List.mem_singleton.mp hm
  · have hnone : ∀ r ∈ sent es' out, r.isFunctionMap = false := hrun.maps_nothing
    have hevents : ∀ r ∈ es'.map (·.action), r.isFunctionMap = false :=
      fun r hr => hnone r (List.mem_append_left _ hr)
    refine ⟨rfl, ?_, fun e he => ?_, fun m' hm' => ?_⟩
    · rw [sent_cons, List.countP_cons_of_pos rfl, List.countP_eq_zero.mpr]
      intro r hr
      rw [hnone r hr]
      exact Bool.false_ne_true
    · cases event_injective he hevents
    · cases event_injective hm' hevents
      refine ⟨fun k r hr => ?_, fun k e hk => ?_, fun inv inv' k e is es rest => retry_failed, ?_⟩
      · have hdue := hrun.retries_due k r hr
        rw [Nat.zero_add] at hdue
        exact hdue
      · obtain ⟨hout, es₀, r, rfl⟩ := hrun.retry_error k e hk
        exact ⟨hout, _ :: es₀, r, rfl⟩
      · obtain ⟨rounds, last, rfl, hrounds, hend⟩ := hrun.rounds (Nat.zero_le _)
        rw [Nat.zero_add] at hend
        exact ⟨rounds, last, rfl, hrounds, hend⟩

end Call

/-- Values as their encodings: arrays of fewer than 24 items, and what is read back as it is. -/
def encodedCbor : Ciborium (List UInt8) where
  array items := (0x80 + UInt8.ofNat items.length) :: items.flatten
  intoWriter value := .ok value
  fromReader bytes := .ok bytes

/-- What a server replies that has this output. -/
def outputServer (status : Pb.GenericStatus) (data : List UInt8) : InvocationAnswer where
  took := 0
  reply
    | .functionMap .. => .ok ⟨"fc-1", "call-jwt", [⟨"input-jwt"⟩]⟩
    | .functionGetOutputs .. => .ok ⟨[⟨some ⟨status, "worker lost", some (.data data)⟩, .cbor⟩]⟩
    | .functionRetryInputs .. => .ok ⟨["retry-jwt"]⟩
    | _ => .error (.other "unexpected")

/-- A call whose first output is lost is retried once, with the tokens of its function map. -/
theorem remote_keeps_chain_once :
    let f : Function := ⟨"fu-1", some ⟨[.cbor], "", ""⟩⟩
    let input : Pb.FunctionInput := ⟨.cbor, some (.args [0x82, 0x80, 0xA0]), none⟩
    let failing := outputServer .internalFailure []
    let run := f.remote encodedCbor [] [0xA0] [failing, failing, failing, outputServer .success [7]]
    run.2.1 = .ok (.cbor [7]) ∧
      retriesSent run.1 run.2.1 = [dueRetry "call-jwt" "input-jwt" input 0] ∧
      (sent run.1 run.2.1).countP InvocationRequest.isFunctionMap = 1 := by
  intro f input failing run
  let output (status : Pb.GenericStatus) (data : List UInt8) : InvocationEvent :=
    ⟨.functionGetOutputs "fc-1" 1 outputsTimeout "0-0" true,
      .ok ⟨[⟨some ⟨status, "worker lost", some (.data data)⟩, .cbor⟩]⟩⟩
  let retried : InvocationEvent :=
    (dueRetry "call-jwt" "input-jwt" input 0).event (.ok ⟨["retry-jwt"]⟩)
  have hsecond : Function.remoteLoop encodedCbor ⟨"fc-1", some input, "call-jwt", "retry-jwt"⟩ 1
      [outputServer .success [7]] = ([output .success [7]], .ok (.cbor [7]), []) := by
    rw [Function.remoteLoop]
    rfl
  have hfirst : Function.remoteLoop encodedCbor ⟨"fc-1", some input, "call-jwt", "input-jwt"⟩ 0
      [failing, failing, outputServer .success [7]] =
      ([output .internalFailure [], retried, output .success [7]], .ok (.cbor [7]), []) := by
    rw [Function.remoteLoop]
    change (match Function.remoteLoop encodedCbor ⟨"fc-1", some input, "call-jwt", "retry-jwt"⟩ 1
      [outputServer .success [7]] with
      | (es, out, is) => ([output .internalFailure []] ++ ([retried] ++ es), out, is)) = _
    rw [hsecond]
    rfl
  have hrun : run = (⟨f.mapRequest input, .ok ⟨"fc-1", "call-jwt", [⟨"input-jwt"⟩]⟩⟩ ::
      [output .internalFailure [], retried, output .success [7]], .ok (.cbor [7]), []) := by
    change (match Function.remoteLoop encodedCbor ⟨"fc-1", some input, "call-jwt", "input-jwt"⟩ 0
      [failing, failing, outputServer .success [7]] with
      | (es, out, is) => (_ :: es, out, is)) = _
    rw [hfirst]
    rfl
  have hinput : f.createInput encodedCbor [] [0xA0] = .ok input := rfl
  have hchain := remote_keeps_chain rfl hinput hrun
  rw [hrun]
  exact ⟨rfl, rfl, hchain.2.2.1⟩

end ModalRs
