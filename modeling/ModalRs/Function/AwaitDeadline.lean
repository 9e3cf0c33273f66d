/-
  File:      ModalRs/Function/AwaitDeadline.lean
  Subject:   Awaiting with a timeout: how long each poll may last, and who gives up.

  The clock only advances in the polls (`OnTime`), so that what has passed is
  what the replies taken so far took (`elapsedAfter`).

  * `PollDue`: the invariant of the loop. The next poll ends at the deadline or before it.
  * `AwaitPromise`, `pollOutput_promise`: what awaiting does with its time.
  * `AwaitEnd`, `pollFunctionOutput_end`: all the ways in which an await ends.
  * `awaitOutput_keeps_deadline`: for both planes, every timeout, or none, and all replies.
-/
import ModalRs.Function.Remote

namespace ModalRs

open ModalRs.Lib ModalRs.Rust

variable {V : Type} {lib : Ciborium V}

/-! ## 1. The clock -/

/-- **The clock advances in polls alone**, and a poll lasts no longer than its timeout. -/
def OnTime (script : List InvocationAnswer) (requests : List InvocationRequest) : Prop :=
  ∀ (k : Nat) (r : InvocationRequest) (a : InvocationAnswer), requests[k]? = some r →
    script[k]? = some a → a.took ≤ r.pollTimeout.getD 0

/-- What a poll may last at most after `elapsed`: 55 s, and the time that is left. -/
def pollLimit (timeout : Option Duration) (elapsed : Duration) : Duration :=
  match timeout with
  | none => outputsTimeout
  | some total => min outputsTimeout (total - elapsed)

theorem onTime_cons {a : InvocationAnswer} {script : List InvocationAnswer} {r : InvocationRequest}
    {requests : List InvocationRequest} (h : OnTime (a :: script) (r :: requests)) :
    a.took ≤ r.pollTimeout.getD 0 ∧ OnTime script requests :=
  ⟨h 0 r a rfl rfl, fun k r' a' hr ha => h (k + 1) r' a' hr ha⟩

theorem onTime_append {script : List InvocationAnswer} {requests more : List InvocationRequest}
    (h : OnTime script (requests ++ more)) :
    OnTime script requests ∧ OnTime (script.drop requests.length) more := by
  constructor
  · intro k r a hr ha
    have hlt : k < requests.length := (List.getElem?_eq_some_iff.mp hr).1
    exact h k r a ((List.getElem?_append_left hlt).trans hr) ha
  · intro k r a hr ha
    rw [List.getElem?_drop] at ha
    refine h (requests.length + k) r a ?_ ha
    rw [List.getElem?_append_right (Nat.le_add_right _ _), Nat.add_sub_cancel_left]
    exact hr

theorem elapsedAfter_add (script : List InvocationAnswer) (m n : Nat) :
    elapsedAfter script (m + n) = elapsedAfter script m + elapsedAfter (script.drop m) n := by
  unfold elapsedAfter
  rw [List.take_add, List.map_append, List.sum_append]

/-- Where nothing is polled, no time passes. -/
theorem elapsedAfter_of_onTime {script : List InvocationAnswer}
    {requests : List InvocationRequest} (h : OnTime script requests)
    (hnone : ∀ r ∈ requests, r.pollTimeout = none) :
    elapsedAfter script requests.length = 0 := by
  induction requests generalizing script with
  | nil => rfl
  | cons r requests ih =>
    cases script with
    | nil => rfl
    | cons a script =>
      obtain ⟨hfirst, hrest⟩ := onTime_cons h
      have hr : r.pollTimeout = none := hnone r List.mem_cons_self
      rw [hr] at hfirst
      have htook : a.took = 0 := Nat.le_zero.mp hfirst
      rw [List.length_cons, elapsedAfter_cons, htook,
        ih hrest fun r' hr' => hnone r' (List.mem_cons_of_mem _ hr')]

/-! ## 2. The promise -/

/-- What awaiting does with its time, from `elapsed` on. -/
structure AwaitPromise {α : Type} (timeout : Option Duration) (elapsed : Duration)
    (script : List InvocationAnswer) (es : List InvocationEvent) (out : Except Halt α) : Prop where
  /-- Every poll timeout is at most 55 s, and at most the time that is left. -/
  poll : ∀ (k : Nat) (r : InvocationRequest) (t : Duration), (sent es out)[k]? = some r →
    r.pollTimeout = some t → t ≤ pollLimit timeout (elapsed + elapsedAfter script k)
  /-- The last reply comes at the deadline or before it. -/
  total : ∀ T, timeout = some T → elapsed + elapsedAfter script es.length ≤ T

section Promise

variable {α : Type} {timeout : Option Duration} {elapsed : Duration} {a : InvocationAnswer}
  {script : List InvocationAnswer} {es : List InvocationEvent} {out : Except Halt α}

/-- The promise of what asks nothing more. -/
theorem promise_done (hout : pending out = []) (htotal : ∀ T, timeout = some T → elapsed ≤ T) :
    AwaitPromise timeout elapsed script [] out where
  poll k r t hr := by
    rw [sent, hout] at hr
    cases hr
  total T hT := htotal T hT

/-- The promise of what polls once more. -/
theorem promise_poll {e : InvocationEvent} (hpoll : ∀ t, e.action.pollTimeout = some t →
      t ≤ pollLimit timeout elapsed)
    (h : AwaitPromise timeout (elapsed + a.took) script es out) :
    AwaitPromise timeout elapsed (a :: script) (e :: es) out where
  poll k r t hr ht := by
    cases k with
    | zero =>
      cases hr
      exact hpoll t ht
    | succ k =>
      have hlater := h.poll k r t hr ht
      rw [elapsedAfter_cons, ← Nat.add_assoc]
      exact hlater
  total T hT := by
    have hlater := h.total T hT
    rw [List.length_cons, elapsedAfter_cons, ← Nat.add_assoc]
    exact hlater

end Promise

/-! ## 3. The loop -/

/-- **The next poll ends at the deadline or before it**, and lasts 55 s at most. -/
structure PollDue (timeout : Option Duration) (elapsed pollTimeout : Duration) : Prop where
  short : pollTimeout ≤ outputsTimeout
  ends : ∀ T, timeout = some T → elapsed + pollTimeout ≤ T

section Loop

variable {g : GetOutput} {timeout : Option Duration} {elapsed pollTimeout : Duration}
  {script rest : List InvocationAnswer} {es : List InvocationEvent}

theorem PollDue.limit (h : PollDue timeout elapsed pollTimeout) :
    pollTimeout ≤ pollLimit timeout elapsed := by
  unfold pollLimit
  cases hT : timeout with
  | none => exact h.short
  | some T =>
    have hleft : pollTimeout ≤ T - elapsed := Nat.le_sub_of_add_le' (h.ends T hT)
    exact Nat.le_min.mpr ⟨h.short, hleft⟩

/-- A poll within its timeout ends at the deadline or before it. -/
theorem PollDue.within (h : PollDue timeout elapsed pollTimeout) {took : Duration}
    (htook : took ≤ pollTimeout) : ∀ T, timeout = some T → elapsed + took ≤ T :=
  fun T hT => Nat.le_trans (Nat.add_le_add_left htook _) (h.ends T hT)

/-- The first poll. -/
theorem pollDue_first (timeout : Option Duration) :
    PollDue timeout 0 (match timeout with
      | some t => min t outputsTimeout
      | none => outputsTimeout) := by
  cases timeout with
  | none => exact ⟨Nat.le_refl _, nofun⟩
  | some t =>
    refine ⟨Nat.min_le_right _ _, fun T hT => ?_⟩
    cases hT
    rw [Nat.zero_add]
    exact Nat.min_le_left _ _

/-- The poll after one without an output. -/
theorem PollDue.again {now pollTimeout' : Duration} (h : PollDue timeout elapsed pollTimeout)
    (hnext : timeout = none ∧ pollTimeout' = pollTimeout ∨ ∃ total, timeout = some total ∧
      now < total ∧ pollTimeout' = min outputsTimeout (total - now)) :
    PollDue timeout now pollTimeout' := by
  rcases hnext with ⟨rfl, rfl⟩ | ⟨total, rfl, hleft, rfl⟩
  · exact ⟨h.short, nofun⟩
  · refine ⟨Nat.min_le_left _ _, fun T hT => ?_⟩
    cases hT
    have hmin : min outputsTimeout (total - now) ≤ total - now := Nat.min_le_right _ _
    calc now + min outputsTimeout (total - now) ≤ now + (total - now) :=
          Nat.add_le_add_left hmin _
      _ = total := Nat.add_sub_cancel' (Nat.le_of_lt hleft)

/-- **Every run of the loop keeps the promise**, by `PollDue`. -/
theorem pollOutput_promise (hg : g.Polls) (hdue : PollDue timeout elapsed pollTimeout)
    {out : Except Halt Pb.FunctionGetOutputsItem}
    (h : pollOutput g timeout elapsed pollTimeout script = (es, out, rest))
    (hclock : OnTime script (sent es out)) : AwaitPromise timeout elapsed script es out := by
  have hpoll : ∀ t, (g.request pollTimeout).pollTimeout = some t →
      t ≤ pollLimit timeout elapsed := by
    intro t ht
    rw [hg.timeout] at ht
    cases ht
    exact hdue.limit
  induction script generalizing elapsed pollTimeout es with
  | nil =>
    cases h
    refine ⟨fun k r t hr ht => ?_, fun T hT => ?_⟩
    · cases k with
      | zero =>
        cases hr
        exact hpoll t ht
      | succ k => cases hr
    · have hends := hdue.ends T hT
      exact Nat.le_trans (Nat.le_add_right _ _) hends
  | cons a is ih =>
    obtain ⟨es', rfl, hstep⟩ := pollOutput_cons h
    rw [sent_cons] at hclock
    obtain ⟨htook, hrest⟩ := onTime_cons hclock
    rw [hg.timeout] at htook
    have htotal := hdue.within htook
    cases hstep with
    | failed err hreply => exact promise_poll hpoll (promise_done rfl htotal)
    | found response item hreply hitem => exact promise_poll hpoll (promise_done rfl htotal)
    | timedOut total response => exact promise_poll hpoll (promise_done rfl htotal)
    | again pollTimeout' response hreply hitem hnext hloop =>
      have hdue' := hdue.again hnext
      have hpoll' : ∀ t, (g.request pollTimeout').pollTimeout = some t →
          t ≤ pollLimit timeout (elapsed + a.took) := by
        intro t ht
        rw [hg.timeout] at ht
        cases ht
        exact hdue'.limit
      exact promise_poll hpoll (ih hdue' hloop hrest hpoll')

/-- With no time at all there is one poll. -/
theorem pollOutput_once {out : Except Halt Pb.FunctionGetOutputsItem}
    (h : pollOutput g (some 0) elapsed pollTimeout script = (es, out, rest)) :
    sent es out = [g.request pollTimeout] := by
  cases script with
  | nil =>
    cases h
    rfl
  | cons a is =>
    obtain ⟨es', rfl, hstep⟩ := pollOutput_cons h
    cases hstep with
    | failed | found | timedOut => rfl
    | again pollTimeout' response hreply hitem hnext hloop =>
      rcases hnext with ⟨hnone, -⟩ | ⟨total, htotal, hlt, -⟩
      · cases hnone
      · cases htotal
        exact absurd hlt (Nat.not_lt_zero _)

end Loop

/-! ## 4. Awaiting -/

section Await

variable {g : GetOutput} {timeout : Option Duration} {script rest : List InvocationAnswer}
  {es : List InvocationEvent} {out : Except Halt (InvocationResult V)}

/-- How an await ends: with the polling, or with the output that the polling has found. -/
inductive AwaitEnd (lib : Ciborium V) (timeout : Option Duration)
    (script : List InvocationAnswer) :
    List InvocationEvent → Except Halt (InvocationResult V) → List InvocationAnswer → Prop where
  | polled {es : List InvocationEvent} {halt : Halt}
      (h : PollingEnd timeout (elapsedAfter script es.length) es (.error halt)) :
      AwaitEnd lib timeout script es (.error halt) (script.drop es.length)
  | read {es es' : List InvocationEvent} {item : Pb.FunctionGetOutputsItem}
      {out : Except Halt (InvocationResult V)} {rest : List InvocationAnswer}
      (h : PollingEnd timeout (elapsedAfter script es.length) es (.ok item))
      (hread : processResult lib item.result item.dataFormat (script.drop es.length) =
        (es', out, rest)) :
      AwaitEnd lib timeout script (es ++ es') out rest

/-- **How an await ends**, on every script. -/
theorem pollFunctionOutput_end (hg : g.Polls)
    (h : pollFunctionOutput lib g timeout script = (es, out, rest)) :
    AwaitEnd lib timeout script es out rest := by
  rcases Exchange.bind_cases h with ⟨halt, hpoll, rfl⟩ | ⟨es₁, item, is₁, es₂, hpoll, hread, rfl⟩
  · obtain ⟨hend, rfl⟩ := pollOutput_end hg hpoll
    rw [Nat.zero_add] at hend
    exact .polled hend
  · obtain ⟨hend, rfl⟩ := pollOutput_end hg hpoll
    rw [Nat.zero_add] at hend
    exact .read hend hread

/-- Reading a result polls nothing. -/
theorem processResult_polls_nothing (result : Option Pb.GenericResult)
    (dataFormat : Pb.DataFormat) :
    AsksOnly (fun r => r.pollTimeout = none) (processResult lib result dataFormat) :=
  processResult_asks (fun _ => rfl) (fun _ => rfl) result dataFormat

/-- The promise is kept by whatever polls nothing more. -/
theorem AwaitPromise.append {α β : Type} {out₁ : Except Halt α} {out : Except Halt β}
    {es₁ es₂ : List InvocationEvent} (h : AwaitPromise timeout 0 script es₁ out₁)
    (hnone : ∀ r ∈ sent es₂ out, r.pollTimeout = none)
    (hclock : OnTime (script.drop es₁.length) (sent es₂ out)) :
    AwaitPromise timeout 0 script (es₁ ++ es₂) out where
  poll k r t hr ht := by
    rw [sent_append] at hr
    by_cases hfirst : k < es₁.length
    · have hlt : k < (es₁.map (·.action)).length := by rwa [List.length_map]
      rw [List.getElem?_append_left hlt] at hr
      exact h.poll k r t ((List.getElem?_append_left hlt).trans hr) ht
    · have hge : (es₁.map (·.action)).length ≤ k := by
        rw [List.length_map]
        exact Nat.le_of_not_lt hfirst
      rw [List.getElem?_append_right hge] at hr
      have hpoll : r.pollTimeout = none := hnone r (List.mem_of_getElem? hr)
      rw [hpoll] at ht
      cases ht
  total T hT := by
    have hbefore := h.total T hT
    have hevents : OnTime (script.drop es₁.length) (es₂.map (·.action)) := (onTime_append hclock).1
    have hidle := elapsedAfter_of_onTime hevents fun r hr => hnone r (List.mem_append_left _ hr)
    rw [List.length_map] at hidle
    rw [List.length_append, elapsedAfter_add, hidle, Nat.add_zero]
    exact hbefore

/-- **The time of an await**: polls within the limit, and no reply past the deadline. -/
theorem pollFunctionOutput_promise (hg : g.Polls)
    (h : pollFunctionOutput lib g timeout script = (es, out, rest))
    (hclock : OnTime script (sent es out)) : AwaitPromise timeout 0 script es out := by
  rcases Exchange.bind_cases h with ⟨halt, hpoll, rfl⟩ | ⟨es₁, item, is₁, es₂, hpoll, hread, rfl⟩
  · -- the polling has failed, or waits for a reply
    have hsent := sent_error (α := InvocationResult V) es halt Pb.FunctionGetOutputsItem
    rw [hsent] at hclock
    have hpromise := pollOutput_promise hg (pollDue_first timeout) hpoll hclock
    refine ⟨fun k r t hr => ?_, hpromise.total⟩
    rw [hsent] at hr
    exact hpromise.poll k r t hr
  · rw [sent_append] at hclock
    obtain ⟨hfirst, hlater⟩ := onTime_append hclock
    rw [List.length_map] at hlater
    have hsent : sent es₁ (.ok item : Except Halt Pb.FunctionGetOutputsItem) =
        es₁.map (·.action) := List.append_nil _
    have hpromise := pollOutput_promise hg (pollDue_first timeout) hpoll (by rwa [hsent])
    have hnone := (processResult_polls_nothing item.result item.dataFormat).sent hread
    exact hpromise.append hnone hlater

/-- **The local timeout** comes when no reply brought anything and the time is up. -/
theorem pollFunctionOutput_late (hg : g.Polls)
    (h : pollFunctionOutput lib g timeout script = (es, out, rest))
    (hes : ∀ e ∈ es, NoOutput e) {msg : String}
    (hout : out = .error (.err (.functionTimeout msg))) :
    ∃ T, timeout = some T ∧ T ≤ elapsedAfter script es.length ∧
      timeoutExceeded T = .functionTimeout msg := by
  subst hout
  rcases Exchange.bind_cases h with ⟨halt, hpoll, hhalt⟩ | ⟨es₁, item, is₁, es₂, hpoll, -, rfl⟩
  · cases hhalt
    obtain ⟨hend, -⟩ := pollOutput_end hg hpoll
    rw [Nat.zero_add] at hend
    generalize hmsg : (Except.error (Halt.err (.functionTimeout msg)) :
      Except Halt Pb.FunctionGetOutputsItem) = out' at hend
    cases hend with
    | waiting _ r => cases hmsg
    | timedOut _ total htimeout hdue =>
      have herr : ModalError.functionTimeout msg = timeoutExceeded total :=
        Halt.err.inj (Except.error.inj hmsg)
      exact ⟨total, htimeout, hdue, herr.symm⟩
    | failed _ e err herr =>
      have hno : NoOutput e := hes e (List.mem_append_right _ (List.mem_singleton.mpr rfl))
      rw [hno.1] at herr
      cases herr
    | found _ e item _ _ => cases hmsg
  · obtain ⟨hend, -⟩ := pollOutput_end hg hpoll
    cases hend with
    | @found es' _ e _ _ hitem =>
      have hmem : e ∈ es' ++ [e] ++ es₂ :=
        List.mem_append_left _ (List.mem_append_right _ (List.mem_singleton.mpr rfl))
      have hno : NoOutput e := hes e hmem
      rw [hno.2] at hitem
      cases hitem

/-- **The first output decides**, whenever it comes: reading it is what is left to do. -/
theorem pollFunctionOutput_decides (hg : g.Polls)
    (h : pollFunctionOutput lib g timeout script = (es, out, rest)) {k : Nat} {e : InvocationEvent}
    {item : Pb.FunctionGetOutputsItem} (hk : es[k]? = some e) (hitem : outputOf e = some item) :
    (∀ e' ∈ es.take k, NoOutput e') ∧
    processResult lib item.result item.dataFormat (script.drop (k + 1)) =
      (es.drop (k + 1), out, rest) := by
  -- a reply without an output is another one
  have hother : ∀ es' : List InvocationEvent, (∀ e ∈ es', NoOutput e) → es'[k]? ≠ some e := by
    intro es' hes' hmem
    have hnone : outputOf e = none := (hes' e (List.mem_of_getElem? hmem)).2
    rw [hnone] at hitem
    cases hitem
  rcases Exchange.bind_cases h with ⟨halt, hpoll, rfl⟩ | ⟨es₁, item', is₁, es₂, hpoll, hread, rfl⟩
  · obtain ⟨hend, -⟩ := pollOutput_end hg hpoll
    cases hend with
    | waiting hes r => exact absurd hk (hother _ hes)
    | timedOut hes total htimeout hdue => exact absurd hk (hother _ hes)
    | @failed es' hes e' err herr =>
      by_cases hlt : k < es'.length
      · rw [List.getElem?_append_left hlt] at hk
        exact absurd hk (hother _ hes)
      · rw [List.getElem?_append_right (Nat.le_of_not_lt hlt)] at hk
        have hsame : e = e' := List.mem_singleton.mp (List.mem_of_getElem? hk)
        subst hsame
        rw [outputOf_error herr] at hitem
        cases hitem
  · obtain ⟨hend, hdrop⟩ := pollOutput_end hg hpoll
    have hnone := (processResult_polls_nothing item'.result item'.dataFormat).sent hread
    cases hend with
    | @found es' hes e' _ hok hitem' =>
      rw [List.length_append, List.length_singleton] at hdrop
      rw [List.append_assoc, List.singleton_append] at hk ⊢
      by_cases hlt : k < es'.length
      · rw [List.getElem?_append_left hlt] at hk
        exact absurd hk (hother _ hes)
      · rw [List.getElem?_append_right (Nat.le_of_not_lt hlt)] at hk
        rcases hoff : k - es'.length with _ | j
        · rw [hoff] at hk
          cases hk
          rw [hitem'] at hitem
          cases hitem
          have hlength : k = es'.length := by omega
          subst hlength
          rw [hdrop] at hread
          rw [List.take_left, List.drop_append, List.drop_eq_nil_of_le (Nat.le_succ _)]
          rw [Nat.add_sub_cancel_left]
          exact ⟨hes, hread⟩
        · -- what is asked behind the output is no poll
          rw [hoff, List.getElem?_cons_succ] at hk
          have hmem : e.action ∈ sent es₂ out :=
            List.mem_append_left _ (List.mem_map_of_mem (List.mem_of_getElem? hk))
          rw [outputOf_poll (hnone _ hmem)] at hitem
          cases hitem

/-- With no time at all there is exactly one poll. -/
theorem pollFunctionOutput_once (hg : g.Polls)
    (h : pollFunctionOutput lib g (some 0) script = (es, out, rest)) :
    (sent es out).countP (fun r => r.pollTimeout.isSome) = 1 := by
  have hone : ∀ t, [g.request t].countP (fun r => r.pollTimeout.isSome) = 1 := by
    intro t
    rw [List.countP_singleton, hg.timeout]
    rfl
  rcases Exchange.bind_cases h with ⟨halt, hpoll, rfl⟩ | ⟨es₁, item, is₁, es₂, hpoll, hread, rfl⟩
  · have hsent := pollOutput_once hpoll
    rw [sent_error es halt Pb.FunctionGetOutputsItem, hsent]
    exact hone _
  · have hsent := pollOutput_once hpoll
    have hevents : es₁.map (·.action) = [g.request _] := (List.append_nil _).symm.trans hsent
    have hnone := (processResult_polls_nothing item.result item.dataFormat).sent hread
    rw [sent_append, hevents, List.countP_append, hone, List.countP_eq_zero.mpr]
    intro r hr
    rw [hnone r hr]
    exact Bool.false_ne_true

end Await

/-- **An await keeps its deadline**, on both planes, with every timeout or none, whatever the
    replies: on a clock that advances in the polls alone every poll is short enough and no reply
    comes past the deadline. The local timeout comes of replies without an output at the deadline
    alone, and never without one. An output decides, and an error is returned, at once. The replies
    are those of the script, in order; it waits for one only when the script has run out. -/
theorem awaitOutput_keeps_deadline (lib : Ciborium V) (inv : Invocation)
    (timeout : Option Duration) (script : List InvocationAnswer) :
    let (es, out, rest) := inv.awaitOutput lib timeout script
    (OnTime script (sent es out) → AwaitPromise timeout 0 script es out) ∧
    (∀ msg, (∀ e ∈ es, NoOutput e) → out = .error (.err (.functionTimeout msg)) →
      ∃ T, timeout = some T ∧ T ≤ elapsedAfter script es.length ∧
        timeoutExceeded T = .functionTimeout msg) ∧
    (∀ (k : Nat) (e : InvocationEvent) (item : Pb.FunctionGetOutputsItem), es[k]? = some e →
      outputOf e = some item → (∀ e' ∈ es.take k, NoOutput e') ∧
        processResult lib item.result item.dataFormat (script.drop (k + 1)) =
          (es.drop (k + 1), out, rest)) ∧
    (∀ (k : Nat) (e : InvocationEvent) (err : ModalError), es[k]? = some e →
      failureOf e = some err → out = .error (.err err) ∧ es.length = k + 1) ∧
    (timeout = none → (∀ e ∈ es, NoOutput e) → ∀ msg, out ≠ .error (.err (.functionTimeout msg))) ∧
    (timeout = some 0 → (sent es out).countP (fun r => r.pollTimeout.isSome) = 1) ∧
    Hears script es out rest ∧ AwaitEnd lib timeout script es out rest := by
  rw [Invocation.awaitOutput_eq]
  rcases h : pollFunctionOutput lib inv.getOutput timeout script with ⟨es, out, rest⟩
  have hg := inv.getOutput_polls
  refine ⟨pollFunctionOutput_promise hg h,
    fun msg hes hout => pollFunctionOutput_late hg h hes hout,
    fun k e item hk hitem => pollFunctionOutput_decides hg h hk hitem, fun k e err hk herr => ?_,
    fun hnone hes msg hout => ?_, fun hzero => ?_, (heard_await _ timeout).hears h,
    pollFunctionOutput_end hg h⟩
  · have hhalt : haltOf e = some (.err err) := by
      rw [haltOf, herr]
      rfl
    exact failsFast_await hg timeout script es out rest h k e _ hk hhalt
  · obtain ⟨T, hT, -⟩ := pollFunctionOutput_late hg h hes hout
    rw [hnone] at hT
    cases hT
  · subst hzero
    exact pollFunctionOutput_once hg h

/-- A server that has no output for 55 s, and then takes the 5 s that are left for one. -/
def lateOutput : List InvocationAnswer :=
  let quiet : InvocationAnswer :=
    { took := .fromSecs 55
      reply := fun
        | .functionGetOutputs .. => .ok ⟨[]⟩
        | r => (outputServer .success []).reply r }
  [quiet, { outputServer .success [7] with took := .fromSecs 5 }]

/-- An output at the deadline decides; the second poll is as long as the time that is left. -/
theorem awaitOutput_keeps_deadline_late :
    let inv : Invocation := .controlPlane (.fromFunctionCallId "fc-1")
    let run := inv.awaitOutput encodedCbor (some (.fromSecs 60)) lateOutput
    (sent run.1 run.2.1).map InvocationRequest.pollTimeout =
      [some (.fromSecs 55), some (.fromSecs 5)] ∧
    run.2.1 = .ok (.cbor [7]) ∧
    AwaitPromise (some (.fromSecs 60)) 0 lateOutput run.1 run.2.1 := by
  intro inv run
  have hclock : OnTime lateOutput (sent run.1 run.2.1) := by
    intro k r a hr ha
    match k with
    | 0 | 1 =>
      cases hr
      cases ha
      exact Nat.le_of_eq rfl
    | k + 2 => cases ha
  obtain ⟨hpromise, -⟩ :=
    awaitOutput_keeps_deadline encodedCbor inv (some (.fromSecs 60)) lateOutput
  exact ⟨rfl, rfl, hpromise hclock⟩

end ModalRs
