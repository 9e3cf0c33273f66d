/-
  File:      ModalRs/Function/RetryBudget.lean
  Subject:   How many retries a remote call sends, and when it gives up.

  The retry of count 8 is sent as well, so that a call that fails nine times
  in a row sends nine retries.

  * `FailsInARow`: so many awaits in a row fail, and the retries between them succeed.
  * `retries_iff`: so many retries are sent, exactly when so many awaits fail.
  * `BudgetKept`: at most eight retries; an internal failure is returned after eight of them.
  * `remote_budget`: when a call keeps the budget.
-/
import ModalRs.Function.Failure

namespace ModalRs

open ModalRs.Lib ModalRs.Rust

variable {V : Type} {lib : Ciborium V}

/-! ## 1. Counting retries -/

/-- So many awaits in a row come to an internal failure, each retry between them accepted. -/
def FailsInARow (lib : Ciborium V) (input : Pb.FunctionInput) :
    Nat → ControlPlaneInvocation → Nat → List InvocationAnswer → Prop
  | 0, _, _, _ => True
  | n + 1, inv, k, script =>
      ∃ (es : List InvocationEvent) (msg : String) (is : List InvocationAnswer),
        inv.awaitOutput lib none script = (es, .error (.err (.internalFailure msg)), is) ∧
        (n = 0 ∨ ∃ a is' response, is = a :: is' ∧
          a.reply (inv.dueRetry input k).request = .ok response ∧
          FailsInARow lib input n (inv.renew response) (k + 1) is')

section Counting

variable {input : Pb.FunctionInput} {inv : ControlPlaneInvocation} {k n : Nat}
  {script rest : List InvocationAnswer} {es : List InvocationEvent}
  {out : Except Halt (InvocationResult V)}

/-- **So many retries are sent, exactly when so many awaits fail in a row.** -/
theorem retries_iff (hinput : inv.input = some input) (hn : k + n ≤ maxSystemRetries + 1)
    (h : Function.remoteLoop lib inv k script = (es, out, rest)) :
    n ≤ (retriesSent es out).length ↔ FailsInARow lib input n inv k script := by
  induction n generalizing inv k script es with
  | zero => exact ⟨fun _ => trivial, fun _ => Nat.zero_le _⟩
  | succ n ih =>
    have hk : k ≤ maxSystemRetries := by omega
    cases remoteLoop_step hinput h with
    | returned hawait hspent =>
      have hawaited := awaited_of_run hawait
      rw [hawaited.retriesSent_nil]
      constructor
      · intro hle
        exact absurd hle (Nat.not_succ_le_zero n)
      · rintro ⟨es', msg, is, hfailed, -⟩
        cases hawait.symm.trans hfailed
        have hlt := hspent msg rfl
        omega
    | @waits es msg hawait hk =>
      have hawaited := awaited_of_run hawait
      have hone : (retriesSent es (.error (.waiting (inv.dueRetry input k).request) :
          Except Halt (InvocationResult V))).length = 1 := by
        unfold retriesSent sent
        rw [List.filterMap_append, hawaited.events_retry.1]
        rfl
      rw [hone]
      constructor
      · intro hle
        exact ⟨es, msg, [], hawait, Or.inl (Nat.le_zero.mp (Nat.succ_le_succ_iff.mp hle))⟩
      · rintro ⟨es', msg', is, hfailed, hzero | ⟨a, is', response, rfl, -⟩⟩
        · omega
        · cases hawait.symm.trans hfailed
    | @failed es msg a is hawait hk e hreply =>
      have hawaited := awaited_of_run hawait
      rw [hawaited.retriesSent_append]
      constructor
      · intro hle
        exact ⟨es, msg, _, hawait, Or.inl (Nat.le_zero.mp (Nat.succ_le_succ_iff.mp hle))⟩
      · rintro ⟨es', msg', is', hfailed, hzero | ⟨a', is'', response, rfl, hok, -⟩⟩
        · subst hzero
          exact Nat.succ_le_succ (Nat.zero_le _)
        · cases hawait.symm.trans hfailed
          rw [hreply] at hok
          cases hok
    | @retried es es' msg a is rest out hawait hk response hreply hloop =>
      have hawaited := awaited_of_run hawait
      have hrest := ih ((renew_input inv response).trans hinput) (by omega) hloop
      rw [hawaited.retriesSent_append, List.length_cons, Nat.succ_le_succ_iff, hrest]
      constructor
      · intro hmore
        exact ⟨es, msg, _, hawait, Or.inr ⟨a, is, response, rfl, hreply, hmore⟩⟩
      · rintro ⟨es'', msg', is', hfailed, rfl | ⟨a', is'', response', rfl, hok, hmore⟩⟩
        · trivial
        · cases hawait.symm.trans hfailed
          rw [hreply] at hok
          cases hok
          exact hmore

/-- **Who returns an internal failure**: a call whose retries are spent, or one whose last retry was
    answered with it. -/
theorem LoopRun.spent (h : LoopRun lib input inv k es out) {msg : String}
    (hout : out = .error (.err (.internalFailure msg))) :
    maxSystemRetries + 1 ≤ k + (retriesSent es out).length ∨
      ∃ es₀ r reply, es = es₀ ++ [RetrySent.event r reply] := by
  induction h with
  | awaited h hspent =>
    left
    have hlt := hspent msg hout
    omega
  | retrying h hk => cases hout
  | @retryFailed inv k es msg' h hk e => exact Or.inr ⟨es, _, _, rfl⟩
  | @retried inv k es es' msg' out h hk response hrest ih =>
    rcases ih hout with hspent | ⟨es₀, r, reply, rfl⟩
    · left
      rw [h.retriesSent_append, List.length_cons]
      omega
    · right
      refine ⟨es ++ (inv.dueRetry input k).event (.ok response) :: es₀, r, reply, ?_⟩
      rw [List.append_assoc, List.cons_append]

/-- An await that has failed was answered at least once. -/
theorem Awaited.ne_nil {functionCallId : String} {e : ModalError}
    (h : Awaited lib functionCallId es (.error (.err e) : Except Halt (InvocationResult V))) :
    es ≠ [] := by
  rintro rfl
  obtain ⟨is, rest, hrun⟩ := h
  cases is with
  | nil => cases hrun
  | cons a is =>
    rcases Exchange.bind_cases hrun with ⟨halt, hpoll, -⟩ | ⟨es₁, item, is₁, es₂, hpoll, -, hnil⟩
    · obtain ⟨es', hcons, -⟩ := pollOutput_cons hpoll
      cases hcons
    · obtain ⟨es', rfl, -⟩ := pollOutput_cons hpoll
      cases hnil

/-- What a call does last before it returns the failure of an await is to await. -/
theorem Awaited.last_awaits {functionCallId : String} {e : ModalError} {e' : InvocationEvent}
    {before es₀ : List InvocationEvent}
    (h : Awaited lib functionCallId es (.error (.err e) : Except Halt (InvocationResult V)))
    (hes : es₀ ++ [e'] = before ++ es) : e'.action.Awaits := by
  have hlast : es.getLast? = some e' := by
    rw [← List.getLast?_append_of_ne_nil before h.ne_nil, ← hes, List.getLast?_concat]
  exact h.events_await _ (List.mem_map_of_mem (List.mem_of_getLast? hlast))

end Counting

/-! ## 2. The budget -/

/-- **The budget as documented**: at most eight retries; and the internal failure of an await is
    returned after exactly eight, each with an internal failure behind it. -/
structure BudgetKept (lib : Ciborium V) (es : List InvocationEvent)
    (out : Except Halt (InvocationResult V)) : Prop where
  atMost : (retriesSent es out).length ≤ maxSystemRetries
  spent : ∀ (functionCallId : String) (before last : List InvocationEvent) (msg : String),
    es = before ++ last → Awaited lib functionCallId last out →
    out = .error (.err (.internalFailure msg)) →
    (retriesSent es out).length = maxSystemRetries ∧
      ∀ es₁ r reply es₂, es = es₁ ++ RetrySent.event r reply :: es₂ →
        ∃ awaited msg' es₃, es₂ = awaited ++ es₃ ∧
          Awaited lib functionCallId awaited (.error (.err (.internalFailure msg')))

/-- The first nine awaits of a call fail in a row, and its first eight retries are accepted. -/
def Overspends (lib : Ciborium V) (f : Function) (args : List V) (kwargs : V)
    (script : List InvocationAnswer) : Prop :=
  f.getWebUrl = "" ∧ ∃ (input : Pb.FunctionInput) (a : InvocationAnswer)
    (m : Pb.FunctionMapResponse) (is : List InvocationAnswer),
    f.createInput lib args kwargs = .ok input ∧ script = a :: is ∧
    a.reply (f.mapRequest input) = .ok m ∧
    FailsInARow lib input (maxSystemRetries + 1) (m.invocation input) 0 is

section Budget

variable {f : Function} {args : List V} {kwargs : V} {script rest : List InvocationAnswer}
  {es : List InvocationEvent} {out : Except Halt (InvocationResult V)}

/-- A function map is no retry. -/
theorem retriesSent_map {α : Type} (input : Pb.FunctionInput)
    (reply : Except ModalError Pb.FunctionMapResponse) (es : List InvocationEvent)
    (out : Except Halt α) :
    retriesSent (⟨f.mapRequest input, reply⟩ :: es) out = retriesSent es out := rfl

/-- Nine failures in a row make nine retries. -/
theorem overspends_retries (h : f.remote lib args kwargs script = (es, out, rest))
    (hover : Overspends lib f args kwargs script) :
    maxSystemRetries < (retriesSent es out).length := by
  obtain ⟨hweb, input, a, m, is, hinput, rfl, hreply, hfails⟩ := hover
  rcases remote_cases hweb hinput h with ⟨hnil, -⟩ | ⟨a', is', e, hcons, herror, -⟩ |
    ⟨a', is', m', es', hcons, hok, rfl, hloop⟩
  · cases hnil
  · cases hcons
    rw [hreply] at herror
    cases herror
  · cases hcons
    rw [hreply] at hok
    cases hok
    exact (retries_iff rfl (Nat.le_of_eq (Nat.zero_add _)) hloop).mpr hfails

/-- The budget of a call that ends with something else than an await. -/
theorem budgetKept_of_last {e : InvocationEvent} {es₀ : List InvocationEvent}
    (hmost : (retriesSent es out).length ≤ maxSystemRetries) (hes : es = es₀ ++ [e])
    (he : ¬ e.action.Awaits) : BudgetKept lib es out where
  atMost := hmost
  spent functionCallId before last msg hsplit hawait hout := by
    rw [hout] at hawait
    exact absurd (hawait.last_awaits (hes.symm.trans hsplit)) he

/-- The budget of a call that has received nothing. -/
theorem budgetKept_nil (hmost : (retriesSent [] out).length ≤ maxSystemRetries) :
    BudgetKept lib [] out where
  atMost := hmost
  spent functionCallId before last msg hsplit hawait hout := by
    rw [hout] at hawait
    exact absurd (List.append_eq_nil_iff.mp hsplit.symm).2 hawait.ne_nil

/-- A call that does not fail so often keeps the budget. -/
theorem budgetKept_of_not_overspends (h : f.remote lib args kwargs script = (es, out, rest))
    (hover : ¬ Overspends lib f args kwargs script) : BudgetKept lib es out := by
  by_cases hrefused : f.getWebUrl ≠ "" ∨ ∃ e, f.createInput lib args kwargs = .error e
  · obtain ⟨rfl, e, rfl⟩ := remote_refused hrefused h
    exact budgetKept_nil (Nat.zero_le _)
  · obtain ⟨hweb, hnoerror⟩ := not_or.mp hrefused
    have hweb : f.getWebUrl = "" := not_not.mp hweb
    cases hinput : f.createInput lib args kwargs with
    | error e => exact absurd ⟨e, hinput⟩ hnoerror
    | ok input =>
      rcases remote_cases hweb hinput h with ⟨-, rfl, rfl⟩ | ⟨a, is, e, -, -, rfl, rfl⟩ |
        ⟨a, is, m, es', rfl, hreply, rfl, hloop⟩
      · exact budgetKept_nil (Nat.zero_le _)
      · exact budgetKept_of_last (Nat.zero_le _) (List.nil_append _).symm id
      · have hcount : ¬ maxSystemRetries + 1 ≤ (retriesSent es' out).length := by
          intro hle
          have hfails := (retries_iff rfl (Nat.le_of_eq (Nat.zero_add _)) hloop).mp hle
          exact hover ⟨hweb, input, a, m, is, hinput, rfl, hreply, hfails⟩
        have hmost : (retriesSent (⟨f.mapRequest input, .ok m⟩ :: es') out).length ≤
            maxSystemRetries := by
          rw [retriesSent_map]
          exact Nat.le_of_lt_succ (Nat.lt_of_not_le hcount)
        refine ⟨hmost, fun functionCallId before last msg hsplit hawait hout => ?_⟩
        rcases (remoteLoop_run rfl hloop).spent hout with hspent | ⟨es₀, r, reply, rfl⟩
        · rw [Nat.zero_add] at hspent
          exact absurd hspent hcount
        · rw [hout] at hawait
          rw [← List.cons_append] at hsplit
          exact (hawait.last_awaits hsplit).elim

/-- **When a remote call keeps the budget**: unless nine awaits fail in a row. -/
theorem remote_budget (lib : Ciborium V) (f : Function) (args : List V) (kwargs : V)
    (script : List InvocationAnswer) :
    let run := f.remote lib args kwargs script
    BudgetKept lib run.1 run.2.1 ↔ ¬ Overspends lib f args kwargs script := by
  intro run
  have hrun : f.remote lib args kwargs script = (run.1, run.2.1, run.2.2) := rfl
  constructor
  · intro hkept hover
    exact absurd hkept.atMost (Nat.not_le.mpr (overspends_retries hrun hover))
  · exact budgetKept_of_not_overspends hrun

end Budget

/-- A server that loses every output fails as often as it is asked. -/
theorem failsInARow_replicate (input : Pb.FunctionInput) (n : Nat) (inv : ControlPlaneInvocation)
    (k : Nat) (more : List InvocationAnswer) :
    FailsInARow encodedCbor input n inv k
      (List.replicate (2 * n) (outputServer .internalFailure []) ++ more) := by
  induction n generalizing inv k with
  | zero => trivial
  | succ n ih =>
    have hsplit : List.replicate (2 * (n + 1)) (outputServer .internalFailure []) =
        outputServer .internalFailure [] :: outputServer .internalFailure [] ::
          List.replicate (2 * n) (outputServer .internalFailure []) := rfl
    rw [hsplit]
    exact ⟨_, "worker lost", _, rfl, Or.inr ⟨_, _, _, rfl, rfl, ih _ _⟩⟩

/-- A call whose outputs are all lost sends a ninth retry. -/
theorem remote_overspends :
    let f : Function := ⟨"fu-1", some ⟨[.cbor], "", ""⟩⟩
    let run := f.remote encodedCbor [] [0xA0]
      (List.replicate 20 (outputServer .internalFailure []))
    maxSystemRetries < (retriesSent run.1 run.2.1).length ∧
      ¬ BudgetKept encodedCbor run.1 run.2.1 := by
  intro f run
  let input : Pb.FunctionInput := ⟨.cbor, some (.args [0x82, 0x80, 0xA0]), none⟩
  let m : Pb.FunctionMapResponse := ⟨"fc-1", "call-jwt", [⟨"input-jwt"⟩]⟩
  have hfails := failsInARow_replicate input (maxSystemRetries + 1) (m.invocation input) 0
    [outputServer .internalFailure []]
  have hover : Overspends encodedCbor f [] [0xA0]
      (List.replicate 20 (outputServer .internalFailure [])) :=
    ⟨rfl, input, _, m, _, rfl, rfl, rfl, hfails⟩
  have hmany := overspends_retries rfl hover
  exact ⟨hmany, fun hkept => absurd hkept.atMost (Nat.not_le.mpr hmany)⟩

end ModalRs
