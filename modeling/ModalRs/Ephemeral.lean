/-
  File:      ModalRs/Ephemeral.lean
  Subject:   Ephemeral objects and the tasks that should keep them alive.

  A task sleeps for an interval, calls its heartbeat function and sleeps again,
  until it is notified. Time passes, objects are closed and tasks are polled in
  any order; a poll that finds both the sleep and the notification takes either.

  * `Heartbeat.step`: what each event does to a task.
  * `calls_le_elapsed`: a task never calls more often than intervals have passed.
  * `calls_promptly`: one that is polled when its sleep ends calls once an interval.
  * `KeptAlive`: what the requests for an object should be.
  * `kept_alive_exactly`: for which schedules they are.
-/
import ModalRs.Lib.Resumption
import ModalRs.Queue.Basic
import ModalRs.Sandbox.Params

namespace ModalRs

open ModalRs.Lib ModalRs.Rust

/-! ## 1. The services -/

/-- The calls of the clients of both services. -/
inductive ObjectRpc where
  | queueGetOrCreate (deploymentName environmentName : String) (objectCreationType : Int32)
  | queueHeartbeat (queueId : String)
  | volumeGetOrCreate (deploymentName environmentName : String) (objectCreationType : Int32)
  | volumeHeartbeat (volumeId : String)
  deriving DecidableEq

abbrev ObjectRpc.Reply : ObjectRpc → Type
  | .queueGetOrCreate _ _ _ | .volumeGetOrCreate _ _ _ => Except ModalError String
  | .queueHeartbeat _ | .volumeHeartbeat _ => Except ModalError Unit

/-- An RPC with its reply. -/
abbrev ObjectEvent : Type := Answered ObjectRpc ObjectRpc.Reply

abbrev ObjectM (α : Type) : Type := ExceptT ModalError (Resumption ObjectRpc ObjectRpc.Reply) α

/-- The object whose heartbeat an RPC is. -/
def ObjectRpc.heartbeatOf : ObjectRpc → Option String
  | .queueHeartbeat queueId => some queueId
  | .volumeHeartbeat volumeId => some volumeId
  | _ => none

/-- What a heartbeat task calls: a `Fn() -> Result<(), ModalError>`. -/
abbrev HeartbeatFn : Type := ObjectM Unit

/-- `environment_name`: the first that is not empty. -/
def environmentName (environment profileEnvironment : String) : String :=
  if environment = "" then profileEnvironment else environment

/-- The default of `QueueEphemeralParams` and of `VolumeEphemeralParams`. -/
structure EphemeralParams where
  environment : String := ""

/-- A new ephemeral queue, and what the task that is started for it calls. -/
def QueueServiceImpl.ephemeral (profileEnvironment : String) (params : Option EphemeralParams) :
    ObjectM (Queue × HeartbeatFn) := do
  let params := params.getD {}
  let env := environmentName params.environment profileEnvironment
  -- OBJECT_CREATION_TYPE_EPHEMERAL
  let queueId ← ExceptT.mk (.act (.queueGetOrCreate "" env 5) .done)
  -- the closure takes the id and does nothing with it
  pure (⟨queueId, ""⟩, pure ())

/-- A new ephemeral volume, and what the task that is started for it calls. -/
def VolumeServiceImpl.ephemeral (profileEnvironment : String) (params : Option EphemeralParams) :
    ObjectM (Volume × HeartbeatFn) := do
  let params := params.getD {}
  let env := environmentName params.environment profileEnvironment
  let volumeId ← ExceptT.mk (.act (.volumeGetOrCreate "" env 5) .done)
  -- in a real implementation, this would call volume_heartbeat
  pure (⟨volumeId, "", false⟩, pure ())

/-! ## 2. The heartbeat task -/

/-- How often ephemeral objects send heartbeats to keep themselves alive. -/
def ephemeralObjectHeartbeatSleep : Duration := .fromSecs 300

/-- Where the task stands: it has not run yet, it waits for its notification or the end of a
    sleep, or it has returned. -/
inductive HeartbeatTask where
  | spawned
  | waiting (deadline : Instant)
  | returned
  deriving DecidableEq

/-- A task, the clock, and whether `notify_one` was called and not received. -/
structure Heartbeat where
  now : Instant := 0
  notified : Bool := false
  task : HeartbeatTask := .spawned
  /-- The RPCs of each call of the heartbeat function. -/
  calls : List (List ObjectEvent) := []

inductive HeartbeatEvent where
  | elapse (d : Duration)
  /-- `close_ephemeral`. -/
  | close
  /-- The runtime polls the task: which branch of `select!` comes first, and the replies to what
      it sends. -/
  | poll (sleepFirst : Bool) (answer : Nat → (rpc : ObjectRpc) → rpc.Reply)

def HeartbeatEvent.isClose : HeartbeatEvent → Bool
  | .close => true
  | _ => false

/-- The RPCs of a call of the heartbeat function; its result is ignored. -/
def HeartbeatFn.events (f : HeartbeatFn) (answer : Nat → (rpc : ObjectRpc) → rpc.Reply) :
    List ObjectEvent :=
  (f.run.interpret (fun es rpc => (answer es.length rpc, es ++ [⟨rpc, answer es.length rpc⟩])) []).2

namespace Heartbeat

/-- The task enters `select!`: it returns if it was notified, else it waits. -/
def enter (h : Heartbeat) : Heartbeat :=
  if h.notified then { h with notified := false, task := .returned }
  else { h with task := .waiting (h.now + ephemeralObjectHeartbeatSleep) }

variable (f : HeartbeatFn)

/-- The task calls its heartbeat function, and goes round. -/
def beat (answer : Nat → (rpc : ObjectRpc) → rpc.Reply) (h : Heartbeat) : Heartbeat :=
  { h with calls := h.calls ++ [f.events answer] }.enter

def poll (sleepFirst : Bool) (answer : Nat → (rpc : ObjectRpc) → rpc.Reply) (h : Heartbeat) :
    Heartbeat :=
  match h.task with
  | .returned => h
  | .spawned => h.enter
  | .waiting deadline =>
      if h.notified && !(sleepFirst && decide (deadline ≤ h.now)) then
        { h with notified := false, task := .returned }
      else if deadline ≤ h.now then h.beat f answer
      else h

def step (h : Heartbeat) : HeartbeatEvent → Heartbeat
  | .elapse d => { h with now := h.now + d }
  | .close => { h with notified := true }
  | .poll sleepFirst answer => h.poll f sleepFirst answer

/-- `start_ephemeral_heartbeat`, over a schedule. -/
def run (schedule : List HeartbeatEvent) : Heartbeat := schedule.foldl (step f) {}

/-- All RPCs of a task, in order. -/
def sent (h : Heartbeat) : List ObjectEvent := h.calls.flatten

/-! ## 3. Calls and intervals -/

/-- The time that passes in a schedule. -/
def elapsed : List HeartbeatEvent → Duration
  | [] => 0
  | .elapse d :: schedule => d + elapsed schedule
  | _ :: schedule => elapsed schedule

theorem elapsed_append (s s' : List HeartbeatEvent) :
    elapsed (s ++ s') = elapsed s + elapsed s' := by
  induction s with
  | nil => exact (Nat.zero_add _).symm
  | cons e s ih =>
    cases e with
    | elapse d => rw [List.cons_append, elapsed, elapsed, ih, Nat.add_assoc]
    | close => exact ih
    | poll sleepFirst answer => exact ih

variable {f}

/-- A whole interval has passed for every call, and one more passes before the next. -/
structure Paced (h : Heartbeat) : Prop where
  past : h.calls.length * ephemeralObjectHeartbeatSleep ≤ h.now
  next : ∀ deadline, h.task = .waiting deadline →
    (h.calls.length + 1) * ephemeralObjectHeartbeatSleep ≤ deadline

theorem paced_initial : Paced {} := ⟨Nat.zero_le _, fun _ h => by cases h⟩

/-- What entering `select!` can do: return, or wait. -/
theorem enter_cases (h : Heartbeat) :
    h.enter = { h with notified := false, task := .returned } ∨
    h.enter = { h with task := .waiting (h.now + ephemeralObjectHeartbeatSleep) } := by
  unfold enter
  split
  · exact Or.inl rfl
  · exact Or.inr rfl

/-- **What a poll can do**: nothing, return, enter `select!` for the first time, or call. -/
theorem poll_cases (h : Heartbeat) (sleepFirst : Bool)
    (answer : Nat → (rpc : ObjectRpc) → rpc.Reply) :
    h.poll f sleepFirst answer = h ∨
    h.poll f sleepFirst answer = { h with notified := false, task := .returned } ∨
    (h.task = .spawned ∧ h.poll f sleepFirst answer = h.enter) ∨
    ∃ deadline, h.task = .waiting deadline ∧ deadline ≤ h.now ∧
      h.poll f sleepFirst answer = h.beat f answer := by
  unfold poll
  cases htask : h.task with
  | returned => exact Or.inl rfl
  | spawned => exact Or.inr (Or.inr (Or.inl ⟨rfl, rfl⟩))
  | waiting deadline =>
    by_cases hnotified : (h.notified && !(sleepFirst && decide (deadline ≤ h.now))) = true
    · exact Or.inr (Or.inl (if_pos hnotified))
    · by_cases hdue : deadline ≤ h.now
      · exact Or.inr (Or.inr (Or.inr ⟨deadline, rfl, hdue, (if_neg hnotified).trans (if_pos hdue)⟩))
      · exact Or.inl ((if_neg hnotified).trans (if_neg hdue))

theorem enter_now (h : Heartbeat) : h.enter.now = h.now := by
  rcases enter_cases h with he | he
  · rw [he]
  · rw [he]

theorem poll_now (h : Heartbeat) (sleepFirst : Bool)
    (answer : Nat → (rpc : ObjectRpc) → rpc.Reply) : (h.poll f sleepFirst answer).now = h.now := by
  rcases poll_cases h sleepFirst answer with hp | hp | ⟨-, hp⟩ | ⟨deadline, -, -, hp⟩
  · rw [hp]
  · rw [hp]
  · rw [hp, enter_now]
  · rw [hp, beat, enter_now]

theorem paced_enter {h : Heartbeat}
    (hpast : h.calls.length * ephemeralObjectHeartbeatSleep ≤ h.now) : Paced h.enter := by
  rcases enter_cases h with he | he
  · rw [he]
    exact ⟨hpast, fun _ hwait => by cases hwait⟩
  · rw [he]
    refine ⟨hpast, fun deadline hwait => ?_⟩
    cases hwait
    show (h.calls.length + 1) * _ ≤ h.now + _
    rw [Nat.succ_mul]
    exact Nat.add_le_add_right hpast _

/-- **Every event keeps the pace.** -/
theorem paced_step {h : Heartbeat} (hp : Paced h) (e : HeartbeatEvent) : Paced (step f h e) := by
  cases e with
  | elapse d => exact ⟨Nat.le_trans hp.past (Nat.le_add_right _ _), hp.next⟩
  | close => exact ⟨hp.past, hp.next⟩
  | poll sleepFirst answer =>
    show Paced (h.poll f sleepFirst answer)
    rcases poll_cases h sleepFirst answer with he | he | ⟨-, he⟩ | ⟨deadline, hwait, hdue, he⟩
    · rw [he]
      exact hp
    · rw [he]
      exact ⟨hp.past, fun _ hwait => by cases hwait⟩
    · rw [he]
      exact paced_enter hp.past
    · rw [he]
      refine paced_enter ?_
      show (h.calls ++ [f.events answer]).length * _ ≤ h.now
      rw [List.length_append]
      exact Nat.le_trans (hp.next deadline hwait) hdue

theorem run_append (s s' : List HeartbeatEvent) : run f (s ++ s') = s'.foldl (step f) (run f s) :=
  List.foldl_append

/-- The clock after a schedule. -/
theorem foldl_now (h : Heartbeat) (schedule : List HeartbeatEvent) :
    (schedule.foldl (step f) h).now = h.now + elapsed schedule := by
  induction schedule generalizing h with
  | nil => rfl
  | cons e schedule ih =>
    rw [List.foldl_cons, ih]
    cases e with
    | elapse d => exact Nat.add_assoc _ _ _
    | close => rfl
    | poll sleepFirst answer => exact congrArg (· + elapsed schedule) (poll_now h sleepFirst answer)

/-- **A task never calls more often than intervals have passed**, whatever the schedule. -/
theorem calls_le_elapsed (schedule : List HeartbeatEvent) :
    (run f schedule).calls.length * ephemeralObjectHeartbeatSleep ≤ elapsed schedule := by
  have hpaced : Paced (run f schedule) := by
    induction schedule using List.reverseRecOn with
    | nil => exact paced_initial
    | append_singleton s e ih =>
      rw [run_append]
      exact paced_step ih e
  have hnow : (run f schedule).now = elapsed schedule :=
    (foldl_now {} schedule).trans (Nat.zero_add _)
  rw [← hnow]
  exact hpaced.past

/-- A closure that sends nothing leaves only empty calls. -/
theorem step_silent (hf : ∀ answer, f.events answer = []) {h : Heartbeat}
    (hcalls : ∀ es ∈ h.calls, es = []) (e : HeartbeatEvent) :
    ∀ es ∈ (step f h e).calls, es = [] := by
  have henter : ∀ h : Heartbeat, h.enter.calls = h.calls := by
    intro h
    rcases enter_cases h with he | he
    · rw [he]
    · rw [he]
  cases e with
  | elapse d => exact hcalls
  | close => exact hcalls
  | poll sleepFirst answer =>
    show ∀ es ∈ (h.poll f sleepFirst answer).calls, es = []
    rcases poll_cases h sleepFirst answer with he | he | ⟨-, he⟩ | ⟨deadline, -, -, he⟩
    · rw [he]
      exact hcalls
    · rw [he]
      exact hcalls
    · rw [he, henter]
      exact hcalls
    · rw [he, beat, henter]
      intro es hes
      rcases List.mem_append.mp hes with hes | hes
      · exact hcalls es hes
      · rw [List.mem_singleton.mp hes, hf]

/-- A task that has returned calls no more. -/
theorem returned_calls {h : Heartbeat} (hret : h.task = .returned)
    (schedule : List HeartbeatEvent) : (schedule.foldl (step f) h).calls = h.calls := by
  induction schedule generalizing h with
  | nil => rfl
  | cons e schedule ih =>
    cases e with
    | elapse d => exact ih hret
    | close => exact ih hret
    | poll sleepFirst answer =>
      have hsame : step f h (.poll sleepFirst answer) = h := by simp only [step, poll, hret]
      rw [List.foldl_cons, hsame]
      exact ih hret

/-! ## 4. Prompt schedules -/

/-- How a poll finds the world. -/
abbrev Polled : Type := Bool × (Nat → (rpc : ObjectRpc) → rpc.Reply)

/-- A sleep that passes, and a poll at its end. -/
def promptRound (p : Polled) : List HeartbeatEvent :=
  [.elapse ephemeralObjectHeartbeatSleep, .poll p.1 p.2]

/-- The first poll, some rounds, and less than another interval. -/
def promptly (first : Polled) (rounds : List Polled) (d : Duration) : List HeartbeatEvent :=
  .poll first.1 first.2 :: rounds.flatMap promptRound ++ [.elapse d]

/-- A task that has just entered `select!`, and was not notified. -/
structure Fresh (h : Heartbeat) : Prop where
  task : h.task = .waiting (h.now + ephemeralObjectHeartbeatSleep)
  notified : h.notified = false

/-- **A prompt round is one call.** -/
theorem promptRound_calls {h : Heartbeat} (hfresh : Fresh h) (p : Polled) :
    Fresh ((promptRound p).foldl (step f) h) ∧
      ((promptRound p).foldl (step f) h).calls = h.calls ++ [f.events p.2] := by
  have hround : (promptRound p).foldl (step f) h =
      { h with
        now := h.now + ephemeralObjectHeartbeatSleep
        task := .waiting (h.now + ephemeralObjectHeartbeatSleep + ephemeralObjectHeartbeatSleep)
        calls := h.calls ++ [f.events p.2] } := by
    simp [promptRound, step, poll, beat, enter, hfresh.task, hfresh.notified]
  rw [hround]
  exact ⟨⟨rfl, hfresh.notified⟩, rfl⟩

theorem promptRounds_calls {h : Heartbeat} (hfresh : Fresh h) (rounds : List Polled) :
    Fresh ((rounds.flatMap promptRound).foldl (step f) h) ∧
      ((rounds.flatMap promptRound).foldl (step f) h).calls =
        h.calls ++ rounds.map fun p => f.events p.2 := by
  induction rounds generalizing h with
  | nil => exact ⟨hfresh, (List.append_nil _).symm⟩
  | cons p rounds ih =>
    obtain ⟨hround, hcalls⟩ := promptRound_calls (f := f) hfresh p
    obtain ⟨hrest, hall⟩ := ih hround
    rw [List.flatMap_cons, List.foldl_append]
    refine ⟨hrest, ?_⟩
    rw [hall, hcalls, List.append_assoc]
    rfl

/-- **A task that is polled when its sleep ends calls once an interval**, and no more once it was
    closed and polled again. -/
theorem calls_promptly (f : HeartbeatFn) (first : Polled) (rounds : List Polled) {d : Duration}
    (hd : d < ephemeralObjectHeartbeatSleep) (last : Polled) (after : List HeartbeatEvent) :
    (run f (promptly first rounds d)).calls = rounds.map (fun p => f.events p.2) ∧
    (run f (promptly first rounds d ++ .close :: .poll last.1 last.2 :: after)).calls =
      rounds.map fun p => f.events p.2 := by
  have hfirst : Fresh (step f {} (.poll first.1 first.2)) := ⟨rfl, rfl⟩
  obtain ⟨hfresh, hcalls⟩ := promptRounds_calls (f := f) hfirst rounds
  have hpromptly : (run f (promptly first rounds d)).calls = rounds.map fun p => f.events p.2 := by
    rw [run, promptly, List.cons_append, List.foldl_cons, List.foldl_append]
    exact hcalls
  refine ⟨hpromptly, ?_⟩
  generalize hbefore : run f (promptly first rounds d) = h at hpromptly
  have hwaits : ∃ deadline, h.task = .waiting deadline ∧ h.now < deadline ∧ h.notified = false := by
    rw [← hbefore, run, promptly, List.cons_append, List.foldl_cons, List.foldl_append]
    exact ⟨_, hfresh.task, Nat.add_lt_add_left hd _, hfresh.notified⟩
  obtain ⟨deadline, htask, hearly, -⟩ := hwaits
  have hnot : ¬ deadline ≤ h.now := Nat.not_le_of_lt hearly
  -- the sleep has not ended: the poll receives the notification
  have hreturns : step f (step f h .close) (.poll last.1 last.2) =
      { h with notified := false, task := .returned } := by
    simp [step, poll, htask, hnot]
  rw [run_append, hbefore, List.foldl_cons, List.foldl_cons, hreturns, returned_calls rfl]
  exact hpromptly

/-! ## 5. Staying alive -/

/-- The heartbeats of an object among some RPCs. -/
def heartbeats (objectId : String) (es : List ObjectEvent) : List ObjectEvent :=
  es.filter fun e => decide (e.action.heartbeatOf = some objectId)

/-- What a schedule has before its first close. -/
def beforeClose (schedule : List HeartbeatEvent) : List HeartbeatEvent :=
  schedule.takeWhile fun e => !e.isClose

/-- **An ephemeral object is kept alive**: as many heartbeats for it are sent as intervals have
    passed before it is closed, and none after that. -/
structure KeptAlive (objectId : String) (f : HeartbeatFn) (schedule : List HeartbeatEvent) : Prop
    where
  count : (heartbeats objectId (run f schedule).sent).length =
    elapsed (beforeClose schedule) / ephemeralObjectHeartbeatSleep
  quiet : heartbeats objectId (run f schedule).sent =
    heartbeats objectId (run f (beforeClose schedule)).sent

theorem beforeClose_of_open {s : List HeartbeatEvent} (hs : ∀ e ∈ s, e.isClose = false)
    (rest : List HeartbeatEvent) : beforeClose (s ++ .close :: rest) = s := by
  rw [beforeClose, List.takeWhile_append_of_pos fun e he => by rw [hs e he, Bool.not_false]]
  exact List.append_nil s

theorem promptly_open (first : Polled) (rounds : List Polled) (d : Duration) :
    ∀ e ∈ promptly first rounds d, e.isClose = false := by
  intro e he
  simp only [promptly, List.mem_append, List.mem_cons, List.mem_flatMap, promptRound] at he
  rcases he with (rfl | ⟨p, -, rfl | rfl | he⟩) | rfl | he
  · rfl
  · rfl
  · rfl
  · cases he
  · rfl
  · cases he

theorem elapsed_promptly (first : Polled) (rounds : List Polled) (d : Duration) :
    elapsed (promptly first rounds d) = rounds.length * ephemeralObjectHeartbeatSleep + d := by
  have hrounds : elapsed (rounds.flatMap promptRound) =
      rounds.length * ephemeralObjectHeartbeatSleep := by
    induction rounds with
    | nil => exact (Nat.zero_mul _).symm
    | cons p rounds ih =>
      have hround : elapsed (promptRound p) = ephemeralObjectHeartbeatSleep := Nat.add_zero _
      rw [List.flatMap_cons, elapsed_append, ih, hround, List.length_cons, Nat.succ_mul,
        Nat.add_comm]
  rw [promptly, elapsed_append, ← hrounds]
  rfl

/-- **A closure that sent the heartbeat of its object would keep it alive** in every prompt
    schedule. -/
theorem keptAlive_of_sends {f : HeartbeatFn} {objectId : String}
    (hf : ∀ answer, ∃ e, f.events answer = [e] ∧ e.action.heartbeatOf = some objectId)
    (first : Polled) (rounds : List Polled) {d : Duration} (hd : d < ephemeralObjectHeartbeatSleep)
    (last : Polled) (after : List HeartbeatEvent) :
    KeptAlive objectId f (promptly first rounds d ++ .close :: .poll last.1 last.2 :: after) := by
  obtain ⟨hbefore, hall⟩ := calls_promptly f first rounds hd last after
  have hcount : ∀ rounds : List Polled, (heartbeats objectId
      (rounds.map fun p => f.events p.2).flatten).length = rounds.length := by
    intro rounds
    induction rounds with
    | nil => rfl
    | cons p rounds ih =>
      obtain ⟨e, hevents, hbeat⟩ := hf p.2
      rw [List.map_cons, List.flatten_cons, hevents, heartbeats, List.filter_append,
        List.length_append, List.length_cons, ← ih, List.filter_singleton, decide_eq_true hbeat]
      exact Nat.add_comm 1 _
  have hopen := beforeClose_of_open (promptly_open first rounds d) (.poll last.1 last.2 :: after)
  constructor
  · rw [sent, hall, hcount, hopen, elapsed_promptly, Nat.mul_comm,
      Nat.mul_add_div (Nat.zero_lt_of_lt hd), Nat.div_eq_of_lt hd, Nat.add_zero]
  · rw [hopen, sent, sent, hall, hbefore]

/-- A closure that sends nothing keeps nothing alive for a whole interval. -/
theorem keptAlive_silent {f : HeartbeatFn} (hf : ∀ answer, f.events answer = [])
    (objectId : String) (schedule : List HeartbeatEvent) :
    KeptAlive objectId f schedule ↔
      elapsed (beforeClose schedule) < ephemeralObjectHeartbeatSleep := by
  have hsilent : ∀ schedule, (run f schedule).sent = [] := by
    intro schedule
    have hcalls : ∀ es ∈ (run f schedule).calls, es = [] := by
      induction schedule using List.reverseRecOn with
      | nil => exact fun es hes => absurd hes List.not_mem_nil
      | append_singleton s e ih =>
        rw [run_append]
        exact step_silent hf ih e
    exact List.flatten_eq_nil_iff.mpr hcalls
  have hsleep : 0 < ephemeralObjectHeartbeatSleep := by decide
  constructor
  · intro halive
    have hcount := halive.count
    rw [hsilent] at hcount
    exact (Nat.div_eq_zero_iff_lt hsleep).mp hcount.symm
  · intro hearly
    refine ⟨?_, ?_⟩
    · rw [hsilent, Nat.div_eq_of_lt hearly]
      rfl
    · rw [hsilent, hsilent]

end Heartbeat

/-! ## 6. Queues and volumes -/

open Heartbeat

/-- The object was created: the RPCs of `ephemeral`, and what it returned. -/
def Makes {α : Type} (p : ObjectM α) (a : α) : Prop :=
  ∃ events, Resumption.Follows p.run events (.done (.ok a))

/-- What `ephemeral` starts for a queue sends nothing. -/
theorem queue_silent {profileEnvironment : String} {params : Option EphemeralParams}
    {made : Queue × HeartbeatFn}
    (h : Makes (QueueServiceImpl.ephemeral profileEnvironment params) made)
    (answer : Nat → (rpc : ObjectRpc) → rpc.Reply) : made.2.events answer = [] := by
  obtain ⟨events, hpath⟩ := h
  cases hpath with
  | act a next r hnext =>
    cases r with
    | error e => cases (Resumption.Follows.of_done hnext).2
    | ok queueId =>
      cases (Resumption.Follows.of_done hnext).2
      rfl

/-- What `ephemeral` starts for a volume sends nothing. -/
theorem volume_silent {profileEnvironment : String} {params : Option EphemeralParams}
    {made : Volume × HeartbeatFn}
    (h : Makes (VolumeServiceImpl.ephemeral profileEnvironment params) made)
    (answer : Nat → (rpc : ObjectRpc) → rpc.Reply) : made.2.events answer = [] := by
  obtain ⟨events, hpath⟩ := h
  cases hpath with
  | act a next r hnext =>
    cases r with
    | error e => cases (Resumption.Follows.of_done hnext).2
    | ok volumeId =>
      cases (Resumption.Follows.of_done hnext).2
      rfl

/-- **For which schedules an ephemeral object is kept alive**: those in which it is closed, if
    ever, before the first interval has passed. -/
theorem kept_alive_exactly (profileEnvironment : String) (params : Option EphemeralParams)
    (schedule : List HeartbeatEvent) :
    (∀ queue f, Makes (QueueServiceImpl.ephemeral profileEnvironment params) (queue, f) →
      (KeptAlive queue.queueId f schedule ↔
        elapsed (beforeClose schedule) < ephemeralObjectHeartbeatSleep)) ∧
    ∀ volume f, Makes (VolumeServiceImpl.ephemeral profileEnvironment params) (volume, f) →
      (KeptAlive volume.volumeId f schedule ↔
        elapsed (beforeClose schedule) < ephemeralObjectHeartbeatSleep) :=
  ⟨fun _ _ h => keptAlive_silent (queue_silent h) _ schedule,
    fun _ _ h => keptAlive_silent (volume_silent h) _ schedule⟩

/-- Every request is refused. -/
def refused : Nat → (rpc : ObjectRpc) → rpc.Reply
  | _, .queueGetOrCreate _ _ _ | _, .volumeGetOrCreate _ _ _ => .error (.other "refused")
  | _, .queueHeartbeat _ | _, .volumeHeartbeat _ => .error (.other "refused")

/-- The RPCs of the creation of a queue. -/
def creation : List ObjectEvent := [⟨.queueGetOrCreate "" "main" 5, .ok "qu-1"⟩]

theorem queue_created :
    Makes (QueueServiceImpl.ephemeral "main" none) (⟨"qu-1", ""⟩, pure ()) := by
  refine ⟨creation, ?_⟩
  exact .act _ _ _ (.refl _)

/-- A queue that is closed after a second. -/
theorem kept_alive_exactly_second :
    KeptAlive "qu-1" (pure ()) [.poll false refused, .elapse (.fromSecs 1), .close] ↔
      elapsed (beforeClose [.poll false refused, .elapse (.fromSecs 1), .close]) <
        ephemeralObjectHeartbeatSleep :=
  (kept_alive_exactly "main" none [.poll false refused, .elapse (.fromSecs 1), .close]).1
    ⟨"qu-1", ""⟩ (pure ()) queue_created

/-- **A queue that stays open for an interval is not kept alive.** -/
theorem not_kept_alive : ∃ f, Makes (QueueServiceImpl.ephemeral "main" none) (⟨"qu-1", ""⟩, f) ∧
    ¬ KeptAlive "qu-1" f [.poll false refused, .elapse (.fromSecs 300), .poll false refused] := by
  refine ⟨pure (), queue_created, fun halive => ?_⟩
  have hearly := (keptAlive_silent (queue_silent queue_created) "qu-1" _).mp halive
  exact absurd hearly (by decide)

end ModalRs
