/-
  File:      ModalRs/Queue/Basic.lean
  Subject:   Queues: parameters, partition keys, and the retry loops of put and get.

  Each of the two loops is a state (`PutLoop`, `GetLoop`), a beginning that
  does what comes before the loop, and a round: one RPC with the reply and the
  clock reading that follow it.

  * `validatePartitionKey`: the key of a partition name.
  * `Queue.putBegin`, `PutLoop.round`: `put_internal`; a full queue is retried after a sleep.
  * `Queue.getBegin`, `GetLoop.round`: `get_internal`; an empty reply is polled again.
  * `Queue.putInternal`, `Queue.getInternal`: the loops run against a script of answers.
-/
import ModalRs.Lib.Script
import ModalRs.Pickle.Encode
import ModalRs.Pickle.Decode
import ModalRs.Rust.Time

namespace ModalRs

open ModalRs.Lib ModalRs.Pickle ModalRs.Rust

/-- A distributed, FIFO queue for data flow in Modal Apps. -/
structure Queue where
  queueId : String
  name : String
  deriving DecidableEq, Repr

/-- What the server keeps the partitions of a queue under; `none` is the default partition. -/
abbrev PartitionKey : Type := Option (List UInt8)

/-- Validate a partition key (1-64 bytes, or empty for default partition). -/
def validatePartitionKey (partition : String) : Except ModalError PartitionKey :=
  if partition.isEmpty then .ok none
  else
    let b := asBytes partition
    if b.isEmpty || 64 < b.length then
      .error (.invalid "Queue partition key must be 1–64 bytes long")
    else .ok (some b)

/-! ## 1. Parameters -/

def queueDefaultPartitionTtl : Duration := .fromSecs (24 * 60 * 60)

def queueInitialPutBackoff : Duration := .fromMillis 100

structure QueueGetParams where
  timeout : Option Duration := none
  partition : String := ""

structure QueueGetManyParams where
  timeout : Option Duration := none
  partition : String := ""

structure QueuePutParams where
  timeout : Option Duration := none
  partition : String := ""
  partitionTtl : Duration := 0

structure QueuePutManyParams where
  timeout : Option Duration := none
  partition : String := ""
  partitionTtl : Duration := 0

/-- Returns the effective partition TTL (default 24h). -/
def QueuePutParams.effectivePartitionTtl (params : QueuePutParams) : Duration :=
  if params.partitionTtl = 0 then queueDefaultPartitionTtl else params.partitionTtl

/-! ## 2. Put -/

/-- The arguments of the RPC `queue_put`. -/
structure PutRequest where
  queueId : String
  values : List (List UInt8)
  partitionKey : PartitionKey
  partitionTtlSeconds : Int32
  deriving DecidableEq

/-- The local variables of the loop of `put_internal`. -/
structure PutLoop where
  request : PutRequest
  deadline : Option Instant
  delay : Duration

/-- The reply to a put, and the clock when it is looked at. -/
structure PutAnswer where
  reply : Except ModalError Unit
  now : Instant

inductive PutEvent where
  | request (r : PutRequest)
  | sleep (d : Duration)
  deriving DecidableEq

/-- `params.timeout.map(|t| Instant::now() + t)`. -/
def deadlineOf (timeout : Option Duration) (now : Instant) : Res ModalError (Option Instant) :=
  match timeout with
  | some t => (Instant.add now t).map some
  | none => .ok none

/-- `put_internal` up to its loop. -/
def Queue.putBegin (queue : Queue) (values : List PickleValue) (params : Option QueuePutParams)
    (now : Instant) : Res ModalError PutLoop := do
  let params := params.getD {}
  let key ← liftExcept (validatePartitionKey params.partition)
  let valuesEncoded ← liftExcept (values.mapM pickleSerialize)
  let deadline ← deadlineOf params.timeout now
  let ttl := params.effectivePartitionTtl
  .ok {
    request := ⟨queue.queueId, valuesEncoded, key, .ofNat ttl.asSecs⟩
    deadline := deadline
    delay := queueInitialPutBackoff }

/-- What the loop sends was made of the call's arguments. -/
theorem Queue.putBegin_ok {queue : Queue} {values : List PickleValue}
    {params : Option QueuePutParams} {now : Instant} {l : PutLoop}
    (h : queue.putBegin values params now = .ok l) :
    validatePartitionKey (params.getD {}).partition = .ok l.request.partitionKey ∧
      values.mapM pickleSerialize = .ok l.request.values := by
  obtain ⟨key, hkey, h⟩ := except_bind_ok h
  obtain ⟨batch, hbatch, h⟩ := except_bind_ok h
  obtain ⟨deadline, -, h⟩ := except_bind_ok h
  cases h
  exact ⟨liftExcept_ok hkey, liftExcept_ok hbatch⟩

/-- The next delay when the queue is full, or `none` when the deadline has passed. -/
def PutLoop.backoff (l : PutLoop) (now : Instant) : Option Duration :=
  let delay := min (Duration.saturatingMul l.delay 2) (.fromSecs 30)
  match l.deadline with
  | some dl =>
      let remaining := Instant.saturatingDurationSince dl now
      if remaining = 0 then none else some (min delay remaining)
  | none => some delay

/-- One round of the loop of `put_internal`. -/
def PutLoop.round (l : PutLoop) (answer : PutAnswer) :
    List PutEvent × Res ModalError (PutLoop ⊕ Unit) :=
  match answer.reply with
  | .ok () => ([.request l.request], .ok (.inr ()))
  | .error (.grpc status) =>
      if status.code = .resourceExhausted then
        -- queue is full: retry with exponential backoff
        match l.backoff answer.now with
        | some delay =>
            ([.request l.request, .sleep delay], .ok (.inl { l with delay := delay }))
        | none =>
            ([.request l.request],
              .error (.err (.queueFull ("Put failed on " ++ l.request.queueId))))
      else ([.request l.request], .error (.err (.grpc status)))
  | .error e => ([.request l.request], .error (.err e))

/-- After a refusal the same request is sent again, or the put fails. -/
theorem PutLoop.round_full (l : PutLoop) (msg : String) (now : Instant) :
    (∃ delay, (l.round ⟨.error (.grpc ⟨.resourceExhausted, msg⟩), now⟩).2 =
      .ok (.inl { l with delay := delay })) ∨
    ∃ e, (l.round ⟨.error (.grpc ⟨.resourceExhausted, msg⟩), now⟩).2 = .error (.err e) := by
  unfold PutLoop.round
  simp only [if_pos]
  cases l.backoff now with
  | some delay => exact Or.inl ⟨delay, rfl⟩
  | none => exact Or.inr ⟨_, rfl⟩

/-- **What a round of `put_internal` can do**: return, fail as its RPC did, give up on a full queue,
    or sleep and send the same request again. -/
theorem PutLoop.round_cases (l : PutLoop) (a : PutAnswer) :
    (a.reply = .ok () ∧ l.round a = ([.request l.request], .ok (.inr ()))) ∨
    (∃ e, a.reply = .error e ∧ (∀ status, e = .grpc status → status.code ≠ .resourceExhausted) ∧
      l.round a = ([.request l.request], .error (.err e))) ∨
    (∃ status, a.reply = .error (.grpc status) ∧ status.code = .resourceExhausted ∧
      ((l.backoff a.now = none ∧ l.round a = ([.request l.request],
        .error (.err (.queueFull ("Put failed on " ++ l.request.queueId))))) ∨
      ∃ delay, l.backoff a.now = some delay ∧
        l.round a = ([.request l.request, .sleep delay], .ok (.inl { l with delay := delay })))) := by
  obtain ⟨reply, now⟩ := a
  rcases reply with e | _
  · right
    cases e with
    | grpc status =>
      by_cases hfull : status.code = .resourceExhausted
      · refine Or.inr ⟨status, rfl, hfull, ?_⟩
        simp only [PutLoop.round, hfull, if_pos]
        cases l.backoff now with
        | none => exact Or.inl ⟨rfl, rfl⟩
        | some delay => exact Or.inr ⟨delay, rfl, rfl⟩
      · refine Or.inl ⟨.grpc status, rfl, fun status' hstatus => ?_, ?_⟩
        · cases hstatus
          exact hfull
        · simp only [PutLoop.round, if_neg hfull]
    | _ => exact Or.inl ⟨_, rfl, fun status hstatus => (nomatch hstatus), rfl⟩
  · exact Or.inl ⟨rfl, rfl⟩

/-- Internal put helper used by both `put` and `putMany`. -/
def Queue.putInternal (queue : Queue) (values : List PickleValue) (params : Option QueuePutParams)
    (now : Instant) (answers : List PutAnswer) : List PutEvent × Res ModalError Unit :=
  match queue.putBegin values params now with
  | .error e => ([], .error e)
  | .ok l => runScript .diverged PutLoop.round l answers

/-- The parameters that `put_many` hands on. -/
def QueuePutManyParams.toPut (params : QueuePutManyParams) : QueuePutParams :=
  ⟨params.timeout, params.partition, params.partitionTtl⟩

/-! ## 3. Get -/

/-- The arguments of the RPC `queue_get`. -/
structure GetRequest where
  queueId : String
  partitionKey : PartitionKey
  timeout : Duration
  nValues : Int32
  deriving DecidableEq

/-- The local variables of the loop of `get_internal`. -/
structure GetLoop where
  queueId : String
  partitionKey : PartitionKey
  nValues : Int32
  timeout : Option Duration
  start : Instant
  pollTimeout : Duration

/-- The reply to a get, and the clock when it is looked at. -/
structure GetAnswer where
  reply : Except ModalError (List (List UInt8))
  now : Instant

/-- `get_internal` up to its loop. -/
def Queue.getBegin (queue : Queue) (n : Int32) (params : Option QueueGetParams) (now : Instant) :
    Res ModalError GetLoop := do
  let params := params.getD {}
  let partitionKey ← liftExcept (validatePartitionKey params.partition)
  let pollTimeout := Duration.fromSecs 50
  let pollTimeout := match params.timeout with
    | some timeout => if timeout < pollTimeout then timeout else pollTimeout
    | none => pollTimeout
  .ok {
    queueId := queue.queueId
    partitionKey := partitionKey
    nValues := n
    timeout := params.timeout
    start := now
    pollTimeout := pollTimeout }

theorem Queue.getBegin_ok {queue : Queue} {n : Int32} {params : Option QueueGetParams}
    {now : Instant} {l : GetLoop} (h : queue.getBegin n params now = .ok l) :
    validatePartitionKey (params.getD {}).partition = .ok l.partitionKey ∧ l.nValues = n := by
  obtain ⟨key, hkey, h⟩ := except_bind_ok h
  cases h
  exact ⟨liftExcept_ok hkey, rfl⟩

def GetLoop.request (l : GetLoop) : GetRequest :=
  ⟨l.queueId, l.partitionKey, l.pollTimeout, l.nValues⟩

/-- `ModalError::QueueEmpty` of a get that ran into its timeout. -/
def GetLoop.emptyError (l : GetLoop) (timeout : Duration) : ModalError :=
  .queueEmpty ("Queue " ++ l.queueId ++ " did not return values within " ++ timeout.debug)

/-- One round of the loop of `get_internal`. -/
def GetLoop.round (l : GetLoop) (answer : GetAnswer) :
    List GetRequest × Res ModalError (GetLoop ⊕ List PickleValue) :=
  match answer.reply with
  | .error e => ([l.request], .error (.err e))
  | .ok rawValues =>
      if rawValues.isEmpty then
        match l.timeout with
        | some timeout =>
            let elapsed := Instant.saturatingDurationSince answer.now l.start
            if timeout ≤ elapsed then ([l.request], .error (.err (l.emptyError timeout)))
            else
              let remaining := timeout - elapsed
              ([l.request], .ok (.inl { l with pollTimeout := min l.pollTimeout remaining }))
        | none => ([l.request], .ok (.inl l))
      else ([l.request], (rawValues.mapM pickleDeserialize).map .inr)

/-- After an empty reply the same get is polled again, or it fails. -/
theorem GetLoop.round_empty (l : GetLoop) (now : Instant) :
    (∃ poll, (l.round ⟨.ok [], now⟩).2 = .ok (.inl { l with pollTimeout := poll })) ∨
    ∃ e, (l.round ⟨.ok [], now⟩).2 = .error (.err e) := by
  simp only [GetLoop.round, List.isEmpty_nil, if_pos]
  split
  · split
    · exact Or.inr ⟨_, rfl⟩
    · exact Or.inl ⟨_, rfl⟩
  · exact Or.inl ⟨l.pollTimeout, rfl⟩

theorem GetLoop.round_items (l : GetLoop) (now : Instant) {raw : List (List UInt8)} (h : raw ≠ []) :
    (l.round ⟨.ok raw, now⟩).2 = (raw.mapM pickleDeserialize).map .inr := by
  have hne : raw.isEmpty = false := by simpa using h
  simp only [GetLoop.round, hne]
  rfl

/-- **What a round of `get_internal` can do**: fail as its RPC did, return what it decodes, run into
    the timeout, or poll again. -/
theorem GetLoop.round_cases (l : GetLoop) (a : GetAnswer) :
    (∃ e, a.reply = .error e ∧ l.round a = ([l.request], .error (.err e))) ∨
    (∃ raw, a.reply = .ok raw ∧ raw ≠ [] ∧
      l.round a = ([l.request], (raw.mapM pickleDeserialize).map .inr)) ∨
    (∃ timeout, a.reply = .ok [] ∧ l.timeout = some timeout ∧
      timeout ≤ Instant.saturatingDurationSince a.now l.start ∧
      l.round a = ([l.request], .error (.err (l.emptyError timeout)))) ∨
    (∃ timeout, a.reply = .ok [] ∧ l.timeout = some timeout ∧
      Instant.saturatingDurationSince a.now l.start < timeout ∧
      l.round a = ([l.request], .ok (.inl { l with
        pollTimeout :=
          min l.pollTimeout (timeout - Instant.saturatingDurationSince a.now l.start) }))) ∨
    (a.reply = .ok [] ∧ l.timeout = none ∧ l.round a = ([l.request], .ok (.inl l))) := by
  obtain ⟨reply, now⟩ := a
  rcases reply with e | _ | ⟨item, raw⟩
  · exact Or.inl ⟨e, rfl, rfl⟩
  · right; right
    cases htimeout : l.timeout with
    | none =>
      refine Or.inr (Or.inr ⟨rfl, rfl, ?_⟩)
      simp only [GetLoop.round, List.isEmpty_nil, if_pos, htimeout]
    | some timeout =>
      by_cases hover : timeout ≤ Instant.saturatingDurationSince now l.start
      · refine Or.inl ⟨timeout, rfl, rfl, hover, ?_⟩
        simp only [GetLoop.round, List.isEmpty_nil, if_pos, htimeout, hover]
      · refine Or.inr (Or.inl ⟨timeout, rfl, rfl, Nat.lt_of_not_le hover, ?_⟩)
        simp only [GetLoop.round, List.isEmpty_nil, if_pos, htimeout, if_neg hover]
  · exact Or.inr (Or.inl ⟨item :: raw, rfl, List.cons_ne_nil _ _, rfl⟩)

/-- Internal get helper used by both `get` and `getMany`. -/
def Queue.getInternal (queue : Queue) (n : Int32) (params : Option QueueGetParams) (now : Instant)
    (answers : List GetAnswer) : List GetRequest × Res ModalError (List PickleValue) :=
  match queue.getBegin n params now with
  | .error e => ([], .error e)
  | .ok l => runScript .diverged GetLoop.round l answers

/-- The parameters that `get_many` hands on. -/
def QueueGetManyParams.toGet (params : QueueGetManyParams) : QueueGetParams :=
  ⟨params.timeout, params.partition⟩

/-- `vals.into_iter().next().unwrap()`. -/
def firstOf : List PickleValue → Res ModalError PickleValue
  | v :: _ => .ok v
  | [] => .error (.panic .unwrapNone)

/-- `get`: removes and returns one item. -/
def Queue.get (queue : Queue) (params : Option QueueGetParams) (now : Instant)
    (answers : List GetAnswer) : List GetRequest × Res ModalError PickleValue :=
  let (requests, out) := queue.getInternal 1 params now answers
  (requests, out >>= firstOf)

end ModalRs
