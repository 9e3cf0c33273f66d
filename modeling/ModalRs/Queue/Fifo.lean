/-
  File:      ModalRs/Queue/Fifo.lean
  Subject:   Any number of clients on one queue: every value is delivered once, in order.

  The clients run the loops of `Queue/Basic.lean`. Between two RPCs a client
  touches nothing shared, so a step of the system is one RPC with everything
  its client does until the next one; a call that ends, ends in the step of
  its last RPC.

  * `Operation`, `Loop`: the four calls and the loops they run.
  * `Serves`: what the server may do with an RPC.
  * `System`, `Step`, `Reachable`: the clients over one server.
  * `Inv`, `step_inv`: what every step keeps: what was delivered, followed by
    what is in the queue, is what was put (`Inv.fifo`).
  * `queue_exactly_once_fifo`: the main result.
-/
import Mathlib.Logic.Function.Basic
import ModalRs.Pickle.RoundTrip
import ModalRs.Queue.Basic

namespace ModalRs.Fifo

open ModalRs.Lib ModalRs.Pickle ModalRs.Rust

/-! ## 1. Calls -/

/-- A call of `Queue::put`, `put_many`, `get` or `get_many`. -/
inductive Operation where
  | put (value : PickleValue) (params : Option QueuePutParams)
  | putMany (values : List PickleValue) (params : Option QueuePutManyParams)
  | get (params : Option QueueGetParams)
  | getMany (n : Int32) (params : Option QueueGetManyParams)

/-- The loop that a call runs. -/
inductive Loop where
  | put (l : PutLoop)
  | get (l : GetLoop)

namespace Operation

/-- The values a put puts. -/
def values : Operation → List PickleValue
  | .put value _ => [value]
  | .putMany values _ => values
  | .get _ | .getMany _ _ => []

def isPut : Operation → Bool
  | .put _ _ | .putMany _ _ => true
  | .get _ | .getMany _ _ => false

/-- The name of the partition the call works on. -/
def partition : Operation → String
  | .put _ params => (params.getD {}).partition
  | .putMany _ params => (params.getD {}).partition
  | .get params => (params.getD {}).partition
  | .getMany _ params => (params.getD {}).partition

/-- The call works on the partition with this key. -/
def On (op : Operation) (key : PartitionKey) : Prop :=
  validatePartitionKey op.partition = .ok key

instance (op : Operation) (key : PartitionKey) : Decidable (op.On key) :=
  match h : validatePartitionKey op.partition with
  | .ok k => if hk : k = key then isTrue (by rw [On, h, hk]) else isFalse (by
      rw [On, h, Except.ok.injEq]
      exact hk)
  | .error _ => isFalse (by rw [On, h]; exact fun e => nomatch e)

/-- What a call does before its loop. -/
def start (queue : Queue) (now : Instant) : Operation → Res ModalError Loop
  | .put value params => (queue.putBegin [value] params now).map .put
  | .putMany values params =>
      (queue.putBegin values (params.map QueuePutManyParams.toPut) now).map .put
  | .get params => (queue.getBegin 1 params now).map .get
  | .getMany n params => (queue.getBegin n (params.map QueueGetManyParams.toGet) now).map .get

/-- What a call hands to its caller of the values that its loop returned. -/
def deliver (vals : List PickleValue) : Operation → Res ModalError (List PickleValue)
  | .get _ => (firstOf vals).map fun v => [v]
  | .getMany _ _ => .ok vals
  | .put _ _ | .putMany _ _ => .ok []

end Operation

/-! ## 2. The server -/

/-- The server's partitions, each with its front first. -/
abbrev Partitions : Type := PartitionKey → List (List UInt8)

/-- An RPC as the server sees it. -/
inductive Rpc where
  | put (r : PutRequest)
  | get (r : GetRequest)

inductive Reply where
  | put (reply : Except ModalError Unit)
  | get (reply : Except ModalError (List (List UInt8)))

/-- **What the server may do**: append the whole batch, refuse it as `ResourceExhausted`, or
    remove and return the first `min(n, len)` items. -/
inductive Serves : Partitions → Rpc → Partitions → Reply → Prop where
  | append (p : Partitions) (r : PutRequest) :
      Serves p (.put r)
        (Function.update p r.partitionKey (p r.partitionKey ++ r.values)) (.put (.ok ()))
  | full (p : Partitions) (r : PutRequest) (msg : String) :
      Serves p (.put r) p (.put (.error (.grpc ⟨.resourceExhausted, msg⟩)))
  | take (p : Partitions) (r : GetRequest) :
      Serves p (.get r)
        (Function.update p r.partitionKey ((p r.partitionKey).drop r.nValues.toInt.toNat))
        (.get (.ok ((p r.partitionKey).take r.nValues.toInt.toNat)))

/-! ## 3. The system -/

/-- A call in progress, with the batches the server has appended on its behalf. -/
structure Running where
  op : Operation
  loop : Loop
  appended : List (List (List UInt8))

/-- A call that is over: what its caller got, and what the server appended on its behalf. -/
structure Returned where
  op : Operation
  result : Res ModalError (List PickleValue)
  appended : List (List (List UInt8))

structure System (Client : Type) where
  server : Partitions
  running : Client → Option Running
  /-- The calls that are over, in the order of their last RPCs. -/
  returned : List Returned

namespace Loop

def rpc : Loop → Rpc
  | .put l => .put l.request
  | .get l => .get l.request

/-- A round of the call's loop, when the reply and the clock are there. -/
def round : Loop → Reply → Instant → Res ModalError (Loop ⊕ List PickleValue)
  | .put l, .put reply, now => (l.round ⟨reply, now⟩).2.map fun
      | .inl l' => .inl (.put l')
      | .inr () => .inr []
  | .get l, .get reply, now => (l.round ⟨reply, now⟩).2.map fun
      | .inl l' => .inl (.get l')
      | .inr vals => .inr vals
  | _, _, _ => .error (.panic .unreachable)

end Loop

/-- What the server appended for an RPC, by its reply. -/
def appendedBy : Rpc → Reply → List (List (List UInt8))
  | .put r, .put (.ok ()) => [r.values]
  | _, _ => []

namespace System

variable {Client : Type} [DecidableEq Client]

/-- The server is now in this state. -/
def withServer (s : System Client) (p : Partitions) : System Client := { s with server := p }

/-- The call of `c` goes on. -/
def goOn (s : System Client) (c : Client) (r : Running) : System Client :=
  { s with running := Function.update s.running c (some r) }

/-- The call of `c` is over. -/
def finish (s : System Client) (c : Client) (r : Returned) : System Client :=
  { s with running := Function.update s.running c none, returned := s.returned ++ [r] }

/-- The client goes on with what a round of its loop came back with. -/
def settle (s : System Client) (c : Client) (op : Operation) (appended : List (List (List UInt8))) :
    Res ModalError (Loop ⊕ List PickleValue) → System Client
  | .ok (.inl loop) => s.goOn c ⟨op, loop, appended⟩
  | .ok (.inr vals) => s.finish c ⟨op, op.deliver vals, appended⟩
  | .error e => s.finish c ⟨op, .error e, appended⟩

end System

variable {Client : Type} [DecidableEq Client]

/-- A step of the system: a client that is free starts a call, or a call in progress makes its
    next RPC. Payloads are shorter than `2 ^ 32` bytes, and what is sent are byte slices. -/
inductive Step (queue : Queue) : System Client → System Client → Prop where
  | starts (s : System Client) (c : Client) (op : Operation) (now : Instant) (loop : Loop)
      (hfree : s.running c = none) (hfit : itemsFit op.values = true)
      (hstart : op.start queue now = .ok loop)
      (hslices : ∀ l, loop = .put l → ∀ b ∈ l.request.values, IsSlice b) :
      Step queue s (s.goOn c ⟨op, loop, []⟩)
  | refused (s : System Client) (c : Client) (op : Operation) (now : Instant)
      (e : Stop ModalError) (hfree : s.running c = none)
      (hstart : op.start queue now = .error e) :
      Step queue s (s.finish c ⟨op, .error e, []⟩)
  | rpc (s : System Client) (c : Client) (r : Running) (p : Partitions) (reply : Reply)
      (now : Instant) (hrun : s.running c = some r) (hserve : Serves s.server r.loop.rpc p reply) :
      Step queue s ((s.withServer p).settle c r.op
        (r.appended ++ appendedBy r.loop.rpc reply) (r.loop.round reply now))

/-- No call is running, and every partition is empty. -/
def System.initial : System Client := ⟨fun _ => [], fun _ => none, []⟩

def Reachable (queue : Queue) (s : System Client) : Prop :=
  Relation.ReflTransGen (Step queue) System.initial s

/-! ## 4. What a call delivers and stores -/

/-- The values that a call handed to its caller from this partition. -/
def Returned.delivered (key : PartitionKey) (r : Returned) : List PickleValue :=
  if r.op.On key then
    match r.result with
    | .ok vals => vals
    | .error _ => []
  else []

/-- The values that a successful call put into this partition. -/
def Returned.stored (key : PartitionKey) (r : Returned) : List PickleValue :=
  if r.op.On key then
    match r.result with
    | .ok _ => r.op.values
    | .error _ => []
  else []

/-- The values delivered from a partition, in the order of the get RPCs. -/
def delivered (key : PartitionKey) (rs : List Returned) : List PickleValue :=
  rs.flatMap (Returned.delivered key)

/-- The values of the successful puts into a partition, in the order of the put RPCs. -/
def stored (key : PartitionKey) (rs : List Returned) : List PickleValue :=
  rs.flatMap (Returned.stored key)

theorem delivered_append (key : PartitionKey) (rs : List Returned) (r : Returned) :
    delivered key (rs ++ [r]) = delivered key rs ++ r.delivered key := by
  simp [delivered]

theorem stored_append (key : PartitionKey) (rs : List Returned) (r : Returned) :
    stored key (rs ++ [r]) = stored key rs ++ r.stored key := by
  simp [stored]

theorem delivered_of_error {key : PartitionKey} {r : Returned} {e : Stop ModalError}
    (h : r.result = .error e) : r.delivered key = [] := by
  simp only [Returned.delivered, h, ite_self]

theorem stored_of_error {key : PartitionKey} {r : Returned} {e : Stop ModalError}
    (h : r.result = .error e) : r.stored key = [] := by
  simp only [Returned.stored, h, ite_self]

/-- A call works on one partition. -/
theorem On.unique {op : Operation} {key key' : PartitionKey} (h : op.On key) (h' : op.On key') :
    key = key' := by
  unfold Operation.On at h h'
  rw [h, Except.ok.injEq] at h'
  exact h'

/-! ## 5. Encoded values -/

/-- The bytes of values, one byte slice for each. -/
def Encodes (values : List PickleValue) (batch : List (List UInt8)) : Prop :=
  List.Forall₂ (fun v b => pickleSerialize v = .ok b ∧ payloadsFit v = true ∧ IsSlice b)
    values batch

theorem encodes_of_mapM : ∀ {values : List PickleValue} {batch : List (List UInt8)},
    values.mapM pickleSerialize = .ok batch → itemsFit values = true →
      (∀ b ∈ batch, IsSlice b) → Encodes values batch
  | [], _, h, _, _ => by
      cases h
      exact .nil
  | v :: values, batch, h, hfit, hslices => by
      rw [List.mapM_cons] at h
      obtain ⟨b, hb, h⟩ := except_bind_ok h
      obtain ⟨bs, hbs, h⟩ := except_bind_ok h
      cases h
      rw [itemsFit, Bool.and_eq_true] at hfit
      rw [List.forall_mem_cons] at hslices
      exact .cons ⟨hb, hfit.1, hslices.1⟩ (encodes_of_mapM hbs hfit.2 hslices.2)

/-- Encoded values are what the encoder makes of them. -/
theorem Encodes.serialized {values : List PickleValue} {batch : List (List UInt8)}
    (h : Encodes values batch) : values.mapM pickleSerialize = .ok batch := by
  induction h with
  | nil => rfl
  | cons hvb _ ih =>
    rw [List.mapM_cons, hvb.1, ih]
    rfl

/-- **Encoded values decode to themselves.** -/
theorem Encodes.decoded {values : List PickleValue} {batch : List (List UInt8)}
    (h : Encodes values batch) : batch.mapM pickleDeserialize = .ok values := by
  induction h with
  | nil => rfl
  | cons hvb _ ih =>
    obtain ⟨hser, hfit, hslice⟩ := hvb
    rw [List.mapM_cons, pickleDeserialize_serialized hfit hser hslice, ih]
    rfl

/-! ## 6. The invariant -/

/-- The loop of a call that has not ended sends what the call was given. -/
def LoopFor (op : Operation) : Loop → Prop
  | .put l => op.isPut = true ∧ op.On l.request.partitionKey ∧ Encodes op.values l.request.values
  | .get l => op.isPut = false ∧ op.On l.partitionKey ∧
      ((∃ params, op = .get params) → l.nValues = 1)

/-- A successful put appended its encoded values exactly once, any other nothing. -/
def ReturnedOk (r : Returned) : Prop :=
  r.op.isPut = true →
    (∀ vals, r.result = .ok vals →
      ∃ batch, r.op.values.mapM pickleSerialize = .ok batch ∧ r.appended = [batch]) ∧
    (∀ e, r.result = .error e → r.appended = [])

structure Inv (s : System Client) : Prop where
  fifo : ∀ key, ∃ remaining, Encodes remaining (s.server key) ∧
    delivered key s.returned ++ remaining = stored key s.returned
  running : ∀ c r, s.running c = some r → LoopFor r.op r.loop ∧ r.appended = []
  returned : ∀ r ∈ s.returned, ReturnedOk r

omit [DecidableEq Client] in
theorem inv_initial : Inv (System.initial : System Client) where
  fifo _ := ⟨[], .nil, rfl⟩
  running _ _ h := nomatch h
  returned _ h := nomatch h

/-- A loop that was just begun sends what the call was given. -/
theorem loopFor_start {queue : Queue} {now : Instant} {op : Operation} {loop : Loop}
    (h : op.start queue now = .ok loop) (hfit : itemsFit op.values = true)
    (hslices : ∀ l, loop = .put l → ∀ b ∈ l.request.values, IsSlice b) : LoopFor op loop := by
  cases op with
  | put value params =>
    obtain ⟨l, hl, rfl⟩ := except_map_ok h
    obtain ⟨hkey, hbatch⟩ := Queue.putBegin_ok hl
    exact ⟨rfl, hkey, encodes_of_mapM hbatch hfit (hslices l rfl)⟩
  | putMany values params =>
    obtain ⟨l, hl, rfl⟩ := except_map_ok h
    obtain ⟨hkey, hbatch⟩ := Queue.putBegin_ok hl
    refine ⟨rfl, ?_, encodes_of_mapM hbatch hfit (hslices l rfl)⟩
    cases params <;> exact hkey
  | get params =>
    obtain ⟨l, hl, rfl⟩ := except_map_ok h
    obtain ⟨hkey, hn⟩ := Queue.getBegin_ok hl
    exact ⟨rfl, hkey, fun _ => hn⟩
  | getMany n params =>
    obtain ⟨l, hl, rfl⟩ := except_map_ok h
    obtain ⟨hkey, hn⟩ := Queue.getBegin_ok hl
    refine ⟨rfl, ?_, fun ⟨_, hop⟩ => nomatch hop⟩
    cases params <;> exact hkey

section Steps

variable {s : System Client} {c : Client}

/-- What a running call may become. -/
theorem running_update {r : Option Running} (h : Inv s)
    (hr : ∀ r', r = some r' → LoopFor r'.op r'.loop ∧ r'.appended = []) (c' : Client)
    (r' : Running) (hrun : Function.update s.running c r c' = some r') :
    LoopFor r'.op r'.loop ∧ r'.appended = [] := by
  by_cases hc : c' = c
  · subst hc
    rw [Function.update_self] at hrun
    exact hr r' hrun
  · rw [Function.update_of_ne hc] at hrun
    exact h.running c' r' hrun

/-- A call that goes on changes no queue. -/
theorem inv_goOn (h : Inv s) {r : Running} (hloop : LoopFor r.op r.loop) (happ : r.appended = []) :
    Inv (s.goOn c r) where
  fifo := h.fifo
  running := running_update h fun r' hr' => by
    cases hr'
    exact ⟨hloop, happ⟩
  returned := h.returned

/-- **A call that is over**: what it delivered was in front of the rest of its queue, and what it
    stored is behind it. -/
theorem inv_finish (h : Inv s) {r : Returned} {p : Partitions} (hr : ReturnedOk r)
    (hfifo : ∀ key remaining, Encodes remaining (s.server key) → ∃ remaining',
      Encodes remaining' (p key) ∧ r.delivered key ++ remaining' = remaining ++ r.stored key) :
    Inv ((s.withServer p).finish c r) where
  fifo key := by
    obtain ⟨remaining, hrem, heq⟩ := h.fifo key
    obtain ⟨remaining', hrem', heq'⟩ := hfifo key remaining hrem
    refine ⟨remaining', hrem', ?_⟩
    show delivered key (s.returned ++ [r]) ++ remaining' = stored key (s.returned ++ [r])
    rw [delivered_append, stored_append, List.append_assoc, heq', ← List.append_assoc, heq]
  running := running_update (s := s) h fun r' hr' => nomatch hr'
  returned r' hr' := by
    rcases List.mem_append.mp hr' with hold | hnew
    · exact h.returned r' hold
    · rw [List.mem_singleton] at hnew
      subst hnew
      exact hr

/-- A call that fails delivered and stored nothing. -/
theorem inv_fail (h : Inv s) {op : Operation} {e : Stop ModalError} :
    Inv (s.finish c ⟨op, .error e, []⟩) := by
  have hok : ReturnedOk ⟨op, .error e, []⟩ :=
    fun _ => ⟨fun _ hok => (nomatch hok), fun _ _ => rfl⟩
  refine inv_finish (p := s.server) h hok fun key remaining hrem => ⟨remaining, hrem, ?_⟩
  rw [delivered_of_error rfl, stored_of_error rfl, List.append_nil]
  rfl

/-- A call that is over has changed no queue but its own. -/
theorem inv_finish_on (h : Inv s) {r : Returned} {key : PartitionKey} (hkey : r.op.On key)
    (hr : ReturnedOk r) {p : Partitions} {q : List (List UInt8)}
    (hp : p = Function.update s.server key q)
    (hfifo : ∀ remaining, Encodes remaining (s.server key) → ∃ remaining',
      Encodes remaining' q ∧ r.delivered key ++ remaining' = remaining ++ r.stored key) :
    Inv ((s.withServer p).finish c r) := by
  refine inv_finish h hr fun key' remaining hrem => ?_
  rw [hp]
  by_cases hk : key' = key
  · subst hk
    rw [Function.update_self]
    exact hfifo remaining hrem
  · have hnot : ¬ r.op.On key' := fun hon => hk (On.unique hon hkey)
    rw [Function.update_of_ne hk]
    refine ⟨remaining, hrem, ?_⟩
    simp only [Returned.delivered, Returned.stored, if_neg hnot, List.nil_append, List.append_nil]

/-- **An accepted put**: its values are behind the partition's, and the call is over. -/
theorem inv_append (h : Inv s) {op : Operation} {key : PartitionKey} {batch : List (List UInt8)}
    (hkey : op.On key) (henc : Encodes op.values batch)
    {p : Partitions} (hp : p = Function.update s.server key (s.server key ++ batch)) :
    Inv ((s.withServer p).finish c ⟨op, .ok [], [batch]⟩) := by
  have hok : ReturnedOk ⟨op, .ok [], [batch]⟩ :=
    fun _ => ⟨fun _ _ => ⟨batch, henc.serialized, rfl⟩, fun _ he => nomatch he⟩
  refine inv_finish_on h hkey hok hp fun remaining hrem => ?_
  refine ⟨remaining ++ op.values, List.rel_append hrem henc, ?_⟩
  simp only [Returned.delivered, Returned.stored, if_pos hkey, List.nil_append]

/-- **A successful get**: the values it hands over are the front of the partition. -/
theorem inv_take (h : Inv s) {op : Operation} {key : PartitionKey} {n : Nat}
    {vals : List PickleValue} (hget : op.isPut = false) (hkey : op.On key)
    (hdec : ((s.server key).take n).mapM pickleDeserialize = .ok vals) {p : Partitions}
    (hp : p = Function.update s.server key ((s.server key).drop n)) :
    Inv ((s.withServer p).finish c ⟨op, .ok vals, []⟩) := by
  have hok : ReturnedOk ⟨op, .ok vals, []⟩ := by
    intro hput
    rw [hget] at hput
    cases hput
  have hvalues : op.values = [] := by
    cases op with
    | put value params => cases hget
    | putMany values params => cases hget
    | get params => rfl
    | getMany n params => rfl
  refine inv_finish_on h hkey hok hp fun remaining hrem => ?_
  have hfront : Encodes (remaining.take n) ((s.server key).take n) := List.forall₂_take n hrem
  have hvals : vals = remaining.take n := by
    rw [hfront.decoded, Except.ok.injEq] at hdec
    exact hdec.symm
  refine ⟨remaining.drop n, List.forall₂_drop n hrem, ?_⟩
  simp only [Returned.delivered, Returned.stored, if_pos hkey, hvalues, List.append_nil]
  rw [hvals, List.take_append_drop]

/-- A get hands over all the values its loop returned. -/
theorem deliver_all {op : Operation} {vals : List PickleValue} (hget : op.isPut = false)
    (hone : (∃ params, op = .get params) → vals.length = 1) : op.deliver vals = .ok vals := by
  cases op with
  | put value params => cases hget
  | putMany values params => cases hget
  | getMany n params => rfl
  | get params =>
    obtain ⟨v, rfl⟩ := List.length_eq_one_iff.mp (hone ⟨params, rfl⟩)
    rfl

/-- A put's next RPC. -/
theorem inv_rpc_put (h : Inv s) {op : Operation} {l : PutLoop} (hloop : LoopFor op (.put l))
    {p : Partitions} {reply : Reply} (now : Instant)
    (hserve : Serves s.server (.put l.request) p reply) :
    Inv ((s.withServer p).settle c op
      ([] ++ appendedBy (.put l.request) reply) ((Loop.put l).round reply now)) := by
  obtain ⟨hput, hkey, henc⟩ := hloop
  have hdeliver : op.deliver [] = .ok [] := by
    cases op with
    | put value params => rfl
    | putMany values params => rfl
    | get params => cases hput
    | getMany n params => cases hput
  cases hserve with
  | append _ =>
    have hround : (Loop.put l).round (.put (.ok ())) now = .ok (.inr []) := rfl
    rw [hround]
    show Inv (System.finish _ c ⟨op, op.deliver [], [l.request.values]⟩)
    rw [hdeliver]
    exact inv_append h hkey henc rfl
  | full _ msg =>
    have hround : (Loop.put l).round (.put (.error (.grpc ⟨.resourceExhausted, msg⟩))) now =
        (l.round ⟨.error (.grpc ⟨.resourceExhausted, msg⟩), now⟩).2.map fun
          | .inl l' => .inl (.put l')
          | .inr () => .inr [] := rfl
    rw [hround]
    rcases l.round_full msg now with ⟨delay, hgo⟩ | ⟨e, hfail⟩
    · rw [hgo]
      exact inv_goOn h ⟨hput, hkey, henc⟩ rfl
    · rw [hfail]
      exact inv_fail h

/-- A get that removed nothing. -/
theorem inv_get_empty (h : Inv s) {op : Operation} {l : GetLoop} (hloop : LoopFor op (.get l))
    (now : Instant) :
    Inv (s.settle c op [] ((Loop.get l).round (.get (.ok [])) now)) := by
  have hround : (Loop.get l).round (.get (.ok [])) now = (l.round ⟨.ok [], now⟩).2.map fun
      | .inl l' => .inl (.get l')
      | .inr vals => .inr vals := rfl
  rw [hround]
  rcases l.round_empty now with ⟨poll, hgo⟩ | ⟨e, hfail⟩
  · rw [hgo]
    exact inv_goOn h hloop rfl
  · rw [hfail]
    exact inv_fail h

/-- A get that removed the front `raw` of its partition. -/
theorem inv_get_items (h : Inv s) {op : Operation} {l : GetLoop} (hloop : LoopFor op (.get l))
    (now : Instant) {raw : List (List UInt8)} (hnil : raw ≠ [])
    (hraw : raw = (s.server l.partitionKey).take l.nValues.toInt.toNat) :
    Inv ((s.withServer (Function.update s.server l.partitionKey
      ((s.server l.partitionKey).drop l.nValues.toInt.toNat))).settle c op []
        ((Loop.get l).round (.get (.ok raw)) now)) := by
  obtain ⟨hget, hkey, hone⟩ := hloop
  obtain ⟨remaining, hrem, -⟩ := h.fifo l.partitionKey
  have hfront : Encodes (remaining.take l.nValues.toInt.toNat) raw := by
    rw [hraw]
    exact List.forall₂_take _ hrem
  have hdec := hfront.decoded
  have hdeliver : op.deliver (remaining.take l.nValues.toInt.toNat) =
      .ok (remaining.take l.nValues.toInt.toNat) := by
    refine deliver_all hget fun hop => ?_
    have hn : l.nValues.toInt.toNat = 1 := by
      rw [hone hop]
      rfl
    have hle : raw.length ≤ 1 := by
      rw [hraw, List.length_take, hn]
      exact Nat.min_le_left _ _
    have hpos := List.length_pos_iff.mpr hnil
    rw [List.Forall₂.length_eq hfront]
    omega
  have hround : (Loop.get l).round (.get (.ok raw)) now = (l.round ⟨.ok raw, now⟩).2.map fun
      | .inl l' => .inl (.get l')
      | .inr vals => .inr vals := rfl
  rw [hround, l.round_items now hnil, hdec]
  show Inv (System.finish _ c ⟨op, op.deliver _, []⟩)
  rw [hdeliver]
  rw [hraw] at hdec
  exact inv_take h hget hkey hdec rfl

/-- A get's next RPC. -/
theorem inv_rpc_get (h : Inv s) {op : Operation} {l : GetLoop} (hloop : LoopFor op (.get l))
    {p : Partitions} {reply : Reply} (now : Instant)
    (hserve : Serves s.server (.get l.request) p reply) :
    Inv ((s.withServer p).settle c op ([] ++ appendedBy (.get l.request) reply)
      ((Loop.get l).round reply now)) := by
  cases hserve with
  | take _ =>
    by_cases hnil : (s.server l.partitionKey).take l.nValues.toInt.toNat = []
    · have hsame : Function.update s.server l.partitionKey
          ((s.server l.partitionKey).drop l.nValues.toInt.toNat) = s.server := by
        have hdrop := List.take_append_drop l.nValues.toInt.toNat (s.server l.partitionKey)
        rw [hnil, List.nil_append] at hdrop
        rw [hdrop, Function.update_eq_self]
      show Inv ((s.withServer (Function.update s.server l.partitionKey
        ((s.server l.partitionKey).drop l.nValues.toInt.toNat))).settle c op []
          ((Loop.get l).round
            (.get (.ok ((s.server l.partitionKey).take l.nValues.toInt.toNat))) now))
      rw [hsame, hnil]
      exact inv_get_empty h hloop now
    · exact inv_get_items h hloop now hnil rfl

end Steps

/-- **The step lemma.** -/
theorem step_inv {queue : Queue} {s s' : System Client} (hstep : Step queue s s') (h : Inv s) :
    Inv s' := by
  cases hstep with
  | starts c op now loop hfree hfit hstart hslices =>
    exact inv_goOn h (loopFor_start hstart hfit hslices) rfl
  | refused c op now e hfree hstart => exact inv_fail h
  | rpc c r p reply now hrun hserve =>
    obtain ⟨op, loop, appended⟩ := r
    obtain ⟨hloop, happ⟩ := h.running c _ hrun
    have happ' : appended = [] := happ
    subst happ'
    cases loop with
    | put l => exact inv_rpc_put h hloop now hserve
    | get l => exact inv_rpc_get h hloop now hserve

/-- **The run lemma.** -/
theorem reachable_inv {queue : Queue} {s : System Client} (h : Reachable queue s) : Inv s := by
  induction h with
  | refl => exact inv_initial
  | tail _ hstep ih => exact step_inv hstep ih

/-- **Every value is delivered once, in order**: whatever the clients do, the values delivered
    from a partition, followed by what the partition still holds, are the values of the
    successful puts; and a put appended its batch once if it succeeded, never if it did not. -/
theorem queue_exactly_once_fifo (queue : Queue) (s : System Client) (h : Reachable queue s) :
    (∀ key, ∃ remaining, (s.server key).mapM pickleDeserialize = .ok remaining ∧
      delivered key s.returned ++ remaining = stored key s.returned) ∧
    ∀ r ∈ s.returned, r.op.isPut = true →
      (∀ vals, r.result = .ok vals →
        ∃ batch, r.op.values.mapM pickleSerialize = .ok batch ∧ r.appended = [batch]) ∧
      (∀ e, r.result = .error e → r.appended = []) := by
  have hinv := reachable_inv h
  refine ⟨fun key => ?_, fun r hr hput => hinv.returned r hr hput⟩
  obtain ⟨remaining, henc, heq⟩ := hinv.fifo key
  exact ⟨remaining, henc.decoded, heq⟩

/-- Two clients put a number each into the default partition: the one that was first is refused for
    now, so that its number is behind the other one. The clients get both back in that order. -/
theorem queue_exactly_once_fifo_two : ∃ s : System Bool, Reachable ⟨"qu-1", "jobs"⟩ s ∧
    stored none s.returned = [.int 6, .int 5] ∧ delivered none s.returned = [.int 6, .int 5] ∧
    (∀ key, ∃ remaining, (s.server key).mapM pickleDeserialize = .ok remaining ∧
      delivered key s.returned ++ remaining = stored key s.returned) ∧
    ∀ r ∈ s.returned, r.op.isPut = true →
      (∀ vals, r.result = .ok vals →
        ∃ batch, r.op.values.mapM pickleSerialize = .ok batch ∧ r.appended = [batch]) ∧
      (∀ e, r.result = .error e → r.appended = []) := by
  have hslice : ∀ (n : UInt8), ∀ b ∈ [[0x80, 2, 75, n, 46]], IsSlice b := by
    intro n b hb
    rw [List.mem_singleton.mp hb]
    show 5 ≤ 2 ^ 63 - 1
    decide
  have hfirst := Relation.ReflTransGen.tail (.refl (a := (System.initial : System Bool)))
    (@Step.starts Bool _ ⟨"qu-1", "jobs"⟩ System.initial false (.put (.int 5) none) 0 _ rfl rfl rfl
      fun l hl => by
        cases hl
        exact hslice 5)
  have hsecond := hfirst.tail (Step.starts _ true (.put (.int 6) none) 0 _ rfl rfl rfl
    fun l hl => by
      cases hl
      exact hslice 6)
  have hfull := hsecond.tail (Step.rpc _ false _ _ _ 0 rfl (.full _ _ "full"))
  have happend₂ := hfull.tail (Step.rpc _ true _ _ _ 0 rfl (.append _ _))
  have happend₁ := happend₂.tail (Step.rpc _ false _ _ _ 0 rfl (.append _ _))
  have hget₁ := happend₁.tail (Step.starts _ false (.get none) 0 _ rfl rfl rfl
    fun l hl => nomatch hl)
  have hget₂ := hget₁.tail (Step.starts _ true (.get none) 0 _ rfl rfl rfl
    fun l hl => nomatch hl)
  have htake₂ := hget₂.tail (Step.rpc _ true _ _ _ 0 rfl (.take _ _))
  have htake₁ := htake₂.tail (Step.rpc _ false _ _ _ 0 rfl (.take _ _))
  exact ⟨_, htake₁, rfl, rfl, queue_exactly_once_fifo _ _ htake₁⟩

end ModalRs.Fifo
