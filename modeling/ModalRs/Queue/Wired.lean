/-
  File:      ModalRs/Queue/Wired.lean
  Subject:   Queues over the retrying transport: which items are doubled, which ones go missing.

  The loops of `Queue/Basic.lean` make RPCs; below them each is a retried call. A put
  whose reply is lost is applied again, and a get whose reply is lost has removed
  items that nobody sees. Any number of calls run at the same time.

  * `Loop.program`, `QueueCall.program`: the calls as programs; run alone a put is
    `put_internal`, a get `get_internal` (`alone_put`, `alone_get`).
  * `QueueMessage`, `queueMethod`, `queueServer`: the messages, and a server of queues.
  * `server_fifo`: what was put is what was taken, followed by what is left.
  * `follows_put`, `follows_get`: what a call has been answered.
  * `queue_conserved`: every item is accounted for, in any interleaving and whatever is lost.
-/
import ModalRs.Queue.Fifo
import ModalRs.Transport.Backend

namespace ModalRs.Fifo

open ModalRs.Lib ModalRs.Pickle ModalRs.Rust

/-! ## 1. The calls -/

abbrev Rpc.Value : Rpc → Type
  | .put _ => Unit
  | .get _ => List (List UInt8)

/-- What is left of a call. -/
abbrev QueueProgram (α : Type) : Type := Resumption Rpc (fun a => Except ModalError a.Value) α

def Rpc.toReply : (a : Rpc) → Except ModalError a.Value → Reply
  | .put _, reply => .put reply
  | .get _, reply => .get reply

/-- The loop of a call for so many rounds; `clock` is what the clock says in each of them. A sleep is
    no action: others move meanwhile anyway. -/
def Loop.program : (rounds : Nat) → (clock : Nat → Instant) → Loop →
    QueueProgram (Res ModalError (List PickleValue))
  | 0, _, _ => .done (.error .diverged)
  | rounds + 1, clock, loop =>
      .act loop.rpc fun reply =>
        match loop.round (loop.rpc.toReply reply) (clock 0) with
        | .error e => .done (.error e)
        | .ok (.inr vals) => .done (.ok vals)
        | .ok (.inl loop') => loop'.program rounds fun n => clock (n + 1)

/-- How a call goes on from what a round of its loop comes to. -/
def Loop.after (rounds : Nat) (clock : Nat → Instant) :
    Res ModalError (Loop ⊕ List PickleValue) → QueueProgram (Res ModalError (List PickleValue))
  | .error e => .done (.error e)
  | .ok (.inr vals) => .done (.ok vals)
  | .ok (.inl loop) => loop.program rounds fun n => clock (n + 1)

theorem Loop.program_succ (rounds : Nat) (clock : Nat → Instant) (loop : Loop) :
    loop.program (rounds + 1) clock = .act loop.rpc fun reply =>
      Loop.after rounds clock (loop.round (loop.rpc.toReply reply) (clock 0)) := by
  rw [Loop.program]
  refine congrArg (Resumption.act loop.rpc) (funext fun reply => ?_)
  rcases loop.round (loop.rpc.toReply reply) (clock 0) with e | loop' | vals
  · rfl
  · rfl
  · rfl

/-- A round of `put_internal` as one of a call's loop. -/
def Loop.ofPut : PutLoop ⊕ Unit → Loop ⊕ List PickleValue
  | .inl l => .inl (.put l)
  | .inr () => .inr []

/-- A round of `get_internal` as one of a call's loop. -/
def Loop.ofGet : GetLoop ⊕ List PickleValue → Loop ⊕ List PickleValue
  | .inl l => .inl (.get l)
  | .inr vals => .inr vals

/-- A call on a queue, what the clock says at each of its readings, and the number of rounds that
    it is followed for. -/
structure QueueCall where
  queue : Queue
  op : Operation
  clock : Nat → Instant
  rounds : Nat

def QueueCall.program (k : QueueCall) : QueueProgram (Res ModalError (List PickleValue)) :=
  match k.op.start k.queue (k.clock 0) with
  | .error e => .done (.error e)
  | .ok loop =>
      loop.program k.rounds (fun n => k.clock (n + 1)) >>= fun out =>
        pure (out >>= fun vals => k.op.deliver vals)

section Alone

/-- A server that answers puts from a script. -/
def putScript : List PutAnswer → (a : Rpc) → Except ModalError a.Value × List PutAnswer
  | answer :: answers, .put _ => (answer.reply, answers)
  | [], .put _ => (.error (.other ""), [])
  | answers, .get _ => (.ok [], answers)

/-- A server that answers gets from a script. -/
def getScript : List GetAnswer → (a : Rpc) → Except ModalError a.Value × List GetAnswer
  | answer :: answers, .get _ => (answer.reply, answers)
  | [], .get _ => (.error (.other ""), [])
  | answers, .put _ => (.ok (), answers)

/-- **A put alone** is the loop of `put_internal`. -/
theorem alone_put : ∀ (answers : List PutAnswer) (l : PutLoop),
    ((Loop.program answers.length (fun n => (answers[n]?.map PutAnswer.now).getD 0)
        (.put l)).interpret putScript answers).1 =
      (runScript .diverged PutLoop.round l answers).2.map fun _ => []
  | [], _ => rfl
  | answer :: answers, l => by
      rw [List.length_cons, Loop.program_succ, Resumption.interpret]
      show (Resumption.interpret putScript
        (Loop.after _ _ ((l.round answer).2.map Loop.ofPut)) answers).1 = _
      rcases hround : l.round answer with ⟨es, e | l' | _⟩
      · rw [runScript_error hround]
        rfl
      · rw [runScript_goes hround]
        exact alone_put answers l'
      · rw [runScript_value hround]
        rfl

/-- **A get alone** is the loop of `get_internal`. -/
theorem alone_get : ∀ (answers : List GetAnswer) (l : GetLoop),
    ((Loop.program answers.length (fun n => (answers[n]?.map GetAnswer.now).getD 0)
        (.get l)).interpret getScript answers).1 =
      (runScript .diverged GetLoop.round l answers).2
  | [], _ => rfl
  | answer :: answers, l => by
      rw [List.length_cons, Loop.program_succ, Resumption.interpret]
      show (Resumption.interpret getScript
        (Loop.after _ _ ((l.round answer).2.map Loop.ofGet)) answers).1 = _
      rcases hround : l.round answer with ⟨es, e | l' | vals⟩
      · rw [runScript_error hround]
        rfl
      · rw [runScript_goes hround]
        exact alone_get answers l'
      · rw [runScript_value hround]
        rfl

end Alone

/-! ## 2. The messages and the server -/

/-- The requests. -/
inductive QueueMessage where
  | queuePut (queueId : String) (values : List (List UInt8)) (partitionKey : List UInt8)
      (partitionTtlSeconds : Int32)
  | queueGet (queueId : String) (timeout : Duration) (nValues : Int32) (partitionKey : List UInt8)
  deriving DecidableEq

/-- What is read of their responses. -/
abbrev QueueMessage.Response : QueueMessage → Type
  | .queuePut .. => Unit
  | .queueGet .. => List (List UInt8)

/-- The methods of the transport for put and get; the default partition has the empty key. -/
def queueMethod : (a : Rpc) → RpcMethod QueueMessage.Response a.Value
  | .put r => ⟨.queuePut r.queueId r.values (r.partitionKey.getD []) r.partitionTtlSeconds, id⟩
  | .get r => ⟨.queueGet r.queueId r.timeout r.nValues (r.partitionKey.getD []), id⟩

/-- A partition of a queue, as the server knows it: the queue's id and the key. -/
abbrev Place : Type := String × List UInt8

/-- What every partition holds, with its front first. -/
abbrev Contents : Type := Place → List (List UInt8)

def QueueMessage.place : QueueMessage → Place
  | .queuePut queueId _ partitionKey _ => (queueId, partitionKey)
  | .queueGet queueId _ _ partitionKey => (queueId, partitionKey)

/-- The server that is assumed: its partitions are first-in first-out. A put appends its values; a
    get removes and returns the first `min(n, len)` items. -/
def queueServer : Machine Contents QueueMessage QueueMessage.Response where
  reply p
    | .queuePut .. => ()
    | .queueGet queueId _ n key => (p (queueId, key)).take n.toInt.toNat
  next p
    | .queuePut queueId values key _ =>
        Function.update p (queueId, key) (p (queueId, key) ++ values)
    | .queueGet queueId _ n key =>
        Function.update p (queueId, key) ((p (queueId, key)).drop n.toInt.toNat)

/-- A request with its answer. -/
abbrev QueueAnswer : Type := Answered QueueMessage QueueMessage.Response

/-- The items that a put puts. -/
def putItems : QueueAnswer → List (List UInt8)
  | ⟨.queuePut _ values _ _, _⟩ => values
  | ⟨.queueGet .., _⟩ => []

/-- The items that a get takes. -/
def takenItems : QueueAnswer → List (List UInt8)
  | ⟨.queuePut .., _⟩ => []
  | ⟨.queueGet .., items⟩ => items

/-- What `items` reads off the answers at a place. -/
def itemsAt (place : Place) (items : QueueAnswer → List (List UInt8)) (e : QueueAnswer) :
    List (List UInt8) :=
  if e.action.place = place then items e else []

/-- **The server is first-in first-out**: what was there and what was put at a place is what was
    taken there, followed by what is left. -/
theorem server_fifo (place : Place) (p : Contents) (journal : List (QueueMessage × Bool)) :
    p place ++ (queueServer.answers p journal).flatMap (itemsAt place putItems) =
      (queueServer.answers p journal).flatMap (itemsAt place takenItems) ++
        queueServer.run p (journal.map Prod.fst) place := by
  induction journal using List.reverseRecOn with
  | nil => exact List.append_nil _
  | append_singleton journal e ih =>
    obtain ⟨request, mark⟩ := e
    rw [Machine.answers_snoc, List.map_append, List.map_singleton, Machine.run_snoc,
      List.flatMap_append, List.flatMap_append, ← List.append_assoc, ih]
    generalize queueServer.run p (journal.map Prod.fst) = q
    simp only [List.flatMap_singleton, List.append_assoc]
    congr 1
    by_cases hplace : request.place = place
    · cases hplace
      cases request with
      | queuePut queueId values key ttl =>
        simp only [itemsAt, queueServer, QueueMessage.place, putItems, takenItems, if_pos,
          Function.update_self, List.nil_append]
      | queueGet queueId timeout n key =>
        simp only [itemsAt, queueServer, QueueMessage.place, putItems, takenItems, if_pos,
          Function.update_self, List.append_nil, List.take_append_drop]
    · have hsame : queueServer.next q request place = q place := by
        cases request with
        | queuePut queueId values key ttl => exact Function.update_of_ne (Ne.symm hplace) _ _
        | queueGet queueId timeout n key => exact Function.update_of_ne (Ne.symm hplace) _ _
      simp only [itemsAt, if_neg hplace, List.append_nil, List.nil_append, hsame]

/-- A get takes no more than it asks for. -/
theorem takenItems_length {p : Contents} {journal : List (QueueMessage × Bool)}
    {queueId : String} {timeout : Duration} {n : Int32} {key : List UInt8}
    {items : List (List UInt8)}
    (h : ⟨.queueGet queueId timeout n key, items⟩ ∈ queueServer.seen p journal) :
    items.length ≤ n.toInt.toNat := by
  obtain ⟨p', hreply⟩ := Machine.seen_reply _ h
  have hreply : items = (p' (queueId, key)).take n.toInt.toNat := hreply
  rw [hreply, List.length_take]
  exact Nat.min_le_left _ _

/-! ## 3. What a call has been answered -/

/-- What the transport was answered for an RPC that came back with `val`. -/
def told : (a : Rpc) → a.Value → QueueAnswer
  | .put r, val => ⟨(queueMethod (.put r)).request, val⟩
  | .get r, val => ⟨(queueMethod (.get r)).request, val⟩

/-- The RPCs of a call, in order, with their values or errors. -/
abbrev QueuePath : Type := List (Answered Rpc fun a => Except ModalError a.Value)

/-- What the transport was answered for the RPCs that returned `Ok`. -/
def answersOf (as : QueuePath) : List QueueAnswer := as.filterMap (okValue told)

section Paths

variable {rounds : Nat} {clock : Nat → Instant} {as : QueuePath}
  {q : QueueProgram (Res ModalError (List PickleValue))}

/-- How the loop of a call goes on from a round. -/
def GoesOn (rounds : Nat) (clock : Nat → Instant) (as : QueuePath)
    (q : QueueProgram (Res ModalError (List PickleValue))) :
    Res ModalError (Loop ⊕ List PickleValue) → Prop
  | .error e => as = [] ∧ q = .done (.error e)
  | .ok (.inr vals) => as = [] ∧ q = .done (.ok vals)
  | .ok (.inl loop) => Resumption.Follows (Loop.program rounds (fun n => clock (n + 1)) loop) as q

theorem goesOn_of_after {r : Res ModalError (Loop ⊕ List PickleValue)}
    (h : Resumption.Follows (Loop.after rounds clock r) as q) : GoesOn rounds clock as q r := by
  rcases r with e | loop | vals
  · exact h.of_done
  · exact h
  · exact h.of_done

/-- **A path of a loop**: it has done nothing yet, or a round and what follows from it. -/
theorem follows_loop {loop : Loop} (h : Resumption.Follows (Loop.program rounds clock loop) as q) :
    (as = [] ∧ ∀ vals, q ≠ .done (.ok vals)) ∨
    ∃ rounds' reply es, rounds = rounds' + 1 ∧ as = ⟨loop.rpc, reply⟩ :: es ∧
      GoesOn rounds' clock es q (loop.round (loop.rpc.toReply reply) (clock 0)) := by
  cases rounds with
  | zero =>
    obtain ⟨rfl, rfl⟩ := h.of_done
    exact Or.inl ⟨rfl, nofun⟩
  | succ rounds =>
    rw [Loop.program_succ] at h
    cases h with
    | refl => exact Or.inl ⟨rfl, nofun⟩
    | @act _ _ reply es _ h => exact Or.inr ⟨rounds, reply, es, rfl, rfl, goesOn_of_after h⟩

/-- **A put** has been answered nothing, or its request once; then it has returned. -/
theorem follows_put {l : PutLoop} (h : Resumption.Follows (Loop.program rounds clock (.put l)) as q) :
    (answersOf as = [] ∧ ∀ vals, q ≠ .done (.ok vals)) ∨
    (answersOf as = [told (.put l.request) ()] ∧ q = .done (.ok [])) := by
  induction rounds generalizing clock l as with
  | zero =>
    rcases follows_loop h with ⟨rfl, hq⟩ | ⟨_, _, _, hrounds, -⟩
    · exact Or.inl ⟨rfl, hq⟩
    · cases hrounds
  | succ rounds ih =>
    rcases follows_loop h with ⟨rfl, hq⟩ | ⟨_, reply, es, hrounds, rfl, hgoes⟩
    · exact Or.inl ⟨rfl, hq⟩
    · cases hrounds
      have hround : (Loop.put l).round (Rpc.toReply (.put l.request) reply) (clock 0) =
          (l.round ⟨reply, clock 0⟩).2.map Loop.ofPut := rfl
      change GoesOn rounds clock es q
        ((Loop.put l).round (Rpc.toReply (.put l.request) reply) (clock 0)) at hgoes
      rw [hround] at hgoes
      rcases l.round_cases ⟨reply, clock 0⟩ with ⟨hreply, hout⟩ | ⟨e, hreply, -, hout⟩ |
        ⟨status, hreply, -, ⟨-, hout⟩ | ⟨delay, -, hout⟩⟩
      · cases hreply
        rw [hout] at hgoes
        obtain ⟨rfl, rfl⟩ := hgoes
        exact Or.inr ⟨rfl, rfl⟩
      · cases hreply
        rw [hout] at hgoes
        obtain ⟨rfl, rfl⟩ := hgoes
        exact Or.inl ⟨rfl, nofun⟩
      · cases hreply
        rw [hout] at hgoes
        obtain ⟨rfl, rfl⟩ := hgoes
        exact Or.inl ⟨rfl, nofun⟩
      · cases hreply
        rw [hout] at hgoes
        have hrest : Resumption.Follows (Loop.program rounds (fun n => clock (n + 1))
          (.put { l with delay := delay })) es q := hgoes
        have hstands := ih hrest
        exact hstands

/-- A get has been answered about its own partition, with as many items as it has asked for at
    most. -/
def GetAnswerOf (l : GetLoop) (e : QueueAnswer) : Prop :=
  ∃ timeout items, e = ⟨.queueGet l.queueId timeout l.nValues (l.partitionKey.getD []), items⟩

/-- What the answers to a get have come to: nothing but empty lists, and it has not returned a value;
    or last of all the items that it decodes, and it has returned. -/
def GetStands (answers : List QueueAnswer) (q : QueueProgram (Res ModalError (List PickleValue))) :
    Prop :=
  ((∀ e ∈ answers, takenItems e = []) ∧ ∀ vals, q ≠ .done (.ok vals)) ∨
  ∃ past last, answers = past ++ [last] ∧ (∀ e ∈ past, takenItems e = []) ∧
    takenItems last ≠ [] ∧ q = .done ((takenItems last).mapM pickleDeserialize)

/-- Before it was answered with an empty list. -/
theorem GetStands.behind {answers : List QueueAnswer} {e : QueueAnswer} (he : takenItems e = [])
    (h : GetStands answers q) : GetStands (e :: answers) q := by
  rcases h with ⟨hempty, hq⟩ | ⟨past, last, rfl, hpast, hlast, hq⟩
  · exact Or.inl ⟨List.forall_mem_cons.mpr ⟨he, hempty⟩, hq⟩
  · exact Or.inr ⟨e :: past, last, rfl, List.forall_mem_cons.mpr ⟨he, hpast⟩, hlast, hq⟩

theorem follows_get {l : GetLoop} (h : Resumption.Follows (Loop.program rounds clock (.get l)) as q) :
    (∀ e ∈ answersOf as, GetAnswerOf l e) ∧ GetStands (answersOf as) q := by
  induction rounds generalizing clock l as with
  | zero =>
    rcases follows_loop h with ⟨rfl, hq⟩ | ⟨_, _, _, hrounds, -⟩
    · exact ⟨nofun, Or.inl ⟨nofun, hq⟩⟩
    · cases hrounds
  | succ rounds ih =>
    rcases follows_loop h with ⟨rfl, hq⟩ | ⟨_, reply, es, hrounds, rfl, hgoes⟩
    · exact ⟨nofun, Or.inl ⟨nofun, hq⟩⟩
    · cases hrounds
      have hround : (Loop.get l).round (Rpc.toReply (.get l.request) reply) (clock 0) =
          (l.round ⟨reply, clock 0⟩).2.map Loop.ofGet := rfl
      change GoesOn rounds clock es q
        ((Loop.get l).round (Rpc.toReply (.get l.request) reply) (clock 0)) at hgoes
      rw [hround] at hgoes
      have hown : GetAnswerOf l (told (.get l.request) []) := ⟨l.pollTimeout, [], rfl⟩
      rcases l.round_cases ⟨reply, clock 0⟩ with ⟨e, hreply, hout⟩ | ⟨raw, hreply, hraw, hout⟩ |
        ⟨timeout, hreply, -, -, hout⟩ | ⟨timeout, hreply, -, -, hout⟩ | ⟨hreply, -, hout⟩
      · cases hreply
        rw [hout] at hgoes
        obtain ⟨rfl, rfl⟩ := hgoes
        exact ⟨nofun, Or.inl ⟨nofun, nofun⟩⟩
      · cases hreply
        rw [hout] at hgoes
        have hdone : es = [] ∧ q = .done (raw.mapM pickleDeserialize) := by
          cases hdecoded : raw.mapM pickleDeserialize with
          | error e =>
            rw [hdecoded] at hgoes
            exact hgoes
          | ok vals =>
            rw [hdecoded] at hgoes
            exact hgoes
        obtain ⟨rfl, rfl⟩ := hdone
        refine ⟨List.forall_mem_singleton.mpr ⟨l.pollTimeout, raw, rfl⟩, Or.inr ?_⟩
        exact ⟨[], told (.get l.request) raw, rfl, nofun, hraw, rfl⟩
      · cases hreply
        rw [hout] at hgoes
        obtain ⟨rfl, rfl⟩ := hgoes
        exact ⟨List.forall_mem_singleton.mpr hown,
          Or.inl ⟨List.forall_mem_singleton.mpr rfl, nofun⟩⟩
      · cases hreply
        rw [hout] at hgoes
        obtain ⟨hrest, hstands⟩ := ih hgoes
        exact ⟨List.forall_mem_cons.mpr ⟨hown, hrest⟩, hstands.behind (e := told _ _) rfl⟩
      · cases hreply
        rw [hout] at hgoes
        obtain ⟨hrest, hstands⟩ := ih hgoes
        exact ⟨List.forall_mem_cons.mpr ⟨hown, hrest⟩, hstands.behind (e := told _ _) rfl⟩

end Paths

/-- An empty list, and nothing else: no put was accepted, and no item has come. -/
def Nothing (seen : List QueueAnswer) : Prop :=
  ∀ e ∈ seen, ∃ queueId timeout n key, e = ⟨.queueGet queueId timeout n key, []⟩

/-- How a call stands to what it has been answered, if it has returned, with what. -/
inductive CallStands (k : QueueCall) (seen : List QueueAnswer) :
    Option (Res ModalError (List PickleValue)) → Prop where
  /-- A put whose values were accepted once. -/
  | stored {key : PartitionKey} {batch : List (List UInt8)} {ttl : Int32}
      (hput : k.op.isPut = true) (hkey : k.op.On key)
      (hbatch : k.op.values.mapM pickleSerialize = .ok batch)
      (hseen : seen = [⟨.queuePut k.queue.queueId batch (key.getD []) ttl, ()⟩]) :
      CallStands k seen (some (.ok []))
  /-- A get that hands over what it was sent, as far as that decodes. -/
  | taken {key : PartitionKey} {past : List QueueAnswer} {last : QueueAnswer}
      (hget : k.op.isPut = false) (hkey : k.op.On key)
      (hplace : last.action.place = (k.queue.queueId, key.getD []))
      (hseen : seen = past ++ [last]) (hpast : Nothing past) (hlast : takenItems last ≠ []) :
      CallStands k seen (some ((takenItems last).mapM pickleDeserialize))
  | failed {e : Stop ModalError} (hnothing : Nothing seen) : CallStands k seen (some (.error e))
  | running (hnothing : Nothing seen) : CallStands k seen none

/-- What a program has come to, if it is done. -/
def outcomeOf : QueueProgram (Res ModalError (List PickleValue)) →
    Option (Res ModalError (List PickleValue))
  | .done out => some out
  | .act _ _ => none

section Calls

variable {k : QueueCall} {as : QueuePath} {q : QueueProgram (Res ModalError (List PickleValue))}

theorem nothing_of_gets {l : GetLoop} {seen : List QueueAnswer}
    (hown : ∀ e ∈ seen, GetAnswerOf l e) (hempty : ∀ e ∈ seen, takenItems e = []) :
    Nothing seen := by
  intro e he
  obtain ⟨timeout, items, rfl⟩ := hown e he
  have hitems : items = [] := hempty _ he
  exact ⟨_, _, _, _, by rw [hitems]⟩

/-- What the loop of a call sends is made of the call. -/
def MadeOf (queue : Queue) (op : Operation) : Loop → Prop
  | .put l => op.isPut = true ∧ l.request.queueId = queue.queueId ∧
      op.On l.request.partitionKey ∧ op.values.mapM pickleSerialize = .ok l.request.values
  | .get l => op.isPut = false ∧ l.queueId = queue.queueId ∧ op.On l.partitionKey ∧
      ((∃ params, op = .get params) → l.nValues = 1)

theorem putBegin_queueId {queue : Queue} {values : List PickleValue} {params : Option QueuePutParams}
    {now : Instant} {l : PutLoop} (h : queue.putBegin values params now = .ok l) :
    l.request.queueId = queue.queueId := by
  obtain ⟨key, -, h⟩ := except_bind_ok h
  obtain ⟨batch, -, h⟩ := except_bind_ok h
  obtain ⟨deadline, -, h⟩ := except_bind_ok h
  cases h
  rfl

theorem getBegin_queueId {queue : Queue} {n : Int32} {params : Option QueueGetParams}
    {now : Instant} {l : GetLoop} (h : queue.getBegin n params now = .ok l) :
    l.queueId = queue.queueId := by
  obtain ⟨key, -, h⟩ := except_bind_ok h
  cases h
  rfl

theorem madeOf_start {queue : Queue} {now : Instant} {op : Operation} {loop : Loop}
    (h : op.start queue now = .ok loop) : MadeOf queue op loop := by
  cases op with
  | put value params =>
    obtain ⟨l, hl, rfl⟩ := except_map_ok h
    obtain ⟨hkey, hbatch⟩ := Queue.putBegin_ok hl
    exact ⟨rfl, putBegin_queueId hl, hkey, hbatch⟩
  | putMany values params =>
    obtain ⟨l, hl, rfl⟩ := except_map_ok h
    obtain ⟨hkey, hbatch⟩ := Queue.putBegin_ok hl
    refine ⟨rfl, putBegin_queueId hl, ?_, hbatch⟩
    cases params <;> exact hkey
  | get params =>
    obtain ⟨l, hl, rfl⟩ := except_map_ok h
    obtain ⟨hkey, hn⟩ := Queue.getBegin_ok hl
    exact ⟨rfl, getBegin_queueId hl, hkey, fun _ => hn⟩
  | getMany n params =>
    obtain ⟨l, hl, rfl⟩ := except_map_ok h
    obtain ⟨hkey, hn⟩ := Queue.getBegin_ok hl
    refine ⟨rfl, getBegin_queueId hl, ?_, fun ⟨_, hop⟩ => nomatch hop⟩
    cases params <;> exact hkey

/-- A get hands over all that it decodes: a single `get` was sent one item. -/
theorem deliver_taken {op : Operation} (hget : op.isPut = false) {raw : List (List UInt8)}
    (hne : raw ≠ []) (hone : (∃ params, op = .get params) → raw.length ≤ 1) :
    (raw.mapM pickleDeserialize >>= fun vals => op.deliver vals) =
      raw.mapM pickleDeserialize := by
  cases op with
  | put value params => cases hget
  | putMany values params => cases hget
  | get params =>
    match raw, hne, hone ⟨params, rfl⟩ with
    | [item], _, _ =>
      rw [List.mapM_cons, List.mapM_nil]
      cases pickleDeserialize item with
      | error e => rfl
      | ok v => rfl
  | getMany n params =>
    cases raw.mapM pickleDeserialize with
    | error e => rfl
    | ok vals => rfl

/-- **How a call stands** to what it has been answered, if no get is sent more than it asked for. -/
theorem follows_call (h : Resumption.Follows k.program as q)
    (hlength : ∀ queueId timeout n key items,
      ⟨.queueGet queueId timeout n key, items⟩ ∈ answersOf as → items.length ≤ n.toInt.toNat) :
    CallStands k (answersOf as) (outcomeOf q) := by
  rw [QueueCall.program] at h
  rcases hstart : k.op.start k.queue (k.clock 0) with e | loop
  · simp only [hstart] at h
    obtain ⟨rfl, rfl⟩ := Resumption.Follows.of_done h
    exact .failed nofun
  · simp only [hstart] at h
    have hloop : ∃ p, Resumption.Follows
        (loop.program k.rounds fun n => k.clock (n + 1)) as p ∧
        outcomeOf q = (outcomeOf p).map (· >>= fun vals => k.op.deliver vals) := by
      rcases Resumption.follows_bind h with ⟨p, hp, hne, rfl⟩ | ⟨es, _, out, rfl, hp, hdone⟩
      · cases p with
        | done out => exact absurd rfl (hne out)
        | act a next => exact ⟨_, hp, rfl⟩
      · obtain ⟨rfl, rfl⟩ := Resumption.Follows.of_done hdone
        rw [List.append_nil]
        exact ⟨_, hp, rfl⟩
    obtain ⟨p, hp, hout⟩ := hloop
    rw [hout]
    have hmade := madeOf_start hstart
    -- nothing has come, and no value was returned
    have hnone : Nothing (answersOf as) → (∀ vals, p ≠ .done (.ok vals)) →
        CallStands k (answersOf as)
          ((outcomeOf p).map (· >>= fun vals => k.op.deliver vals)) := by
      intro hnothing hne
      rcases p with (e | vals) | ⟨a, next⟩
      · exact .failed hnothing
      · exact absurd rfl (hne vals)
      · exact .running hnothing
    cases loop with
    | put l =>
      obtain ⟨hput, hqueue, hkey, hbatch⟩ := hmade
      rcases follows_put hp with ⟨hnil, hne⟩ | ⟨hone, rfl⟩
      · exact hnone (by rw [hnil]; exact nofun) hne
      · have hdeliver : k.op.deliver [] = .ok [] := by
          cases hop : k.op with
          | put value params => rfl
          | putMany values params => rfl
          | get params => rw [hop] at hput; cases hput
          | getMany n params => rfl
        have hresult : (outcomeOf (.done (.ok []))).map
            (· >>= fun vals => k.op.deliver vals) = some (.ok []) := congrArg some hdeliver
        rw [hresult]
        exact .stored hput hkey hbatch (by rw [hone, ← hqueue]; rfl)
    | get l =>
      obtain ⟨hget, hqueue, hkey, hn⟩ := hmade
      obtain ⟨hown, ⟨hempty, hne⟩ | ⟨past, last, hseen, hpast, hlast, rfl⟩⟩ := follows_get hp
      · exact hnone (nothing_of_gets hown hempty) hne
      · have hmem : last ∈ answersOf as := by
          rw [hseen]
          exact List.mem_append_right _ (List.mem_singleton.mpr rfl)
        have hone : (∃ params, k.op = .get params) → (takenItems last).length ≤ 1 := by
          intro hop
          obtain ⟨timeout, items, rfl⟩ := hown last hmem
          have hle := hlength _ _ _ _ _ hmem
          rw [hn hop] at hle
          exact hle
        have hplace : last.action.place = (k.queue.queueId, l.partitionKey.getD []) := by
          obtain ⟨timeout, items, rfl⟩ := hown last hmem
          exact congrArg (·, l.partitionKey.getD []) hqueue
        have hresult : (outcomeOf (.done ((takenItems last).mapM pickleDeserialize))).map
            (· >>= fun vals => k.op.deliver vals) =
              some ((takenItems last).mapM pickleDeserialize) :=
          congrArg some (deliver_taken hget hlast hone)
        rw [hresult]
        refine .taken hget hkey hplace hseen (nothing_of_gets (fun e he => hown e ?_) hpast) hlast
        rw [hseen]
        exact List.mem_append_left _ he

end Calls

/-! ## 4. Every item is accounted for -/

/-- What is left of a call over the transport. -/
abbrev QueueThread : Type :=
  RetryProgram QueueMessage.Response (Except (Stop Empty) (Res ModalError (List PickleValue)))

abbrev QueueMove : Type :=
  Move QueueCall (RetryAction QueueMessage) (RetryAction.Reply QueueMessage.Response)

/-- The calls, the server and what has happened. -/
abbrev QueuePool : Type :=
  Pool (Backend Contents QueueMessage) QueueCall (RetryAction QueueMessage)
    (RetryAction.Reply QueueMessage.Response)
    (Except (Stop Empty) (Res ModalError (List PickleValue)))

/-- The calls after some moves, on a server that held `p`. -/
def queueSession (interceptor : ModalInterceptor) (p : Contents)
    (fate : Nat → QueueMessage → Fate Unit) (moves : List QueueMove) : QueuePool :=
  backendSession interceptor queueMethod QueueCall.program queueServer p fate moves

/-- What a call has returned. -/
def returnedBy : QueueThread → Option (Res ModalError (List PickleValue))
  | .done (.ok out) => some out
  | _ => none

namespace QueuePool

variable (p : Contents) (g : QueuePool)

/-- What the calls were answered. -/
def told : List QueueAnswer := g.history.filterMap repliedHappening

/-- What the server has answered, whether it arrived or not. -/
def answered : List QueueAnswer := queueServer.answers p g.shared.journal

/-- What the server has answered that did not arrive. -/
def lost : List QueueAnswer := queueServer.unseen p g.shared.journal

end QueuePool

/-- How the items at a place are accounted for. -/
structure Conserved (p : Contents) (g : QueuePool) (place : Place) : Prop where
  /-- What was there and what was put is what was taken, followed by what is left. -/
  fifo : p place ++ (g.answered p).flatMap (itemsAt place putItems) =
    (g.answered p).flatMap (itemsAt place takenItems) ++ g.shared.state place
  /-- Items that a put was told to be stored are stored, in this order; -/
  stored : (g.told.flatMap (itemsAt place putItems)).Sublist
    ((g.answered p).flatMap (itemsAt place putItems))
  /-- others are, exactly if the reply to a put of items was lost. -/
  doubled : (g.answered p).flatMap (itemsAt place putItems) =
      g.told.flatMap (itemsAt place putItems) ↔ (g.lost p).flatMap (itemsAt place putItems) = []
  /-- Items that have come to a get were taken, in this order; -/
  taken : (g.told.flatMap (itemsAt place takenItems)).Sublist
    ((g.answered p).flatMap (itemsAt place takenItems))
  /-- others were, exactly if a reply with items was lost. -/
  missing : (g.answered p).flatMap (itemsAt place takenItems) =
      g.told.flatMap (itemsAt place takenItems) ↔ (g.lost p).flatMap (itemsAt place takenItems) = []
  /-- If no reply was lost, the items that were stored come once each, in order, or are left. -/
  lossless : g.lost p = [] → p place ++ g.told.flatMap (itemsAt place putItems) =
    g.told.flatMap (itemsAt place takenItems) ++ g.shared.state place

/-- **Every item is accounted for**, over a server of first-in first-out queues: any puts and gets on
    any queues at the same time, in any interleaving of their attempts and whatever is lost. And each
    call stands to what it has been answered as it should: a put that returns `Ok` was accepted once,
    and one that does not, never; a get returns all items that have come to it, as far as they
    decode. -/
theorem queue_conserved (interceptor : ModalInterceptor) (p : Contents)
    (fate : Nat → QueueMessage → Fate Unit) (moves : List QueueMove) :
    let g := queueSession interceptor p fate moves
    (∀ place, Conserved p g place) ∧
    ∀ i k q, g.threads i = some (k, q) → CallStands k (repliedTo i g.history) (returnedBy q) := by
  intro g
  have hkept : Kept queueServer p g.shared g.history := kept_ok moves
  have htold : g.told = queueServer.seen p g.shared.journal := hkept.seen
  refine ⟨fun place => ?_, fun i k q h => ?_⟩
  · have hfifo := server_fifo place p g.shared.journal
    rw [← hkept.state] at hfifo
    refine ⟨hfifo, ?_, ?_, ?_, ?_, fun hlost => ?_⟩
    · rw [htold]
      exact Machine.seen_sublist _
    · rw [htold]
      exact Machine.seen_all_iff _
    · rw [htold]
      exact Machine.seen_sublist _
    · rw [htold]
      exact Machine.seen_all_iff _
    · have hall : ∀ items : QueueAnswer → List (List UInt8),
          (queueServer.answers p g.shared.journal).flatMap items = g.told.flatMap items := by
        intro items
        rw [htold]
        refine (Machine.seen_all_iff items).mpr ?_
        have hlost : queueServer.unseen p g.shared.journal = [] := hlost
        rw [hlost]
        rfl
      rw [hall, hall] at hfifo
      exact hfifo
  · obtain ⟨as, p', hfollows, hreplied, hends⟩ := backend_seen moves i k q h
    have hown : repliedTo i g.history = answersOf as := by
      have hmap := hreplied QueueAnswer id Fifo.told fun a resp => by cases a <;> rfl
      rw [List.map_id] at hmap
      exact hmap
    rw [hown]
    have hstands := follows_call hfollows fun queueId timeout n key items hmem => by
      rw [← hown] at hmem
      exact takenItems_length (repliedTo_seen moves i _ hmem)
    rcases hends with ⟨val, rfl, rfl⟩ | ⟨hq, hp'⟩
    · exact hstands
    · have hnone : returnedBy q = outcomeOf p' := by
        cases q with
        | done out => exact absurd rfl (hq out)
        | act a next =>
          cases p' with
          | done val => exact absurd rfl (hp' val)
          | act a' next' => rfl
      rw [hnone]
      exact hstands

/-- A put of a number and then a get of one. The reply to the first attempt of either is lost. -/
def lossyMoves : List QueueMove :=
  let answer : (a : RetryAction QueueMessage) → a.Reply QueueMessage.Response := fun
    | .readClock | .takeNumber => 0
    | .attempt _ _ => .error ⟨.unknown, ""⟩
    | .sleep _ => ()
  .start 0 ⟨⟨"qu-1", "jobs"⟩, .put (.int 5) none, fun _ => 0, 1⟩ ::
    List.replicate 5 (.step 0 answer) ++
  .start 1 ⟨⟨"qu-1", "jobs"⟩, .get none, fun _ => 0, 1⟩ :: List.replicate 5 (.step 1 answer)

def lossySession : QueuePool :=
  queueSession ⟨"ak", "as", "modal-rs/0.1"⟩ (fun _ => [])
    (fun n _ => if n % 2 = 0 then .replyLost .unavailable else .answered ()) lossyMoves

/-- The number is stored twice, one of the two goes missing, and the get still has it. -/
theorem queue_conserved_lossy :
    (lossySession.answered fun _ => []).flatMap putItems =
        [[0x80, 2, 75, 5, 46], [0x80, 2, 75, 5, 46]] ∧
      lossySession.told.flatMap takenItems = [[0x80, 2, 75, 5, 46]] ∧
      lossySession.shared.state ("qu-1", []) = [] ∧
      ∃ k q, returnedBy q = some (.ok [.int 5]) ∧
        CallStands k (repliedTo 1 lossySession.history) (returnedBy q) := by
  obtain ⟨k, q, hthread⟩ : ∃ k q, lossySession.threads 1 = some (k, q) := ⟨_, _, rfl⟩
  have hq : (lossySession.threads 1).map (fun t => returnedBy t.2) =
      some (some (.ok [.int 5])) := rfl
  rw [hthread] at hq
  refine ⟨rfl, rfl, rfl, k, q, Option.some.inj hq, ?_⟩
  exact (queue_conserved ⟨"ak", "as", "modal-rs/0.1"⟩ (fun _ => []) _ lossyMoves).2 1 k q hthread

end ModalRs.Fifo
