/-
  File:      ModalRs/Queue/Draining.lean
  Subject:   What becomes of the items that gets remove from a queue of any content.

  A get RPC removes the first items of a partition; others may change the queue
  before it, or it may fail. The call decodes what it was sent.

  * `Turn`: one RPC against the server.
  * `GetLoop.run_cases`: the items that a loop was sent are those of its last RPC.
  * `runCalls`: calls one after the other, each with the batches its RPCs removed.
  * `Lossless`: the call hands over what it removed and can decode.
  * `lossless_exactly`: for which batches it does.
-/
import ModalRs.Queue.Fifo

namespace ModalRs.Draining

open ModalRs.Lib ModalRs.Pickle ModalRs.Rust ModalRs.Fifo

/-! ## 1. The server -/

/-- A get RPC meets the server: what others did to it before, and how the RPC fails if it does. -/
structure Turn where
  others : Partitions → Partitions
  failure : Option ModalError
  now : Instant

namespace Turn

variable (t : Turn) (p : Partitions) (key : PartitionKey) (n : Int32)

/-- The items that the RPC removes. -/
def removed : List (List UInt8) :=
  match t.failure with
  | some _ => []
  | none => (t.others p key).take n.toInt.toNat

/-- The partitions after the RPC. -/
def left : Partitions :=
  match t.failure with
  | some _ => t.others p
  | none => Function.update (t.others p) key ((t.others p key).drop n.toInt.toNat)

def answer : GetAnswer :=
  ⟨match t.failure with | some e => .error e | none => .ok (t.removed p key n), t.now⟩

theorem removed_length : (t.removed p key n).length ≤ n.toInt.toNat := by
  unfold removed
  cases t.failure with
  | some e => exact Nat.zero_le _
  | none =>
    rw [List.length_take]
    exact Nat.min_le_left _ _

end Turn

/-- The answers to the RPCs of a call, and the partitions after all of them. -/
def serve (key : PartitionKey) (n : Int32) : Partitions → List Turn → List GetAnswer × Partitions
  | p, [] => ([], p)
  | p, t :: ts =>
      let (answers, q) := serve key n (t.left p key n) ts
      (t.answer p key n :: answers, q)

/-- The items of an answer. -/
def itemsOf (a : GetAnswer) : List (List UInt8) :=
  match a.reply with
  | .ok raw => raw
  | .error _ => []

/-! ## 2. Calls -/

inductive GetCall where
  | get (params : Option QueueGetParams)
  | getMany (n : Int32) (params : Option QueueGetManyParams)

namespace GetCall

/-- What the call passes to `get_internal`. -/
def nValues : GetCall → Int32
  | .get _ => 1
  | .getMany n _ => n

def params : GetCall → Option QueueGetParams
  | .get params => params
  | .getMany _ params => params.map QueueGetManyParams.toGet

/-- The partition that the call works on, if its name is valid. -/
def key (call : GetCall) : PartitionKey :=
  (validatePartitionKey (call.params.getD {}).partition).toOption.join

/-- What the call hands to its caller of what its loop came to. -/
def deliver (call : GetCall) (out : Res ModalError (List PickleValue)) :
    Res ModalError (List PickleValue) :=
  match call with
  | .get _ => out >>= fun vals => (firstOf vals).map fun v => [v]
  | .getMany _ _ => out

end GetCall

/-- A call that is over: the batches that its RPCs removed, and what it came to. -/
structure CallRecord where
  batches : List (List (List UInt8))
  result : Res ModalError (List PickleValue)

/-- The values that the caller was handed. -/
def CallRecord.handed (r : CallRecord) : List PickleValue :=
  match r.result with
  | .ok vals => vals
  | .error _ => []

/-- A call from some state of the server, and the state after it: a turn for each RPC it makes. -/
def runCall (queue : Queue) (now : Instant) (p : Partitions) (turns : List Turn) (call : GetCall) :
    CallRecord × Partitions :=
  let answers := (serve call.key call.nValues p turns).1
  let (requests, out) := queue.getInternal call.nValues call.params now answers
  (⟨(answers.take requests.length).map itemsOf, call.deliver out⟩,
    (serve call.key call.nValues p (turns.take requests.length)).2)

/-- Calls one after the other, each with its start and the turns of its RPCs. -/
def runCalls (queue : Queue) : Partitions → List (Instant × List Turn × GetCall) → List CallRecord
  | _, [] => []
  | p, (now, turns, call) :: calls =>
      let (r, q) := runCall queue now p turns call
      r :: runCalls queue q calls

/-! ## 3. Decoding -/

/-- The value of an item, if it decodes. -/
def decoded (item : List UInt8) : Option PickleValue := (pickleDeserialize item).toOption

theorem decoded_ok {item : List UInt8} {v : PickleValue} (h : pickleDeserialize item = .ok v) :
    decoded item = some v := by
  rw [decoded, h]
  rfl

theorem decoded_error {item : List UInt8} {e : Stop ModalError}
    (h : pickleDeserialize item = .error e) : decoded item = none := by
  rw [decoded, h]
  rfl

/-- A batch that was decoded, decodes item by item. -/
theorem decoded_of_mapM {raw : List (List UInt8)} {vals : List PickleValue}
    (h : raw.mapM pickleDeserialize = .ok vals) :
    raw.filterMap decoded = vals ∧ ∀ item ∈ raw, (decoded item).isSome = true := by
  have hmap : raw.map pickleDeserialize = vals.map .ok := map_of_mapM_ok h
  constructor
  · calc raw.filterMap decoded
        = (raw.map pickleDeserialize).filterMap Except.toOption := List.filterMap_map.symm
      _ = (vals.map Except.ok).filterMap Except.toOption := by rw [hmap]
      _ = vals.filterMap some := List.filterMap_map
      _ = vals := List.filterMap_some
  · intro item hitem
    obtain ⟨v, hv⟩ := exists_mapM_ok_iff.mp ⟨vals, h⟩ item hitem
    rw [decoded_ok hv]
    rfl

/-- A batch that was not, has an item that does not decode. -/
theorem not_decoded_of_mapM {raw : List (List UInt8)} {e : Stop ModalError}
    (h : raw.mapM pickleDeserialize = .error e) : ∃ item ∈ raw, decoded item = none := by
  by_contra hnone
  have hall : ∀ item ∈ raw, ∃ v, pickleDeserialize item = .ok v := by
    intro item hitem
    cases hv : pickleDeserialize item with
    | ok v => exact ⟨v, rfl⟩
    | error e' => exact absurd ⟨item, hitem, decoded_error hv⟩ hnone
  obtain ⟨vals, hvals⟩ := exists_mapM_ok_iff.mpr hall
  rw [hvals] at h
  cases h

/-! ## 4. Runs -/

/-- What a loop came to, by the answers that it took: it returned nothing and was sent nothing, or
    its last answer alone had items, and it came to what these decode to. -/
def LastItems (taken : List GetAnswer) (out : Res ModalError (List PickleValue)) : Prop :=
  ((∀ a ∈ taken, itemsOf a = []) ∧ ∀ vals, out ≠ .ok vals) ∨
  ∃ pre last, taken = pre ++ [last] ∧ (∀ a ∈ pre, itemsOf a = []) ∧
    out = (itemsOf last).mapM pickleDeserialize

theorem LastItems.cons {a : GetAnswer} {taken : List GetAnswer}
    {out : Res ModalError (List PickleValue)} (h : LastItems taken out) (ha : itemsOf a = []) :
    LastItems (a :: taken) out := by
  rcases h with ⟨hall, hout⟩ | ⟨pre, last, rfl, hpre, hout⟩
  · exact Or.inl ⟨List.forall_mem_cons.mpr ⟨ha, hall⟩, hout⟩
  · exact Or.inr ⟨a :: pre, last, rfl, List.forall_mem_cons.mpr ⟨ha, hpre⟩, hout⟩

theorem LastItems.fails {a : GetAnswer} (ha : itemsOf a = []) (e : Stop ModalError) :
    LastItems [a] (.error e) := by
  refine Or.inl ⟨fun a' ha' => ?_, fun vals h => by cases h⟩
  rw [List.mem_singleton.mp ha']
  exact ha

/-- **The items that a loop was sent are those of its last RPC.** -/
theorem run_cases (as : List GetAnswer) (l : GetLoop) :
    LastItems (as.take (runScript .diverged GetLoop.round l as).1.length)
      (runScript .diverged GetLoop.round l as).2 := by
  induction as generalizing l with
  | nil => exact Or.inl ⟨fun a ha => absurd ha List.not_mem_nil, fun vals h => by cases h⟩
  | cons a as ih =>
    rcases l.round_cases a with ⟨e, hreply, hround⟩ | ⟨raw, hreply, -, hround⟩ |
        ⟨timeout, hreply, -, -, hround⟩ | ⟨timeout, hreply, -, -, hround⟩ | ⟨hreply, -, hround⟩
    · have hempty : itemsOf a = [] := by rw [itemsOf, hreply]
      rw [runScript_error hround]
      exact .fails hempty _
    · have hitems : itemsOf a = raw := by rw [itemsOf, hreply]
      rw [runScript_last hround]
      refine Or.inr ⟨[], a, rfl, fun a' ha' => absurd ha' List.not_mem_nil, ?_⟩
      rw [hitems]
    · have hempty : itemsOf a = [] := by rw [itemsOf, hreply]
      rw [runScript_error hround]
      exact .fails hempty _
    · have hempty : itemsOf a = [] := by rw [itemsOf, hreply]
      rw [runScript_goes hround]
      exact (ih _).cons hempty
    · have hempty : itemsOf a = [] := by rw [itemsOf, hreply]
      rw [runScript_goes hround]
      exact (ih _).cons hempty

/-- The answers of the server have no more items than the call asks for. -/
theorem serve_items {key : PartitionKey} {n : Int32} {p : Partitions} {turns : List Turn} :
    ∀ a ∈ (serve key n p turns).1, (itemsOf a).length ≤ n.toInt.toNat := by
  induction turns generalizing p with
  | nil => exact fun a ha => absurd ha List.not_mem_nil
  | cons t ts ih =>
    refine List.forall_mem_cons.mpr ⟨?_, ih⟩
    have hlength := t.removed_length p key n
    unfold itemsOf Turn.answer
    cases hfailure : t.failure with
    | some e => exact Nat.zero_le _
    | none => exact hlength

/-! ## 5. What is handed over -/

/-- **The call hands over what it removed and can decode.** -/
def Lossless (r : CallRecord) : Prop := List.Sublist (r.batches.flatten.filterMap decoded) r.handed

/-- The items of each batch all decode, or none of them does. -/
def Uniform (r : CallRecord) : Prop :=
  ∀ batch ∈ r.batches,
    (∀ item ∈ batch, (decoded item).isSome = true) ∨ ∀ item ∈ batch, decoded item = none

/-- The batches of a call whose last RPC alone removed items. -/
theorem flatten_last {pre : List GetAnswer} {last : GetAnswer}
    (hpre : ∀ a ∈ pre, itemsOf a = []) :
    ((pre ++ [last]).map itemsOf).flatten = itemsOf last := by
  have hnil : (pre.map itemsOf).flatten = [] := by
    refine List.flatten_eq_nil_iff.mpr fun batch hbatch => ?_
    obtain ⟨a, ha, rfl⟩ := List.mem_map.mp hbatch
    exact hpre a ha
  rw [List.map_append, List.flatten_append, hnil, List.nil_append]
  exact List.append_nil _

/-- The batches of such a call are uniform if the last one is. -/
theorem uniform_last {pre : List GetAnswer} {last : GetAnswer}
    {result : Res ModalError (List PickleValue)} (hpre : ∀ a ∈ pre, itemsOf a = []) :
    Uniform ⟨(pre ++ [last]).map itemsOf, result⟩ ↔
      (∀ item ∈ itemsOf last, (decoded item).isSome = true) ∨
        ∀ item ∈ itemsOf last, decoded item = none := by
  constructor
  · intro h
    exact h _ (List.mem_map_of_mem (List.mem_append_right _ (List.mem_singleton_self _)))
  · intro h batch hbatch
    obtain ⟨a, ha, rfl⟩ := List.mem_map.mp hbatch
    rcases List.mem_append.mp ha with ha | ha
    · rw [hpre a ha]
      exact Or.inl fun item hitem => absurd hitem List.not_mem_nil
    · rw [List.mem_singleton.mp ha]
      exact h

/-- A decoded batch is handed over whole: `get` asked for one item only. -/
theorem deliver_ok {call : GetCall} {items : List (List UInt8)} {vals : List PickleValue}
    (hlength : items.length ≤ call.nValues.toInt.toNat)
    (hdec : items.mapM pickleDeserialize = (.ok vals : Res ModalError _)) :
    ∀ batches, (⟨batches, call.deliver (.ok vals)⟩ : CallRecord).handed = vals := by
  cases call with
  | getMany n params => exact fun _ => rfl
  | get params =>
    have hone : items.length ≤ 1 := hlength
    match items, vals, hone, hdec with
    | [], vals, _, hdec =>
      cases hdec
      exact fun _ => rfl
    | [item], vals, _, hdec =>
      rw [List.mapM_cons] at hdec
      obtain ⟨v, -, hdec⟩ := except_bind_ok hdec
      cases hdec
      exact fun _ => rfl

/-- A call that failed hands nothing over. -/
theorem deliver_error {call : GetCall} {out : Res ModalError (List PickleValue)}
    (hout : ∀ vals, out ≠ .ok vals) :
    ∀ batches, (⟨batches, call.deliver out⟩ : CallRecord).handed = [] := by
  cases out with
  | ok vals => exact absurd rfl (hout vals)
  | error e =>
    cases call with
    | getMany n params => exact fun _ => rfl
    | get params => exact fun _ => rfl

/-- **What the last answer decides**: all of its items are handed over, or none. -/
theorem lossless_taken {call : GetCall} {taken : List GetAnswer}
    {out : Res ModalError (List PickleValue)} (h : LastItems taken out)
    (hlength : ∀ a ∈ taken, (itemsOf a).length ≤ call.nValues.toInt.toNat) :
    Lossless ⟨taken.map itemsOf, call.deliver out⟩ ↔
      Uniform ⟨taken.map itemsOf, call.deliver out⟩ := by
  rcases h with ⟨hall, hout⟩ | ⟨pre, last, rfl, hpre, rfl⟩
  · -- nothing was removed
    have hbatches : ∀ batch ∈ taken.map itemsOf, batch = [] := by
      intro batch hbatch
      obtain ⟨a, ha, rfl⟩ := List.mem_map.mp hbatch
      exact hall a ha
    refine ⟨fun _ batch hbatch => ?_, fun _ => ?_⟩
    · rw [hbatches batch hbatch]
      exact Or.inl fun item hitem => absurd hitem List.not_mem_nil
    · rw [Lossless, List.flatten_eq_nil_iff.mpr hbatches]
      exact List.nil_sublist _
  · have hlast : (itemsOf last).length ≤ call.nValues.toInt.toNat :=
      hlength last (List.mem_append_right _ (List.mem_singleton_self _))
    rw [uniform_last hpre, Lossless, flatten_last hpre]
    cases hdec : ((itemsOf last).mapM pickleDeserialize : Res ModalError _) with
    | ok vals =>
      obtain ⟨hvals, hall⟩ := decoded_of_mapM hdec
      rw [deliver_ok hlast hdec, hvals]
      exact ⟨fun _ => Or.inl hall, fun _ => List.Sublist.refl _⟩
    | error e =>
      obtain ⟨bad, hbad, hnone⟩ := not_decoded_of_mapM hdec
      rw [deliver_error (fun vals h => by cases h), List.sublist_nil, List.filterMap_eq_nil_iff]
      constructor
      · exact Or.inr
      · rintro (hall | hnone')
        · have hsome := hall bad hbad
          rw [hnone] at hsome
          cases hsome
        · exact hnone'

/-- **A call hands over what it removed** exactly when its batches are uniform. -/
theorem lossless_record (queue : Queue) (now : Instant) (p : Partitions) (turns : List Turn)
    (call : GetCall) : Lossless (runCall queue now p turns call).1 ↔
      Uniform (runCall queue now p turns call).1 := by
  refine lossless_taken ?_ fun a ha => serve_items a (List.mem_of_mem_take ha)
  cases queue.getBegin call.nValues call.params now with
  | error e => exact Or.inl ⟨fun a ha => absurd ha List.not_mem_nil, fun vals h => by cases h⟩
  | ok l => exact run_cases _ l

/-- **For which batches a destructive get loses nothing**: in every sequence of calls on a queue of
    any content, each call hands over every item that it removed and that decodes, exactly when
    the items of every batch all decode or none of them does. -/
theorem lossless_exactly (queue : Queue) (p : Partitions)
    (calls : List (Instant × List Turn × GetCall)) :
    (∀ r ∈ runCalls queue p calls, Lossless r) ↔ ∀ r ∈ runCalls queue p calls, Uniform r := by
  induction calls generalizing p with
  | nil =>
    exact ⟨fun _ r hr => absurd hr List.not_mem_nil, fun _ r hr => absurd hr List.not_mem_nil⟩
  | cons c calls ih =>
    obtain ⟨now, turns, call⟩ := c
    rw [runCalls, List.forall_mem_cons, List.forall_mem_cons, ih]
    exact and_congr_left fun _ => lossless_record queue now p turns call

/-- A number, and a set that Python wrote: the decoder knows no opcode for sets. -/
def mixedQueue : Partitions := fun _ =>
  [[0x80, 2, 0x4b, 5, 0x2e], [0x80, 4, 0x8f, 0x94, 0x28, 0x4b, 1, 0x90, 0x2e]]

/-- **A batch of both is lost**, the number too. -/
theorem mixed_batch_lost :
    decoded [0x80, 2, 0x4b, 5, 0x2e] = some (.int 5) ∧
    ∃ r ∈ runCalls ⟨"qu-1", "jobs"⟩ mixedQueue [(0, [⟨id, none, 0⟩], .getMany 2 none)],
      r.batches = [mixedQueue none] ∧ r.handed = [] ∧ ¬ Lossless r := by
  refine ⟨rfl, _, List.mem_singleton_self _, rfl, rfl, fun hlossless => ?_⟩
  have hnone := List.sublist_nil.mp hlossless
  cases hnone

end ModalRs.Draining
