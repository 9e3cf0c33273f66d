/-
  File:      ModalRs/Queue/Iterate.lean
  Subject:   Iterating over a queue: no entry is lost, repeated or moved, and when it ends.

  * `IterateLoop.round`, `Queue.iterate`: the loop of `iterate` against a script of polls.
  * `LogScript`: the polls are answered from a log that only grows, each with
    some run of entries right after the one asked for.
  * `Log.after_last`: asking for what follows the last received entry.
  * `iterate_gap_free`: what was received is a gap-free beginning of the log, in order.
  * `iterate_quiet`: `iterate` ends after an empty poll at or past its deadline
    (or, without a timeout, after its first batch).
-/
import Mathlib.Data.List.Infix
import Mathlib.Data.List.Nodup
import ModalRs.Queue.Basic

namespace ModalRs

open ModalRs.Lib ModalRs.Pickle ModalRs.Rust

/-! ## 1. The loop -/

structure QueueIterateParams where
  itemPollTimeout : Duration := 0
  partition : String := ""

/-- The arguments of the RPC `queue_next_items`. -/
structure NextItemsRequest where
  queueId : String
  partitionKey : PartitionKey
  itemPollTimeout : Duration
  lastEntryId : String
  deriving DecidableEq

/-- Items as `(entry_id, value)` pairs. -/
abbrev Log : Type := List (String × List UInt8)

/-- The local variables of the loop of `iterate`. -/
structure IterateLoop where
  queueId : String
  partitionKey : PartitionKey
  itemPoll : Duration
  lastEntryId : String
  results : List PickleValue
  fetchDeadline : Instant

/-- What the world does in one round: the clock at its head, the answer to the poll, and the
    clock when the answer is there. -/
structure IteratePoll where
  before : Instant
  reply : NextItemsRequest → Except ModalError Log
  after : Instant

/-- A poll that was made. -/
structure PollEvent where
  request : NextItemsRequest
  reply : Except ModalError Log
  after : Instant

/-- The batch of a poll. -/
def PollEvent.items (e : PollEvent) : Log :=
  match e.reply with
  | .ok items => items
  | .error _ => []

/-- The loop over a batch: each item is decoded and becomes the last one. -/
def takeItems : Log → String → List PickleValue → Res ModalError (String × List PickleValue)
  | [], lastEntryId, results => .ok (lastEntryId, results)
  | (entryId, raw) :: items, _, results => do
      let v ← pickleDeserialize raw
      takeItems items entryId (results ++ [v])

namespace IterateLoop

def request (l : IterateLoop) (before : Instant) : NextItemsRequest :=
  let remaining := Instant.saturatingDurationSince l.fetchDeadline before
  ⟨l.queueId, l.partitionKey, min remaining (.fromSecs 30), l.lastEntryId⟩

/-- A batch that is not empty: its items are taken, and the deadline is set anew. -/
def absorb (l : IterateLoop) (items : Log) (now : Instant) : Res ModalError IterateLoop := do
  let (lastEntryId, results) ← takeItems items l.lastEntryId l.results
  let fetchDeadline ← Instant.add now l.itemPoll
  .ok { l with lastEntryId := lastEntryId, results := results, fetchDeadline := fetchDeadline }

/-- The poll of a round. -/
def event (l : IterateLoop) (poll : IteratePoll) : PollEvent :=
  ⟨l.request poll.before, poll.reply (l.request poll.before), poll.after⟩

/-- What the loop does with the answer to its poll. -/
def onReply (l : IterateLoop) (e : PollEvent) : Res ModalError (IterateLoop ⊕ List PickleValue) :=
  match e.reply with
  | .error err => .error (.err err)
  | .ok [] => if l.fetchDeadline ≤ e.after then .ok (.inr l.results) else .ok (.inl l)
  | .ok items => (l.absorb items e.after).map .inl

/-- One round of the loop of `iterate`. -/
def round (l : IterateLoop) (poll : IteratePoll) :
    List PollEvent × Res ModalError (IterateLoop ⊕ List PickleValue) :=
  -- if item_poll_timeout is zero and something was fetched already, exit
  if l.itemPoll = 0 ∧ l.results ≠ [] then ([], .ok (.inr l.results))
  else ([l.event poll], l.onReply (l.event poll))

end IterateLoop

/-- `iterate` up to its loop. -/
def Queue.iterateBegin (queue : Queue) (params : Option QueueIterateParams) (now : Instant) :
    Res ModalError IterateLoop := do
  let params := params.getD {}
  let partitionKey ← liftExcept (validatePartitionKey params.partition)
  let fetchDeadline ← Instant.add now params.itemPollTimeout
  .ok {
    queueId := queue.queueId
    partitionKey := partitionKey
    itemPoll := params.itemPollTimeout
    lastEntryId := ""
    results := []
    fetchDeadline := fetchDeadline }

/-- Iterate yields items from the Queue until it is idle. -/
def Queue.iterate (queue : Queue) (params : Option QueueIterateParams) (now : Instant)
    (polls : List IteratePoll) : List PollEvent × Res ModalError (List PickleValue) :=
  match queue.iterateBegin params now with
  | .error e => ([], .error e)
  | .ok l => runScript .diverged IterateLoop.round l polls

/-- What the loop can do with an answer: fail, take a batch, end at the deadline, or go on. -/
theorem IterateLoop.onReply_cases (l : IterateLoop) (e : PollEvent) :
    (∃ err, l.onReply e = .error (.err err)) ∨
    (e.items ≠ [] ∧ l.onReply e = (l.absorb e.items e.after).map .inl) ∨
    (e.reply = .ok [] ∧ l.fetchDeadline ≤ e.after ∧ l.onReply e = .ok (.inr l.results)) ∨
    (e.reply = .ok [] ∧ l.onReply e = .ok (.inl l)) := by
  obtain ⟨request, reply, after⟩ := e
  cases reply with
  | error err => exact Or.inl ⟨err, rfl⟩
  | ok items =>
    right
    cases items with
    | cons item items => exact Or.inl ⟨List.cons_ne_nil _ _, rfl⟩
    | nil =>
      right
      by_cases hdl : l.fetchDeadline ≤ after
      · exact Or.inl ⟨rfl, hdl, if_pos hdl⟩
      · exact Or.inr ⟨rfl, if_neg hdl⟩

/-! ## 2. Batches -/

/-- The id of the last entry, or the empty id. -/
def lastId (entries : Log) : String := (entries.getLast?.map Prod.fst).getD ""

/-- The values of entries. -/
def decodeAll (entries : Log) : Res ModalError (List PickleValue) :=
  entries.mapM fun e => pickleDeserialize e.2

theorem decodeAll_append {entries items : Log} {vs ws : List PickleValue}
    (h : decodeAll entries = .ok vs) (h' : decodeAll items = .ok ws) :
    decodeAll (entries ++ items) = .ok (vs ++ ws) := by
  unfold decodeAll at *
  rw [List.mapM_append, h, h']
  rfl

/-- **A taken batch**: its entries are decoded behind the results, and the last is remembered. -/
theorem takeItems_ok : ∀ {items : Log} {last last' : String} {results results' : List PickleValue},
    takeItems items last results = .ok (last', results') →
      (∃ vs, decodeAll items = .ok vs ∧ results' = results ++ vs) ∧
        last' = (items.getLast?.map Prod.fst).getD last
  | [], _, _, _, _, h => by
      cases h
      exact ⟨⟨[], rfl, by simp⟩, rfl⟩
  | (id, raw) :: items, _, _, results, _, h => by
      obtain ⟨v, hv, h⟩ := except_bind_ok h
      obtain ⟨⟨vs, hvs, rfl⟩, rfl⟩ := takeItems_ok h
      have hone : decodeAll [(id, raw)] = .ok [v] := by
        show (pickleDeserialize raw >>= fun v => _) = _
        rw [hv]
        rfl
      refine ⟨⟨v :: vs, decodeAll_append hone hvs, by simp⟩, ?_⟩
      cases items with
      | nil => rfl
      | cons e items =>
        rw [List.getLast?_cons_cons]
        cases hlast : (e :: items).getLast? with
        | none => simp at hlast
        | some e' => rfl

/-- The batches of polls, one after the other. -/
def received (events : List PollEvent) : Log := events.flatMap PollEvent.items

theorem received_append (events : List PollEvent) (e : PollEvent) :
    received (events ++ [e]) = received events ++ e.items := by
  simp [received]

/-- The clock after the last batch that was not empty, or at the start. -/
def activity (start : Instant) (events : List PollEvent) : Instant :=
  events.foldl (fun t e => if e.items = [] then t else e.after) start

theorem activity_append (start : Instant) (events : List PollEvent) (e : PollEvent) :
    activity start (events ++ [e]) =
      if e.items = [] then activity start events else e.after := by
  simp [activity]

theorem IterateLoop.absorb_ok {l l' : IterateLoop} {items : Log} {now : Instant}
    (h : l.absorb items now = .ok l') :
    (∃ vs, decodeAll items = .ok vs ∧ l'.results = l.results ++ vs) ∧
      l'.lastEntryId = (items.getLast?.map Prod.fst).getD l.lastEntryId ∧
        l'.itemPoll = l.itemPoll ∧ l'.fetchDeadline = now + l.itemPoll := by
  obtain ⟨⟨last, results⟩, htake, h⟩ := except_bind_ok h
  obtain ⟨deadline, hdl, h⟩ := except_bind_ok h
  cases h
  obtain ⟨hvs, hlast⟩ := takeItems_ok htake
  exact ⟨hvs, hlast, rfl, Instant.add_eq_ok hdl⟩

theorem Queue.iterateBegin_ok {queue : Queue} {params : Option QueueIterateParams}
    {now : Instant} {l : IterateLoop} (h : queue.iterateBegin params now = .ok l) :
    l.itemPoll = (params.getD {}).itemPollTimeout ∧ l.lastEntryId = "" ∧ l.results = [] ∧
      l.fetchDeadline = now + l.itemPoll := by
  obtain ⟨key, -, h⟩ := except_bind_ok h
  obtain ⟨deadline, hdl, h⟩ := except_bind_ok h
  cases h
  exact ⟨rfl, rfl, rfl, Instant.add_eq_ok hdl⟩

/-! ## 3. The log -/

/-- The entries after the one with this id; all of them after the empty id. -/
def afterEntry (last : String) (log : Log) : Log :=
  if last = "" then log else (log.dropWhile fun e => e.1 ≠ last).tail

/-- Distinct ids, none of them empty. -/
structure WellFormedLog (log : Log) : Prop where
  nodup : (log.map Prod.fst).Nodup
  nonempty : ∀ e ∈ log, e.1 ≠ ""

/-- **Polls that are answered from a growing log**: `log` is what it has grown to in the end, and
    each poll comes with the log at its time. -/
structure LogScript (script : List (IteratePoll × Log)) (log : Log) : Prop where
  wellFormed : WellFormedLog log
  within : ∀ p ∈ script, p.2 <+: log
  grows : (script.map Prod.snd).Pairwise (· <+: ·)
  answers : ∀ p ∈ script, ∀ request items, p.1.reply request = .ok items →
    items <+: afterEntry request.lastEntryId p.2

theorem lastId_append (entries items : Log) :
    lastId (entries ++ items) = (items.getLast?.map Prod.fst).getD (lastId entries) := by
  cases items with
  | nil => simp [lastId]
  | cons e items =>
    have hlast : (e :: items).getLast? = some ((e :: items).getLast (List.cons_ne_nil _ _)) :=
      List.getLast?_eq_some_getLast _
    simp [lastId, List.getLast?_append, hlast]

/-- **After the last received entry come the others.** -/
theorem afterEntry_lastId {entries rest : Log} (h : WellFormedLog (entries ++ rest)) :
    afterEntry (lastId entries) (entries ++ rest) = rest := by
  rcases List.eq_nil_or_concat entries with rfl | ⟨init, e, rfl⟩
  · rfl
  · obtain ⟨hnodup, hne⟩ := h
    rw [List.concat_eq_append, List.append_assoc, List.singleton_append] at hnodup hne ⊢
    have hlast : lastId (init ++ [e]) = e.1 := by simp [lastId]
    have he : e.1 ≠ "" := hne e (List.mem_append_right _ List.mem_cons_self)
    rw [hlast, afterEntry, if_neg he]
    -- no entry before `e` has its id
    have hinit : ∀ x ∈ init, decide (x.1 ≠ e.1) = true := by
      intro x hx
      rw [List.map_append, List.nodup_append] at hnodup
      have hdisj := hnodup.2.2 x.1 (List.mem_map_of_mem hx) e.1 (by simp)
      simpa using hdisj
    rw [List.dropWhile_append_of_pos hinit]
    simp

/-! ## 4. Runs -/

/-- The log has nothing after the entry that the poll asked for. -/
def CaughtUp (e : PollEvent) (log : Log) : Prop := afterEntry e.request.lastEntryId log = []

section Run

variable {script : List (IteratePoll × Log)} {log : Log} {start : Instant} {itemPoll : Duration}

/-- **The cursor invariant**: the results are the entries received so far, these begin the log,
    and every log to come; the cursor is the last of them. -/
structure Tracks (script : List (IteratePoll × Log)) (log : Log) (start : Instant)
    (itemPoll : Duration) (l : IterateLoop) (past : List PollEvent)
    (ahead : List (IteratePoll × Log)) : Prop where
  ahead_eq : ahead = script.drop past.length
  decoded : decodeAll (received past) = .ok l.results
  last : l.lastEntryId = lastId (received past)
  within : received past <+: log
  below : ∀ p ∈ ahead, received past <+: p.2
  deadline : l.fetchDeadline = activity start past + itemPoll
  poll : l.itemPoll = itemPoll
  first : itemPoll = 0 → received past = [] ∨
    ∃ init e, past = init ++ [e] ∧ received init = [] ∧ e.items ≠ []

/-- How a run that returned ended. -/
def Ended (script : List (IteratePoll × Log)) (log : Log) (start : Instant) (itemPoll : Duration)
    (events : List PollEvent) (out : Res ModalError (List PickleValue)) : Prop :=
  ∀ results, out = .ok results →
    (received events <+: log ∧ decodeAll (received events) = .ok results) ∧
    ∃ init e, events = init ++ [e] ∧
      ((e.reply = .ok [] ∧ activity start init + itemPoll ≤ e.after ∧
          ∃ p, script[init.length]? = some p ∧
            (CaughtUp e p.2 → decodeAll p.2 = .ok results)) ∨
        (itemPoll = 0 ∧ received init = [] ∧ e.items ≠ []))

theorem decodeAll_nil {entries : Log} (h : decodeAll entries = .ok []) : entries = [] := by
  cases entries with
  | nil => rfl
  | cons e entries =>
    unfold decodeAll at h
    rw [List.mapM_cons] at h
    obtain ⟨v, -, h⟩ := except_bind_ok h
    obtain ⟨vs, -, h⟩ := except_bind_ok h
    cases h

/-- The next poll of a script that is read from the front. -/
theorem next_of_drop {α : Type} {script ahead : List α} {n : Nat} {p : α}
    (h : p :: ahead = script.drop n) : script[n]? = some p ∧ ahead = script.drop (n + 1) := by
  constructor
  · have h0 := congrArg (fun l => l[0]?) h
    simpa [List.getElem?_drop] using h0.symm
  · have htail := congrArg List.tail h
    simpa using htail

/-- What the log at a poll holds after the entry asked for. -/
theorem Tracks.after {l : IterateLoop} {past : List PollEvent} {p : IteratePoll × Log}
    {ahead : List (IteratePoll × Log)} (hlogs : LogScript script log)
    (h : Tracks script log start itemPoll l past (p :: ahead)) (before : Instant) :
    p.2 = received past ++ afterEntry (l.request before).lastEntryId p.2 := by
  obtain ⟨rest, hrest⟩ := h.below p List.mem_cons_self
  have hmem : p ∈ script := by
    have hin : p ∈ script.drop past.length := h.ahead_eq ▸ List.mem_cons_self
    exact List.mem_of_mem_drop hin
  have hwell : WellFormedLog (received past ++ rest) := by
    obtain ⟨more, hmore⟩ := hlogs.within p hmem
    rw [hrest]
    refine ⟨?_, fun e he => ?_⟩
    · have hnodup := hlogs.wellFormed.nodup
      rw [← hmore, List.map_append] at hnodup
      exact (List.nodup_append.mp hnodup).1
    · exact hlogs.wellFormed.nonempty e (hmore ▸ List.mem_append_left _ he)
  show p.2 = received past ++ afterEntry l.lastEntryId p.2
  rw [h.last, ← hrest, afterEntry_lastId hwell]

/-- A batch comes right after the entries received so far. -/
theorem Tracks.batch {l : IterateLoop} {past : List PollEvent} {p : IteratePoll × Log}
    {ahead : List (IteratePoll × Log)} (hlogs : LogScript script log)
    (h : Tracks script log start itemPoll l past (p :: ahead)) :
    received past ++ (l.event p.1).items <+: p.2 := by
  have hafter := h.after hlogs p.1.before
  have hmem : p ∈ script := List.mem_of_getElem? (next_of_drop h.ahead_eq).1
  have hitems : (l.event p.1).items <+: afterEntry (l.request p.1.before).lastEntryId p.2 := by
    unfold PollEvent.items
    cases hreply : (l.event p.1).reply with
    | error e => exact List.nil_prefix
    | ok items => exact hlogs.answers p hmem _ items hreply
  rw [hafter]
  exact (List.prefix_append_right_inj _).mpr hitems

/-- After a poll, whatever its batch was. -/
theorem Tracks.next {l l' : IterateLoop} {past : List PollEvent} {p : IteratePoll × Log}
    {ahead : List (IteratePoll × Log)} (hlogs : LogScript script log)
    (h : Tracks script log start itemPoll l past (p :: ahead))
    (hidle : l.itemPoll = 0 → l.results = [])
    (hdec : decodeAll (received (past ++ [l.event p.1])) = .ok l'.results)
    (hlast : l'.lastEntryId = lastId (received (past ++ [l.event p.1])))
    (hdl : l'.fetchDeadline = activity start (past ++ [l.event p.1]) + itemPoll)
    (hpoll : l'.itemPoll = itemPoll) :
    Tracks script log start itemPoll l' (past ++ [l.event p.1]) ahead where
  ahead_eq := by
    rw [List.length_append]
    exact (next_of_drop h.ahead_eq).2
  decoded := hdec
  last := hlast
  within := by
    rw [received_append]
    have hmem : p ∈ script := List.mem_of_getElem? (next_of_drop h.ahead_eq).1
    exact (h.batch hlogs).trans (hlogs.within p hmem)
  below q hq := by
    rw [received_append]
    have hgrows : (script.drop past.length).Pairwise fun a b => a.2 <+: b.2 :=
      (List.pairwise_map.mp hlogs.grows).sublist (List.drop_sublist _ _)
    rw [← h.ahead_eq, List.pairwise_cons] at hgrows
    exact (h.batch hlogs).trans (hgrows.1 q hq)
  deadline := hdl
  poll := hpoll
  first hzero := by
    have hresults := hidle (h.poll.trans hzero)
    have hpast : received past = [] := decodeAll_nil (hresults ▸ h.decoded)
    by_cases hitems : (l.event p.1).items = []
    · left
      rw [received_append, hpast, hitems]
      rfl
    · exact Or.inr ⟨past, l.event p.1, rfl, hpast, hitems⟩

theorem items_of_reply {e : PollEvent} (h : e.reply = .ok []) : e.items = [] := by
  simp only [PollEvent.items, h]

/-- Without a timeout it returns before the poll that would follow the first batch. -/
theorem Tracks.returns_fetched {l : IterateLoop} {past : List PollEvent}
    {ahead : List (IteratePoll × Log)} (h : Tracks script log start itemPoll l past ahead)
    (hzero : l.itemPoll = 0) (hne : l.results ≠ []) :
    Ended script log start itemPoll past (.ok l.results) := by
  intro results hresults
  cases hresults
  refine ⟨⟨h.within, h.decoded⟩, ?_⟩
  have hpoll : itemPoll = 0 := h.poll ▸ hzero
  rcases h.first hpoll with hnil | ⟨init, e, hpast, hinit, he⟩
  · have hdec := h.decoded
    rw [hnil] at hdec
    exact absurd (Except.ok.inj hdec).symm hne
  · exact ⟨init, e, hpast, Or.inr ⟨hpoll, hinit, he⟩⟩

/-- After an empty poll at or past the deadline. -/
theorem Tracks.returns_quiet {l : IterateLoop} {past : List PollEvent} {p : IteratePoll × Log}
    {ahead : List (IteratePoll × Log)} (hlogs : LogScript script log)
    (h : Tracks script log start itemPoll l past (p :: ahead))
    (hreply : (l.event p.1).reply = .ok []) (hdl : l.fetchDeadline ≤ (l.event p.1).after) :
    Ended script log start itemPoll (past ++ [l.event p.1]) (.ok l.results) := by
  intro results hresults
  cases hresults
  have hrec : received (past ++ [l.event p.1]) = received past := by
    rw [received_append, items_of_reply hreply, List.append_nil]
  have hpoll : script[past.length]? = some p := (next_of_drop h.ahead_eq).1
  rw [hrec]
  refine ⟨⟨h.within, h.decoded⟩, past, l.event p.1, rfl, Or.inl ⟨hreply, ?_, p, hpoll, ?_⟩⟩
  · rw [← h.deadline]
    exact hdl
  · intro hcaught
    have hafter := h.after hlogs p.1.before
    have hnothing : afterEntry (l.request p.1.before).lastEntryId p.2 = [] := hcaught
    rw [hnothing, List.append_nil] at hafter
    rw [hafter]
    exact h.decoded

/-- **The round lemma.** -/
theorem tracks_round (hlogs : LogScript script log) {l : IterateLoop} {past : List PollEvent}
    {p : IteratePoll × Log} {ahead : List (IteratePoll × Log)}
    (h : Tracks script log start itemPoll l past (p :: ahead)) :
    RoundOk (Tracks script log start itemPoll) (Ended script log start itemPoll) past ahead
      (l.round p.1) := by
  by_cases hzero : l.itemPoll = 0 ∧ l.results ≠ []
  · -- nothing is waited for, and something was fetched
    have hround : l.round p.1 = ([], .ok (.inr l.results)) := if_pos hzero
    have hended := h.returns_fetched hzero.1 hzero.2
    rw [hround]
    rw [← List.append_nil past] at hended
    exact hended
  · have hidle : l.itemPoll = 0 → l.results = [] :=
      fun h0 => by_contra fun hne => hzero ⟨h0, hne⟩
    have hround : l.round p.1 = ([l.event p.1], l.onReply (l.event p.1)) := if_neg hzero
    rw [hround]
    rcases l.onReply_cases (l.event p.1) with
      ⟨err, hr⟩ | ⟨hitems, hr⟩ | ⟨hreply, hdl, hr⟩ | ⟨hreply, hr⟩
    · -- the poll failed
      rw [hr]
      exact fun results hresults => nomatch hresults
    · -- a batch
      rw [hr]
      cases habs : l.absorb (l.event p.1).items (l.event p.1).after with
      | error err => exact fun results hresults => nomatch hresults
      | ok l' =>
        obtain ⟨⟨vs, hvs, hresults⟩, hlast, hpoll, hdl⟩ := IterateLoop.absorb_ok habs
        refine h.next hlogs hidle ?_ ?_ ?_ (hpoll.trans h.poll)
        · rw [received_append, hresults]
          exact decodeAll_append h.decoded hvs
        · rw [received_append, lastId_append, ← h.last]
          exact hlast
        · rw [activity_append, if_neg hitems, ← h.poll]
          exact hdl
    · -- the deadline has passed
      rw [hr]
      exact h.returns_quiet hlogs hreply hdl
    · -- an empty poll before the deadline
      rw [hr]
      have hitems := items_of_reply hreply
      refine h.next hlogs hidle ?_ ?_ ?_ h.poll
      · rw [received_append, hitems, List.append_nil]
        exact h.decoded
      · rw [received_append, hitems, List.append_nil]
        exact h.last
      · rw [activity_append, if_pos hitems]
        exact h.deadline

/-- **The run lemma.** -/
theorem iterate_ended {queue : Queue} {params : Option QueueIterateParams}
    (hlogs : LogScript script log) :
    Ended script log start (params.getD {}).itemPollTimeout
      (queue.iterate params start (script.map Prod.fst)).1
      (queue.iterate params start (script.map Prod.fst)).2 := by
  unfold Queue.iterate
  cases hbegin : queue.iterateBegin params start with
  | error e => exact fun results hresults => nomatch hresults
  | ok l =>
    obtain ⟨hpoll, hlast, hresults, hdl⟩ := Queue.iterateBegin_ok hbegin
    have hstart : Tracks script log start (params.getD {}).itemPollTimeout l [] script := by
      refine ⟨rfl, ?_, hlast, List.nil_prefix, fun _ _ => List.nil_prefix, ?_, hpoll,
        fun _ => Or.inl rfl⟩
      · rw [hresults]
        rfl
      · rw [hdl, hpoll]
        rfl
    show Ended _ _ _ _ (runScript .diverged IterateLoop.round l (script.map Prod.fst)).1
      (runScript .diverged IterateLoop.round l (script.map Prod.fst)).2
    rw [runScript_map]
    have hend := script_rule .diverged (fun _ _ _ _ h => tracks_round hlogs h)
      (fun _ _ _ results hresults => nomatch hresults) script l [] hstart
    rw [List.nil_append] at hend
    exact hend

end Run

/-- Polls of a log that stays as it is: each answered with so many entries at most, at an
    instant. -/
def served (log : Log) (answers : List (Nat × Instant)) : List (IteratePoll × Log) :=
  answers.map fun a =>
    (⟨0, fun request => .ok ((afterEntry request.lastEntryId log).take a.1), a.2⟩, log)

theorem logScript_served {log : Log} (h : WellFormedLog log) (answers : List (Nat × Instant)) :
    LogScript (served log answers) log where
  wellFormed := h
  within p hp := by
    obtain ⟨a, -, rfl⟩ := List.mem_map.mp hp
    exact List.prefix_refl log
  grows := by
    refine List.pairwise_map.mpr (List.pairwise_map.mpr ?_)
    exact List.pairwise_of_forall fun _ _ => List.prefix_refl log
  answers p hp request items hreply := by
    obtain ⟨a, -, rfl⟩ := List.mem_map.mp hp
    cases hreply
    exact List.take_prefix _ _

/-- **What was received is a gap-free beginning of the log, in order**, and the result is its
    decoding. -/
theorem iterate_gap_free {queue : Queue} {params : Option QueueIterateParams} {start : Instant}
    {script : List (IteratePoll × Log)} {log : Log} (hlogs : LogScript script log)
    {events : List PollEvent} {results : List PickleValue}
    (hrun : queue.iterate params start (script.map Prod.fst) = (events, .ok results)) :
    received events <+: log ∧ decodeAll (received events) = .ok results := by
  have hend := @iterate_ended script log start queue params hlogs
  rw [hrun] at hend
  exact (hend results rfl).1

/-- Two entries, served one at a time. -/
def twoEntries : Log := [("1-0", [75, 1, 46]), ("2-0", [75, 2, 46])]

theorem twoEntries_wellFormed : WellFormedLog twoEntries := ⟨by decide, by decide⟩

/-- Iterates over these two with a timeout of ten nanoseconds, from instant 0 on. -/
def iterateTwo (answers : List (Nat × Instant)) :
    List PollEvent × Res ModalError (List PickleValue) :=
  Queue.iterate ⟨"qu-1", "jobs"⟩ (some { itemPollTimeout := 10 }) 0
    ((served twoEntries answers).map Prod.fst)

theorem iterate_gap_free_two :
    let run := iterateTwo [(1, 5), (1, 6), (1, 20)]
    run.2 = .ok [.int 1, .int 2] ∧ received run.1 <+: twoEntries ∧
      decodeAll (received run.1) = .ok [.int 1, .int 2] := by
  intro run
  have hrun : run = (run.1, .ok [.int 1, .int 2]) := rfl
  exact ⟨rfl, iterate_gap_free (logScript_served twoEntries_wellFormed _) hrun⟩

/-- **When iteration ends**: after an empty poll at or past the deadline, or, without a timeout,
    right after the first batch. In the first case nothing is missing from the log of that poll, if
    it held nothing behind the entry that was asked for. -/
theorem iterate_quiet {queue : Queue} {params : Option QueueIterateParams} {start : Instant}
    {script : List (IteratePoll × Log)} {log : Log} (hlogs : LogScript script log)
    {events : List PollEvent} {results : List PickleValue}
    (hrun : queue.iterate params start (script.map Prod.fst) = (events, .ok results)) :
    ∃ init e, events = init ++ [e] ∧
      ((e.reply = .ok [] ∧ activity start init + (params.getD {}).itemPollTimeout ≤ e.after ∧
          ∃ p, script[init.length]? = some p ∧ (CaughtUp e p.2 → decodeAll p.2 = .ok results)) ∨
        ((params.getD {}).itemPollTimeout = 0 ∧ received init = [] ∧ e.items ≠ [])) := by
  have hend := @iterate_ended script log start queue params hlogs
  rw [hrun] at hend
  exact (hend results rfl).2

/-- The run over the two entries ends with an empty poll. -/
theorem iterate_quiet_two :
    let run := iterateTwo [(1, 5), (1, 6), (1, 20)]
    run.2 = .ok [.int 1, .int 2] ∧ ∃ init e, run.1 = init ++ [e] ∧
      ((e.reply = .ok [] ∧ activity 0 init + 10 ≤ e.after ∧
          ∃ p, (served twoEntries [(1, 5), (1, 6), (1, 20)])[init.length]? = some p ∧
            (CaughtUp e p.2 → decodeAll p.2 = .ok [.int 1, .int 2])) ∨
        ((10 : Duration) = 0 ∧ received init = [] ∧ e.items ≠ [])) := by
  intro run
  have hrun : run = (run.1, .ok [.int 1, .int 2]) := rfl
  exact ⟨rfl, @iterate_quiet _ (some { itemPollTimeout := 10 }) _ _ _
    (logScript_served twoEntries_wellFormed _) _ _ hrun⟩

/-- Without a timeout, iteration ends after a poll that was not empty and leaves an entry behind.
    With one, it leaves both behind when the server answers an empty run although they are there. -/
theorem iterate_stops_early :
    (∃ init e, LogScript (served twoEntries [(1, 5), (1, 6)]) twoEntries ∧
      Queue.iterate ⟨"qu-1", "jobs"⟩ none 0 ((served twoEntries [(1, 5), (1, 6)]).map Prod.fst) =
        (init ++ [e], .ok [.int 1]) ∧ e.items ≠ []) ∧
    (∃ events, LogScript (served twoEntries [(0, 20)]) twoEntries ∧
      Queue.iterate ⟨"qu-1", "jobs"⟩ (some { itemPollTimeout := 10 }) 0
        ((served twoEntries [(0, 20)]).map Prod.fst) = (events, .ok [])) ∧
    decodeAll twoEntries = .ok [.int 1, .int 2] := by
  refine ⟨⟨[], _, logScript_served twoEntries_wellFormed _, rfl, ?_⟩,
    ⟨_, logScript_served twoEntries_wellFormed _, rfl⟩, rfl⟩
  exact List.cons_ne_nil _ _

end ModalRs
