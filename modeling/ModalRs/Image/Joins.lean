/-
  File:      ModalRs/Image/Joins.lean
  Subject:   Following the log of a build: what is read over all joins, and when the result comes.

  The messages of a build are a log, of which a join is sent what is behind the last
  entry id it names, up to where its stream breaks off. The client joins again with
  the last entry id that it read.

  * `JoinTurn`, `JoinTurn.Answers`: what becomes of a join, and servers that answer from a log.
  * `join_cases`: what one join reads and comes to.
  * `decided`: the result that a log comes to for a client; a message without an id that ends
    the stream without a result bars the way to it.
  * `joins_gap_free`: whatever breaks off or fails, entries are read once, in order, to the result.
  * `joined_layer_exactly`: with enough whole streams a layer comes to the result of its log.
-/
import Mathlib.Data.List.Forall2
import ModalRs.Image.Delivery
import ModalRs.Lib.Resume

namespace ModalRs

open ModalRs.Lib ModalRs.Lib.Resume ModalRs.Rust

/-! ## 1. The log of a build -/

/-- The messages of a build, in the server's order. -/
abbrev BuildLog : Type := List Pb.ImageJoinStreamingResponse

/-- An empty entry id is none. -/
def entryOf (entryId : String) : Option String := if entryId = "" then none else some entryId

namespace Pb.ImageJoinStreamingResponse

def entryId? (m : Pb.ImageJoinStreamingResponse) : Option String := entryOf m.entryId

/-- Nothing is read of a stream after this message. -/
def stops (m : Pb.ImageJoinStreamingResponse) : Bool := m.result.isSome || m.eof

/-- The client gets past the message, to what is behind it. -/
def Passed (m : Pb.ImageJoinStreamingResponse) : Prop :=
  m.result = none ∧ (m.eof = true → m.entryId? ≠ none)

theorem result_of_not_stops {m : Pb.ImageJoinStreamingResponse} (h : m.stops = false) :
    m.result = none ∧ m.eof = false := by
  obtain ⟨hresult, heof⟩ := Bool.or_eq_false_iff.mp h
  exact ⟨Option.not_isSome_iff_eq_none.mp (by rw [hresult]; exact Bool.false_ne_true), heof⟩

theorem passed_of_not_stops {m : Pb.ImageJoinStreamingResponse} (h : m.stops = false) :
    m.Passed := by
  obtain ⟨hresult, heof⟩ := result_of_not_stops h
  refine ⟨hresult, fun hends => ?_⟩
  rw [heof] at hends
  cases hends

end Pb.ImageJoinStreamingResponse

open Pb.ImageJoinStreamingResponse (entryId?)

/-- The last entry id, after some more messages. -/
def lastEntryOf (lastEntry : String) (read : BuildLog) : String :=
  read.foldl (fun last m => if m.entryId = "" then last else m.entryId) lastEntry

theorem entryOf_lastEntryOf (lastEntry : String) (read : BuildLog) :
    entryOf (lastEntryOf lastEntry read) =
      lastSeen entryId? (entryOf lastEntry) read := by
  induction read generalizing lastEntry with
  | nil => rfl
  | cons m read ih =>
    have hone : entryOf (if m.entryId = "" then lastEntry else m.entryId) =
        m.entryId?.or (entryOf lastEntry) := by
      by_cases hid : m.entryId = ""
      · rw [entryId?, entryOf, entryOf, if_pos hid, if_pos hid]
        rfl
      · rw [entryId?, entryOf, entryOf, if_neg hid, if_neg hid]
        rfl
    rw [lastEntryOf, List.foldl_cons, lastSeen, List.foldl_cons, ← hone]
    exact ih _

/-- The result that a client comes to which follows the log. -/
def decided : BuildLog → Option Pb.ImageResult
  | [] => none
  | m :: log =>
      match m.result with
      | some r => some r
      | none => if m.eof && m.entryId = "" then none else decided log

/-- How many streams a log ends by itself. -/
def eofs (log : BuildLog) : Nat := log.countP Pb.ImageJoinStreamingResponse.eof

/-- The log up to its first result. -/
def upToResult : BuildLog → BuildLog
  | [] => []
  | m :: log => if m.result.isSome then [m] else m :: upToResult log

theorem decided_append {past ahead : BuildLog} (h : ∀ m ∈ past, m.Passed) :
    decided (past ++ ahead) = decided ahead := by
  induction past with
  | nil => rfl
  | cons m past ih =>
    obtain ⟨⟨hresult, heof⟩, hpast⟩ := List.forall_mem_cons.mp h
    have hgoes : (m.eof && decide (m.entryId = "")) = false := by
      refine Bool.eq_false_iff.mpr fun hbars => ?_
      obtain ⟨hends, hid⟩ := Bool.and_eq_true_iff.mp hbars
      exact heof hends (if_pos (of_decide_eq_true hid))
    rw [List.cons_append, decided, hresult]
    simp only [hgoes, Bool.false_eq_true, if_false, ih hpast]

/-- A message on the way to the result is passed. -/
theorem passed_of_decided {m : Pb.ImageJoinStreamingResponse} {log : BuildLog} {r : Pb.ImageResult}
    (h : decided (m :: log) = some r) (hresult : m.result = none) : m.Passed := by
  refine ⟨hresult, fun heof hid => ?_⟩
  have hempty : m.entryId = "" := by
    by_contra hne
    rw [entryId?, entryOf, if_neg hne] at hid
    cases hid
  rw [decided, hresult, heof, hempty] at h
  cases h

theorem upToResult_append {past ahead : BuildLog} (h : ∀ m ∈ past, m.result = none) :
    upToResult (past ++ ahead) = past ++ upToResult ahead := by
  induction past with
  | nil => rfl
  | cons m past ih =>
    obtain ⟨hresult, hpast⟩ := List.forall_mem_cons.mp h
    rw [List.cons_append, upToResult, hresult]
    simp only [Option.isSome_none, Bool.false_eq_true, if_false, ih hpast, List.cons_append]

/-! ## 2. One join -/

/-- What is read of a stream: its messages up to one that stops, or to a failure. -/
def heard : ImageStream → BuildLog
  | [] => []
  | .error _ :: _ => []
  | .ok m :: stream => if m.stops then [m] else m :: heard stream

/-- What becomes of a join: it is refused, or so many messages are sent, and then the stream ends
    or fails. -/
inductive JoinTurn where
  | refuses (status : Status)
  | streams (cut : Nat) (failure : Option Status)

namespace JoinTurn

/-- The reply to a client that has these messages ahead of it. -/
def reply (ahead : BuildLog) : JoinTurn → Except Status ImageStream
  | refuses status => .error status
  | streams cut failure => .ok ((ahead.take cut).map .ok ++ failure.toList.map .error)

/-- What is read of the reply. -/
def heard (ahead : BuildLog) (turn : JoinTurn) : BuildLog :=
  match turn.reply ahead with
  | .error _ => []
  | .ok stream => ModalRs.heard stream

/-- The join fails with this status unless it is read no further. -/
def Fails (status : Status) : JoinTurn → Prop
  | refuses s => s = status
  | streams _ failure => failure = some status

/-- The join is answered, and its stream does not fail. -/
def unfailing : JoinTurn → Bool
  | refuses _ => false
  | streams _ failure => failure.isNone

/-- The join sends a log of this length to its end. -/
def whole (length : Nat) : JoinTurn → Bool
  | refuses _ => false
  | streams cut failure => failure.isNone && decide (length ≤ cut)

/-- The server answers joins of the image from the log. -/
def Answers (imageId : String) (log : BuildLog) (turn : JoinTurn) (server : ImageServer) : Prop :=
  ∀ lastEntryId, server.imageJoinStreaming ⟨imageId, 55, lastEntryId, false⟩ =
    turn.reply (behind entryId? (entryOf lastEntryId) log)

end JoinTurn

theorem collect_stops {read : BuildLog} {m : Pb.ImageJoinStreamingResponse}
    (hread : ∀ x ∈ read, x.stops = false) (hm : m.stops = true) (more : ImageStream)
    (lastEntry : String) :
    heard (read.map .ok ++ .ok m :: more) = read ++ [m] ∧
      collectStream lastEntry (read.map .ok ++ .ok m :: more) =
        .ok (some m, lastEntryOf lastEntry (read ++ [m])) := by
  induction read generalizing lastEntry with
  | nil => exact ⟨if_pos hm, if_pos hm⟩
  | cons x read ih =>
    obtain ⟨hx, hread⟩ := List.forall_mem_cons.mp hread
    have hgoes : ¬ x.stops = true := by
      rw [hx]
      exact Bool.false_ne_true
    obtain ⟨hheard, hcollect⟩ := ih hread (if x.entryId = "" then lastEntry else x.entryId)
    exact ⟨(if_neg hgoes).trans (congrArg (x :: ·) hheard), (if_neg hgoes).trans hcollect⟩

theorem collect_goes {read : BuildLog} (hread : ∀ x ∈ read, x.stops = false)
    (failure : Option Status) (lastEntry : String) :
    heard (read.map .ok ++ failure.toList.map .error) = read ∧
      collectStream lastEntry (read.map .ok ++ failure.toList.map .error) =
        match failure with
        | some status => .error (.grpc status)
        | none => .ok (none, lastEntryOf lastEntry read) := by
  induction read generalizing lastEntry with
  | nil =>
    cases failure with
    | none => exact ⟨rfl, rfl⟩
    | some status => exact ⟨rfl, rfl⟩
  | cons x read ih =>
    obtain ⟨hx, hread⟩ := List.forall_mem_cons.mp hread
    have hgoes : ¬ x.stops = true := by
      rw [hx]
      exact Bool.false_ne_true
    obtain ⟨hheard, hcollect⟩ := ih hread (if x.entryId = "" then lastEntry else x.entryId)
    exact ⟨(if_neg hgoes).trans (congrArg (x :: ·) hheard), (if_neg hgoes).trans hcollect⟩

/-- A list up to its first stop, if it has one. -/
theorem exists_stop (sent : BuildLog) : (∀ x ∈ sent, x.stops = false) ∨
    ∃ read m more, sent = read ++ m :: more ∧ (∀ x ∈ read, x.stops = false) ∧ m.stops = true := by
  induction sent with
  | nil => exact Or.inl nofun
  | cons x sent ih =>
    cases hx : x.stops with
    | true => exact Or.inr ⟨[], x, sent, rfl, nofun, hx⟩
    | false =>
      rcases ih with hsent | ⟨read, m, more, rfl, hread, hm⟩
      · exact Or.inl (List.forall_mem_cons.mpr ⟨hx, hsent⟩)
      · exact Or.inr ⟨x :: read, m, more, rfl, List.forall_mem_cons.mpr ⟨hx, hread⟩, hm⟩

/-- **One join** fails, or it reads up to a message that stops it, or to the end of its stream. -/
theorem join_cases (imageId lastEntryId : String) (ahead : BuildLog) (turn : JoinTurn) :
    (∃ status, turn.Fails status ∧ turn.heard ahead <+: ahead ∧
      imageJoinStreamingReply imageId lastEntryId (turn.reply ahead) = .error (.grpc status)) ∨
    (∃ read m more, ahead = read ++ m :: more ∧ (∀ x ∈ read, x.stops = false) ∧
      m.stops = true ∧ turn.heard ahead = read ++ [m] ∧
      imageJoinStreamingReply imageId lastEntryId (turn.reply ahead) =
        .ok ⟨m.result.map (joinedResult imageId), lastEntryOf lastEntryId (read ++ [m])⟩) ∨
    (∃ read more, ahead = read ++ more ∧ (∀ x ∈ read, x.stops = false) ∧
      (∀ n, ahead.length ≤ n → turn.whole n = true → more = []) ∧ turn.heard ahead = read ∧
      imageJoinStreamingReply imageId lastEntryId (turn.reply ahead) =
        .ok ⟨none, lastEntryOf lastEntryId read⟩) := by
  cases turn with
  | refuses status => exact Or.inl ⟨status, rfl, List.nil_prefix, rfl⟩
  | streams cut failure =>
    rcases exists_stop (ahead.take cut) with hsent | ⟨read, m, more, hsent, hread, hm⟩
    · obtain ⟨hheard, hcollect⟩ := collect_goes hsent failure lastEntryId
      cases failure with
      | some status =>
        refine Or.inl ⟨status, rfl, ?_, ?_⟩
        · show ModalRs.heard _ <+: ahead
          rw [hheard]
          exact List.take_prefix cut ahead
        · show collectStream _ _ >>= _ = _
          rw [hcollect]
          rfl
      | none =>
        refine Or.inr (Or.inr ⟨ahead.take cut, ahead.drop cut, (List.take_append_drop _ _).symm,
          hsent, fun n hlength hwhole => ?_, hheard, ?_⟩)
        · exact List.drop_eq_nil_of_le (hlength.trans (of_decide_eq_true hwhole))
        · show collectStream _ _ >>= _ = _
          rw [hcollect]
          rfl
    · have hstream : (ahead.take cut).map Except.ok ++ failure.toList.map Except.error =
          read.map .ok ++ .ok m :: (more.map .ok ++ failure.toList.map Except.error) := by
        rw [hsent, List.map_append, List.map_cons, List.append_assoc, List.cons_append]
      obtain ⟨hheard, hcollect⟩ := collect_stops hread hm
        (more.map .ok ++ failure.toList.map Except.error) lastEntryId
      refine Or.inr (Or.inl ⟨read, m, more ++ ahead.drop cut, ?_, hread, hm, ?_, ?_⟩)
      · rw [← List.cons_append, ← List.append_assoc, ← hsent, List.take_append_drop]
      · show ModalRs.heard _ = _
        rw [hstream, hheard]
      · show collectStream _ _ >>= _ = _
        rw [hstream, hcollect]
        rfl

/-! ## 3. All joins -/

theorem JoinTurn.Fails.not_unfailing {status : Status} {turn : JoinTurn} (h : turn.Fails status) :
    turn.unfailing = false := by
  cases turn with
  | refuses _ => rfl
  | streams cut failure =>
    cases h
    rfl

/-- What the joins have read, one piece each. -/
def piecesOf (log : BuildLog) (turns : List JoinTurn) (js : List JoinRun) : List BuildLog :=
  List.zipWith (fun turn j =>
    turn.heard (behind entryId? (entryOf j.lastEntryId) log)) turns js

/-- How the joins end that have these messages ahead of them: with the result that they come to,
    once all entries up to it have been read, or with the failure of the last join. Else they go on
    after the last turn. -/
def JoinsEnd (imageId : String) (ahead : BuildLog) (turns : List JoinTurn)
    (pieces : List BuildLog) : Res ModalError ImageBuildResult → Prop
  | .ok result => ∃ r, decided ahead = some r ∧ result = joinedResult imageId r ∧
      keyed entryId? pieces.flatten =
        keyed entryId? (upToResult ahead)
  | .error (.err e) => ∃ past turn more status, turns = past ++ turn :: more ∧
      pieces.length = past.length + 1 ∧ turn.Fails status ∧ e = .grpc status
  | .error .diverged => pieces.length = turns.length
  | .error (.panic _) => False

section Joins

variable {imageId lastEntryId : String} {log ahead : BuildLog} {turns : List JoinTurn}
  {servers : List ImageServer}

/-- **Going on from a join**: the client has passed all that is not ahead of it any more. -/
theorem goes_on {read more : BuildLog}
    (h : Stands entryId? log (entryOf lastEntryId) (read ++ more))
    (hread : ∀ x ∈ read.dropLast, x.stops = false) (hresult : ∀ x ∈ read, x.result = none) :
    ∃ past again, read = past ++ again ∧ (∀ x ∈ past, x.Passed) ∧ (∀ x ∈ again, x.entryId? = none) ∧
      Stands entryId? log (entryOf (lastEntryOf lastEntryId read))
        (again ++ more) := by
  obtain ⟨past, again, heq, hagain, hbefore, hstands⟩ := h.reads
  rw [← entryOf_lastEntryOf] at hstands
  refine ⟨past, again, heq, fun x hx => ?_, hagain, hstands⟩
  rcases List.eq_nil_or_concat read with rfl | ⟨init, m, hinit⟩
  · rw [(List.append_eq_nil_iff.mp heq.symm).1] at hx
    cases hx
  · rw [List.concat_eq_append] at hinit
    have hpassed : ∀ y ∈ init, y.Passed := by
      intro y hy
      refine Pb.ImageJoinStreamingResponse.passed_of_not_stops (hread y ?_)
      rw [hinit, List.dropLast_concat]
      exact hy
    by_cases hid : m.entryId? = none
    · exact hpassed x ((hbefore init m hinit hid).subset hx)
    · have hmem : x ∈ init ++ [m] := by
        rw [← hinit, heq]
        exact List.mem_append_left _ hx
      rcases List.mem_append.mp hmem with hx | hx
      · exact hpassed x hx
      · rw [List.mem_singleton.mp hx]
        refine ⟨hresult m ?_, fun _ => hid⟩
        rw [hinit]
        exact List.mem_append_right _ List.mem_cons_self

/-- Behind a message with an id nothing of the piece comes again. -/
theorem again_nil {read past again : BuildLog} {m : Pb.ImageJoinStreamingResponse}
    (h : read ++ [m] = past ++ again) (hagain : ∀ x ∈ again, x.entryId? = none)
    (hm : m.entryId? ≠ none) : again = [] := by
  rcases List.eq_nil_or_concat again with rfl | ⟨init, y, rfl⟩
  · rfl
  · rw [List.concat_eq_append] at h hagain
    rw [← List.append_assoc] at h
    obtain ⟨-, hlast⟩ := List.append_inj' h rfl
    cases hlast
    exact absurd (hagain m (List.mem_append_right _ List.mem_cons_self)) hm

/-- The entries of a piece are those that are passed with it. -/
theorem keyed_piece {past again : BuildLog} (hagain : ∀ x ∈ again, x.entryId? = none) :
    keyed entryId? (past ++ again) =
      keyed entryId? past := by
  rw [keyed_append, keyed_eq_nil hagain, List.append_nil]

theorem piecesOf_nil (log : BuildLog) (turns : List JoinTurn) : piecesOf log turns [] = [] :=
  List.zipWith_nil_right

/-- A join more before an end is one before the same end. -/
theorem JoinsEnd.next {past again more : BuildLog} {turn : JoinTurn} {pieces : List BuildLog}
    {out : Res ModalError ImageBuildResult} (hpast : ∀ x ∈ past, x.Passed)
    (hagain : ∀ x ∈ again, x.entryId? = none)
    (h : JoinsEnd imageId (again ++ more) turns pieces out) :
    JoinsEnd imageId (past ++ again ++ more) (turn :: turns) ((past ++ again) :: pieces) out := by
  rw [List.append_assoc]
  rcases out with (e | p | _) | result
  · obtain ⟨before, failing, behind, status, rfl, hlength, hfails, rfl⟩ := h
    refine ⟨turn :: before, failing, behind, status, rfl, ?_, hfails, rfl⟩
    rw [List.length_cons, List.length_cons, hlength]
  · exact h
  · exact congrArg (· + 1) h
  · obtain ⟨r, hdecided, rfl, hread⟩ := h
    refine ⟨r, (decided_append hpast).trans hdecided, rfl, ?_⟩
    rw [List.flatten_cons, keyed_append, keyed_piece hagain, hread,
      upToResult_append fun x hx => (hpast x hx).1, keyed_append]

/-- What a join comes to that has these messages ahead of it. -/
theorem JoinTurn.Answers.join {turn : JoinTurn} {server : ImageServer}
    (hlog : Distinct entryId? log) (h : turn.Answers imageId log server)
    (hstands : Stands entryId? log (entryOf lastEntryId) ahead) :
    server.client.imageJoinStreaming imageId lastEntryId =
      imageJoinStreamingReply imageId lastEntryId (turn.reply ahead) := by
  show imageJoinStreamingReply imageId lastEntryId (server.imageJoinStreaming _) = _
  rw [h lastEntryId, hstands.behind_eq hlog]

/-- **What a join can do**: fail, come to the result, or go on with what it has not passed. A whole
    stream that goes on to a result has passed an eof. -/
theorem join_step {turn : JoinTurn} {server : ImageServer} (hlog : Distinct entryId? log)
    (hserver : turn.Answers imageId log server)
    (hstands : Stands entryId? log (entryOf lastEntryId) ahead) :
    (∃ status, turn.Fails status ∧ turn.heard ahead <+: ahead ∧
      server.client.imageJoinStreaming imageId lastEntryId = .error (.grpc status)) ∨
    (∃ read m more r last, ahead = read ++ m :: more ∧ (∀ x ∈ read, x.Passed) ∧
      m.result = some r ∧ turn.heard ahead = read ++ [m] ∧
      server.client.imageJoinStreaming imageId lastEntryId =
        .ok ⟨some (joinedResult imageId r), last⟩) ∨
    (∃ past again more last, ahead = past ++ again ++ more ∧ (∀ x ∈ past, x.Passed) ∧
      (∀ x ∈ again, x.entryId? = none) ∧ turn.heard ahead = past ++ again ∧
      Stands entryId? log (entryOf last) (again ++ more) ∧
      (∀ r, decided ahead = some r → turn.whole log.length = true →
        eofs (again ++ more) < eofs ahead) ∧
      server.client.imageJoinStreaming imageId lastEntryId = .ok ⟨none, last⟩) := by
  rw [hserver.join hlog hstands]
  have hpassed : ∀ {read : BuildLog}, (∀ x ∈ read, x.stops = false) → ∀ x ∈ read, x.Passed :=
    fun hread x hx => Pb.ImageJoinStreamingResponse.passed_of_not_stops (hread x hx)
  rcases join_cases imageId lastEntryId ahead turn with
    hfails | ⟨read, m, more, hahead, hread, hm, hheard, hreply⟩ |
      ⟨read, more, hahead, hread, hall, hheard, hreply⟩
  · exact Or.inl hfails
  · right
    cases hresult : m.result with
    | some r =>
      rw [hresult] at hreply
      exact Or.inl ⟨read, m, more, r, _, hahead, hpassed hread, hresult, hheard, hreply⟩
    | none =>
      -- an eof without a result
      have heof : m.eof = true := by
        rwa [Pb.ImageJoinStreamingResponse.stops, hresult] at hm
      have hpiece : ahead = (read ++ [m]) ++ more := by
        rw [hahead, List.append_assoc, List.singleton_append]
      have hnone : ∀ x ∈ read ++ [m], x.result = none :=
        List.forall_mem_append.mpr ⟨fun x hx => (hpassed hread x hx).1,
          List.forall_mem_singleton.mpr hresult⟩
      rw [hpiece] at hstands
      obtain ⟨past, again, heq, hpast, hagain, hstands'⟩ := goes_on hstands
        (by rw [List.dropLast_concat]; exact hread) hnone
      rw [hresult] at hreply
      refine Or.inr ⟨past, again, more, _, ?_, hpast, hagain, hheard.trans heq, hstands',
        fun r hdecided _ => ?_, hreply⟩
      · rw [hpiece, heq]
      · rw [hahead, decided_append (hpassed hread)] at hdecided
        rw [again_nil heq hagain ((passed_of_decided hdecided hresult).2 heof), List.nil_append,
          hahead, eofs, eofs, List.countP_append, List.countP_cons_of_pos heof]
        omega
  · rw [hahead] at hstands
    obtain ⟨past, again, heq, hpast, hagain, hstands'⟩ := goes_on hstands
      (fun x hx => hread x (List.mem_of_mem_dropLast hx)) fun x hx => (hpassed hread x hx).1
    refine Or.inr (Or.inr ⟨past, again, more, _, ?_, hpast, hagain, hheard.trans heq, hstands',
      fun r hdecided hwhole => ?_, hreply⟩)
    · rw [hahead, heq]
    · have hlength : ahead.length ≤ log.length := by
        rw [hahead]
        exact hstands.suffix.length_le
      rw [hahead, hall _ hlength hwhole, decided_append (hpassed hread)] at hdecided
      cases hdecided

/-- **The joins, whatever becomes of them**: entries are read in order, each once, and they end as
    said. -/
theorem joinLoop_reads (hlog : Distinct entryId? log)
    (hservers : List.Forall₂ (JoinTurn.Answers imageId log) turns servers)
    (hstands : Stands entryId? log (entryOf lastEntryId) ahead) {es : List ImageEvent}
    {out : Res ModalError ImageBuildResult} {rest : List ImageAnswer}
    (h : joinLoop imageId lastEntryId (servers.map ImageServer.client) = (es, out, rest)) :
    ∃ js, es = joinEvents imageId js ∧
      keyed entryId? (piecesOf log turns js).flatten <+: keyed entryId? ahead ∧
        JoinsEnd imageId ahead turns (piecesOf log turns js) out := by
  induction hservers generalizing lastEntryId ahead es out rest with
  | nil =>
    cases h
    exact ⟨[], rfl, List.nil_prefix, rfl⟩
  | @cons turn server turns servers hserver hservers ih =>
    have hpieces : ∀ reply js, piecesOf log (turn :: turns) (⟨lastEntryId, reply⟩ :: js) =
        turn.heard ahead :: piecesOf log turns js := by
      intro reply js
      show turn.heard (behind entryId? (entryOf lastEntryId) log) :: _ = _
      rw [hstands.behind_eq hlog]
      rfl
    rw [List.map_cons] at h
    rcases join_step hlog hserver hstands with ⟨status, hfails, hheard, hreply⟩ |
      ⟨read, m, more, r, last, rfl, hread, hresult, hheard, hreply⟩ |
        ⟨past, again, more, last, rfl, hpast, hagain, hheard, hstands', -, hreply⟩
    · rw [joinLoop, Exchange.askWhile_error (e := .err (.grpc status)) (by rw [hreply]; rfl),
        hreply] at h
      cases h
      refine ⟨[⟨lastEntryId, .error (.grpc status)⟩], rfl, ?_, ?_⟩
      · rw [hpieces, piecesOf_nil, List.flatten_singleton]
        exact hheard.filter _
      · rw [hpieces, piecesOf_nil]
        exact ⟨[], turn, turns, status, rfl, rfl, hfails, rfl⟩
    · rw [joinLoop, Exchange.askWhile_value (a := joinedResult imageId r) (by rw [hreply]; rfl),
        hreply] at h
      cases h
      have hup : upToResult (read ++ m :: more) = read ++ [m] := by
        rw [upToResult_append fun x hx => (hread x hx).1, upToResult, hresult]
        rfl
      refine ⟨[⟨lastEntryId, _⟩], rfl, ?_, ?_⟩
      · rw [hpieces, piecesOf_nil, List.flatten_singleton, hheard, List.append_cons read m more,
          keyed_append entryId? (read ++ [m])]
        exact List.prefix_append _ _
      · rw [hpieces, piecesOf_nil, hheard]
        refine ⟨r, ?_, rfl, ?_⟩
        · rw [decided_append hread, decided, hresult]
        · rw [List.flatten_singleton, hup]
    · rcases hloop : joinLoop imageId last (servers.map ImageServer.client) with ⟨es', out', rest'⟩
      rw [joinLoop, Exchange.askWhile_goes (by rw [hreply]; rfl) hloop, hreply] at h
      cases h
      obtain ⟨js, rfl, hprefix, hend⟩ := ih hstands' hloop
      refine ⟨⟨lastEntryId, _⟩ :: js, rfl, ?_, ?_⟩
      · rw [hpieces, hheard, List.flatten_cons, keyed_append, keyed_piece hagain,
          List.append_assoc, keyed_append entryId? past]
        exact (List.prefix_append_right_inj _).mpr hprefix
      · rw [hpieces, hheard]
        exact hend.next hpast hagain

/-- **The joins come to the result**, if the log does and enough of them send it to its end. -/
theorem joinLoop_decided (hlog : Distinct entryId? log)
    (hservers : List.Forall₂ (JoinTurn.Answers imageId log) turns servers)
    (hstands : Stands entryId? log (entryOf lastEntryId) ahead)
    (hunfailing : ∀ turn ∈ turns, turn.unfailing = true) {r : Pb.ImageResult}
    (hdecided : decided ahead = some r)
    (hwhole : eofs ahead < turns.countP (JoinTurn.whole log.length)) :
    (joinLoop imageId lastEntryId (servers.map ImageServer.client)).2.1 =
      .ok (joinedResult imageId r) := by
  induction hservers generalizing lastEntryId ahead with
  | nil => exact absurd hwhole (Nat.not_lt_zero _)
  | @cons turn server turns servers hserver hservers ih =>
    obtain ⟨hturn, hturns⟩ := List.forall_mem_cons.mp hunfailing
    rw [List.map_cons]
    rcases join_step hlog hserver hstands with ⟨status, hfails, -, -⟩ |
      ⟨read, m, more, r', last, rfl, hread, hresult, -, hreply⟩ |
        ⟨past, again, more, last, rfl, hpast, -, -, hstands', hfewer, hreply⟩
    · rw [hfails.not_unfailing] at hturn
      cases hturn
    · rw [decided_append hread, decided, hresult] at hdecided
      cases hdecided
      rw [joinLoop, Exchange.askWhile_value (a := joinedResult imageId r) (by rw [hreply]; rfl)]
    · have hahead : eofs (past ++ again ++ more) = eofs past + eofs (again ++ more) := by
        rw [List.append_assoc]
        exact List.countP_append
      -- a turn that is whole has passed an eof, any other does not count
      have hleft : eofs (again ++ more) < turns.countP (JoinTurn.whole log.length) := by
        rw [List.countP_cons] at hwhole
        split at hwhole
        · next hw =>
          have hless := hfewer r hdecided hw
          omega
        · omega
      rw [List.append_assoc, decided_append hpast] at hdecided
      have hrest := ih hstands' hturns hdecided hleft
      rcases hloop : joinLoop imageId last (servers.map ImageServer.client) with ⟨es', out', rest'⟩
      rw [hloop] at hrest
      rw [joinLoop, Exchange.askWhile_goes (by rw [hreply]; rfl) hloop]
      exact hrest

end Joins

/-! ## 4. A layer -/

section Layer

variable {image : Image} {params : ImageBuildParams} {builderVersion : String} {i : Nat}
  {layer : Layer} {current imageId : String} {log : BuildLog} {turns : List JoinTurn}
  {create : ImageServer} {servers : List ImageServer}

/-- A layer whose image is pending does what its joins do, and then turns their result into one. -/
theorem buildLayer_pending (hgpu : ∃ gpuConfig, layerGpuConfig layer = .ok gpuConfig)
    (hcreate : create.Pending imageId) (script : List ImageAnswer) : ∃ request,
      buildLayer image params builderVersion i layer current (create.client :: script) =
        (.getOrCreate request (.ok ⟨imageId, .pending, none⟩) :: (joinLoop imageId "" script).1,
          (joinLoop imageId "" script).2.1 >>= fun result => liftExcept result.intoResult,
          (joinLoop imageId "" script).2.2) := by
  obtain ⟨gpuConfig, hgpu⟩ := hgpu
  have hreply : ∀ request, create.client.imageGetOrCreate request =
      .ok ⟨imageId, .pending, none⟩ := by
    intro request
    show imageGetOrCreateReply (create.imageGetOrCreate _) = _
    rw [hcreate]
    rfl
  refine ⟨buildRequest image params builderVersion i layer gpuConfig current, ?_⟩
  rw [buildLayer, hgpu, Exchange.bind_of_silent (a := gpuConfig) rfl, Exchange.bind_apply,
    imageGetOrCreate_cons (hreply _)]
  rcases hloop : joinLoop imageId "" script with ⟨es, e | result, rest⟩
  · simp only [liftExcept_value, if_pos, Exchange.bind_apply, hloop]
    rfl
  · simp only [liftExcept_value, if_pos, Exchange.bind_apply, hloop]
    show (_ :: (es ++ []), _, _) = _
    rw [List.append_nil]
    rfl

variable (hgpu : ∃ gpuConfig, layerGpuConfig layer = .ok gpuConfig)
  (hcreate : create.Pending imageId) (hlog : Distinct entryId? log)
  (hservers : List.Forall₂ (JoinTurn.Answers imageId log) turns servers)

include hgpu hcreate hlog hservers

/-- **No entry of a build log is lost, repeated or moved**, whichever streams break off or fail; a
    layer comes to the result that its log comes to, and only after all entries up to it. -/
theorem joins_gap_free {es : List ImageEvent} {out : Res ModalError String}
    {rest : List ImageAnswer}
    (h : buildLayer image params builderVersion i layer current
      ((create :: servers).map ImageServer.client) = (es, out, rest)) :
    ∃ request js joined,
      es = .getOrCreate request (.ok ⟨imageId, .pending, none⟩) :: joinEvents imageId js ∧
      keyed entryId? (piecesOf log turns js).flatten <+: keyed entryId? log ∧
      JoinsEnd imageId log turns (piecesOf log turns js) joined ∧
      out = joined >>= fun result => liftExcept result.intoResult := by
  obtain ⟨request, hlayer⟩ := buildLayer_pending hgpu hcreate (servers.map ImageServer.client)
  rcases hloop : joinLoop imageId "" (servers.map ImageServer.client) with ⟨es', joined, rest'⟩
  obtain ⟨js, rfl, hprefix, hend⟩ := joinLoop_reads hlog hservers .start hloop
  rw [List.map_cons, hlayer, hloop] at h
  cases h
  exact ⟨request, js, joined, rfl, hprefix, hend, rfl⟩

/-- **A layer comes to exactly what its log comes to**, if no stream fails and more of them are sent
    to the end of the log than the log itself ends. -/
theorem joined_layer_exactly (hunfailing : ∀ turn ∈ turns, turn.unfailing = true)
    (hwhole : eofs log < turns.countP (JoinTurn.whole log.length)) :
    (buildLayer image params builderVersion i layer current
        ((create :: servers).map ImageServer.client)).2.1 =
      ofOutcome ((decided log).map fun r => (joinedResult imageId r).intoResult) := by
  obtain ⟨request, hlayer⟩ := buildLayer_pending hgpu hcreate (servers.map ImageServer.client)
  rw [List.map_cons, hlayer]
  cases hdecided : decided log with
  | some r =>
    rw [joinLoop_decided hlog hservers .start hunfailing hdecided hwhole]
    rfl
  | none =>
    rcases hloop : joinLoop imageId "" (servers.map ImageServer.client) with ⟨es, joined, rest⟩
    obtain ⟨js, -, -, hend⟩ := joinLoop_reads hlog hservers .start hloop
    rcases joined with (e | p | _) | result
    · obtain ⟨past, turn, more, status, rfl, -, hfails, -⟩ := hend
      have hturn := hunfailing turn (List.mem_append_right _ List.mem_cons_self)
      rw [hfails.not_unfailing] at hturn
      cases hturn
    · exact hend.elim
    · rfl
    · obtain ⟨r, hsome, -⟩ := hend
      rw [hdecided] at hsome
      cases hsome

end Layer

/-- A server of one image, whose build has this log. -/
def logServer (imageId : String) (log : BuildLog) (turn : JoinTurn) : ImageServer where
  imageGetOrCreate _ := .ok ⟨imageId, none⟩
  imageJoinStreaming request := turn.reply (behind entryId? (entryOf request.lastEntryId) log)

theorem logServers_answer (imageId : String) (log : BuildLog) (turns : List JoinTurn) :
    List.Forall₂ (JoinTurn.Answers imageId log) turns (turns.map (logServer imageId log)) :=
  List.forall₂_map_right_iff.mpr (List.forall₂_same.mpr fun _ _ _ => rfl)

/-- A log with an eof before its result, and with a message that has no id. -/
def eofLog : BuildLog :=
  [⟨none, "1-0", false⟩, ⟨none, "", false⟩, ⟨none, "2-0", true⟩, ⟨some ⟨1, ""⟩, "3-0", false⟩]

/-- Two streams that break off, and two that do not. -/
def eofTurns : List JoinTurn :=
  [.streams 2 none, .streams 1 none, .streams 9 none, .streams 9 none]

/-- The servers of that build: one for its request, and one for each of the joins. -/
def eofServers : List ImageServer :=
  (.refuses ⟨.unavailable, ""⟩ :: eofTurns).map (logServer "im-1" eofLog)

/-- The build of a layer against them. -/
def eofLayer : List ImageEvent × Res ModalError String × List ImageAnswer :=
  buildLayer (Image.fromRegistry "alpine:3.21" none) {} "2024.10" 0 {} ""
    (eofServers.map ImageServer.client)

theorem eofLog_distinct : Distinct entryId? eofLog := by
  unfold Distinct
  decide

/-- Its entries are read in order. -/
theorem joins_gap_free_eof : ∃ request js joined,
    eofLayer.1 = .getOrCreate request (.ok ⟨"im-1", .pending, none⟩) :: joinEvents "im-1" js ∧
    keyed entryId? (piecesOf eofLog eofTurns js).flatten <+: keyed entryId? eofLog ∧
    JoinsEnd "im-1" eofLog eofTurns (piecesOf eofLog eofTurns js) joined ∧
    eofLayer.2.1 = joined >>= fun result => liftExcept result.intoResult := by
  have hrun : buildLayer (Image.fromRegistry "alpine:3.21" none) {} "2024.10" 0 {} ""
      (eofServers.map ImageServer.client) = (eofLayer.1, eofLayer.2.1, eofLayer.2.2) := rfl
  exact joins_gap_free ⟨none, rfl⟩ (fun _ => rfl) eofLog_distinct
    (logServers_answer "im-1" eofLog eofTurns) hrun

/-- The layer comes to its image. -/
theorem joined_layer_exactly_eof : eofLayer.2.1 = .ok "im-1" :=
  joined_layer_exactly ⟨none, rfl⟩ (fun _ => rfl) eofLog_distinct
    (logServers_answer "im-1" eofLog eofTurns) (by decide) (by decide)

/-- An eof without an id bars the way to a result: it is read again in every join. -/
example :
    decided [⟨none, "1-0", false⟩, ⟨none, "", true⟩, ⟨some ⟨1, ""⟩, "2-0", false⟩] = none := rfl

end ModalRs
