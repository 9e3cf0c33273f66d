/-
  File:      ModalRs/Lib/Resume.lean
  Subject:   Reading a log in pieces, each from the last seen id on.

  Not every message of a log has an id. A reader that takes up its reading again gets
  the messages behind the last id it saw, so those without one may come twice.

  * `behind`, `lastSeen`: what is sent to a reader, and the id it has after a piece.
  * `Stands`: how much of the log is still ahead of a reader; `Stands.behind_eq`: it is sent that.
  * `Stands.reads`: reading a piece moves the reader to behind its last message with an id.
-/
import Mathlib.Data.List.Infix

namespace ModalRs.Lib.Resume

variable {M K : Type} [DecidableEq K] (id? : M → Option K)

/-- The messages behind the one with this id; all of them if there is no id yet. -/
def behind : Option K → List M → List M
  | none, log => log
  | some k, log => (log.dropWhile fun m => id? m ≠ some k).tail

/-- The last id that was seen, after some more messages. -/
def lastSeen (seen : Option K) (read : List M) : Option K :=
  read.foldl (fun seen m => (id? m).or seen) seen

/-- The messages with an id. -/
def keyed (log : List M) : List M := log.filter fun m => (id? m).isSome

/-- No two messages have the same id. -/
def Distinct (log : List M) : Prop := log.Pairwise fun m m' => id? m = id? m' → id? m = none

/-- Where a reader stands in a log: at its start, or behind the message that it saw last. -/
inductive Stands (log : List M) : Option K → List M → Prop where
  | start : Stands log none log
  | behind {before ahead : List M} {m : M} {k : K} (hlog : log = before ++ m :: ahead)
      (hid : id? m = some k) : Stands log (some k) ahead

section Lists

omit [DecidableEq K]

theorem keyed_append (read more : List M) :
    keyed id? (read ++ more) = keyed id? read ++ keyed id? more := List.filter_append _ _

theorem lastSeen_snoc (seen : Option K) (read : List M) (m : M) :
    lastSeen id? seen (read ++ [m]) = (id? m).or (lastSeen id? seen read) := by
  rw [lastSeen, List.foldl_append]
  rfl

variable {id?}

theorem keyed_eq_nil {read : List M} (h : ∀ m ∈ read, id? m = none) : keyed id? read = [] := by
  refine List.filter_eq_nil_iff.mpr fun m hm => ?_
  rw [h m hm]
  exact Bool.false_ne_true

theorem Stands.suffix {log ahead : List M} {seen : Option K} (h : Stands id? log seen ahead) :
    ahead <:+ log := by
  cases h with
  | start => exact List.suffix_rfl
  | @behind before _ m _ hlog =>
    rw [hlog]
    exact (List.suffix_cons m ahead).trans (List.suffix_append before _)

/-- **Reading a piece**: the reader then stands behind its last message with an id. What of the
    piece came after that one is ahead once more, and none of it has an id. -/
theorem Stands.reads {log read ahead : List M} {seen : Option K}
    (h : Stands id? log seen (read ++ ahead)) :
    ∃ past again, read = past ++ again ∧ (∀ m ∈ again, id? m = none) ∧
      (∀ init m, read = init ++ [m] → id? m = none → past <+: init) ∧
      Stands id? log (lastSeen id? seen read) (again ++ ahead) := by
  induction read using List.reverseRecOn generalizing ahead with
  | nil => exact ⟨[], [], rfl, nofun, fun _ _ _ _ => List.nil_prefix, h⟩
  | append_singleton read m ih =>
    rw [List.append_assoc, List.singleton_append] at h
    obtain ⟨past, again, hread, hagain, -, hstands⟩ := ih h
    rw [lastSeen_snoc]
    cases hid : id? m with
    | none =>
      refine ⟨past, again ++ [m], by rw [hread, List.append_assoc], ?_, ?_, ?_⟩
      · exact List.forall_mem_append.mpr ⟨hagain, List.forall_mem_singleton.mpr hid⟩
      · intro init m' heq _
        obtain ⟨rfl, -⟩ := List.append_inj' heq rfl
        exact ⟨again, hread.symm⟩
      · rw [List.append_assoc, List.singleton_append]
        exact hstands
    | some k =>
      obtain ⟨before, hlog⟩ := hstands.suffix
      refine ⟨read ++ [m], [], (List.append_nil _).symm, nofun, ?_, ?_⟩
      · intro init m' heq hnone
        obtain ⟨-, heq⟩ := List.append_inj' heq rfl
        cases heq
        rw [hnone] at hid
        cases hid
      · exact .behind (hlog.symm.trans (List.append_assoc before again _).symm) hid

end Lists

/-- **A reader is sent what is ahead of it.** -/
theorem Stands.behind_eq {id? : M → Option K} {log ahead : List M} {seen : Option K}
    (hlog : Distinct id? log) (h : Stands id? log seen ahead) :
    Resume.behind id? seen log = ahead := by
  cases h with
  | start => rfl
  | @behind before _ m k heq hid =>
    subst heq
    -- no message before `m` has its id
    have hother : ∀ x ∈ before, decide (id? x ≠ some k) = true := by
      intro x hx
      refine decide_eq_true fun hsame => ?_
      have hnone := (List.pairwise_append.mp hlog).2.2 x hx m List.mem_cons_self
        (hsame.trans hid.symm)
      rw [hsame] at hnone
      cases hnone
    have hstop : decide (id? m ≠ some k) = false := decide_eq_false (not_not.mpr hid)
    rw [Resume.behind, List.dropWhile_append_of_pos hother,
      List.dropWhile_cons_of_neg (by rw [hstop]; exact Bool.false_ne_true), List.tail_cons]

end ModalRs.Lib.Resume
