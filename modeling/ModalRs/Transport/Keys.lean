/-
  File:      ModalRs/Transport/Keys.lean
  Subject:   Idempotency keys: many retried calls at once, over one global counter.

  The clock may say anything: it may stand still or go backwards. The counter has
  64 bits and wraps.

  * `generateIdempotencyKey_inj`: a key spells its time and its number.
  * `retries`: calls in any interleaving; `shared_counter`: the counter has the number of
    numbers taken.
  * `Stamped`: the time and the number of a call; `keys_collide_exactly`: whose attempts
    have the same key.
-/
import ModalRs.Lib.Layers
import ModalRs.Lib.Threads
import ModalRs.Transport.Calls
import Mathlib.Data.List.Induction

namespace ModalRs

open ModalRs.Lib ModalRs.Rust

/-! ## 1. What a key spells -/

theorem digitChar_inj {m n : Nat} (hm : m < 16) (hn : n < 16) (h : m.digitChar = n.digitChar) :
    m = n := by
  have hall : ∀ a : Fin 16, ∀ b : Fin 16,
      a.val.digitChar = b.val.digitChar → a = b := by decide
  exact congrArg Fin.val (hall ⟨m, hm⟩ ⟨n, hn⟩ h)

/-- The digits of a number tell which it is: so do the last one and those before it. -/
theorem toDigits_inj (m : Nat) : ∀ n, Nat.toDigits 16 m = Nat.toDigits 16 n → m = n := by
  induction m using Nat.strongRecOn with
  | ind m ih =>
    intro n h
    rw [Nat.toDigits_eq_if (by decide), Nat.toDigits_eq_if (n := n) (by decide)] at h
    split_ifs at h with hm hn hn
    · exact digitChar_inj hm hn (List.cons.inj h).1
    · exact absurd (List.append_eq_singleton_iff.mp h.symm) (by simp)
    · exact absurd (List.append_eq_singleton_iff.mp h) (by simp)
    · obtain ⟨hfront, hlast⟩ := List.append_inj' h rfl
      have hhigh := ih (m / 16) (by omega) (n / 16) hfront
      have hlow := digitChar_inj (by omega) (by omega) (List.cons.inj hlast).1
      omega

theorem dash_not_mem_toDigits (n : Nat) : '-' ∉ Nat.toDigits 16 n := by
  have hdigit : ∀ d : Fin 16, '-' ≠ d.val.digitChar := by decide
  induction n using Nat.strongRecOn with
  | ind n ih =>
    rw [Nat.toDigits_eq_if (by decide)]
    split_ifs with hn
    · exact fun hmem => hdigit ⟨n, hn⟩ (List.mem_singleton.mp hmem)
    · rw [List.mem_append, List.mem_singleton]
      rintro (hfront | hlast)
      · exact ih (n / 16) (by omega) hfront
      · exact hdigit ⟨n % 16, by omega⟩ hlast

/-- What stands before the first dash, and what stands behind it. -/
theorem append_dash_inj {xs xs' ys ys' : List Char} (hxs : '-' ∉ xs) (hxs' : '-' ∉ xs')
    (h : xs ++ '-' :: ys = xs' ++ '-' :: ys') : xs = xs' ∧ ys = ys' := by
  induction xs generalizing xs' with
  | nil =>
    cases xs' with
    | nil => exact ⟨rfl, (List.cons.inj h).2⟩
    | cons x xs' => exact absurd ((List.cons.inj h).1 ▸ List.mem_cons_self) hxs'
  | cons x xs ih =>
    cases xs' with
    | nil => exact absurd ((List.cons.inj h).1 ▸ List.mem_cons_self) hxs
    | cons x' xs' =>
      obtain ⟨rfl, hrest⟩ := List.cons.inj h
      obtain ⟨rfl, hys⟩ := ih (fun hmem => hxs (List.mem_cons_of_mem _ hmem))
        (fun hmem => hxs' (List.mem_cons_of_mem _ hmem)) hrest
      exact ⟨rfl, hys⟩

/-- **A key spells its time and its number**: hexadecimal digits, a dash, and more of them. -/
theorem generateIdempotencyKey_inj {nanos seq nanos' seq' : Nat} :
    generateIdempotencyKey nanos seq = generateIdempotencyKey nanos' seq' ↔
      nanos = nanos' ∧ seq = seq' := by
  constructor
  · intro h
    have hchars := congrArg String.toList h
    simp only [generateIdempotencyKey, lowerHex, String.toList_append, String.toList_ofList,
      List.append_assoc] at hchars
    obtain ⟨hnanos, hseq⟩ := append_dash_inj (dash_not_mem_toDigits nanos)
      (dash_not_mem_toDigits nanos') hchars
    exact ⟨toDigits_inj nanos nanos' hnanos, toDigits_inj seq seq' hseq⟩
  · rintro ⟨rfl, rfl⟩
    rfl

/-! ## 2. Many calls -/

variable {M : Type} {V : M → Type}

/-- What an action does to the counter; the clock, the server and the timer answer as they like. -/
def performRetry : UInt64 → (a : RetryAction M) → a.Reply V → a.Reply V × UInt64
  | counter, .takeNumber, _ => (counter.toNat, counter + 1)
  | counter, .readClock, nanos => (nanos, counter)
  | counter, .attempt _ _, reply => (reply, counter)
  | counter, .sleep _, r => (r, counter)

/-- A call with its configuration. -/
structure RetriedCall (M : Type) where
  config : GrpcRetryConfig
  call : M

/-- What a call returns. -/
abbrev RetriedValue (V : M → Type) : Type := Σ call, Res ModalError (V call)

def RetriedCall.program (k : RetriedCall M) : RetryProgram V (RetriedValue V) :=
  retryCall k.config k.call >>= fun r => pure ⟨k.call, r⟩

/-- What happens: calls are started, and perform their actions. -/
abbrev RetryHappening (V : M → Type) : Type :=
  Happening (RetriedCall M) (RetryAction M) (RetryAction.Reply V)

abbrev RetryMove (V : M → Type) : Type :=
  Move (RetriedCall M) (RetryAction M) (RetryAction.Reply V)

/-- The process after some moves. -/
def retries (moves : List (RetryMove V)) :
    Pool UInt64 (RetriedCall M) (RetryAction M) (RetryAction.Reply V) (RetriedValue V) :=
  Pool.run RetriedCall.program performRetry moves (Pool.initial 0)

def takesNumber : RetryHappening V → Bool
  | .step _ ⟨.takeNumber, _⟩ => true
  | _ => false

/-- How many numbers were taken. -/
def taken (h : List (RetryHappening V)) : Nat := h.countP takesNumber

theorem taken_snoc (h : List (RetryHappening V)) (e : RetryHappening V) :
    taken (h ++ [e]) = taken h + (takesNumber e).toNat := by
  rw [taken, List.countP_append, List.countP_singleton]
  cases takesNumber e with
  | true => rfl
  | false => rfl

/-- **The counter has the number of numbers taken**, as far as it can count. -/
theorem shared_counter (ms : List (RetryMove V)) :
    (retries ms).shared = UInt64.ofNat (taken (retries ms).history) := by
  refine Pool.run_invariant (I := fun g => g.shared = UInt64.ofNat (taken g.history))
    (fun g m h => ?_) ms _ rfl
  rcases Pool.move_cases RetriedCall.program performRetry g m with
    hsame | ⟨i, k, -, hstart⟩ | ⟨i, k, a, next, r, hstep⟩
  · rw [hsame, h]
  · rw [hstart, taken_snoc]
    exact h
  · obtain ⟨answer, hperform⟩ := hstep.shared
    rw [hstep.history, taken_snoc]
    cases a with
    | takeNumber =>
      rw [← (Prod.mk.inj hperform).2, h, takesNumber, Bool.toNat_true, UInt64.ofNat_add]
      rfl
    | readClock => exact (Prod.mk.inj hperform).2.symm.trans h
    | attempt call ctx => exact (Prod.mk.inj hperform).2.symm.trans h
    | sleep d => exact (Prod.mk.inj hperform).2.symm.trans h

/-- A number that is taken is how many were taken before, as far as the counter can count. -/
theorem number_taken {ms : List (RetryMove V)} {i r : Nat} {before behind : List (RetryHappening V)}
    (h : (retries ms).history = before ++ .step i ⟨.takeNumber, r⟩ :: behind) :
    r = taken before % 2 ^ 64 := by
  obtain ⟨ms₁, m, ms₂, k, next, -, hbefore, hstep⟩ := Pool.run_performed h
  obtain ⟨answer, hperform⟩ := hstep.shared
  have hcounter := shared_counter ms₁
  rw [show (retries ms₁).history = before from hbefore] at hcounter
  calc r = (retries ms₁).shared.toNat := (Prod.mk.inj hperform).1.symm
    _ = taken before % 2 ^ 64 := by rw [hcounter, UInt64.toNat_ofNat']

/-! ## 3. Keys -/

/-- The attempts of call `i`: what is called, and the contexts. -/
def attemptsOf (i : Nat) (h : List (RetryHappening V)) : List (M × RetryContext) :=
  (Pool.own i h).filterMap attemptOf

/-- Call `i` read `nanos` off the clock, and took its number behind `n` others. -/
structure Stamped (h : List (RetryHappening V)) (i nanos n : Nat) : Prop where
  clock : .step i ⟨.readClock, nanos⟩ ∈ h
  number : ∃ before r behind, h = before ++ .step i ⟨.takeNumber, r⟩ :: behind ∧ taken before = n

/-- Two calls take their numbers one behind the other. -/
theorem Stamped.apart {h : List (RetryHappening V)} {i j nanos nanos' n n' : Nat}
    (hi : Stamped h i nanos n) (hj : Stamped h j nanos' n') (hij : i ≠ j) : n ≠ n' := by
  have hlater : ∀ {i j : Nat} {r r' : Nat} {before behind before' behind' : List (RetryHappening V)},
      h = before ++ .step i ⟨.takeNumber, r⟩ :: behind →
      h = before' ++ .step j ⟨.takeNumber, r'⟩ :: behind' →
      before.length < before'.length → taken before < taken before' := by
    intro i j r r' before behind before' behind' hi hj hlt
    have hprefix : before ++ [.step i ⟨.takeNumber, r⟩] <+: before' := by
      have hfirst : before ++ [.step i ⟨.takeNumber, r⟩] <+: h :=
        ⟨behind, by rw [hi, List.append_assoc, List.singleton_append]⟩
      refine List.prefix_of_prefix_length_le hfirst ⟨_, hj.symm⟩ ?_
      rw [List.length_append]
      exact hlt
    obtain ⟨rest, rfl⟩ := hprefix
    rw [taken, taken, List.countP_append, List.countP_append, List.countP_singleton]
    exact Nat.lt_of_lt_of_le (Nat.lt_succ_self _) (Nat.le_add_right _ _)
  obtain ⟨-, before, r, behind, hsplit, rfl⟩ := hi
  obtain ⟨-, before', r', behind', hsplit', rfl⟩ := hj
  rcases Nat.lt_trichotomy before.length before'.length with hlt | heq | hlt
  · exact Nat.ne_of_lt (hlater hsplit hsplit' hlt)
  · obtain ⟨-, hrest⟩ := List.append_inj (hsplit.symm.trans hsplit') heq
    cases (List.cons.inj hrest).1
    exact absurd rfl hij
  · exact (Nat.ne_of_lt (hlater hsplit' hsplit hlt)).symm

section Keys

variable [DecidableEq M]

/-- **A call that has done anything stands somewhere**, in any interleaving. -/
theorem retries_stands (ms : List (RetryMove V)) (i : Nat) :
    Pool.own i (retries ms).history = [] ∨
      ∃ call m, Stands call m (Pool.own i (retries ms).history) := by
  have hpath : Pool.OnPath RetriedCall.program (retries ms) := Pool.run_onPath ms 0
  rcases hi : (retries ms).threads i with _ | ⟨k, p⟩
  · exact Or.inl (hpath.idle i hi).1
  · right
    rcases Resumption.follows_bind (hpath.path i k p hi).2 with
      ⟨_, hcall, -⟩ | ⟨es₁, es₂, _, hes, hcall, hdone⟩
    · exact ⟨k.call, stands_retryCall hcall⟩
    · rw [hes, hdone.of_done.1, List.append_nil]
      exact ⟨k.call, stands_retryCall hcall⟩

/-- **An attempt's call was stamped**, and its key spells the stamp. -/
theorem stamped_attempts {ms : List (RetryMove V)} {i : Nat}
    (hsome : attemptsOf i (retries ms).history ≠ []) :
    ∃ nanos n, Stamped (retries ms).history i nanos n ∧
      (∀ nanos' n', Stamped (retries ms).history i nanos' n' →
        nanos' = nanos ∧ n' % 2 ^ 64 = n % 2 ^ 64) ∧
      ∃ call made, attemptsOf i (retries ms).history =
        (List.range made).map fun k => (call, ⟨k, generateIdempotencyKey nanos (n % 2 ^ 64)⟩) := by
  have hstands := retries_stands ms i
  rw [attemptsOf] at hsome
  rcases hstands with hidle | ⟨call, m, hstands⟩
  · rw [hidle] at hsome
    exact absurd rfl hsome
  generalize hown : Pool.own i (retries ms).history = es at hstands
  have hmem : ∀ e, .step i e ∈ (retries ms).history ↔ e ∈ es := fun e => hown ▸ Pool.mem_own.symm
  rw [hown] at hsome
  rw [attemptsOf, hown]
  cases hstands with
  | fresh => exact absurd rfl hsome
  | clocked nanos => exact absurd rfl hsome
  | keyed nanos seq made rest htail hattempts =>
    -- the call's only number
    obtain ⟨before, behind, hsplit⟩ := List.append_of_mem
      ((hmem ⟨.takeNumber, seq⟩).mpr (List.mem_cons_of_mem _ List.mem_cons_self))
    have hseq := number_taken hsplit
    refine ⟨nanos, taken before, ⟨(hmem _).mpr List.mem_cons_self, _, seq, _, hsplit, rfl⟩, ?_,
      call, made, ?_⟩
    · rintro nanos' n' ⟨hclock, before', r, behind', hsplit', rfl⟩
      have hnumber : (⟨.takeNumber, r⟩ : RetryEvent V) ∈ _ := (hmem _).mp (by
        rw [hsplit']
        exact List.mem_append_right _ List.mem_cons_self)
      constructor
      · rcases List.mem_cons.mp ((hmem _).mp hclock) with heq | hrest
        · cases heq
          rfl
        · rcases List.mem_cons.mp hrest with heq | hrest
          · cases heq
          · exact absurd rfl (htail _ hrest).1
      · rw [← number_taken hsplit', ← hseq]
        rcases List.mem_cons.mp hnumber with heq | hrest
        · cases heq
        · rcases List.mem_cons.mp hrest with heq | hrest
          · cases heq
            rfl
          · exact absurd rfl (htail _ hrest).2
    · rw [← hseq]
      exact hattempts

/-- The key of an attempt spells the stamp of its call. -/
theorem key_of_stamped {ms : List (RetryMove V)} {i : Nat} {call : M} {ctx : RetryContext}
    (h : (call, ctx) ∈ attemptsOf i (retries ms).history) :
    ∃ nanos n, Stamped (retries ms).history i nanos n ∧
      (∀ nanos' n', Stamped (retries ms).history i nanos' n' →
        nanos' = nanos ∧ n' % 2 ^ 64 = n % 2 ^ 64) ∧
      ctx.idempotencyKey = generateIdempotencyKey nanos (n % 2 ^ 64) := by
  obtain ⟨nanos, n, hstamp, honly, call', made, hmade⟩ :=
    stamped_attempts (List.ne_nil_of_mem h)
  refine ⟨nanos, n, hstamp, honly, ?_⟩
  rw [hmade] at h
  obtain ⟨k, -, hk⟩ := List.mem_map.mp h
  cases hk
  rfl

/-- **Whose attempts have the same key**: those of one call, and those of calls that read the same
    time and took numbers a multiple of 2^64 apart; whatever the clock says, in any
    interleaving. -/
theorem keys_collide_exactly (ms : List (RetryMove V)) {i j : Nat} {call call' : M}
    {ctx ctx' : RetryContext} (hi : (call, ctx) ∈ attemptsOf i (retries ms).history)
    (hj : (call', ctx') ∈ attemptsOf j (retries ms).history) :
    ctx.idempotencyKey = ctx'.idempotencyKey ↔
      i = j ∨ ∃ nanos n n', Stamped (retries ms).history i nanos n ∧
        Stamped (retries ms).history j nanos n' ∧ n % 2 ^ 64 = n' % 2 ^ 64 := by
  obtain ⟨nanos, n, hstamp, honly, hkey⟩ := key_of_stamped hi
  obtain ⟨nanos', n', hstamp', honly', hkey'⟩ := key_of_stamped hj
  rw [hkey, hkey', generateIdempotencyKey_inj]
  constructor
  · rintro ⟨rfl, hn⟩
    exact Or.inr ⟨nanos, n, n', hstamp, hstamp', hn⟩
  · rintro (rfl | ⟨t, k, k', hk, hk', hsame⟩)
    · obtain ⟨ht, hn⟩ := honly' nanos n hstamp
      exact ⟨ht, hn⟩
    · obtain ⟨ht, hn⟩ := honly t k hk
      obtain ⟨ht', hn'⟩ := honly' t k' hk'
      exact ⟨ht.symm.trans ht', hn.symm.trans (hsame.trans hn')⟩

/-- Two calls in the same nanosecond; the second takes its number first. -/
def twins : List (RetryMove fun _ : Unit => Unit) :=
  let answer : (a : RetryAction Unit) → a.Reply fun _ => Unit
    | .readClock => 171
    | .takeNumber => 0
    | .attempt _ _ => .ok ()
    | .sleep _ => ()
  [.start 0 ⟨{}, ()⟩, .start 1 ⟨{}, ()⟩, .step 0 answer, .step 1 answer, .step 1 answer,
    .step 0 answer, .step 0 answer, .step 1 answer]

theorem keys_collide_exactly_twins :
    "ab-1" = "ab-0" ↔ 0 = 1 ∨ ∃ nanos n n', Stamped (retries twins).history 0 nanos n ∧
      Stamped (retries twins).history 1 nanos n' ∧ n % 2 ^ 64 = n' % 2 ^ 64 := by
  have hfirst : ((), ⟨0, "ab-1"⟩) ∈ attemptsOf 0 (retries twins).history := by decide +kernel
  have hsecond : ((), ⟨0, "ab-0"⟩) ∈ attemptsOf 1 (retries twins).history := by decide +kernel
  exact keys_collide_exactly twins hfirst hsecond

/-- **A key identifies its call** as long as no more than 2^64 calls have taken a number. -/
theorem key_identifies_call (ms : List (RetryMove V))
    (hfew : taken (retries ms).history ≤ 2 ^ 64) {i j : Nat} {call call' : M}
    {ctx ctx' : RetryContext} (hi : (call, ctx) ∈ attemptsOf i (retries ms).history)
    (hj : (call', ctx') ∈ attemptsOf j (retries ms).history) :
    ctx.idempotencyKey = ctx'.idempotencyKey ↔ i = j := by
  have hplace : ∀ {i nanos n}, Stamped (retries ms).history i nanos n → n < 2 ^ 64 := by
    rintro i nanos n ⟨-, before, r, behind, hsplit, rfl⟩
    refine Nat.lt_of_lt_of_le ?_ hfew
    rw [hsplit, taken, taken, List.countP_append, List.countP_cons_of_pos rfl]
    omega
  rw [keys_collide_exactly ms hi hj]
  refine or_iff_left_of_imp ?_
  rintro ⟨nanos, n, n', hstamp, hstamp', hsame⟩
  rw [Nat.mod_eq_of_lt (hplace hstamp), Nat.mod_eq_of_lt (hplace hstamp')] at hsame
  exact Classical.byContradiction fun hij => hstamp.apart hstamp' hij hsame

end Keys

end ModalRs
