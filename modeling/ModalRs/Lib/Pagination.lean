/-
  File:      ModalRs/Lib/Pagination.lean
  Subject:   Reading a changing set page by page, newest first, from a cursor down.

  Between two pages members may go, and newer ones may come. A page holds some of
  the newest members below the cursor; its last member is the next cursor.

  * `IsPage`, `Feed`: what a page holds, and how the set changes; `newestPage` is a page.
  * `Progress`: what is known after some pages; `Progress.step` is one more page.
  * `Progress.finish`: in the end, what was there all along has been collected.
  * `Progress.remaining_lt`: there is less to come after each page.
-/
import Mathlib.Data.Finset.Card
import Mathlib.Data.Finset.Filter
import Mathlib.Order.OrderDual
import ModalRs.Lib.SortBy

namespace ModalRs.Lib.Pagination

variable {α τ : Type} [LinearOrder τ] {key : α → τ} {live : ℕ → Finset α}

/-- Below a cursor, if there is one. -/
def Below (cursor : Option τ) (t : τ) : Prop := ∀ c, cursor = some c → t < c

theorem below_none (t : τ) : Below none t := fun _ h => nomatch h

theorem below_some {c t : τ} : Below (some c) t ↔ t < c := by simp [Below]

instance (cursor : Option τ) (t : τ) : Decidable (Below cursor t) :=
  match cursor with
  | none => isTrue (below_none t)
  | some c => decidable_of_iff (t < c) below_some.symm

/-- The newest members below the cursor, in descending order; none only if there are none. -/
structure IsPage (key : α → τ) (live : Finset α) (cursor : Option τ) (page : List α) : Prop where
  descending : page.Pairwise fun a b => key b < key a
  mem : ∀ a ∈ page, a ∈ live ∧ Below cursor (key a)
  newest : ∀ a ∈ page, ∀ b ∈ live, Below cursor (key b) → key a < key b → b ∈ page
  empty : page = [] → ∀ b ∈ live, ¬ Below cursor (key b)

/-- The first members below the cursor, at most so many. -/
noncomputable def newestPage (key : α → τ) (live : Finset α) (cursor : Option τ) (size : ℕ) :
    List α :=
  (sortBy (fun a => OrderDual.toDual (key a))
    (live.filter fun a => Below cursor (key a)).toList).take size

/-- **Pages of any size**: the first members below the cursor are one. -/
theorem isPage_newestPage {live : Finset α} (hkey : ∀ a ∈ live, ∀ b ∈ live, key a = key b → a = b)
    (cursor : Option τ) {size : ℕ} (hsize : 0 < size) :
    IsPage key live cursor (newestPage key live cursor size) := by
  set members := (live.filter fun a => Below cursor (key a)).toList with hmembers
  set sorted := sortBy (fun a => OrderDual.toDual (key a)) members with hsorted
  have hperm : sorted.Perm members := sortBy_perm _ _
  have hmem : ∀ a, a ∈ sorted ↔ a ∈ live ∧ Below cursor (key a) := by
    intro a
    rw [hperm.mem_iff, hmembers, Finset.mem_toList, Finset.mem_filter]
  have hnodup : sorted.Nodup := hperm.nodup_iff.mpr (Finset.nodup_toList _)
  have hdescending : sorted.Pairwise fun a b => key b < key a := by
    refine ((sortBy_pairwise _ members).and hnodup).imp_of_mem fun ha hb h => ?_
    have hle : key _ ≤ key _ := h.1
    refine lt_of_le_of_ne hle fun heq => h.2 ?_
    exact (hkey _ ((hmem _).mp hb).1 _ ((hmem _).mp ha).1 heq).symm
  have hpage : newestPage key live cursor size = sorted.take size := rfl
  rw [hpage]
  refine ⟨hdescending.sublist (List.take_sublist _ _), ?_, ?_, ?_⟩
  · exact fun a ha => (hmem a).mp (List.mem_of_mem_take ha)
  · intro a ha b hb hbelow hlt
    have hb : b ∈ sorted.take size ++ sorted.drop size := by
      rw [List.take_append_drop]
      exact (hmem b).mpr ⟨hb, hbelow⟩
    rw [← List.take_append_drop size sorted] at hdescending
    rcases List.mem_append.mp hb with hb | hb
    · exact hb
    · exact absurd ((List.pairwise_append.mp hdescending).2.2 a ha b hb) hlt.asymm
  · intro hempty b hb hbelow
    have hnone : sorted = [] := by
      rcases List.take_eq_nil_iff.mp hempty with h | h
      · exact absurd h hsize.ne'
      · exact h
    have hb : b ∈ sorted := (hmem b).mpr ⟨hb, hbelow⟩
    rw [hnone] at hb
    cases hb

/-- A set that changes: keys are distinct, and what comes is newer than all before. -/
structure Feed (key : α → τ) (live : ℕ → Finset α) : Prop where
  distinct : ∀ m n, ∀ a ∈ live m, ∀ b ∈ live n, key a = key b → a = b
  newer : ∀ n, ∀ a ∈ live (n + 1), a ∉ live n → ∀ m ≤ n, ∀ b ∈ live m, key b < key a

/-- What is no newer than a member was there before it. -/
theorem Feed.mem_of_le (h : Feed key live) {m : ℕ} {b : α} (hb : b ∈ live m) :
    ∀ n, m ≤ n → ∀ a ∈ live n, key a ≤ key b → a ∈ live m := by
  intro n hmn
  induction n, hmn using Nat.le_induction with
  | base => exact fun a ha _ => ha
  | succ n hmn ih =>
    intro a ha hle
    by_cases hold : a ∈ live n
    · exact ih a hold hle
    · exact absurd (h.newer n a ha hold m hmn b hb) (not_lt.mpr hle)

/-- What is known after `n` pages, with this cursor and these collected. -/
structure Progress (key : α → τ) (live : ℕ → Finset α) (n : ℕ) (cursor : Option τ)
    (collected : List α) : Prop where
  descending : collected.Pairwise fun a b => key b < key a
  above : ∀ a ∈ collected, ¬ Below cursor (key a)
  seen : ∀ a ∈ collected, ∃ m < n, a ∈ live m
  complete : ∀ a, (∀ m < n, a ∈ live m) → ¬ Below cursor (key a) → a ∈ collected
  fresh : cursor = none → n = 0
  anchored : ∀ c, cursor = some c → ∃ a ∈ live 0, c ≤ key a

theorem Progress.start : Progress key live 0 none [] where
  descending := .nil
  above _ h := (List.not_mem_nil h).elim
  seen _ h := (List.not_mem_nil h).elim
  complete _ _ h := (h (below_none _)).elim
  fresh _ := rfl
  anchored _ h := nomatch h

section Step

variable {n : ℕ} {cursor : Option τ} {collected page : List α} {last : α}

/-- The last member of a page is its least. -/
theorem IsPage.last_le (h : IsPage key (live n) cursor page) (hlast : page.getLast? = some last) :
    ∀ a ∈ page, key last ≤ key a := by
  intro a ha
  obtain ⟨front, rfl⟩ := List.getLast?_eq_some_iff.mp hlast
  rcases List.mem_append.mp ha with ha | ha
  · exact ((List.pairwise_append.mp h.descending).2.2 a ha last (List.mem_singleton_self last)).le
  · rw [List.mem_singleton.mp ha]

/-- Whatever is below the cursor was there from the start. -/
theorem Progress.mem_start (hfeed : Feed key live) (hp : Progress key live n cursor collected)
    {a : α} (ha : a ∈ live n) (hbelow : Below cursor (key a)) : a ∈ live 0 := by
  cases hc : cursor with
  | none =>
    rw [hp.fresh hc] at ha
    exact ha
  | some c =>
    obtain ⟨b, hb, hle⟩ := hp.anchored c hc
    exact hfeed.mem_of_le hb n (Nat.zero_le n) a ha ((hbelow c hc).le.trans hle)

/-- **One more page**: the cursor goes down to its last member. -/
theorem Progress.step (hfeed : Feed key live) (hp : Progress key live n cursor collected)
    (hpage : IsPage key (live n) cursor page) (hlast : page.getLast? = some last) :
    Progress key live (n + 1) (some (key last)) (collected ++ page) := by
  have hmem : last ∈ page := List.mem_of_getLast? hlast
  have hleast := hpage.last_le hlast
  obtain ⟨hlive, hbelow⟩ := hpage.mem last hmem
  refine ⟨?_, ?_, ?_, ?_, nofun, ?_⟩
  · refine List.pairwise_append.mpr ⟨hp.descending, hpage.descending, fun a ha b hb => ?_⟩
    -- what was collected is not below the cursor, the page is
    by_contra hle
    refine hp.above a ha fun c hc => ?_
    exact (not_lt.mp hle).trans_lt ((hpage.mem b hb).2 c hc)
  · intro a ha hlt
    have hlt' : key a < key last := hlt _ rfl
    rcases List.mem_append.mp ha with ha | ha
    · exact hp.above a ha fun c hc => hlt'.trans (hbelow c hc)
    · exact absurd (hleast a ha) (not_le.mpr hlt')
  · intro a ha
    rcases List.mem_append.mp ha with ha | ha
    · obtain ⟨m, hm, hlive⟩ := hp.seen a ha
      exact ⟨m, Nat.lt_succ_of_lt hm, hlive⟩
    · exact ⟨n, Nat.lt_succ_self n, (hpage.mem a ha).1⟩
  · intro a halive hnot
    by_cases hcursor : Below cursor (key a)
    · have hle : key last ≤ key a := not_lt.mp fun hlt => hnot fun c hc => Option.some.inj hc ▸ hlt
      have ha : a ∈ live n := halive n (Nat.lt_succ_self n)
      refine List.mem_append_right _ ?_
      rcases hle.lt_or_eq with hlt | heq
      · exact hpage.newest last hmem a ha hcursor hlt
      · exact hfeed.distinct n n last hlive a ha heq ▸ hmem
    · exact List.mem_append_left _
        (hp.complete a (fun m hm => halive m (Nat.lt_succ_of_lt hm)) hcursor)
  · intro c hc
    cases hc
    exact ⟨last, hp.mem_start hfeed hlive hbelow, le_rfl⟩

/-- **The end**: behind an empty page, all that was there throughout has been collected. -/
theorem Progress.finish (hp : Progress key live n cursor collected)
    (hpage : IsPage key (live n) cursor []) (a : α) (halive : ∀ m < n + 1, a ∈ live m) :
    a ∈ collected := by
  refine hp.complete a (fun m hm => halive m (Nat.lt_succ_of_lt hm)) ?_
  exact hpage.empty rfl a (halive n (Nat.lt_succ_self n))

/-- How many of the first members are still to come. -/
def remaining (key : α → τ) (live : ℕ → Finset α) (cursor : Option τ) : ℕ :=
  ((live 0).filter fun a => Below cursor (key a)).card

/-- **Each page leaves less to come.** -/
theorem Progress.remaining_lt (hfeed : Feed key live) (hp : Progress key live n cursor collected)
    (hpage : IsPage key (live n) cursor page) (hlast : page.getLast? = some last) :
    remaining key live (some (key last)) < remaining key live cursor := by
  obtain ⟨hlive, hbelow⟩ := hpage.mem last (List.mem_of_getLast? hlast)
  refine Finset.card_lt_card ((Finset.ssubset_iff_of_subset ?_).mpr ⟨last, ?_, ?_⟩)
  · intro a ha
    obtain ⟨ha, hlt⟩ := Finset.mem_filter.mp ha
    exact Finset.mem_filter.mpr ⟨ha, fun c hc => (hlt _ rfl).trans (hbelow c hc)⟩
  · exact Finset.mem_filter.mpr ⟨hp.mem_start hfeed hlive hbelow, hbelow⟩
  · intro h
    exact absurd ((Finset.mem_filter.mp h).2 _ rfl) (lt_irrefl _)

end Step

end ModalRs.Lib.Pagination
