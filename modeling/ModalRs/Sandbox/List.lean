/-
  File:      ModalRs/Sandbox/List.lean
  Subject:   Listing the sandboxes, against a server on which they come and go.

  * `sandboxListRequest`, `sandboxListEntries`: the messages of the transport.
  * `SandboxService.list`: the operation, against a script of answers.
  * `ListServer`: a server that answers with the newest sandboxes alive.
  * `list_complete`: what a list of the sandboxes holds.
-/
import Mathlib.Algebra.Ring.Nat
import ModalRs.Lib.Pagination
import ModalRs.Sandbox.Create
import ModalRs.Transport.Messages

namespace ModalRs

open ModalRs.Lib ModalRs.Lib.Pagination ModalRs.Rust

variable {T : Type}

/-! ## 1. Listing -/

/-- SandboxListParams are options for listing sandboxes. -/
structure SandboxListParams where
  appId : String := ""
  tags : HashMap String String := ∅
  environment : String := ""

/-- A sandbox as it is listed. -/
structure SandboxListEntry (T : Type) where
  sandboxId : String
  createdAt : T
  deriving DecidableEq

/-- The request of `sandbox_list`: finished sandboxes are left out. -/
def sandboxListRequest (appId environment : String) (tags : List (HashMap.Entry String String))
    (beforeTimestamp : T) : Pb.SandboxListRequest T where
  appId := appId
  beforeTimestamp := beforeTimestamp
  environmentName := environment
  includeFinished := false
  tags := tags.map fun e => ⟨e.1, e.2⟩

def sandboxListEntries (response : Pb.SandboxListResponse T) : List (SandboxListEntry T) :=
  response.sandboxes.map fun s => ⟨s.id, s.createdAt⟩

/-- The entries of a response are those it was made of. -/
theorem entries_infos (page : List (SandboxListEntry T)) :
    sandboxListEntries (⟨page.map fun s => ⟨s.sandboxId, s.createdAt⟩⟩ :
      Pb.SandboxListResponse T) = page := by
  unfold sandboxListEntries
  rw [List.map_map]
  exact List.map_id page

/-- Create a new Sandbox with the given ID. -/
def Sandbox.new (sandboxId : String) : Sandbox := ⟨sandboxId, none⟩

def SandboxListEntry.sandbox (entry : SandboxListEntry T) : Sandbox := Sandbox.new entry.sandboxId

/-- What the server would reply to a list request. -/
abbrev ListAnswer (T : Type) : Type :=
  Pb.SandboxListRequest T → Except ModalError (Pb.SandboxListResponse T)

/-- A list request with its reply. -/
structure ListEvent (T : Type) where
  request : Pb.SandboxListRequest T
  reply : Except ModalError (Pb.SandboxListResponse T)

/-- One page: an empty one ends the list, and the last entry of any other is the next cursor. -/
def listPage (request : T → Pb.SandboxListRequest T) (s : T × List Sandbox)
    (answer : ListAnswer T) : Except (Stop ModalError) ((T × List Sandbox) ⊕ List Sandbox) :=
  match answer (request s.1) with
  | .error e => .error (.err e)
  | .ok response =>
      let entries := sandboxListEntries response
      match entries.getLast? with
      | none => .ok (.inr s.2)
      | some last => .ok (.inl (last.createdAt, s.2 ++ entries.map (·.sandbox)))

def listEvent (request : T → Pb.SandboxListRequest T) (s : T × List Sandbox)
    (answer : ListAnswer T) : ListEvent T := ⟨request s.1, answer (request s.1)⟩

/-- The pages from a cursor on, behind what was collected before. -/
def listFrom (request : T → Pb.SandboxListRequest T) :
    T × List Sandbox → Exchange (ListAnswer T) (ListEvent T) (Stop ModalError) (List Sandbox) :=
  Exchange.askWhile .diverged (listEvent request) (listPage request)

/-- List the sandboxes; `order` is the one in which a map of tags is iterated. -/
def SandboxService.list [Zero T]
    (order : HashMap String String → List (HashMap.Entry String String))
    (params : Option SandboxListParams) :
    Exchange (ListAnswer T) (ListEvent T) (Stop ModalError) (List Sandbox) :=
  let params := params.getD {}
  listFrom (sandboxListRequest params.appId params.environment (order params.tags)) (0, [])

/-! ## 2. A server on which sandboxes come and go -/

section Server

variable [LinearOrder T] [Zero T]

/-- The cursor of a request; zero is none. -/
def cursorOf (before : T) : Option T := if before = 0 then none else some before

/-- A server: the sandboxes alive at each page, and the page for each cursor. Timestamps are
    positive and distinct, what is created is newer than all before, and a page holds the newest
    sandboxes below the cursor. -/
structure ListServer (T : Type) [LinearOrder T] [Zero T] where
  live : ℕ → Finset (SandboxListEntry T)
  page : ℕ → T → List (SandboxListEntry T)
  positive : ∀ n, ∀ s ∈ live n, 0 < s.createdAt
  distinctIds : ∀ m n, ∀ s ∈ live m, ∀ t ∈ live n, s.sandboxId = t.sandboxId → s = t
  feed : Feed (·.createdAt) live
  isPage : ∀ n before, IsPage (·.createdAt) (live n) (cursorOf before) (page n before)

namespace ListServer

variable (server : ListServer T)

def answer (n : ℕ) : ListAnswer T := fun request =>
  .ok ⟨(server.page n request.beforeTimestamp).map fun s => ⟨s.sandboxId, s.createdAt⟩⟩

/-- So many answers, from the page `n` on. -/
def answers (n pages : ℕ) : List (ListAnswer T) := (List.range' n pages).map server.answer

/-- The server of any such sandboxes, with pages of any sizes. -/
noncomputable def ofFeed (live : ℕ → Finset (SandboxListEntry T)) (size : ℕ → ℕ)
    (hsize : ∀ n, 0 < size n) (positive : ∀ n, ∀ s ∈ live n, 0 < s.createdAt)
    (distinctIds : ∀ m n, ∀ s ∈ live m, ∀ t ∈ live n, s.sandboxId = t.sandboxId → s = t)
    (feed : Feed (·.createdAt) live) : ListServer T where
  live := live
  page n before := newestPage (·.createdAt) (live n) (cursorOf before) (size n)
  positive := positive
  distinctIds := distinctIds
  feed := feed
  isPage n _ := isPage_newestPage (feed.distinct n n) _ (hsize n)

/-- What an answer does to the list. -/
theorem listPage_answer (request : T → Pb.SandboxListRequest T)
    (hrequest : ∀ before, (request before).beforeTimestamp = before) (n : ℕ) (before : T)
    (collected : List Sandbox) :
    listPage request (before, collected) (server.answer n) =
      match (server.page n before).getLast? with
      | none => .ok (.inr collected)
      | some last =>
          .ok (.inl (last.createdAt, collected ++ (server.page n before).map (·.sandbox))) := by
  unfold listPage answer
  simp only [hrequest, entries_infos]

/-- **From any progress on, the list ends**, with all that was alive throughout. -/
theorem listFrom_ends (request : T → Pb.SandboxListRequest T)
    (hrequest : ∀ before, (request before).beforeTimestamp = before) {n : ℕ} {before : T}
    {collected : List (SandboxListEntry T)}
    (hp : Progress (·.createdAt) server.live n (cursorOf before) collected) :
    ∃ pages es, ∃ entries : List (SandboxListEntry T),
      listFrom request (before, collected.map (·.sandbox)) (server.answers n pages) =
        (es, .ok (entries.map (·.sandbox)), []) ∧
      entries.Pairwise (fun a b => b.createdAt < a.createdAt) ∧
      (∀ s, (∀ m < n + pages, s ∈ server.live m) → s ∈ entries) ∧
      ∀ s ∈ entries, ∃ m, s ∈ server.live m := by
  -- by induction on what is still to come
  induction hleft : remaining (·.createdAt) server.live (cursorOf before) using Nat.strongRecOn
    generalizing n before collected with
  | ind left ih =>
    have hpage := server.isPage n before
    have hround := server.listPage_answer request hrequest n before (collected.map (·.sandbox))
    cases hlast : (server.page n before).getLast? with
    | none =>
      rw [List.getLast?_eq_none_iff] at hlast
      rw [hlast] at hpage hround
      refine ⟨1, [listEvent request _ (server.answer n)], collected,
        Exchange.askWhile_value hround, hp.descending, hp.finish hpage, ?_⟩
      intro s hs
      obtain ⟨m, -, hm⟩ := hp.seen s hs
      exact ⟨m, hm⟩
    | some last =>
      have hlive := (hpage.mem last (List.mem_of_getLast? hlast)).1
      have hcursor : cursorOf last.createdAt = some last.createdAt :=
        if_neg (server.positive n last hlive).ne'
      have hstep := hp.step server.feed hpage hlast
      have hlt := hp.remaining_lt server.feed hpage hlast
      rw [← hcursor] at hstep hlt
      obtain ⟨pages, es, entries, hrun, hentries⟩ := ih _ (hleft ▸ hlt) hstep rfl
      rw [List.map_append] at hrun
      simp only [hlast] at hround
      refine ⟨pages + 1, _, entries, Exchange.askWhile_goes hround hrun, ?_⟩
      rw [Nat.add_right_comm] at hentries
      exact hentries

end ListServer

/-- **A list is complete and has no duplicates**: it ends after some pages, in descending order,
    and what was alive at all of them is in it exactly once. -/
theorem list_complete (server : ListServer T)
    (order : HashMap String String → List (HashMap.Entry String String))
    (params : Option SandboxListParams) :
    ∃ pages es, ∃ entries : List (SandboxListEntry T),
      SandboxService.list order params (server.answers 0 pages) =
        (es, .ok (entries.map (·.sandbox)), []) ∧
      entries.Pairwise (fun a b => b.createdAt < a.createdAt) ∧
      (∀ s, (∀ n < pages, s ∈ server.live n) →
        (entries.map (·.sandbox)).count s.sandbox = 1) ∧
      (entries.map (·.sandbox)).Nodup := by
  have hstart : Progress (·.createdAt) server.live 0 (cursorOf 0) [] := by
    rw [cursorOf, if_pos rfl]
    exact Progress.start
  obtain ⟨pages, es, entries, hrun, hdescending, hcomplete, hseen⟩ :=
    server.listFrom_ends (sandboxListRequest _ _ _) (fun _ => rfl) hstart
  have hnodup : (entries.map (·.sandbox)).Nodup := by
    have hentries : entries.Nodup := hdescending.imp fun h heq => (heq ▸ h).false
    refine hentries.map_on fun a ha b hb hsame => ?_
    obtain ⟨m, hm⟩ := hseen a ha
    obtain ⟨n, hn⟩ := hseen b hb
    exact server.distinctIds m n a hm b hn (congrArg Sandbox.sandboxId hsame)
  refine ⟨pages, es, entries, hrun, hdescending, fun s halive => ?_, hnodup⟩
  refine List.count_eq_one_of_mem hnodup (List.mem_map_of_mem (hcomplete s ?_))
  rw [Nat.zero_add]
  exact halive

/-- Two sandboxes; after the first page the newer one is gone, and a third one is there. -/
def comeAndGo (n : ℕ) : Finset (SandboxListEntry ℕ) :=
  if n = 0 then {⟨"sb-1", 1⟩, ⟨"sb-2", 2⟩} else {⟨"sb-1", 1⟩, ⟨"sb-3", 3⟩}

theorem mem_comeAndGo {n : ℕ} {s : SandboxListEntry ℕ} (h : s ∈ comeAndGo n) :
    s = ⟨"sb-1", 1⟩ ∨ s = ⟨"sb-2", 2⟩ ∧ n = 0 ∨ s = ⟨"sb-3", 3⟩ ∧ n ≠ 0 := by
  unfold comeAndGo at h
  split_ifs at h with hn
  · simp_all
  · simp_all

/-- One sandbox a page, while they come and go: the one that stays is listed once. -/
theorem list_complete_comeAndGo :
    ∃ server : ListServer ℕ, server.live = comeAndGo ∧
      ∃ pages es, ∃ entries : List (SandboxListEntry ℕ),
        SandboxService.list (fun _ => []) none (server.answers 0 pages) =
          (es, .ok (entries.map (·.sandbox)), []) ∧
        (entries.map (·.sandbox)).count (Sandbox.new "sb-1") = 1 := by
  have hfeed : Feed (·.createdAt) comeAndGo := by
    refine ⟨fun m n a ha b hb heq => ?_, fun n a ha hnew m hm b hb => ?_⟩
    · rcases mem_comeAndGo ha with rfl | ⟨rfl, -⟩ | ⟨rfl, -⟩ <;>
        rcases mem_comeAndGo hb with rfl | ⟨rfl, -⟩ | ⟨rfl, -⟩ <;> first | rfl | cases heq
    · cases n with
      | succ n => exact absurd ha hnew
      | zero =>
        obtain rfl := Nat.le_zero.mp hm
        rcases mem_comeAndGo ha with rfl | ⟨rfl, hn⟩ | ⟨rfl, -⟩
        · exact absurd (Finset.mem_insert_self _ _) hnew
        · cases hn
        · rcases mem_comeAndGo hb with rfl | ⟨rfl, -⟩ | ⟨rfl, hn⟩
          · decide
          · decide
          · exact absurd rfl hn
  have hpositive : ∀ n, ∀ s ∈ comeAndGo n, 0 < s.createdAt := by
    intro n s hs
    rcases mem_comeAndGo hs with rfl | ⟨rfl, -⟩ | ⟨rfl, -⟩ <;> decide
  have hids : ∀ m n, ∀ s ∈ comeAndGo m, ∀ t ∈ comeAndGo n, s.sandboxId = t.sandboxId → s = t := by
    intro m n s hs t ht heq
    rcases mem_comeAndGo hs with rfl | ⟨rfl, -⟩ | ⟨rfl, -⟩ <;>
      rcases mem_comeAndGo ht with rfl | ⟨rfl, -⟩ | ⟨rfl, -⟩ <;>
        first | rfl | exact absurd heq (by decide)
  let server := ListServer.ofFeed comeAndGo (fun _ => 1) (fun _ => Nat.one_pos) hpositive hids hfeed
  obtain ⟨pages, es, entries, hrun, -, hcomplete, -⟩ := list_complete server (fun _ => []) none
  refine ⟨server, rfl, pages, es, entries, hrun, hcomplete ⟨"sb-1", 1⟩ fun n _ => ?_⟩
  change _ ∈ comeAndGo n
  unfold comeAndGo
  split_ifs
  · exact Finset.mem_insert_self _ _
  · exact Finset.mem_insert_self _ _

end Server

end ModalRs
