/-
  File:      ModalRs/Sandbox/StreamedOutput.lean
  Subject:   The output of a process, read through the task command router.

  * `TaskCommandRouterClient.containerProcessClient`: the router's client as what
    the reader asks for chunks. It always asks from offset 0 on and hands out the
    first chunk.
  * `StdioRouter`: a router that holds the output and answers from any offset, in
    chunks of its own choice.
  * `firstChunk_answers`: over such a router, the reader is told the first chunks
    of the replies.
  * `streamed_complete_exactly`: so the output is complete exactly when these first
    chunks happen to be the output.
-/
import ModalRs.Router.Client
import ModalRs.Sandbox.Reader

namespace ModalRs

/-! ## 1. The bridge -/

namespace TaskCommandRouterClient

variable {ω : Type}

/-- The router's name for an output. -/
def tcrFd : FileDescriptor → TaskExecStdioFileDescriptor
  | .stdout => .stdout
  | .stderr => .stderr

/-- `ContainerProcessClient::exec_stdio_read for TaskCommandRouterClient`. -/
def nextChunk (grpc : TaskCommandRouterGrpcClient ω) (taskId execId : String) (fd : FileDescriptor)
    (c : TaskCommandRouterClient) (w : ω) :
    Except ModalError (Option (List UInt8)) × TaskCommandRouterClient × ω :=
  match execStdioRead grpc taskId execId (tcrFd fd) 0 c w with
  | (.error e, c, w) => (.error e, c, w)
  | (.ok responses, c, w) =>
      match responses.head? with
      | some r => if r.data ≠ [] then (.ok (some r.data), c, w) else (.ok none, c, w)
      | none => (.ok none, c, w)

/-- This bridges the high-level task command router with the ContainerProcess I/O system. -/
def containerProcessClient (grpc : TaskCommandRouterGrpcClient ω) :
    ContainerProcessClient (TaskCommandRouterClient × ω) where
  execStdioRead taskId execId fd s := nextChunk grpc taskId execId fd s.1 s.2

end TaskCommandRouterClient

/-! ## 2. The router -/

/-- A router that holds `s`, an output of a process: it answers the `i`-th request for it, for what
    follows an offset, with chunks that are together just that. -/
structure StdioRouter (taskId execId : String) (fd : TaskExecStdioFileDescriptor)
    (s : List UInt8) where
  chunks : (i : Nat) → (offset : UInt64) → List (List UInt8)
  whole : ∀ i offset, (chunks i offset).flatten = s.drop offset.toNat
  none_at_end : ∀ i offset, s.length ≤ offset.toNat → chunks i offset = []
  /-- What it answers to requests for other outputs. -/
  other : TaskExecStdioReadRequest → Except ModalError (List TaskExecStdioReadResponse)
  /-- What is answered to requests for a new token. -/
  access : (taskId : String) → Except ModalError TaskGetCommandRouterAccessResponse
  parseJwtExpiration : (jwt : String) → Except ModalError (Option Int64)

namespace StdioRouter

variable {taskId execId : String} {fd : TaskExecStdioFileDescriptor} {s : List UInt8}

/-- The gRPC calls to the router; the world is the number of requests for the output that were
    answered. -/
def grpc (router : StdioRouter taskId execId fd s) : TaskCommandRouterGrpcClient Nat where
  taskGetCommandRouterAccess task i := (router.access task, i)
  taskExecStdioRead request _jwt i :=
    if request = ⟨taskId, execId, request.offset, fd⟩ then
      (.ok ((router.chunks i request.offset).map (⟨·⟩)), i + 1)
    else (router.other request, i)
  parseJwtExpiration := router.parseJwtExpiration

/-- The first chunk of the answer to the `i`-th request, if that is for the whole output. -/
def firstChunk (router : StdioRouter taskId execId fd s) (i : Nat) : List UInt8 :=
  (router.chunks i 0).head?.getD []

/-- The first chunks of the first `k` answers, in order. -/
def firstChunks (router : StdioRouter taskId execId fd s) (k : Nat) : List UInt8 :=
  ((List.range k).map router.firstChunk).flatten

/-- A router that gives every byte in a chunk of its own. -/
def bytewise (taskId execId : String) (fd : TaskExecStdioFileDescriptor) (s : List UInt8) :
    StdioRouter taskId execId fd s where
  chunks _ offset := (s.drop offset.toNat).map ([·])
  whole _ offset := by
    rw [← List.flatMap_def, List.flatMap_singleton']
  none_at_end _ offset h := by
    rw [List.drop_eq_nil_of_le h, List.map_nil]
  other _ := .ok []
  access _ := .ok ⟨"jwt", "https://router.example.com"⟩
  parseJwtExpiration _ := .ok none

end StdioRouter

/-! ## 3. What the reader is told -/

section Told

open TaskCommandRouterClient ContainerProcessReader

variable {taskId execId : String} {fd : FileDescriptor} {s : List UInt8}
  {router : StdioRouter taskId execId (tcrFd fd) s} {c : TaskCommandRouterClient}

/-- What the reader is told by a fetch. -/
def firstAnswer (router : StdioRouter taskId execId (tcrFd fd) s) (i : Nat) :
    Except ModalError (Option (List UInt8)) :=
  .ok (if router.firstChunk i = [] then none else some (router.firstChunk i))

/-- **Every fetch is answered with the first chunk** of a reply that starts at the beginning. -/
theorem firstChunk_answers (router : StdioRouter taskId execId (tcrFd fd) s)
    (hopen : c.closed = false) (ignored : Bool) :
    Answers (containerProcessClient router.grpc) (new taskId execId fd ignored)
      (firstAnswer router) (fun w i => w = (c, i)) := by
  rintro w i rfl
  refine ⟨(c, i + 1), ?_, rfl⟩
  have hread : execStdioRead router.grpc taskId execId (tcrFd fd) 0 c i =
      (.ok ((router.chunks i 0).map (⟨·⟩)), c, i + 1) :=
    execStdioRead_answered hopen (if_pos rfl)
  show nextChunk router.grpc taskId execId fd c i = _
  cases hhead : (router.chunks i 0).head? with
  | none =>
    have hfirst : router.firstChunk i = [] := by rw [StdioRouter.firstChunk, hhead, Option.getD_none]
    simp [nextChunk, firstAnswer, hread, hhead, hfirst]
  | some data =>
    have hfirst : router.firstChunk i = data := by
      rw [StdioRouter.firstChunk, hhead, Option.getD_some]
    by_cases hdata : data = []
    · simp [nextChunk, firstAnswer, hread, hhead, hfirst, hdata]
    · simp [nextChunk, firstAnswer, hread, hhead, hfirst, hdata]

theorem ends_firstAnswer (i : Nat) : Ends (firstAnswer router i) ↔ router.firstChunk i = [] := by
  unfold firstAnswer
  by_cases hnil : router.firstChunk i = []
  · rw [if_pos hnil]
    exact ⟨fun _ => hnil, fun _ => Or.inl rfl⟩
  · rw [if_neg hnil]
    refine ⟨?_, fun h => absurd h hnil⟩
    rintro (h | h)
    · cases h
    · exact absurd (Option.some.inj (Except.ok.inj h)) hnil

theorem fetched_firstAnswer : ∀ k, fetched (firstAnswer router) k = router.firstChunks k
  | 0 => rfl
  | k + 1 => by
      have hchunk : chunk (firstAnswer router k) = router.firstChunk k := by
        unfold firstAnswer
        by_cases hnil : router.firstChunk k = []
        · rw [if_pos hnil, hnil]
          rfl
        · rw [if_neg hnil]
          rfl
      rw [fetched, fetched_firstAnswer k, hchunk, StdioRouter.firstChunks, StdioRouter.firstChunks,
        List.range_succ, List.map_append, List.flatten_append, List.map_singleton,
        List.flatten_singleton]

/-- Over a closed client, the reader is told so every time. -/
theorem closed_answers (router : StdioRouter taskId execId (tcrFd fd) s)
    (hclosed : c.closed = true) (ignored : Bool) :
    Answers (containerProcessClient router.grpc) (new taskId execId fd ignored)
      (fun _ => .error (.clientClosed "Unable to perform operation on a detached sandbox"))
      (fun w _ => w = (c, 0)) := by
  rintro w i rfl
  refine ⟨(c, 0), ?_, rfl⟩
  show nextChunk router.grpc taskId execId fd c 0 = _
  simp only [nextChunk, execStdioRead_closed hclosed]

/-! ## 4. Complete output -/

/-- An ignored output is at its end from the start. -/
theorem ignored_deliversAll :
    DeliversAll (containerProcessClient router.grpc) s (new taskId execId fd true) (c, 0) ↔
      s = [] := by
  have hmany : ∀ lens, readMany (containerProcessClient router.grpc) lens
      (new taskId execId fd true) (c, 0) = ([], new taskId execId fd true, (c, 0)) :=
    readMany_ended rfl rfl
  constructor
  · intro h
    exact ((h []).2 1 Nat.one_pos rfl).symm
  · rintro rfl lens
    rw [hmany]
    exact ⟨List.prefix_refl _, fun _ _ _ => rfl⟩

/-- Over a closed client nothing is delivered, and no end is reported. -/
theorem closed_deliversAll (hclosed : c.closed = true) :
    DeliversAll (containerProcessClient router.grpc) s (new taskId execId fd false) (c, 0) := by
  have hans := closed_answers router hclosed false
  intro lens
  obtain ⟨out, r', w', i', hmany, hsame, hat, hinv⟩ :=
    readMany_inv hans rfl (new_inv taskId execId fd) lens
  have hfetched : ∀ i, fetched (fun _ => Except.error (ModalError.clientClosed
      "Unable to perform operation on a detached sandbox")) i = [] := by
    intro i
    induction i with
    | zero => rfl
    | succ i ih =>
      rw [fetched, ih]
      rfl
  have hnil : out = [] := by
    have hwhole := hinv.whole
    rw [hfetched] at hwhole
    exact (List.append_eq_nil_iff.mp hwhole).1
  rw [hmany]
  subst hnil
  refine ⟨List.nil_prefix, fun len hlen hend => ?_⟩
  obtain ⟨result, _, _, _, hread, -, hstep⟩ :=
    read_step (answers_of_sameStream hsame hans) hat len
  rw [readAfter, hmany] at hend
  simp only [hread] at hend
  obtain ⟨k, hends, -⟩ := step_reports_end hstep hinv hlen hend
  rcases hends.2 with h | h <;> cases h

/-- **Complete output over the router**, exactly: the reads of an output deliver it as they should
    if and only if the client is closed, or the first chunks of the replies to "from offset 0 on"
    spell the output up to a reply that starts with no byte at all. -/
theorem streamed_complete_exactly (taskId execId : String) (fd : FileDescriptor) (s : List UInt8)
    (router : StdioRouter taskId execId (tcrFd fd) s) (c : TaskCommandRouterClient)
    (ignored : Bool) :
    DeliversAll (containerProcessClient router.grpc) s (new taskId execId fd ignored) (c, 0) ↔
      if ignored then s = []
      else c.closed = true ∨ ∃ k, (∀ i, i < k → router.firstChunk i ≠ []) ∧
        router.firstChunk k = [] ∧ router.firstChunks k = s := by
  cases ignored with
  | true => exact ignored_deliversAll
  | false =>
    cases hclosed : c.closed with
    | true => exact ⟨fun _ => Or.inl rfl, fun _ => closed_deliversAll hclosed⟩
    | false =>
      have hiff := deliversAll_iff (firstChunk_answers router hclosed false) rfl
        (new_inv taskId execId fd) (fun _ _ h => by cases h) s
      simp only [EndsAt, ends_firstAnswer, fetched_firstAnswer] at hiff
      rw [hiff]
      simp only [Bool.false_eq_true, if_false, false_or, and_assoc, Ne]

/-- Two reads of one byte of an output of one byte deliver it twice. -/
theorem streamed_repeats :
    ¬ DeliversAll (containerProcessClient (StdioRouter.bytewise "ta-1" "ex-1" .stdout [7]).grpc)
      [7] (new "ta-1" "ex-1" .stdout false)
      (⟨"ta-1", "https://router.example.com", "jwt", none, false⟩, 0) := by
  intro h
  have hprefix := (h [1, 1]).1
  exact absurd hprefix.length_le (by decide)

end Told

end ModalRs
