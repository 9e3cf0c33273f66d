/-
  File:      ModalRs/Sandbox/Stdin.lean
  Subject:   Writing to the stdin of a process, and what the server makes of it.

  Each write passes the offset of its bytes; an RPC that fails was not applied.
  The server puts the bytes of a request where its offset says. A write whose
  offset would run over panics, as in a build with overflow checks; it returns nothing.

  * `ContainerProcessStdin.write`, `ContainerProcessStdin.close`: the two calls.
  * `StdinServer.apply`: a server that assembles bytes by offset.
  * `perform_cases`: what a call can do.
  * `Session`: calls one after the other, with any replies; `session_split`: each of its
    calls, with the session before it.
  * `StdinInv`, `session_inv`: the offset is the number of bytes written so far.
  * `stdin_reassembled`: the main result.
-/
import Mathlib.Data.List.Infix
import Mathlib.Data.List.Induction
import ModalRs.Error
import ModalRs.Rust.Outcome

namespace ModalRs

open ModalRs.Rust

/-! ## 1. The two calls -/

/-- A request to write to the stdin of a process. -/
structure StdinRequest where
  taskId : String
  execId : String
  offset : Nat
  data : List UInt8
  eof : Bool
  deriving DecidableEq

/-- The call needed for the stdin of a process, over a world `σ`. -/
structure ContainerStdinClient (σ : Type) where
  execStdinWrite : StdinRequest → σ → Except ModalError Unit × σ

/-- The `io::Error` of a write: `BrokenPipe` with a text, or `Other` of the client's error. -/
inductive StdinError where
  | brokenPipe (msg : String)
  | other (source : ModalError)
  deriving DecidableEq

/-- Stdin writer for a container process. Tracks byte offset for ordered delivery; the offset is a
    `u64`. -/
structure ContainerProcessStdin where
  taskId : String
  execId : String
  offset : Nat
  closed : Bool
  deriving DecidableEq

namespace ContainerProcessStdin

/-- The stdin of a process that was just started. -/
def new (taskId execId : String) : ContainerProcessStdin := ⟨taskId, execId, 0, false⟩

variable {σ : Type}

/-- The request of a call at the present offset. -/
def request (s : ContainerProcessStdin) (data : List UInt8) (eof : Bool) : StdinRequest :=
  ⟨s.taskId, s.execId, s.offset, data, eof⟩

/-- Close stdin by sending an EOF marker. -/
def close (client : ContainerStdinClient σ) (s : ContainerProcessStdin) (w : σ) :
    Except ModalError Unit × ContainerProcessStdin × σ :=
  if s.closed then (.ok (), s, w)
  else
    match client.execStdinWrite (s.request [] true) w with
    | (.error e, w) => (.error e, s, w)
    | (.ok (), w) => (.ok (), { s with closed := true }, w)

def write (client : ContainerStdinClient σ) (buf : List UInt8) (s : ContainerProcessStdin) (w : σ) :
    Res StdinError Nat × ContainerProcessStdin × σ :=
  if s.closed then (.error (.err (.brokenPipe "stdin closed")), s, w)
  else if buf = [] then (.ok 0, s, w)
  else
    match client.execStdinWrite (s.request buf false) w with
    | (.error e, w) => (.error (.err (.other e)), s, w)
    | (.ok (), w) =>
        match (usizeAdd s.offset buf.length : Res StdinError Nat) with
        | .ok offset => (.ok buf.length, { s with offset := offset }, w)
        | .error e => (.error e, s, w)

end ContainerProcessStdin

/-! ## 2. The server -/

/-- Puts bytes into others at an offset; a gap is filled with zeros. -/
def overlay (data : List UInt8) (offset : Nat) (bytes : List UInt8) : List UInt8 :=
  data.take offset ++ List.replicate (offset - data.length) 0 ++ bytes ++
    data.drop (offset + bytes.length)

theorem overlay_length (data bytes : List UInt8) :
    overlay data data.length bytes = data ++ bytes := by
  rw [overlay, List.take_length, Nat.sub_self, List.drop_eq_nil_of_le (Nat.le_add_right _ _)]
  simp

/-- The bytes that were assembled, and where the stream ends if that is known. -/
structure StdinServer where
  data : List UInt8 := []
  eof : Option Nat := none
  deriving DecidableEq

def StdinServer.apply (server : StdinServer) (q : StdinRequest) : StdinServer where
  data := overlay server.data q.offset q.data
  eof := if q.eof then some q.offset else server.eof

/-- A server that gives one reply, and keeps the requests. -/
def replying (reply : Except ModalError Unit) :
    ContainerStdinClient (StdinServer × List StdinRequest) where
  execStdinWrite q w :=
    match reply with
    | .ok () => (.ok (), w.1.apply q, w.2 ++ [q])
    | .error e => (.error e, w.1, w.2 ++ [q])

/-! ## 3. Calls -/

namespace Stdin

inductive StdinCall where
  | write (buf : List UInt8)
  | close
  deriving DecidableEq

/-- What a call returned. -/
inductive StdinResult where
  | wrote (n : Nat)
  | closed
  | writeFailed (e : StdinError)
  | closeFailed (e : ModalError)
  deriving DecidableEq

/-- A call against a server that gives this reply: what it returned, unless it panicked, stdin and
    the server behind it, and its requests. -/
def StdinCall.perform (reply : Except ModalError Unit) (s : ContainerProcessStdin)
    (server : StdinServer) : StdinCall →
      Option StdinResult × ContainerProcessStdin × StdinServer × List StdinRequest
  | .write buf =>
      match s.write (replying reply) buf (server, []) with
      | (.ok n, s, w) => (some (.wrote n), s, w)
      | (.error (.err e), s, w) => (some (.writeFailed e), s, w)
      | (.error _, s, w) => (none, s, w)
  | .close =>
      match s.close (replying reply) (server, []) with
      | (.ok (), s, w) => (some .closed, s, w)
      | (.error e, s, w) => (some (.closeFailed e), s, w)

/-- A call that returned, with stdin before and behind it, the reply that there was for a request of
    it, and its requests. -/
structure StdinRun where
  before : ContainerProcessStdin
  call : StdinCall
  reply : Except ModalError Unit
  requests : List StdinRequest
  result : StdinResult
  after : ContainerProcessStdin
  deriving DecidableEq

/-- **What a call that returns can do.** -/
inductive Performs (server : StdinServer) : StdinRun → StdinServer → Prop where
  | writeClosed (s : ContainerProcessStdin) (buf : List UInt8) (reply : Except ModalError Unit)
      (hclosed : s.closed = true) :
      Performs server
        ⟨s, .write buf, reply, [], .writeFailed (.brokenPipe "stdin closed"), s⟩ server
  | closeClosed (s : ContainerProcessStdin) (reply : Except ModalError Unit)
      (hclosed : s.closed = true) :
      Performs server ⟨s, .close, reply, [], .closed, s⟩ server
  | writeEmpty (s : ContainerProcessStdin) (reply : Except ModalError Unit)
      (hopen : s.closed = false) :
      Performs server ⟨s, .write [], reply, [], .wrote 0, s⟩ server
  | writeRefused (s : ContainerProcessStdin) (buf : List UInt8) (e : ModalError)
      (hopen : s.closed = false) (hempty : buf ≠ []) :
      Performs server
        ⟨s, .write buf, .error e, [s.request buf false], .writeFailed (.other e), s⟩ server
  | writes (s : ContainerProcessStdin) (buf : List UInt8) (hopen : s.closed = false)
      (hempty : buf ≠ []) :
      Performs server
        ⟨s, .write buf, .ok (), [s.request buf false], .wrote buf.length,
          { s with offset := s.offset + buf.length }⟩
        (server.apply (s.request buf false))
  | closeRefused (s : ContainerProcessStdin) (e : ModalError) (hopen : s.closed = false) :
      Performs server ⟨s, .close, .error e, [s.request [] true], .closeFailed e, s⟩ server
  | closes (s : ContainerProcessStdin) (hopen : s.closed = false) :
      Performs server ⟨s, .close, .ok (), [s.request [] true], .closed, { s with closed := true }⟩
        (server.apply (s.request [] true))

theorem perform_cases {call : StdinCall} {reply : Except ModalError Unit}
    {s s' : ContainerProcessStdin} {server server' : StdinServer} {requests : List StdinRequest}
    {result : StdinResult}
    (h : call.perform reply s server = (some result, s', server', requests)) :
    Performs server ⟨s, call, reply, requests, result, s'⟩ server' := by
  cases hclosed : s.closed with
  | true =>
    cases call with
    | write buf =>
      rw [StdinCall.perform, ContainerProcessStdin.write, if_pos hclosed] at h
      cases h
      exact .writeClosed s buf reply hclosed
    | close =>
      rw [StdinCall.perform, ContainerProcessStdin.close, if_pos hclosed] at h
      cases h
      exact .closeClosed s reply hclosed
  | false =>
    have hopen : ¬ s.closed = true := Bool.eq_false_iff.mp hclosed
    cases call with
    | write buf =>
      rw [StdinCall.perform, ContainerProcessStdin.write, if_neg hopen] at h
      by_cases hempty : buf = []
      · rw [if_pos hempty] at h
        cases h
        rw [hempty]
        exact .writeEmpty s reply hclosed
      · rw [if_neg hempty] at h
        cases reply with
        | error e =>
          cases h
          exact .writeRefused s buf e hclosed hempty
        | ok _ =>
          by_cases hfits : s.offset + buf.length < usizeSize
          · have hadd : (usizeAdd s.offset buf.length : Res StdinError Nat) = _ :=
              usizeAdd_of_lt hfits
            simp only [replying, hadd] at h
            cases h
            exact .writes s buf hclosed hempty
          · -- the addition panics
            have hadd : (usizeAdd s.offset buf.length : Res StdinError Nat) = _ :=
              usizeAdd_of_ge (Nat.le_of_not_lt hfits)
            simp only [replying, hadd] at h
            cases h
    | close =>
      rw [StdinCall.perform, ContainerProcessStdin.close, if_neg hopen] at h
      cases reply with
      | error e =>
        cases h
        exact .closeRefused s e hclosed
      | ok _ =>
        cases h
        exact .closes s hclosed

/-! ## 4. Sessions -/

/-- Calls on the stdin of a process that was just started, one after the other, each with any
    reply; all of them returned. -/
inductive Session (taskId execId : String) :
    List StdinRun → ContainerProcessStdin → StdinServer → Prop where
  | start : Session taskId execId [] (.new taskId execId) {}
  | call (runs : List StdinRun) (s s' : ContainerProcessStdin) (server server' : StdinServer)
      (call : StdinCall) (reply : Except ModalError Unit) (requests : List StdinRequest)
      (result : StdinResult) (hsession : Session taskId execId runs s server)
      (hcall : call.perform reply s server = (some result, s', server', requests)) :
      Session taskId execId (runs ++ [⟨s, call, reply, requests, result, s'⟩]) s' server'

/-- The bytes of a write that returned `Ok`. -/
def StdinRun.written (r : StdinRun) : List UInt8 :=
  match r.call, r.result with
  | .write buf, .wrote _ => buf
  | _, _ => []

/-- The bytes of all writes that returned `Ok`, in order. -/
def written (runs : List StdinRun) : List UInt8 := runs.flatMap StdinRun.written

/-- The call closed stdin, or found it closed. -/
def StdinRun.Closes (r : StdinRun) : Prop := r.call = .close ∧ r.result = .closed

theorem written_append (runs runs' : List StdinRun) :
    written (runs ++ runs') = written runs ++ written runs' := List.flatMap_append

theorem written_singleton (r : StdinRun) : written [r] = r.written := List.append_nil _

section Session

variable {taskId execId : String} {runs pre post : List StdinRun} {r : StdinRun}
  {s : ContainerProcessStdin} {server : StdinServer}

/-- **Each call of a session** was performed on the stdin that the session before it left. -/
theorem session_split (h : Session taskId execId (pre ++ r :: post) s server) :
    ∃ server₁ server₂, Session taskId execId pre r.before server₁ ∧ Performs server₁ r server₂ := by
  induction post using List.reverseRecOn generalizing s server with
  | nil =>
    generalize hruns : pre ++ [r] = runs at h
    cases h with
    | start => exact absurd hruns (by simp)
    | call runs s s' server server' call reply requests result hsession hcall =>
      obtain ⟨rfl, hlast⟩ := List.append_inj' hruns rfl
      cases hlast
      exact ⟨_, _, hsession, perform_cases hcall⟩
  | append_singleton post x ih =>
    generalize hruns : pre ++ r :: (post ++ [x]) = runs at h
    cases h with
    | start => exact absurd hruns (by simp)
    | call runs s s' server server' call reply requests result hsession hcall =>
      rw [← List.cons_append, ← List.append_assoc] at hruns
      obtain ⟨rfl, -⟩ := List.append_inj' hruns rfl
      exact ih hsession

/-- **What a session keeps**: the offset and the server's bytes are those written so far, and stdin
    is closed exactly when a close has returned `Ok`. -/
structure StdinInv (runs : List StdinRun) (s : ContainerProcessStdin) (server : StdinServer) :
    Prop where
  offset : s.offset = (written runs).length
  data : server.data = written runs
  closed : s.closed = true ↔ ∃ r ∈ runs, r.Closes
  eof : s.closed = true → server.eof = some s.offset

/-- A call that closes nothing new. -/
theorem exists_closes_append (hcloses : r.Closes → ∃ c ∈ runs, c.Closes) :
    (∃ c ∈ runs, c.Closes) ↔ ∃ c ∈ runs ++ [r], c.Closes := by
  constructor
  · rintro ⟨c, hc, hclosed⟩
    exact ⟨c, List.mem_append_left _ hc, hclosed⟩
  · rintro ⟨c, hc, hclosed⟩
    rcases List.mem_append.mp hc with hc | hc
    · exact ⟨c, hc, hclosed⟩
    · rw [List.mem_singleton.mp hc] at hclosed
      exact hcloses hclosed

/-- A call that writes no byte and closes nothing keeps what was kept before. -/
theorem StdinInv.same (h : StdinInv runs r.before server) (hwritten : r.written = [])
    (hafter : r.after = r.before) (hcloses : r.Closes → r.before.closed = true) :
    StdinInv (runs ++ [r]) r.after server := by
  have hsame : written (runs ++ [r]) = written runs := by
    rw [written_append, written_singleton, hwritten, List.append_nil]
  have hclosed := exists_closes_append fun hr => h.closed.mp (hcloses hr)
  rw [hafter]
  exact ⟨hsame ▸ h.offset, hsame ▸ h.data, h.closed.trans hclosed, h.eof⟩

/-- **What one call preserves.** -/
theorem performs_inv {server' : StdinServer} (hstep : Performs server r server')
    (h : StdinInv runs r.before server) : StdinInv (runs ++ [r]) r.after server' := by
  cases hstep with
  | writeClosed s buf reply hclosed => exact h.same rfl rfl fun hno => by cases hno.1
  | closeClosed s reply hclosed => exact h.same rfl rfl fun _ => hclosed
  | writeEmpty s reply hopen => exact h.same rfl rfl fun hno => by cases hno.1
  | writeRefused s buf e hopen hempty => exact h.same rfl rfl fun hno => by cases hno.1
  | closeRefused s e hopen => exact h.same rfl rfl fun hno => by cases hno.2
  | writes s buf hopen hempty =>
    have hoffset : s.offset = (written runs).length := h.offset
    have hnext : written (runs ++ [⟨s, .write buf, .ok (), [s.request buf false], .wrote buf.length,
        { s with offset := s.offset + buf.length }⟩]) = written runs ++ buf := by
      rw [written_append, written_singleton]
      rfl
    have hcloses : (∃ c ∈ runs, c.Closes) ↔ ∃ c ∈ runs ++ [⟨s, .write buf, .ok (),
        [s.request buf false], .wrote buf.length, { s with offset := s.offset + buf.length }⟩],
        c.Closes :=
      exists_closes_append fun hno => by cases hno.1
    refine ⟨?_, ?_, h.closed.trans hcloses, fun hclosed => ?_⟩
    · rw [hnext, List.length_append, ← hoffset]
    · show overlay server.data s.offset buf = _
      rw [hnext, h.data, hoffset, overlay_length]
    · have hclosed : s.closed = true := hclosed
      rw [hopen] at hclosed
      cases hclosed
  | closes s hopen =>
    have hsame : written (runs ++ [⟨s, .close, .ok (), [s.request [] true], .closed,
        { s with closed := true }⟩]) = written runs := by
      rw [written_append, written_singleton]
      exact List.append_nil _
    refine ⟨hsame ▸ h.offset, ?_, ?_, fun _ => rfl⟩
    · show overlay server.data s.offset [] = _
      have hoffset : s.offset = (written runs).length := h.offset
      rw [hsame, h.data, hoffset, overlay_length, List.append_nil]
    · refine ⟨fun _ => ?_, fun _ => rfl⟩
      exact ⟨_, List.mem_append_right _ (List.mem_singleton_self _), rfl, rfl⟩

/-- **What a session preserves.** -/
theorem session_inv (h : Session taskId execId runs s server) : StdinInv runs s server := by
  induction h with
  | start =>
    refine ⟨rfl, rfl, ⟨fun h => (by cases h), fun h => ?_⟩, fun h => by cases h⟩
    obtain ⟨r, hr, -⟩ := h
    cases hr
  | call runs s s' server server' call reply requests result hsession hcall ih =>
    exact performs_inv (perform_cases hcall) ih

/-! ## 5. The stream -/

/-- A call that does not return `Ok`. -/
def StdinRun.Failed (r : StdinRun) : Prop :=
  (∃ e, r.result = .writeFailed e) ∨ ∃ e, r.result = .closeFailed e

/-- The request that a call makes of an open stdin, unless it is an empty write. -/
def StdinCall.request (s : ContainerProcessStdin) : StdinCall → StdinRequest
  | .write buf => s.request buf false
  | .close => s.request [] true

/-- What it returns on a reply. -/
def StdinCall.answered : StdinCall → Except ModalError Unit → StdinResult
  | .write buf, .ok () => .wrote buf.length
  | .write _, .error e => .writeFailed (.other e)
  | .close, .ok () => .closed
  | .close, .error e => .closeFailed e

/-- What the calls of a session do, and what the server has at its end. -/
structure Reassembles (runs : List StdinRun) (server : StdinServer) : Prop where
  /-- While stdin is open, a call that is no empty write makes one request, and returns `Ok` exactly
      if that is accepted. -/
  made : ∀ r ∈ runs, r.before.closed = false → r.call ≠ .write [] →
    r.requests = [r.call.request r.before] ∧ r.result = r.call.answered r.reply
  /-- A request passes the number of bytes of the writes that returned `Ok` before it. -/
  offsets : ∀ pre r post, runs = pre ++ r :: post →
    ∀ q ∈ r.requests, q.offset = (written pre).length
  /-- A call that fails leaves stdin as it is. -/
  failed : ∀ r ∈ runs, r.Failed → r.after = r.before
  /-- A close that fails leaves stdin open. -/
  leftOpen : ∀ r ∈ runs, ∀ e, r.result = .closeFailed e → r.after.closed = false
  /-- The end is marked by a close, behind everything that is ever written. -/
  marked : ∀ r ∈ runs, ∀ q ∈ r.requests, (q.eof = true ↔ r.call = .close) ∧
    (r.Closes → q.offset = (written runs).length)
  /-- After a close that returned `Ok` nothing is sent, a write fails and a close returns `Ok`. -/
  quiet : ∀ pre r post, runs = pre ++ r :: post → (∃ c ∈ pre, c.Closes) → r.requests = [] ∧
    (∀ buf, r.call = .write buf → ∃ e, r.result = .writeFailed e) ∧
    (r.call = .close → r.result = .closed)
  /-- The server has the bytes of the writes that returned `Ok`. -/
  assembled : server.data = written runs

/-- What was written before a close is all that is written. -/
theorem written_of_closes (h : Session taskId execId (pre ++ r :: post) s server)
    (hcloses : r.Closes) : written (pre ++ r :: post) = written pre := by
  have hrest : ∀ x ∈ r :: post, x.written = [] := by
    intro x hx
    obtain ⟨mid, post', hsplit⟩ := List.append_of_mem hx
    cases mid with
    | nil =>
      cases hsplit
      obtain ⟨hcall, -⟩ := hcloses
      rw [StdinRun.written, hcall]
    | cons r' mid =>
      obtain ⟨rfl, rfl⟩ : r = r' ∧ post = mid ++ x :: post' := List.cons.inj hsplit
      rw [← List.cons_append, ← List.append_assoc] at h
      obtain ⟨server₁, server₂, hbefore, hperforms⟩ := session_split h
      have hclosed : x.before.closed = true := (session_inv hbefore).closed.mpr
        ⟨r, List.mem_append_right _ List.mem_cons_self, hcloses⟩
      cases hperforms with
      | writeClosed s buf reply hclosed => rfl
      | closeClosed s reply hclosed => rfl
      | writeEmpty s reply hopen => rfl
      | writeRefused s buf e hopen hempty => rfl
      | closeRefused s e hopen => rfl
      | closes s hopen => rfl
      | writes s buf hopen hempty =>
        rw [hopen] at hclosed
        cases hclosed
  rw [written_append]
  have hnil : written (r :: post) = [] := List.flatMap_eq_nil_iff.mpr hrest
  rw [hnil, List.append_nil]

/-- The requests of a call are at the offset that it found, and mark the end if it is a close. -/
theorem performs_requests {server' : StdinServer} (hstep : Performs server r server') :
    ∀ q ∈ r.requests, q.offset = r.before.offset ∧ (q.eof = true ↔ r.call = .close) := by
  have hone : ∀ (q q' : StdinRequest), q ∈ [q'] → q = q' := fun _ _ h => List.mem_singleton.mp h
  intro q hq
  cases hstep with
  | writeClosed s buf reply hclosed => cases hq
  | closeClosed s reply hclosed => cases hq
  | writeEmpty s reply hopen => cases hq
  | writeRefused s buf e hopen hempty =>
    rw [hone _ _ hq]
    exact ⟨rfl, fun h => (by cases h), fun h => by cases h⟩
  | writes s buf hopen hempty =>
    rw [hone _ _ hq]
    exact ⟨rfl, fun h => (by cases h), fun h => by cases h⟩
  | closeRefused s e hopen =>
    rw [hone _ _ hq]
    exact ⟨rfl, fun _ => rfl, fun _ => rfl⟩
  | closes s hopen =>
    rw [hone _ _ hq]
    exact ⟨rfl, fun _ => rfl, fun _ => rfl⟩

/-- A call on an open stdin. -/
theorem performs_open {server' : StdinServer} (hstep : Performs server r server')
    (hopen : r.before.closed = false) (hempty : r.call ≠ .write []) :
    r.requests = [r.call.request r.before] ∧ r.result = r.call.answered r.reply := by
  have hclosed : ¬ r.before.closed = true := Bool.eq_false_iff.mp hopen
  cases hstep with
  | writeClosed s buf reply h => exact absurd h hclosed
  | closeClosed s reply h => exact absurd h hclosed
  | writeEmpty s reply ho => exact absurd rfl hempty
  | writeRefused s buf e ho hne => exact ⟨rfl, rfl⟩
  | writes s buf ho hne => exact ⟨rfl, rfl⟩
  | closeRefused s e ho => exact ⟨rfl, rfl⟩
  | closes s ho => exact ⟨rfl, rfl⟩

/-- A call on a closed stdin. -/
theorem performs_closed {server' : StdinServer} (hstep : Performs server r server')
    (hclosed : r.before.closed = true) : r.requests = [] ∧
      (∀ buf, r.call = .write buf → ∃ e, r.result = .writeFailed e) ∧
      (r.call = .close → r.result = .closed) := by
  have hopen : r.before.closed ≠ false := by
    rw [hclosed]
    decide
  cases hstep with
  | writeClosed s buf reply hclosed => exact ⟨rfl, fun _ _ => ⟨_, rfl⟩, fun h => (by cases h)⟩
  | closeClosed s reply hclosed => exact ⟨rfl, fun _ h => (by cases h), fun _ => rfl⟩
  | writeEmpty s reply ho => exact absurd ho hopen
  | writeRefused s buf e ho hempty => exact absurd ho hopen
  | writes s buf ho hempty => exact absurd ho hopen
  | closeRefused s e ho => exact absurd ho hopen
  | closes s ho => exact absurd ho hopen

/-- A call that fails leaves stdin as it is, and open if it is a close. -/
theorem performs_failed {server' : StdinServer} (hstep : Performs server r server')
    (hfailed : r.Failed) :
    r.after = r.before ∧ ∀ e, r.result = .closeFailed e → r.after.closed = false := by
  cases hstep with
  | writeClosed s buf reply hclosed => exact ⟨rfl, fun _ h => by cases h⟩
  | writeRefused s buf e hopen hempty => exact ⟨rfl, fun _ h => by cases h⟩
  | closeRefused s e hopen => exact ⟨rfl, fun _ _ => hopen⟩
  | closeClosed s reply hclosed => rcases hfailed with ⟨_, h⟩ | ⟨_, h⟩ <;> cases h
  | writeEmpty s reply hopen => rcases hfailed with ⟨_, h⟩ | ⟨_, h⟩ <;> cases h
  | writes s buf hopen hempty => rcases hfailed with ⟨_, h⟩ | ⟨_, h⟩ <;> cases h
  | closes s hopen => rcases hfailed with ⟨_, h⟩ | ⟨_, h⟩ <;> cases h

/-- **The offsets reassemble the stream**, in every session of writes and closes: whichever RPCs
    fail, the server has exactly the bytes of the writes that returned `Ok`, in order. -/
theorem stdin_reassembled (h : Session taskId execId runs s server) : Reassembles runs server := by
  have hperforms : ∀ r ∈ runs, ∃ server₁ server₂, Performs server₁ r server₂ := by
    intro r hr
    obtain ⟨pre, post, rfl⟩ := List.append_of_mem hr
    obtain ⟨server₁, server₂, -, hstep⟩ := session_split h
    exact ⟨server₁, server₂, hstep⟩
  refine ⟨fun r hr hopen hempty => ?_, ?_, fun r hr hfailed => ?_, fun r hr e he => ?_,
    fun r hr q hq => ?_, ?_, (session_inv h).data⟩
  · obtain ⟨server₁, server₂, hstep⟩ := hperforms r hr
    exact performs_open hstep hopen hempty
  · rintro pre r post rfl q hq
    obtain ⟨server₁, server₂, hbefore, hstep⟩ := session_split h
    rw [(performs_requests hstep q hq).1, (session_inv hbefore).offset]
  · obtain ⟨server₁, server₂, hstep⟩ := hperforms r hr
    exact (performs_failed hstep hfailed).1
  · obtain ⟨server₁, server₂, hstep⟩ := hperforms r hr
    exact (performs_failed hstep (Or.inr ⟨e, he⟩)).2 e he
  · obtain ⟨pre, post, rfl⟩ := List.append_of_mem hr
    obtain ⟨server₁, server₂, hbefore, hstep⟩ := session_split h
    obtain ⟨hoffset, heof⟩ := performs_requests hstep q hq
    refine ⟨heof, fun hcloses => ?_⟩
    rw [hoffset, (session_inv hbefore).offset, written_of_closes h hcloses]
  · rintro pre r post rfl hcloses
    obtain ⟨server₁, server₂, hbefore, hstep⟩ := session_split h
    exact performs_closed hstep ((session_inv hbefore).closed.mpr hcloses)

end Session

/-- A write is refused and made again, so is a close, and one more write comes too late. -/
def retried : List StdinRun :=
  let stdin := fun offset closed => (⟨"ta-1", "ex-1", offset, closed⟩ : ContainerProcessStdin)
  [⟨stdin 0 false, .write [1, 2], .ok (), [(stdin 0 false).request [1, 2] false], .wrote 2,
     stdin 2 false⟩,
   ⟨stdin 2 false, .write [3], .error (.other "lost"), [(stdin 2 false).request [3] false],
     .writeFailed (.other (.other "lost")), stdin 2 false⟩,
   ⟨stdin 2 false, .write [3], .ok (), [(stdin 2 false).request [3] false], .wrote 1,
     stdin 3 false⟩,
   ⟨stdin 3 false, .close, .error (.other "lost"), [(stdin 3 false).request [] true],
     .closeFailed (.other "lost"), stdin 3 false⟩,
   ⟨stdin 3 false, .close, .ok (), [(stdin 3 false).request [] true], .closed, stdin 3 true⟩,
   ⟨stdin 3 true, .write [4], .ok (), [], .writeFailed (.brokenPipe "stdin closed"),
     stdin 3 true⟩]

theorem stdin_reassembled_retried :
    Session "ta-1" "ex-1" retried ⟨"ta-1", "ex-1", 3, true⟩ ⟨[1, 2, 3], some 3⟩ ∧
      Reassembles retried ⟨[1, 2, 3], some 3⟩ := by
  have h₁ : Session "ta-1" "ex-1" (retried.take 1) _ _ :=
    .call [] _ _ _ _ (.write [1, 2]) (.ok ()) _ _ .start rfl
  have h₂ : Session "ta-1" "ex-1" (retried.take 2) _ _ :=
    .call _ _ _ _ _ (.write [3]) (.error (.other "lost")) _ _ h₁ rfl
  have h₃ : Session "ta-1" "ex-1" (retried.take 3) _ _ :=
    .call _ _ _ _ _ (.write [3]) (.ok ()) _ _ h₂ rfl
  have h₄ : Session "ta-1" "ex-1" (retried.take 4) _ _ :=
    .call _ _ _ _ _ .close (.error (.other "lost")) _ _ h₃ rfl
  have h₅ : Session "ta-1" "ex-1" (retried.take 5) _ _ :=
    .call _ _ _ _ _ .close (.ok ()) _ _ h₄ rfl
  have h₆ : Session "ta-1" "ex-1" retried _ _ :=
    .call _ _ _ _ _ (.write [4]) (.ok ()) _ _ h₅ rfl
  exact ⟨h₆, stdin_reassembled h₆⟩

end Stdin

end ModalRs
