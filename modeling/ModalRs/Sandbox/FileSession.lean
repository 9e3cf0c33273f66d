/-
  File:      ModalRs/Sandbox/FileSession.lean
  Subject:   Sequences of calls on an open file: what is sent, and when nothing more is.

  * `FileCall`, `Calls`: calls on a handle, one after the other, with any replies.
  * `FileProtocol`: requests fit the mode, and none names the descriptor after its
    Close request was accepted.
  * `fileDiscipline`: the same as an automaton; `after_iff` connects them.
  * `keeps_program`: a call keeps to it, unless it closes a closed handle.
  * `closed_once_exactly`: so a sequence of calls keeps to it exactly when no call does.
-/
import ModalRs.Sandbox.Filesystem

namespace ModalRs.FileSession

open ModalRs.Lib

/-! ## 1. Calls -/

/-- A call on an open file. -/
inductive FileCall where
  | read (n : Option Nat)
  | readline
  | write (data : List UInt8)
  | flush
  | seek (offset : Int64) (whence : SeekWhence)
  | close
  deriving DecidableEq

/-- An RPC with its reply. -/
abbrev FilesystemEvent : Type := Answered FilesystemRpc FilesystemRpc.Reply

/-- The handle behind a call that leaves it alone. -/
def leaving {α : Type} (file : FileIO) (p : FilesystemM α) :
    Resumption FilesystemRpc FilesystemRpc.Reply FileIO := do
  let _ ← p.run
  pure file

/-- A call, and the handle behind it. -/
def FileCall.program (file : FileIO) :
    FileCall → Resumption FilesystemRpc FilesystemRpc.Reply FileIO
  | .read n => leaving file (SandboxFilesystem.read file n)
  | .readline => leaving file (SandboxFilesystem.readline file)
  | .write data => leaving file (SandboxFilesystem.write file data)
  | .flush => leaving file (SandboxFilesystem.flush file)
  | .seek offset whence => leaving file (SandboxFilesystem.seek file offset whence)
  | .close => do
      let (_, file) ← SandboxFilesystem.close file
      pure file

/-- A call that returned, with the handle before it, its RPCs, and the handle behind it. -/
structure CallRun where
  before : FileIO
  call : FileCall
  events : List FilesystemEvent
  after : FileIO

/-- Calls on a handle, one after the other. -/
inductive Calls : FileIO → List CallRun → FileIO → Prop where
  | nil (file : FileIO) : Calls file [] file
  | cons (file file' file'' : FileIO) (call : FileCall) (events : List FilesystemEvent)
      (runs : List CallRun) (hrun : Resumption.Follows (call.program file) events (.done file'))
      (hrest : Calls file' runs file'') : Calls file (⟨file, call, events, file'⟩ :: runs) file''

/-- All RPCs of some calls, in order. -/
def rpcs (runs : List CallRun) : List FilesystemEvent := runs.flatMap (·.events)

/-! ## 2. The protocol -/

/-- The request of an event fits the mode. -/
def Fits (mode : FileMode) : FilesystemEvent → Prop
  | ⟨.exec _ request, _⟩ => request.fits mode = true
  | ⟨.getOutput _, _⟩ => True

/-- The request of an event names the descriptor. -/
def Names (fd : String) : FilesystemEvent → Prop
  | ⟨.exec _ request, _⟩ => request.descriptor? = some fd
  | ⟨.getOutput _, _⟩ => False

/-- The server accepted a Close request for the descriptor. -/
def ClosesFile (fd : String) : FilesystemEvent → Prop
  | ⟨.exec _ request, .ok _⟩ => request = .close fd
  | _ => False

/-- **The protocol of an open file**: every request fits the mode, and after an accepted Close
    request for the descriptor no request names it. -/
structure FileProtocol (mode : FileMode) (fd : String) (es : List FilesystemEvent) : Prop where
  fits : ∀ e ∈ es, Fits mode e
  quiet : ∀ pre e post, es = pre ++ e :: post → ClosesFile fd e → ∀ e' ∈ post, ¬ Names fd e'

instance (mode : FileMode) : DecidablePred (Fits mode)
  | ⟨.exec _ request, _⟩ => inferInstanceAs (Decidable (request.fits mode = true))
  | ⟨.getOutput _, _⟩ => isTrue trivial

instance (fd : String) : DecidablePred (Names fd)
  | ⟨.exec _ request, _⟩ => inferInstanceAs (Decidable (request.descriptor? = some fd))
  | ⟨.getOutput _, _⟩ => isFalse id

instance (fd : String) : DecidablePred (ClosesFile fd)
  | ⟨.exec _ request, .ok _⟩ => inferInstanceAs (Decidable (request = .close fd))
  | ⟨.exec _ _, .error _⟩ => isFalse id
  | ⟨.getOutput _, _⟩ => isFalse id

/-- The protocol as an automaton; its mode says whether the Close request was accepted. -/
def fileDiscipline (mode : FileMode) (fd : String) :
    Resumption.Discipline FilesystemRpc FilesystemRpc.Reply Bool := fun closed e =>
  if Fits mode e ∧ (closed = true → ¬ Names fd e) then some (closed || decide (ClosesFile fd e))
  else none

section Protocol

variable {mode : FileMode} {fd : String} {closed : Bool} {es : List FilesystemEvent}

/-- **What the automaton reads** is what fits the mode, and names no descriptor behind its close. -/
theorem after_iff : (∃ closed', (fileDiscipline mode fd).after closed es = some closed') ↔
    FileProtocol mode fd es ∧ (closed = true → ∀ e ∈ es, ¬ Names fd e) := by
  induction es generalizing closed with
  | nil =>
    refine ⟨fun _ => ⟨⟨fun e he => absurd he List.not_mem_nil, ?_⟩,
      fun _ e he => absurd he List.not_mem_nil⟩, fun _ => ⟨closed, rfl⟩⟩
    intro pre e post h
    exact absurd h (by simp)
  | cons e es ih =>
    constructor
    · rintro ⟨closed', h⟩
      obtain ⟨next, hnext, hrest⟩ := Resumption.Discipline.after_cons.mp h
      obtain ⟨hfits, hnames⟩ : Fits mode e ∧ (closed = true → ¬ Names fd e) := by
        by_contra hno
        rw [fileDiscipline, if_neg hno] at hnext
        cases hnext
      rw [fileDiscipline, if_pos ⟨hfits, hnames⟩] at hnext
      cases hnext
      obtain ⟨hprotocol, hquiet⟩ := ih.mp ⟨closed', hrest⟩
      refine ⟨⟨List.forall_mem_cons.mpr ⟨hfits, hprotocol.fits⟩, ?_⟩, fun hclosed => ?_⟩
      · intro pre e₁ post hsplit hcloses
        cases pre with
        | nil =>
          cases hsplit
          exact hquiet (by rw [decide_eq_true hcloses, Bool.or_true])
        | cons e₀ pre =>
          cases hsplit
          exact hprotocol.quiet pre e₁ post rfl hcloses
      · exact List.forall_mem_cons.mpr ⟨hnames hclosed, hquiet (by rw [hclosed, Bool.true_or])⟩
    · rintro ⟨hprotocol, hquiet⟩
      have hfits := hprotocol.fits e List.mem_cons_self
      have hnames : closed = true → ¬ Names fd e := fun h => hquiet h e List.mem_cons_self
      have hrest : FileProtocol mode fd es :=
        ⟨fun e' he' => hprotocol.fits e' (List.mem_cons_of_mem _ he'),
          fun pre e₁ post hsplit => hprotocol.quiet (e :: pre) e₁ post (by rw [hsplit]; rfl)⟩
      have hlater : (closed || decide (ClosesFile fd e)) = true → ∀ e' ∈ es, ¬ Names fd e' := by
        intro h
        rcases Bool.or_eq_true_iff.mp h with h | h
        · exact fun e' he' => hquiet h e' (List.mem_cons_of_mem _ he')
        · exact hprotocol.quiet [] e es rfl (of_decide_eq_true h)
      have hstep : fileDiscipline mode fd closed e =
          some (closed || decide (ClosesFile fd e)) := by
        rw [fileDiscipline, if_pos ⟨hfits, hnames⟩]
      obtain ⟨closed', h⟩ := ih.mpr ⟨hrest, hlater⟩
      exact ⟨closed', Resumption.Discipline.after_cons.mpr ⟨_, hstep, h⟩⟩

end Protocol

/-! ## 3. What a call keeps to -/

section Keeps

open Resumption

variable {mode : FileMode} {fd : String} {closed : Bool} {α : Type}

/-- The automaton is where it was. -/
def Unmoved (closed : Bool) (closed' : Bool) (_ : α) : Prop := closed' = closed

/-- A check that may end the call before it sends anything. -/
theorem keeps_check {check : Except ModalError Unit} {p : FilesystemM α}
    (hp : check = .ok () → Keeps (fileDiscipline mode fd) (Unmoved closed) closed p.run) :
    Keeps (fileDiscipline mode fd) (Unmoved closed) closed
      ((liftM check : FilesystemM Unit) >>= fun _ => p).run := by
  cases check with
  | error e => exact rfl
  | ok _ => exact hp rfl

/-- A request that fits, to an open file, and is no Close request. -/
theorem keeps_exec {taskId : String} {request : FilesystemExecRequest}
    {next : FilesystemExecResponse → FilesystemM α} (hfits : request.fits mode = true)
    (hne : request ≠ .close fd)
    (hnext : ∀ resp, Keeps (fileDiscipline mode fd) (Unmoved false) false (next resp).run) :
    Keeps (fileDiscipline mode fd) (Unmoved false) false
      (filesystemExec taskId request >>= next).run := by
  have hstep : ∀ out, fileDiscipline mode fd false ⟨.exec taskId request, out⟩ = some false := by
    intro out
    have hcloses : ¬ ClosesFile fd ⟨.exec taskId request, out⟩ := by
      cases out with
      | ok resp => exact hne
      | error e => exact id
    rw [fileDiscipline, if_pos ⟨hfits, fun h => Bool.noConfusion h⟩, decide_eq_false hcloses]
    rfl
  intro out
  refine ⟨false, hstep out, ?_⟩
  cases out with
  | ok resp => exact hnext resp
  | error e => exact rfl

/-- Waiting for an output is always allowed, and moves nothing. -/
theorem discipline_getOutput (execId : String) (out : Except ModalError (List UInt8)) :
    fileDiscipline mode fd closed ⟨.getOutput execId, out⟩ = some closed := by
  rw [fileDiscipline, if_pos ⟨trivial, fun _ => id⟩]
  exact congrArg some (Bool.or_false closed)

theorem keeps_output {execId : String} :
    Keeps (fileDiscipline mode fd) (Unmoved closed) closed (filesystemExecGetOutput execId).run :=
  fun out => ⟨closed, discipline_getOutput execId out, rfl⟩

/-- An output, and what is done when it is there. -/
theorem keeps_getOutput {execId : String} {next : List UInt8 → FilesystemM α}
    (hnext : ∀ output, Keeps (fileDiscipline mode fd) (Unmoved closed) closed (next output).run) :
    Keeps (fileDiscipline mode fd) (Unmoved closed) closed
      (filesystemExecGetOutput execId >>= next).run := by
  refine keeps_bindExcept keeps_output (fun closed' output h => ?_) fun _ _ h => h
  cases h
  exact hnext output

end Keeps

section Operations

open Resumption

variable {file : FileIO}

/-- The file is open: what follows is sent to an open file. -/
theorem keeps_open {α : Type} {p : FilesystemM α}
    (hp : file.closed = false →
      Keeps (fileDiscipline file.mode file.fileDescriptor) (Unmoved false) false p.run) :
    Keeps (fileDiscipline file.mode file.fileDescriptor) (Unmoved file.closed) file.closed
      ((liftM file.checkClosed : FilesystemM Unit) >>= fun _ => p).run := by
  refine keeps_check fun hcheck => ?_
  have hopen := FileIO.checkClosed_ok hcheck
  rw [hopen]
  exact hp hopen

theorem keeps_read (n : Option Nat) :
    Keeps (fileDiscipline file.mode file.fileDescriptor) (Unmoved file.closed) file.closed
      (SandboxFilesystem.read file n).run := by
  refine keeps_open fun _ => keeps_check fun hreadable => keeps_check fun _ => ?_
  have hmode := FileIO.checkReadable_ok hreadable
  exact keeps_exec hmode nofun fun _ => keeps_output

theorem keeps_readline :
    Keeps (fileDiscipline file.mode file.fileDescriptor) (Unmoved file.closed) file.closed
      (SandboxFilesystem.readline file).run := by
  refine keeps_open fun _ => keeps_check fun hreadable => ?_
  have hmode := FileIO.checkReadable_ok hreadable
  exact keeps_exec hmode nofun fun _ => keeps_output

theorem keeps_writeLoop (hwritable : file.mode.writable = true) : ∀ chunks : List (List UInt8),
    Keeps (fileDiscipline file.mode file.fileDescriptor) (Unmoved false) false
      (SandboxFilesystem.writeLoop file chunks).run
  | [] => rfl
  | _ :: chunks => keeps_exec hwritable nofun fun _ => keeps_getOutput fun _ =>
      keeps_writeLoop hwritable chunks

theorem keeps_write (data : List UInt8) :
    Keeps (fileDiscipline file.mode file.fileDescriptor) (Unmoved file.closed) file.closed
      (SandboxFilesystem.write file data).run := by
  refine keeps_open fun _ => keeps_check fun hwritable => keeps_check fun _ => ?_
  have hmode := FileIO.checkWritable_ok hwritable
  exact keeps_writeLoop hmode _

theorem keeps_flush :
    Keeps (fileDiscipline file.mode file.fileDescriptor) (Unmoved file.closed) file.closed
      (SandboxFilesystem.flush file).run := by
  refine keeps_open fun _ => keeps_check fun hwritable => ?_
  have hmode := FileIO.checkWritable_ok hwritable
  exact keeps_exec hmode nofun fun _ => keeps_getOutput fun _ => rfl

theorem keeps_seek (offset : Int64) (whence : SeekWhence) :
    Keeps (fileDiscipline file.mode file.fileDescriptor) (Unmoved file.closed) file.closed
      (SandboxFilesystem.seek file offset whence).run := by
  refine keeps_open fun _ => ?_
  exact keeps_exec rfl nofun fun _ => keeps_getOutput fun _ => rfl

/-- What the automaton knows of the handle behind a call. -/
def Behind (file : FileIO) (closed : Bool) (file' : FileIO) : Prop :=
  closed = file'.closed ∧ file'.mode = file.mode ∧ file'.fileDescriptor = file.fileDescriptor

theorem keeps_leaving {α : Type} {p : FilesystemM α}
    (hp : Keeps (fileDiscipline file.mode file.fileDescriptor) (Unmoved file.closed) file.closed
      p.run) :
    Keeps (fileDiscipline file.mode file.fileDescriptor) (Behind file) file.closed
      (leaving file p) :=
  keeps_bind hp fun _ _ h => ⟨h, rfl, rfl⟩

/-- Closing an open file. -/
theorem keeps_close (hopen : file.closed = false) :
    Keeps (fileDiscipline file.mode file.fileDescriptor) (Behind file) file.closed
      (FileCall.program file .close) := by
  rw [hopen]
  intro out
  cases out with
  | error e =>
    have hstep : fileDiscipline file.mode file.fileDescriptor false
        ⟨.exec file.taskId (.close file.fileDescriptor), .error e⟩ = some false :=
      if_pos ⟨rfl, fun h => nomatch h⟩
    exact ⟨false, hstep, hopen.symm, rfl, rfl⟩
  | ok resp =>
    have hstep : fileDiscipline file.mode file.fileDescriptor false
        ⟨.exec file.taskId (.close file.fileDescriptor), .ok resp⟩ = some true := by
      rw [fileDiscipline, if_pos ⟨rfl, fun h => nomatch h⟩]
      exact congrArg some (decide_eq_true rfl)
    refine ⟨true, hstep, fun out => ⟨true, discipline_getOutput _ out, ?_⟩⟩
    cases out with
    | ok output => exact ⟨rfl, rfl, rfl⟩
    | error e => exact ⟨rfl, rfl, rfl⟩

/-- **A call keeps to the protocol**, unless it closes a handle that is closed. -/
theorem keeps_program {call : FileCall} (h : call = .close → file.closed = false) :
    Keeps (fileDiscipline file.mode file.fileDescriptor) (Behind file) file.closed
      (call.program file) := by
  cases call with
  | read n => exact keeps_leaving (keeps_read n)
  | readline => exact keeps_leaving keeps_readline
  | write data => exact keeps_leaving (keeps_write data)
  | flush => exact keeps_leaving keeps_flush
  | seek offset whence => exact keeps_leaving (keeps_seek offset whence)
  | close => exact keeps_close (h rfl)

/-- Closing a closed handle sends a Close request, which the automaton does not read. -/
theorem close_stopped {es : List FilesystemEvent} {file' : FileIO}
    (h : Follows (FileCall.program file .close) es (.done file')) :
    ¬ ∃ closed, (fileDiscipline file.mode file.fileDescriptor).after true es = some closed := by
  cases h with
  | act a next out hrest =>
    rintro ⟨closed, hafter⟩
    obtain ⟨next, hnext, -⟩ := Discipline.after_cons.mp hafter
    have hno : ¬ (Fits file.mode ⟨.exec file.taskId (.close file.fileDescriptor), out⟩ ∧
        (true = true → ¬ Names file.fileDescriptor
          ⟨.exec file.taskId (.close file.fileDescriptor), out⟩)) := fun h => h.2 rfl rfl
    rw [fileDiscipline, if_neg hno] at hnext
    cases hnext

end Operations

/-! ## 4. Sequences of calls -/

/-- No call closes a handle that is closed. -/
def ClosedOnce (runs : List CallRun) : Prop :=
  ∀ r ∈ runs, r.call = .close → r.before.closed = false

/-- **The automaton reads a sequence of calls exactly when none closes a closed handle.** -/
theorem calls_after {file file' : FileIO} {runs : List CallRun} (h : Calls file runs file') :
    (∃ closed, (fileDiscipline file.mode file.fileDescriptor).after file.closed (rpcs runs) =
      some closed) ↔ ClosedOnce runs := by
  induction h with
  | nil file => exact ⟨fun _ r hr => absurd hr List.not_mem_nil, fun _ => ⟨file.closed, rfl⟩⟩
  | cons file file' file'' call events runs hrun hrest ih =>
    have hrpcs : rpcs (⟨file, call, events, file'⟩ :: runs) = events ++ rpcs runs := rfl
    rw [hrpcs, ClosedOnce, List.forall_mem_cons]
    by_cases hclose : call = .close → file.closed = false
    · -- the call leaves the automaton where the handle is
      obtain ⟨closed', hafter, hclosed, hmode, hfd⟩ :=
        Resumption.keeps_follows hrun (keeps_program hclose)
      subst hclosed
      rw [hmode, hfd] at ih
      constructor
      · rintro ⟨closed, hall⟩
        obtain ⟨closed'', hfirst, hlater⟩ := Resumption.Discipline.after_append.mp hall
        rw [hafter] at hfirst
        cases hfirst
        exact ⟨hclose, ih.mp ⟨closed, hlater⟩⟩
      · rintro ⟨-, honce⟩
        obtain ⟨closed, hlater⟩ := ih.mpr honce
        exact ⟨closed, Resumption.Discipline.after_append.mpr ⟨_, hafter, hlater⟩⟩
    · -- a second Close request
      obtain ⟨hcall, hclosed⟩ := Classical.not_imp.mp hclose
      have hclosed : file.closed = true := Bool.of_not_eq_false hclosed
      subst hcall
      rw [hclosed]
      constructor
      · rintro ⟨closed, hall⟩
        obtain ⟨closed'', hfirst, -⟩ := Resumption.Discipline.after_append.mp hall
        exact absurd ⟨closed'', hfirst⟩ (close_stopped hrun)
      · rintro ⟨honce, -⟩
        cases honce rfl

/-- A handle that was just opened is open. -/
theorem open_open {taskId path mode : String} {es : List FilesystemEvent} {file : FileIO}
    (h : Resumption.Follows (SandboxFilesystem.open_ taskId path mode).run es
      (.done (.ok file))) : file.closed = false := by
  have hkeeps : Resumption.Keeps (fun (_ : Unit) _ => some ())
      (fun _ out => ∀ file, out = Except.ok file → file.closed = false) ()
      (SandboxFilesystem.open_ taskId path mode).run := by
    unfold SandboxFilesystem.open_
    cases FileMode.parse mode with
    | error e => exact fun file hfile => nomatch hfile
    | ok fileMode =>
      intro out
      refine ⟨(), rfl, ?_⟩
      rcases out with e | ⟨execId, _ | fileDescriptor⟩
      · exact fun file hfile => nomatch hfile
      · exact fun file hfile => nomatch hfile
      · intro out
        refine ⟨(), rfl, ?_⟩
        rcases out with e | output
        · exact fun file hfile => nomatch hfile
        · intro file hfile
          cases hfile
          rfl
  obtain ⟨_, -, hpost⟩ := Resumption.keeps_follows h hkeeps
  exact hpost file rfl

/-- **When an open file keeps to its protocol**: for any calls on a file that was opened, answered
    in any way, every request fits the mode, and none names the descriptor after its Close request
    was accepted, if and only if no call closes a handle that is closed. -/
theorem closed_once_exactly {taskId path mode : String} {es : List FilesystemEvent}
    {file file' : FileIO} {runs : List CallRun}
    (hopen : Resumption.Follows (SandboxFilesystem.open_ taskId path mode).run es
      (.done (.ok file)))
    (hcalls : Calls file runs file') :
    FileProtocol file.mode file.fileDescriptor (rpcs runs) ↔ ClosedOnce runs := by
  rw [← calls_after hcalls, after_iff, open_open hopen]
  exact ⟨fun h => ⟨h, fun hclosed => nomatch hclosed⟩, fun h => h.1⟩

section Closing

/-- The handle of a file opened with mode "r". -/
def readOnly : FileIO := FileIO.new "ta-1" "fd-1" ⟨true, false, false, false, "r"⟩

/-- The RPCs of its opening. -/
def opening : List FilesystemEvent :=
  [⟨.exec "ta-1" (.open_ "/a" "r"), .ok ⟨"ex-1", some "fd-1"⟩⟩, ⟨.getOutput "ex-1", .ok []⟩]

/-- The RPCs of its closing. -/
def closing : List FilesystemEvent :=
  [⟨.exec "ta-1" (.close "fd-1"), .ok ⟨"ex-2", none⟩⟩, ⟨.getOutput "ex-2", .ok []⟩]

theorem readOnly_opened :
    Resumption.Follows (SandboxFilesystem.open_ "ta-1" "/a" "r").run opening
      (.done (.ok readOnly)) :=
  .act _ _ _ (.act _ _ _ (.refl _))

/-- **A second close sends a second Close request** for the descriptor. -/
theorem close_again :
    let runs : List CallRun := [⟨readOnly, .close, closing, readOnly.close⟩,
      ⟨readOnly.close, .close, closing, readOnly.close⟩]
    Resumption.Follows (SandboxFilesystem.open_ "ta-1" "/a" "r").run opening
        (.done (.ok readOnly)) ∧
      Calls readOnly runs readOnly.close ∧ ¬ FileProtocol readOnly.mode "fd-1" (rpcs runs) := by
  intro runs
  refine ⟨readOnly_opened, ?_, fun h => ?_⟩
  · refine .cons _ _ _ _ _ _ (.act _ _ _ (.act _ _ _ (.refl _))) ?_
    exact .cons _ _ _ _ _ _ (.act _ _ _ (.act _ _ _ (.refl _))) (.nil _)
  · have hquiet := h.quiet [] _ _ rfl (rfl : FilesystemExecRequest.close "fd-1" = .close "fd-1")
    exact hquiet ⟨.exec "ta-1" (.close "fd-1"), .ok ⟨"ex-2", none⟩⟩ (by simp [closing]) rfl

/-- A read of a closed file sends nothing. -/
theorem closed_once_exactly_read :
    let runs : List CallRun := [⟨readOnly, .close, closing, readOnly.close⟩,
      ⟨readOnly.close, .read none, [], readOnly.close⟩]
    FileProtocol readOnly.mode "fd-1" (rpcs runs) := by
  intro runs
  have hcalls : Calls readOnly runs readOnly.close := by
    refine .cons _ _ _ _ _ _ (.act _ _ _ (.act _ _ _ (.refl _))) ?_
    exact .cons _ _ _ _ _ _ (.refl _) (.nil _)
  refine (closed_once_exactly readOnly_opened hcalls).mpr ?_
  refine List.forall_mem_cons.mpr ⟨fun _ => rfl, List.forall_mem_singleton.mpr fun hcall => ?_⟩
  cases hcall

end Closing

end ModalRs.FileSession
