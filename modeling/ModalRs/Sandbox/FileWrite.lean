/-
  File:      ModalRs/Sandbox/FileWrite.lean
  Subject:   What a write sends, piece by piece, whatever it is replied.

  Each piece takes a Write request and then a wait for its output. The program
  is stopped anywhere: it may be done, or it waits for a reply.

  * `requested`: all that was requested; `pieces`, `acknowledged`: the Write requests of it.
  * `WriteRun`: how the loop goes over the pieces. `writeLoop_run`: there is no other way.
  * `WritePromise`, `write_keeps_promise`: for every file, all data and all replies.
-/
import ModalRs.Sandbox.FileSession

namespace ModalRs.FileWrite

open ModalRs.Lib ModalRs.FileSession
open FileIO (writeChunks)

/-! ## 1. What is requested -/

/-- A program of the filesystem service, once its failures are values. -/
abbrev FilesystemProgram (α : Type) : Type :=
  Resumption FilesystemRpc FilesystemRpc.Reply (Except ModalError α)

/-- The request that is not answered yet. -/
def awaited {α : Type} : FilesystemProgram α → List FilesystemRpc
  | .done _ => []
  | .act r _ => [r]

/-- All that was requested, in order: what was answered, and what is waited for. -/
def requested {α : Type} (es : List FilesystemEvent) (q : FilesystemProgram α) :
    List FilesystemRpc := es.map (·.action) ++ awaited q

/-- The data of a Write request. -/
def writeData? : FilesystemRpc → Option (List UInt8)
  | .exec _ (.write _ data) => some data
  | _ => none

/-- The pieces that were sent. -/
def pieces {α : Type} (es : List FilesystemEvent) (q : FilesystemProgram α) : List (List UInt8) :=
  (requested es q).filterMap writeData?

/-- The pieces that were accepted, and whose output came. -/
def acknowledged : List FilesystemEvent → List (List UInt8)
  | ⟨.exec _ (.write _ data), .ok resp⟩ :: ⟨.getOutput execId, .ok _⟩ :: es =>
      if execId = resp.execId then data :: acknowledged es else acknowledged es
  | _ :: es => acknowledged es
  | [] => []

/-- The error of a reply. -/
def errorOf : FilesystemEvent → Option ModalError
  | ⟨.exec _ _, .error e⟩ => some e
  | ⟨.getOutput _, .error e⟩ => some e
  | _ => none

/-! ## 2. The loop -/

/-- How the loop of a write goes over the pieces that are left. -/
inductive WriteRun (file : FileIO) :
    List (List UInt8) → List FilesystemEvent → FilesystemProgram Unit → Prop where
  | finished : WriteRun file [] [] (.done (.ok ()))
  | sending (piece : List UInt8) (rest : List (List UInt8))
      (next : Except ModalError FilesystemExecResponse → FilesystemProgram Unit) :
      WriteRun file (piece :: rest) []
        (.act (.exec file.taskId (.write file.fileDescriptor piece)) next)
  | refused (piece : List UInt8) (rest : List (List UInt8)) (e : ModalError) :
      WriteRun file (piece :: rest)
        [⟨.exec file.taskId (.write file.fileDescriptor piece), .error e⟩] (.done (.error e))
  | waiting (piece : List UInt8) (rest : List (List UInt8)) (resp : FilesystemExecResponse)
      (next : Except ModalError (List UInt8) → FilesystemProgram Unit) :
      WriteRun file (piece :: rest)
        [⟨.exec file.taskId (.write file.fileDescriptor piece), .ok resp⟩]
        (.act (.getOutput resp.execId) next)
  | lost (piece : List UInt8) (rest : List (List UInt8)) (resp : FilesystemExecResponse)
      (e : ModalError) :
      WriteRun file (piece :: rest)
        [⟨.exec file.taskId (.write file.fileDescriptor piece), .ok resp⟩,
          ⟨.getOutput resp.execId, .error e⟩] (.done (.error e))
  | written (piece : List UInt8) {rest : List (List UInt8)} (resp : FilesystemExecResponse)
      (output : List UInt8) {es : List FilesystemEvent} {q : FilesystemProgram Unit}
      (h : WriteRun file rest es q) :
      WriteRun file (piece :: rest)
        (⟨.exec file.taskId (.write file.fileDescriptor piece), .ok resp⟩ ::
          ⟨.getOutput resp.execId, .ok output⟩ :: es) q

/-- **How the loop goes**, whatever it is replied and wherever it is stopped. -/
theorem writeLoop_run {file : FileIO} {chunks : List (List UInt8)} {es : List FilesystemEvent}
    {q : FilesystemProgram Unit}
    (h : Resumption.Follows (SandboxFilesystem.writeLoop file chunks).run es q) :
    WriteRun file chunks es q := by
  induction chunks generalizing es with
  | nil =>
    obtain ⟨rfl, rfl⟩ := Resumption.Follows.of_done h
    exact .finished
  | cons piece rest ih =>
    cases h with
    | refl => exact .sending piece rest _
    | act _ _ reply h =>
      cases reply with
      | error e =>
        obtain ⟨rfl, rfl⟩ := Resumption.Follows.of_done h
        exact .refused piece rest e
      | ok resp =>
        cases h with
        | refl => exact .waiting piece rest resp _
        | act _ _ output h =>
          cases output with
          | error e =>
            obtain ⟨rfl, rfl⟩ := Resumption.Follows.of_done h
            exact .lost piece rest resp e
          | ok output => exact .written piece resp output (ih h)

section Runs

variable {file : FileIO} {chunks : List (List UInt8)} {es : List FilesystemEvent}
  {q : FilesystemProgram Unit}

/-- The pieces that are sent are the first ones. -/
theorem WriteRun.pieces_prefix (h : WriteRun file chunks es q) : pieces es q <+: chunks := by
  induction h with
  | finished => exact List.nil_prefix
  | sending piece rest | refused piece rest | waiting piece rest | lost piece rest =>
    exact ⟨rest, rfl⟩
  | written piece resp output h ih => exact (List.prefix_cons_inj piece).mpr ih

/-- So are the pieces that are acknowledged. -/
theorem WriteRun.acknowledged_prefix (h : WriteRun file chunks es q) :
    acknowledged es <+: pieces es q := by
  induction h with
  | finished | sending | refused | waiting | lost => exact List.nil_prefix
  | @written piece rest resp output es q h ih =>
    have hsame : acknowledged (⟨.exec file.taskId (.write file.fileDescriptor piece), .ok resp⟩ ::
        ⟨.getOutput resp.execId, .ok output⟩ :: es) = piece :: acknowledged es := if_pos rfl
    rw [hsame]
    exact (List.prefix_cons_inj piece).mpr ih

/-- Only a loop over all pieces succeeds. -/
theorem WriteRun.pieces_of_ok (h : WriteRun file chunks es q) (hq : q = .done (.ok ())) :
    pieces es q = chunks := by
  induction h with
  | finished => rfl
  | sending | refused | waiting | lost => cases hq
  | written piece resp output h ih => exact congrArg (piece :: ·) (ih hq)

/-- A Write request to the file, or a wait for an output. -/
def WritesTo (file : FileIO) : FilesystemRpc → Prop
  | .exec taskId request =>
      taskId = file.taskId ∧ ∃ piece, request = .write file.fileDescriptor piece
  | .getOutput _ => True

/-- The loop writes to the file, and does nothing else. -/
theorem WriteRun.writesTo (h : WriteRun file chunks es q) :
    ∀ r ∈ requested es q, WritesTo file r := by
  induction h with
  | finished => exact fun _ hmem => (List.not_mem_nil hmem).elim
  | sending piece | refused piece => exact List.forall_mem_singleton.mpr ⟨rfl, piece, rfl⟩
  | waiting piece | lost piece =>
    exact List.forall_mem_cons.mpr ⟨⟨rfl, piece, rfl⟩, List.forall_mem_singleton.mpr trivial⟩
  | written piece resp output h ih =>
    exact List.forall_mem_cons.mpr ⟨⟨rfl, piece, rfl⟩, List.forall_mem_cons.mpr ⟨trivial, ih⟩⟩

/-- An error is the last reply, and it is returned. -/
theorem WriteRun.error_last (h : WriteRun file chunks es q) {k : Nat} {ev : FilesystemEvent}
    {e : ModalError} (hk : es[k]? = some ev) (hev : errorOf ev = some e) :
    es.length = k + 1 ∧ q = .done (.error e) := by
  induction h generalizing k with
  | finished | sending => cases hk
  | refused piece rest e' =>
    cases k with
    | zero =>
      cases hk
      cases hev
      exact ⟨rfl, rfl⟩
    | succ k => cases hk
  | waiting piece rest resp =>
    cases k with
    | zero =>
      cases hk
      cases hev
    | succ k => cases hk
  | lost piece rest resp e' =>
    match k with
    | 0 =>
      cases hk
      cases hev
    | 1 =>
      cases hk
      cases hev
      exact ⟨rfl, rfl⟩
    | k + 2 => cases hk
  | written piece resp output h ih =>
    match k with
    | 0 | 1 =>
      cases hk
      cases hev
    | k + 2 =>
      obtain ⟨hlength, hq⟩ := ih hk
      exact ⟨congrArg (· + 2) hlength, hq⟩

/-- The error that is returned is the last reply. -/
theorem WriteRun.last_error (h : WriteRun file chunks es q) {e : ModalError}
    (hq : q = .done (.error e)) : ∃ ev, es.getLast? = some ev ∧ errorOf ev = some e := by
  induction h with
  | finished | sending | waiting => cases hq
  | refused | lost =>
    cases hq
    exact ⟨_, rfl, rfl⟩
  | @written piece rest resp output es q h ih =>
    obtain ⟨ev, hlast, hev⟩ := ih hq
    have hne : es ≠ [] := by
      rintro rfl
      cases hlast
    refine ⟨ev, ?_, hev⟩
    rw [List.getLast?_cons_cons, List.getLast?_cons_of_ne_nil hne, hlast]

end Runs

/-! ## 3. A write -/

/-- The files and data that a write refuses without a request. -/
def Refuses (file : FileIO) (data : List UInt8) : Prop :=
  file.closed = true ∨ file.mode.writable = false ∨ writeFileSizeLimit < data.length

/-- **What a write promises**: pieces of 1 byte to 16 MiB, which are the data from the start on;
    all of the data if it succeeds; and with an error the pieces that were acknowledged, and
    nothing behind it. -/
structure WritePromise (file : FileIO) (data : List UInt8) (es : List FilesystemEvent)
    (q : FilesystemProgram Unit) : Prop where
  size : ∀ piece ∈ pieces es q, 1 ≤ piece.length ∧ piece.length ≤ writeChunkSize
  inOrder : (pieces es q).flatten <+: data
  writesTo : ∀ r ∈ requested es q, WritesTo file r
  complete : q = .done (.ok ()) → (pieces es q).flatten = data
  acknowledged : acknowledged es <+: pieces es q ∧ (acknowledged es).flatten <+: data
  errorLast : ∀ (k : Nat) (ev : FilesystemEvent) (e : ModalError), es[k]? = some ev →
    errorOf ev = some e → es.length = k + 1 ∧ q = .done (.error e)
  lastError : ∀ e, q = .done (.error e) →
    es = [] ∧ Refuses file data ∨ ∃ ev, es.getLast? = some ev ∧ errorOf ev = some e
  silent : data = [] ∨ writeFileSizeLimit < data.length ∨ file.closed = true ∨
    file.mode.writable = false → requested es q = []

section Write

variable {file : FileIO} {data : List UInt8} {es : List FilesystemEvent}
  {q : FilesystemProgram Unit}

/-- A write that is refused before it sends anything. -/
theorem promise_refused {e : ModalError} (hrefuses : Refuses file data) (hes : es = [])
    (hq : q = .done (.error e)) : WritePromise file data es q := by
  subst hes hq
  exact
    { size := fun _ h => (List.not_mem_nil h).elim
      inOrder := List.nil_prefix
      writesTo := fun _ h => (List.not_mem_nil h).elim
      complete := fun h => (by cases h)
      acknowledged := ⟨List.nil_prefix, List.nil_prefix⟩
      errorLast := fun k ev e h => (by cases h)
      lastError := fun _ _ => Or.inl ⟨rfl, hrefuses⟩
      silent := fun _ => rfl }

/-- The write of an open, writable file whose data are not too long. -/
theorem promise_run (hopen : file.closed = false) (hwritable : file.mode.writable = true)
    (hsize : data.length ≤ writeFileSizeLimit)
    (h : WriteRun file (writeChunks data) es q) : WritePromise file data es q := by
  have hdata : (writeChunks data).flatten = data := flatten_chunks _ data
  have hflatten : ∀ l : List (List UInt8), l <+: writeChunks data → l.flatten <+: data := by
    rintro l ⟨more, hmore⟩
    refine ⟨more.flatten, ?_⟩
    rw [← List.flatten_append, hmore, hdata]
  have hpieces := h.pieces_prefix
  refine
    { size := fun piece hpiece => ?_
      inOrder := hflatten _ hpieces
      writesTo := h.writesTo
      complete := fun hq => ?_
      acknowledged := ⟨h.acknowledged_prefix, hflatten _ (h.acknowledged_prefix.trans hpieces)⟩
      errorLast := fun k ev e hk hev => h.error_last hk hev
      lastError := fun e hq => Or.inr (h.last_error hq)
      silent := fun hcase => ?_ }
  · exact length_of_mem_chunks _ data piece (hpieces.subset hpiece)
  · rw [h.pieces_of_ok hq, hdata]
  · rcases hcase with rfl | hlong | hclosed | hnot
    · have hnone : writeChunks [] = [] := by
        unfold writeChunks
        rw [chunks]
      rw [hnone] at h
      cases h
      rfl
    · exact absurd hlong (Nat.not_lt.mpr hsize)
    · rw [hopen] at hclosed
      cases hclosed
    · rw [hwritable] at hnot
      cases hnot

/-- A check, and what follows it. -/
theorem follows_check {α : Type} {check : Except ModalError Unit} {p : FilesystemM α}
    {q : FilesystemProgram α}
    (h : Resumption.Follows ((liftM check : FilesystemM Unit) >>= fun _ => p).run es q) :
    (∃ e, check = .error e ∧ es = [] ∧ q = .done (.error e)) ∨
      check = .ok () ∧ Resumption.Follows p.run es q := by
  cases check with
  | error e =>
    obtain ⟨rfl, rfl⟩ := Resumption.Follows.of_done h
    exact Or.inl ⟨e, rfl, rfl, rfl⟩
  | ok _ => exact Or.inr ⟨rfl, h⟩

theorem checkClosed_error {e : ModalError} (h : file.checkClosed = .error e) :
    file.closed = true := by
  cases hclosed : file.closed with
  | true => rfl
  | false =>
    unfold FileIO.checkClosed at h
    rw [hclosed] at h
    cases h

theorem checkWritable_error {e : ModalError} (h : file.checkWritable = .error e) :
    file.mode.writable = false := by
  cases hwritable : file.mode.writable with
  | false => rfl
  | true =>
    unfold FileIO.checkWritable at h
    rw [hwritable] at h
    cases h

theorem validateWriteSize_ok (h : FileIO.validateWriteSize data = .ok ()) :
    data.length ≤ writeFileSizeLimit := by
  unfold FileIO.validateWriteSize at h
  split at h
  · cases h
  · next hsize => exact Nat.le_of_not_lt hsize

theorem validateWriteSize_error {e : ModalError} (h : FileIO.validateWriteSize data = .error e) :
    writeFileSizeLimit < data.length := by
  unfold FileIO.validateWriteSize at h
  split at h
  · next hsize => exact hsize
  · cases h

/-- **A write, taken apart**: it is refused, or it goes over its pieces. -/
theorem write_cases (h : Resumption.Follows (SandboxFilesystem.write file data).run es q) :
    (∃ e, Refuses file data ∧ es = [] ∧ q = .done (.error e)) ∨
    file.closed = false ∧ file.mode.writable = true ∧ data.length ≤ writeFileSizeLimit ∧
      WriteRun file (writeChunks data) es q := by
  rcases follows_check h with ⟨e, hcheck, hend⟩ | ⟨hclosed, h⟩
  · exact Or.inl ⟨e, Or.inl (checkClosed_error hcheck), hend⟩
  rcases follows_check h with ⟨e, hcheck, hend⟩ | ⟨hwritable, h⟩
  · exact Or.inl ⟨e, Or.inr (Or.inl (checkWritable_error hcheck)), hend⟩
  rcases follows_check h with ⟨e, hcheck, hend⟩ | ⟨hsize, h⟩
  · exact Or.inl ⟨e, Or.inr (Or.inr (validateWriteSize_error hcheck)), hend⟩
  have hopen := FileIO.checkClosed_ok hclosed
  have hmode := FileIO.checkWritable_ok hwritable
  exact Or.inr ⟨hopen, hmode, validateWriteSize_ok hsize, writeLoop_run h⟩

/-- **Every write keeps its promise**, for every file, all data, and all replies, wherever it is
    stopped. -/
theorem write_keeps_promise
    (h : Resumption.Follows (SandboxFilesystem.write file data).run es q) :
    WritePromise file data es q := by
  rcases write_cases h with ⟨e, hrefuses, hes, hq⟩ | ⟨hopen, hwritable, hsize, hrun⟩
  · exact promise_refused hrefuses hes hq
  · exact promise_run hopen hwritable hsize hrun

end Write

/-- The handle of a file opened with mode "w". -/
def writeOnly : FileIO := FileIO.new "ta-1" "fd-1" ⟨false, true, false, false, "w"⟩

/-- A write of two bytes whose output is lost has sent them both, and acknowledged none. -/
theorem write_keeps_promise_lost :
    let es : List FilesystemEvent :=
      [⟨.exec "ta-1" (.write "fd-1" [1, 2]), .ok ⟨"ex-1", none⟩⟩,
        ⟨.getOutput "ex-1", .error (.other "gone")⟩]
    let q : FilesystemProgram Unit := .done (.error (.other "gone"))
    Resumption.Follows (SandboxFilesystem.write writeOnly [1, 2]).run es q ∧
      pieces es q = [[1, 2]] ∧ acknowledged es = [] ∧ WritePromise writeOnly [1, 2] es q := by
  intro es q
  have hshort : ([1, 2] : List UInt8).length ≤ writeChunkSize := by decide
  have hchunks : writeChunks [1, 2] = [[1, 2]] := by
    unfold writeChunks
    rw [chunks, List.take_of_length_le hshort, List.drop_of_length_le hshort, chunks]
  have hwrite : (SandboxFilesystem.write writeOnly [1, 2]).run =
      (SandboxFilesystem.writeLoop writeOnly [[1, 2]]).run := by
    rw [← hchunks]
    rfl
  have hfollows : Resumption.Follows (SandboxFilesystem.write writeOnly [1, 2]).run es q := by
    rw [hwrite]
    exact .act _ _ _ (.act _ _ _ (.refl _))
  exact ⟨hfollows, rfl, rfl, write_keeps_promise hfollows⟩

end ModalRs.FileWrite
