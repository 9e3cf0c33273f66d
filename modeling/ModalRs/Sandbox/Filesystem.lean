/-
  File:      ModalRs/Sandbox/Filesystem.lean
  Subject:   Files of a sandbox: modes, handles and the operations on an open file.

  An operation is a program over two RPCs. What they are replied is left open.

  * `FileMode.parse`: the modes that a file is opened with.
  * `FileIO`: the handle of an open file, with its checks.
  * `FilesystemExecRequest`, `FilesystemRpc`: what is sent.
  * `SandboxFilesystem.open_` … `SandboxFilesystem.close`: the operations on a file.
  * `SandboxFilesystem.ls`, `mkdir`, `rm`: the operations on a path.
-/
import ModalRs.Error
import ModalRs.Lib.Resumption

namespace ModalRs

open ModalRs.Lib

/-! ## 1. Modes -/

/-- File mode configuration parsed from a mode string. -/
structure FileMode where
  readable : Bool
  writable : Bool
  appended : Bool
  binary : Bool
  raw : String
  deriving DecidableEq, Repr

namespace FileMode

/-- Some character of the mode is none of the valid ones. -/
def hasInvalidChar (mode : List Char) : Bool := mode.any fun c => !"rwaxb+".toList.contains c

/-- The loop that looks for a character seen before. -/
def hasDuplicate : (seen mode : List Char) → Bool
  | _, [] => false
  | seen, c :: mode => seen.contains c || hasDuplicate (c :: seen) mode

/-- How many of the create/read/write/append modes are named. -/
def modeCount (mode : List Char) : Nat := (mode.filter "rwax".toList.contains).length

/-- Parse and validate a file mode string. -/
def parse (mode : String) : Except ModalError FileMode :=
  let chars := mode.toList
  if chars.isEmpty then .error (.invalid "file mode cannot be empty")
  else if hasInvalidChar chars then .error (.invalid ("invalid file mode: " ++ mode))
  else if hasDuplicate [] chars then .error (.invalid ("invalid file mode: " ++ mode))
  -- must have exactly one of r, w, a, x
  else if modeCount chars = 0 then .error (.invalid ("invalid file mode: " ++ mode))
  else if 1 < modeCount chars then
    .error (.invalid "must have exactly one of create/read/write/append mode")
  else
    let hasPlus := chars.contains '+'
    .ok {
      readable := chars.contains 'r' || hasPlus
      writable := chars.contains 'w' || chars.contains 'a' || chars.contains 'x' || hasPlus
      appended := chars.contains 'a'
      binary := chars.contains 'b'
      raw := mode }

end FileMode

/-! ## 2. Handles -/

def writeChunkSize : Nat := 16 * 1024 * 1024

def writeFileSizeLimit : Nat := 1024 * 1024 * 1024

def readFileSizeLimit : Nat := 100 * 1024 * 1024

/-- The pieces of `size` bytes each, but for the last one. -/
def chunks (size : Nat) (hsize : 0 < size) : List UInt8 → List (List UInt8)
  | [] => []
  | b :: data => (b :: data).take size :: chunks size hsize ((b :: data).drop size)
termination_by data => data.length
decreasing_by
  rw [List.length_drop, List.length_cons]
  omega

section Pieces

variable {size : Nat} (hsize : 0 < size)

/-- **The pieces in order are the data.** -/
theorem flatten_chunks (data : List UInt8) : (chunks size hsize data).flatten = data := by
  fun_induction chunks size hsize data with
  | case1 => rfl
  | case2 b data ih => rw [List.flatten_cons, ih, List.take_append_drop]

/-- No piece is empty, and none is longer than its size. -/
theorem length_of_mem_chunks (data : List UInt8) :
    ∀ piece ∈ chunks size hsize data, 1 ≤ piece.length ∧ piece.length ≤ size := by
  fun_induction chunks size hsize data with
  | case1 => exact fun _ hmem => (List.not_mem_nil hmem).elim
  | case2 b data ih =>
    refine List.forall_mem_cons.mpr ⟨?_, ih⟩
    rw [List.length_take, List.length_cons]
    omega

end Pieces

/-- FileIO handle for sandbox filesystem operations. -/
structure FileIO where
  taskId : String
  fileDescriptor : String
  mode : FileMode
  closed : Bool
  deriving DecidableEq, Repr

namespace FileIO

/-- Create a new FileIO handle after a successful open operation. -/
def new (taskId fileDescriptor : String) (mode : FileMode) : FileIO :=
  ⟨taskId, fileDescriptor, mode, false⟩

/-- Mark the file as closed. -/
def close (file : FileIO) : FileIO := { file with closed := true }

def checkClosed (file : FileIO) : Except ModalError Unit :=
  if file.closed then .error (.sandboxFilesystem "I/O operation on closed file") else .ok ()

def checkReadable (file : FileIO) : Except ModalError Unit :=
  if !file.mode.readable then .error (.sandboxFilesystem "not readable") else .ok ()

def checkWritable (file : FileIO) : Except ModalError Unit :=
  if !file.mode.writable then .error (.sandboxFilesystem "not writable") else .ok ()

section Checks

variable {file : FileIO}

theorem checkClosed_ok (h : file.checkClosed = .ok ()) : file.closed = false := by
  unfold checkClosed at h
  cases hclosed : file.closed with
  | false => rfl
  | true =>
    rw [hclosed] at h
    cases h

theorem checkReadable_ok (h : file.checkReadable = .ok ()) : file.mode.readable = true := by
  unfold checkReadable at h
  cases hreadable : file.mode.readable with
  | true => rfl
  | false =>
    rw [hreadable] at h
    cases h

theorem checkWritable_ok (h : file.checkWritable = .ok ()) : file.mode.writable = true := by
  unfold checkWritable at h
  cases hwritable : file.mode.writable with
  | true => rfl
  | false =>
    rw [hwritable] at h
    cases h

end Checks

/-- Validate a read size against the limit. -/
def validateReadSize : Option Nat → Except ModalError Unit
  | some size =>
      if readFileSizeLimit < size then
        .error (.invalid "read request payload exceeds 100 MiB limit")
      else .ok ()
  | none => .ok ()

/-- Validate write data against the limit. -/
def validateWriteSize (data : List UInt8) : Except ModalError Unit :=
  if writeFileSizeLimit < data.length then
    .error (.invalid "write request payload exceeds 1 GiB limit")
  else .ok ()

/-- Split data into chunks for writing. -/
def writeChunks (data : List UInt8) : List (List UInt8) :=
  chunks writeChunkSize (by decide) data

end FileIO

/-! ## 3. Requests -/

/-- Seek position reference point. -/
inductive SeekWhence where
  | set | current | «end»
  deriving DecidableEq, Repr

/-- Filesystem exec request types. -/
inductive FilesystemExecRequest where
  | open_ (path mode : String)
  | read (fileDescriptor : String) (n : Option Nat)
  | readLine (fileDescriptor : String)
  | write (fileDescriptor : String) (data : List UInt8)
  | flush (fileDescriptor : String)
  | seek (fileDescriptor : String) (offset : Int64) (whence : SeekWhence)
  | close (fileDescriptor : String)
  | ls (path : String)
  | mkdir (path : String) (parents : Bool)
  | rm (path : String) (recursive : Bool)
  deriving DecidableEq

/-- The descriptor that a request names. -/
def FilesystemExecRequest.descriptor? : FilesystemExecRequest → Option String
  | .read fd _ | .readLine fd | .write fd _ | .flush fd | .seek fd _ _ | .close fd => some fd
  | .open_ _ _ | .ls _ | .mkdir _ _ | .rm _ _ => none

/-- Read and ReadLine need a readable mode, Write and Flush a writable one. -/
def FilesystemExecRequest.fits (mode : FileMode) : FilesystemExecRequest → Bool
  | .read _ _ | .readLine _ => mode.readable
  | .write _ _ | .flush _ => mode.writable
  | _ => true

/-- Filesystem exec response. -/
structure FilesystemExecResponse where
  execId : String
  fileDescriptor : Option String
  deriving DecidableEq

/-- The gRPC calls needed by the filesystem service. -/
inductive FilesystemRpc where
  | exec (taskId : String) (request : FilesystemExecRequest)
  | getOutput (execId : String)
  deriving DecidableEq

abbrev FilesystemRpc.Reply : FilesystemRpc → Type
  | .exec _ _ => Except ModalError FilesystemExecResponse
  | .getOutput _ => Except ModalError (List UInt8)

/-- An operation of the filesystem service, which may fail. -/
abbrev FilesystemM : Type → Type := ExceptT ModalError (Resumption FilesystemRpc FilesystemRpc.Reply)

/-- Execute a filesystem operation. -/
def filesystemExec (taskId : String) (request : FilesystemExecRequest) :
    FilesystemM FilesystemExecResponse :=
  ExceptT.mk (.act (.exec taskId request) .done)

/-- Get the output of a filesystem exec operation. -/
def filesystemExecGetOutput (execId : String) : FilesystemM (List UInt8) :=
  ExceptT.mk (.act (.getOutput execId) .done)

/-! ## 4. Operations -/

namespace SandboxFilesystem

/-- Open a file in the sandbox. -/
def open_ (taskId path mode : String) : FilesystemM FileIO := do
  let fileMode ← FileMode.parse mode
  let resp ← filesystemExec taskId (.open_ path mode)
  match resp.fileDescriptor with
  | none => throw (.sandboxFilesystem "failed to open file: no file descriptor returned")
  | some fileDescriptor =>
      -- wait for the open operation to complete
      let _ ← filesystemExecGetOutput resp.execId
      pure <| FileIO.new taskId fileDescriptor fileMode

/-- Read up to `n` bytes from a file. If `n` is none, read the entire file. -/
def read (file : FileIO) (n : Option Nat) : FilesystemM (List UInt8) := do
  file.checkClosed
  file.checkReadable
  FileIO.validateReadSize n
  let resp ← filesystemExec file.taskId (.read file.fileDescriptor n)
  filesystemExecGetOutput resp.execId

/-- Read a single line from a file. -/
def readline (file : FileIO) : FilesystemM (List UInt8) := do
  file.checkClosed
  file.checkReadable
  let resp ← filesystemExec file.taskId (.readLine file.fileDescriptor)
  filesystemExecGetOutput resp.execId

/-- The loop of `write` over the chunks. -/
def writeLoop (file : FileIO) : List (List UInt8) → FilesystemM Unit
  | [] => pure ()
  | chunk :: rest => do
      let resp ← filesystemExec file.taskId (.write file.fileDescriptor chunk)
      let _ ← filesystemExecGetOutput resp.execId
      writeLoop file rest

/-- Write data to a file. -/
def write (file : FileIO) (data : List UInt8) : FilesystemM Unit := do
  file.checkClosed
  file.checkWritable
  FileIO.validateWriteSize data
  writeLoop file <| FileIO.writeChunks data

/-- Flush the file buffer to disk. -/
def flush (file : FileIO) : FilesystemM Unit := do
  file.checkClosed
  file.checkWritable
  let resp ← filesystemExec file.taskId (.flush file.fileDescriptor)
  let _ ← filesystemExecGetOutput resp.execId

/-- Seek to a position in the file. -/
def seek (file : FileIO) (offset : Int64) (whence : SeekWhence) : FilesystemM Unit := do
  file.checkClosed
  let resp ← filesystemExec file.taskId (.seek file.fileDescriptor offset whence)
  let _ ← filesystemExecGetOutput resp.execId

/-- Close a file: its result, and the handle behind it. -/
def close (file : FileIO) :
    Resumption FilesystemRpc FilesystemRpc.Reply (Except ModalError Unit × FileIO) := do
  match ← (filesystemExec file.taskId (.close file.fileDescriptor)).run with
  | .error e => pure (.error e, file)
  | .ok resp =>
      let file := file.close
      match ← (filesystemExecGetOutput resp.execId).run with
      | .error e => pure (.error e, file)
      | .ok _ => pure (.ok (), file)

end SandboxFilesystem

/-! ## 5. Directories -/

/-- `serde_json`, as far as listings use it; errors are their texts. -/
structure SerdeJson (V : Type) where
  fromSlice : List UInt8 → Except String V
  get : V → String → Option V
  asArray : V → Option (List V)
  asStr : V → Option String

/-- Parse a directory listing from JSON bytes. -/
def DirListing.fromJson {V : Type} (lib : SerdeJson V) (data : List UInt8) :
    Except ModalError (List String) :=
  match lib.fromSlice data with
  | .error e => .error (.sandboxFilesystem ("failed to parse list output: " ++ e))
  | .ok value =>
      match (lib.get value "paths").bind lib.asArray with
      | none => .error (.sandboxFilesystem "failed to parse list output")
      | some arr => .ok (arr.filterMap lib.asStr)

namespace SandboxFilesystem

/-- List directory contents. -/
def ls {V : Type} (lib : SerdeJson V) (taskId path : String) : FilesystemM (List String) := do
  let resp ← filesystemExec taskId (.ls path)
  let output ← filesystemExecGetOutput resp.execId
  DirListing.fromJson lib output

/-- Create a directory. -/
def mkdir (taskId path : String) (parents : Bool) : FilesystemM Unit := do
  let resp ← filesystemExec taskId (.mkdir path parents)
  let _ ← filesystemExecGetOutput resp.execId

/-- Remove a file or directory. -/
def rm (taskId path : String) (recursive : Bool) : FilesystemM Unit := do
  let resp ← filesystemExec taskId (.rm path recursive)
  let _ ← filesystemExecGetOutput resp.execId

end SandboxFilesystem

end ModalRs
