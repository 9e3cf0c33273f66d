/-
  File:      ModalRs/Sandbox/FileWire.lean
  Subject:   The requests of the filesystem service, as the transport sends them.

  Two numbers are narrowed on the way. The size of a read was checked before,
  the offset of a seek was not.

  * `containerFilesystemExecRequest`: the message for a request.
  * `ServiceCall`, `Issued`: the requests that the service makes; `issued_checked`.
  * `wire_injective`: messages tell requests apart while the numbers fit.
  * `issued_wire`: when requests reach the wire unchanged.
-/
import Mathlib.Algebra.Group.Int.Defs
import ModalRs.Sandbox.FileWrite
import ModalRs.Transport.Messages

namespace ModalRs.FileWire

open ModalRs.Lib ModalRs.FileSession ModalRs.FileWrite

/-! ## 1. The transport -/

/-- The value of the enumeration. -/
def whenceCode : SeekWhence → Int32
  | .set => 0
  | .current => 1
  | .end => 2

/-- The message variant for a request: sizes as `u32`, offsets as `i32`. -/
def fileExecRequestOneof : FilesystemExecRequest → Pb.FileExecRequestOneof
  | .open_ path mode => .fileOpenRequest none path mode
  | .read fileDescriptor n => .fileReadRequest fileDescriptor (n.map UInt32.ofNat)
  | .readLine fileDescriptor => .fileReadLineRequest fileDescriptor
  | .write fileDescriptor data => .fileWriteRequest fileDescriptor data
  | .flush fileDescriptor => .fileFlushRequest fileDescriptor
  | .seek fileDescriptor offset whence =>
      .fileSeekRequest fileDescriptor offset.toInt32 (whenceCode whence)
  | .close fileDescriptor => .fileCloseRequest fileDescriptor
  | .ls path => .fileLsRequest path
  | .mkdir path parents => .fileMkdirRequest path parents
  | .rm path recursive => .fileRmRequest path recursive

/-- The message of `filesystem_exec`. -/
def containerFilesystemExecRequest (taskId : String) (request : FilesystemExecRequest) :
    Pb.ContainerFilesystemExecRequest :=
  ⟨taskId, some (fileExecRequestOneof request)⟩

/-! ## 2. What the service requests -/

/-- A call of the filesystem service. -/
inductive ServiceCall where
  | open_ (taskId path mode : String)
  | onFile (file : FileIO) (call : FileCall)
  | ls (taskId path : String)
  | mkdir (taskId path : String) (parents : Bool)
  | rm (taskId path : String) (recursive : Bool)

/-- A program without its result. -/
def running {α : Type} (p : FilesystemM α) : Resumption FilesystemRpc FilesystemRpc.Reply Unit := do
  let _ ← p.run
  pure ()

def ServiceCall.program {V : Type} (lib : SerdeJson V) :
    ServiceCall → Resumption FilesystemRpc FilesystemRpc.Reply Unit
  | .open_ taskId path mode => running (SandboxFilesystem.open_ taskId path mode)
  | .onFile file call => do
      let _ ← call.program file
      pure ()
  | .ls taskId path => running (SandboxFilesystem.ls lib taskId path)
  | .mkdir taskId path parents => running (SandboxFilesystem.mkdir taskId path parents)
  | .rm taskId path recursive => running (SandboxFilesystem.rm taskId path recursive)

/-- The service makes the request, in some call and after some replies. -/
def Issued {V : Type} (lib : SerdeJson V) (taskId : String) (request : FilesystemExecRequest) :
    Prop :=
  ∃ (call : ServiceCall) (es : List FilesystemEvent)
    (next : Except ModalError FilesystemExecResponse →
      Resumption FilesystemRpc FilesystemRpc.Reply Unit),
    Resumption.Follows (call.program lib) es (.act (.exec taskId request) next)

/-- A read has passed its check. -/
def Checked : FilesystemRpc → Prop
  | .exec _ (.read _ (some size)) => size ≤ readFileSizeLimit
  | _ => True

instance : DecidablePred Checked := fun r => by
  unfold Checked
  split <;> infer_instance

/-- The requests that have passed their checks, as an automaton without a memory. -/
def checkedDiscipline : Resumption.Discipline FilesystemRpc FilesystemRpc.Reply Unit := fun _ e =>
  if Checked e.action then some () else none

/-- All that a program requests has passed its check, whatever it is replied. -/
abbrev RequestsChecked {α : Type} (p : Resumption FilesystemRpc FilesystemRpc.Reply α) : Prop :=
  Resumption.Keeps checkedDiscipline (fun _ _ => True) () p

section Checks

open Resumption

variable {α : Type}

theorem checked_check {check : Except ModalError Unit} {p : FilesystemM α}
    (hp : check = .ok () → RequestsChecked p.run) :
    RequestsChecked ((liftM check : FilesystemM Unit) >>= fun _ => p).run := by
  cases check with
  | error e => exact trivial
  | ok _ => exact hp rfl

theorem checked_exec {taskId : String} {request : FilesystemExecRequest}
    {next : FilesystemExecResponse → FilesystemM α} (hrequest : Checked (.exec taskId request))
    (hnext : ∀ resp, RequestsChecked (next resp).run) :
    RequestsChecked (filesystemExec taskId request >>= next).run := by
  intro out
  refine ⟨(), if_pos hrequest, ?_⟩
  cases out with
  | ok resp => exact hnext resp
  | error e => exact trivial

theorem checked_output (execId : String) : RequestsChecked (filesystemExecGetOutput execId).run :=
  fun _ => ⟨(), if_pos trivial, trivial⟩

theorem checked_getOutput {execId : String} {next : List UInt8 → FilesystemM α}
    (hnext : ∀ output, RequestsChecked (next output).run) :
    RequestsChecked (filesystemExecGetOutput execId >>= next).run :=
  keeps_bindExcept (checked_output execId) (fun _ output _ => hnext output) fun _ _ _ => trivial

theorem checked_writeLoop (file : FileIO) : ∀ chunks : List (List UInt8),
    RequestsChecked (SandboxFilesystem.writeLoop file chunks).run
  | [] => trivial
  | _ :: chunks => checked_exec trivial fun _ => checked_getOutput fun _ =>
      checked_writeLoop file chunks

theorem validateReadSize_ok {n : Option Nat} (h : FileIO.validateReadSize n = .ok ()) {size : Nat}
    (hn : n = some size) : size ≤ readFileSizeLimit := by
  subst hn
  unfold FileIO.validateReadSize at h
  dsimp only at h
  split at h
  · cases h
  · next hsize => exact Nat.le_of_not_lt hsize

theorem checked_read (file : FileIO) (n : Option Nat) :
    RequestsChecked (SandboxFilesystem.read file n).run := by
  refine checked_check fun _ => checked_check fun _ => checked_check fun hsize => ?_
  refine checked_exec ?_ fun _ => checked_output _
  cases n with
  | none => exact trivial
  | some size => exact validateReadSize_ok hsize rfl

/-- A call on a file requests what has passed its check. -/
theorem checked_fileCall (file : FileIO) (call : FileCall) :
    RequestsChecked (call.program file) := by
  have hleaving : ∀ {β : Type} (p : FilesystemM β), RequestsChecked p.run →
      RequestsChecked (leaving file p) :=
    fun p hp => keeps_bind hp fun _ _ _ => trivial
  cases call with
  | read n => exact hleaving _ (checked_read file n)
  | readline =>
    refine hleaving _ (checked_check fun _ => checked_check fun _ => ?_)
    exact checked_exec trivial fun _ => checked_output _
  | write data =>
    refine hleaving _ (checked_check fun _ => checked_check fun _ => checked_check fun _ => ?_)
    exact checked_writeLoop file _
  | flush =>
    refine hleaving _ (checked_check fun _ => checked_check fun _ => ?_)
    exact checked_exec trivial fun _ => checked_getOutput fun _ => trivial
  | seek offset whence =>
    refine hleaving _ (checked_check fun _ => ?_)
    exact checked_exec trivial fun _ => checked_getOutput fun _ => trivial
  | close =>
    intro out
    refine ⟨(), if_pos trivial, ?_⟩
    cases out with
    | error e => exact trivial
    | ok resp =>
      intro out
      refine ⟨(), if_pos trivial, ?_⟩
      cases out with
      | error e => exact trivial
      | ok output => exact trivial

/-- **A call of the service requests what has passed its check.** -/
theorem checked_program {V : Type} (lib : SerdeJson V) (call : ServiceCall) :
    RequestsChecked (call.program lib) := by
  have hrunning : ∀ {β : Type} (p : FilesystemM β), RequestsChecked p.run →
      RequestsChecked (running p) :=
    fun p hp => keeps_bind hp fun _ _ _ => trivial
  cases call with
  | open_ taskId path mode =>
    refine hrunning _ ?_
    unfold SandboxFilesystem.open_
    cases FileMode.parse mode with
    | error e => exact trivial
    | ok fileMode =>
      refine checked_exec trivial fun resp => ?_
      cases resp.fileDescriptor with
      | none => exact trivial
      | some fileDescriptor => exact checked_getOutput fun _ => trivial
  | onFile file call => exact keeps_bind (checked_fileCall file call) fun _ _ _ => trivial
  | ls taskId path =>
    refine hrunning _ (checked_exec trivial fun _ => checked_getOutput fun output => ?_)
    cases DirListing.fromJson lib output <;> exact trivial
  | mkdir taskId path parents =>
    exact hrunning _ (checked_exec trivial fun _ => checked_getOutput fun _ => trivial)
  | rm taskId path recursive =>
    exact hrunning _ (checked_exec trivial fun _ => checked_getOutput fun _ => trivial)

theorem issued_checked {V : Type} {lib : SerdeJson V} {taskId : String}
    {request : FilesystemExecRequest} (h : Issued lib taskId request) :
    Checked (.exec taskId request) := by
  obtain ⟨call, es, next, hfollows⟩ := h
  obtain ⟨_, -, hkeeps⟩ := keeps_follows hfollows (checked_program lib call)
  obtain ⟨_, hstep, -⟩ := hkeeps (.error (.other ""))
  by_contra hno
  rw [checkedDiscipline, if_neg hno] at hstep
  cases hstep

end Checks

/-! ## 3. What reaches the wire -/

/-- The offset of a seek is one of an `i32`. -/
def SeekFits : FilesystemExecRequest → Prop
  | .seek _ offset _ => -2 ^ 31 ≤ offset.toInt ∧ offset.toInt < 2 ^ 31
  | _ => True

/-- The offset of a seek is the one that is sent. -/
def OffsetSent : FilesystemExecRequest → Prop
  | .seek fileDescriptor offset whence =>
      ∃ (sent code : Int32), fileExecRequestOneof (.seek fileDescriptor offset whence) =
        .fileSeekRequest fileDescriptor sent code ∧ sent.toInt = offset.toInt
  | _ => True

section Wire

variable {taskId taskId' : String} {r r' : FilesystemExecRequest}

/-- **A narrowed offset is the same number exactly when it fits.** -/
theorem toInt32_exact (offset : Int64) :
    offset.toInt32.toInt = offset.toInt ↔ -2 ^ 31 ≤ offset.toInt ∧ offset.toInt < 2 ^ 31 := by
  constructor
  · intro hexact
    have hlow := Int32.le_toInt offset.toInt32
    have hhigh := Int32.toInt_lt offset.toInt32
    rw [hexact] at hlow hhigh
    exact ⟨hlow, hhigh⟩
  · rintro ⟨hlow, hhigh⟩
    rw [Int64.toInt_toInt32]
    exact Int.bmod_eq_of_le_mul_two (by omega) (by omega)

theorem toInt32_injective {offset offset' : Int64}
    (hfits : -2 ^ 31 ≤ offset.toInt ∧ offset.toInt < 2 ^ 31)
    (hfits' : -2 ^ 31 ≤ offset'.toInt ∧ offset'.toInt < 2 ^ 31)
    (h : offset.toInt32 = offset'.toInt32) : offset = offset' := by
  have hvalue : offset.toInt = offset'.toInt := by
    calc offset.toInt = offset.toInt32.toInt := ((toInt32_exact offset).mpr hfits).symm
      _ = offset'.toInt32.toInt := by rw [h]
      _ = offset'.toInt := (toInt32_exact offset').mpr hfits'
  exact Int64.toInt_inj.mp hvalue

/-- The sizes that pass the check are told apart. -/
theorem readSize_injective {n n' : Option Nat}
    (hn : ∀ size, n = some size → size ≤ readFileSizeLimit)
    (hn' : ∀ size, n' = some size → size ≤ readFileSizeLimit)
    (h : n.map UInt32.ofNat = n'.map UInt32.ofNat) : n = n' := by
  have hlimit : readFileSizeLimit < 2 ^ 32 := by decide
  cases n with
  | none =>
    cases n' with
    | none => rfl
    | some size' => cases h
  | some size =>
    cases n' with
    | none => cases h
    | some size' =>
      have hsize : size < 2 ^ 32 := Nat.lt_of_le_of_lt (hn size rfl) hlimit
      have hsize' : size' < 2 ^ 32 := Nat.lt_of_le_of_lt (hn' size' rfl) hlimit
      have hvalue := congrArg UInt32.toNat (Option.some.inj h)
      rw [UInt32.toNat_ofNat', UInt32.toNat_ofNat', Nat.mod_eq_of_lt hsize,
        Nat.mod_eq_of_lt hsize'] at hvalue
      rw [hvalue]

theorem whenceCode_injective {whence whence' : SeekWhence}
    (h : whenceCode whence = whenceCode whence') : whence = whence' := by
  cases whence <;> cases whence' <;> first | rfl | exact absurd h (by decide)

theorem checked_readSize {fileDescriptor : String} {n : Option Nat}
    (h : Checked (.exec taskId (.read fileDescriptor n))) :
    ∀ size, n = some size → size ≤ readFileSizeLimit := by
  rintro size rfl
  exact h

/-- **Messages tell requests apart** that are checked and whose offsets fit. -/
theorem wire_injective (hr : Checked (.exec taskId r)) (hr' : Checked (.exec taskId' r'))
    (hfits : SeekFits r) (hfits' : SeekFits r')
    (h : fileExecRequestOneof r = fileExecRequestOneof r') : r = r' := by
  cases r with
  | read fd n =>
    cases r' with
    | read fd' n' =>
      obtain ⟨rfl, hn⟩ := Pb.FileExecRequestOneof.fileReadRequest.inj h
      rw [readSize_injective (checked_readSize hr) (checked_readSize hr') hn]
    | _ => cases h
  | seek fd offset whence =>
    cases r' with
    | seek fd' offset' whence' =>
      obtain ⟨rfl, hoffset, hcode⟩ := Pb.FileExecRequestOneof.fileSeekRequest.inj h
      rw [toInt32_injective hfits hfits' hoffset, whenceCode_injective hcode]
    | _ => cases h
  | _ =>
    -- all other fields are sent as they are
    cases r' <;> cases h
    rfl

theorem offsetSent_iff (r : FilesystemExecRequest) : OffsetSent r ↔ SeekFits r := by
  cases r with
  | seek fd offset whence =>
    constructor
    · rintro ⟨sent, code, hsent, hexact⟩
      cases hsent
      exact (toInt32_exact offset).mp hexact
    · intro hfits
      exact ⟨_, _, rfl, (toInt32_exact offset).mpr hfits⟩
  | _ => exact Iff.rfl

/-- **When requests of the service reach the wire unchanged**: exactly when the offsets of seeks
    fit. -/
theorem issued_wire {V : Type} {lib : SerdeJson V} (h : Issued lib taskId r)
    (h' : Issued lib taskId' r') :
    ((r ≠ r' →
        containerFilesystemExecRequest taskId r ≠ containerFilesystemExecRequest taskId' r') ∧
      OffsetSent r ∧ OffsetSent r') ↔ SeekFits r ∧ SeekFits r' := by
  rw [offsetSent_iff, offsetSent_iff]
  constructor
  · exact fun hunchanged => hunchanged.2
  · rintro ⟨hfits, hfits'⟩
    refine ⟨fun hne hsame => hne ?_, hfits, hfits'⟩
    have hvariant : fileExecRequestOneof r = fileExecRequestOneof r' :=
      Option.some.inj (Pb.ContainerFilesystemExecRequest.mk.inj hsame).2
    exact wire_injective (issued_checked h) (issued_checked h') hfits hfits' hvariant

end Wire

/-- A JSON library that refuses everything: files need none. -/
def noJson : SerdeJson Unit :=
  ⟨fun _ => .error "refused", fun _ _ => none, fun _ => none, fun _ => none⟩

theorem issued_seek (offset : Int64) :
    Issued noJson "ta-1" (.seek "fd-1" offset .set) :=
  ⟨.onFile writeOnly (.seek offset .set), [], _, .refl _⟩

/-- **A seek 4 GiB into a file is sent as a seek to its start.** -/
theorem seek_wraps :
    let start : FilesystemExecRequest := .seek "fd-1" 0 .set
    let far : FilesystemExecRequest := .seek "fd-1" 4294967296 .set
    Issued noJson "ta-1" start ∧ Issued noJson "ta-1" far ∧ start ≠ far ∧ ¬ OffsetSent far ∧
      containerFilesystemExecRequest "ta-1" start = containerFilesystemExecRequest "ta-1" far := by
  intro start far
  refine ⟨issued_seek _, issued_seek _, by decide, ?_, by decide⟩
  intro hsent
  obtain ⟨-, hhigh⟩ := (offsetSent_iff far).mp hsent
  exact absurd hhigh (by decide)

/-- Seeks to the bytes 1 and 2 reach the wire unchanged. -/
theorem issued_wire_near :
    containerFilesystemExecRequest "ta-1" (.seek "fd-1" 1 .set) ≠
      containerFilesystemExecRequest "ta-1" (.seek "fd-1" 2 .set) := by
  have hfits : SeekFits (.seek "fd-1" 1 .set) := ⟨by decide, by decide⟩
  have hfits' : SeekFits (.seek "fd-1" 2 .set) := ⟨by decide, by decide⟩
  obtain ⟨hdiffer, -⟩ := (issued_wire (issued_seek 1) (issued_seek 2)).mpr ⟨hfits, hfits'⟩
  exact hdiffer (by decide)

end ModalRs.FileWire
