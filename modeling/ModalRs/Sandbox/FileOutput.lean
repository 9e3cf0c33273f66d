/-
  File:      ModalRs/Sandbox/FileOutput.lean
  Subject:   The output of a filesystem request, collected from its stream.

  A stream is what its messages are, one after the other; behind the last one it
  ends. An end is taken for the end of the output, whether a batch said so or not.

  * `ModalGrpcTransport.filesystemExecGetOutput`: the transport's loop over the stream.
  * `FullOutput`: the output of a stream that says where it is complete.
  * `EndsEarly`: a stream that ends, and has not said so; `collectOutput_ok`.
  * `output_all_or_error`: when a stream gives all of the output or an error.
-/
import ModalRs.Sandbox.FileWire

namespace ModalRs.FileOutput

open ModalRs.Lib ModalRs.FileSession ModalRs.FileWrite

/-! ## 1. The transport -/

/-- A batch of output, as the stream gives it. -/
abbrev Batch : Type := Pb.FilesystemRuntimeOutputBatch

/-- The messages of a stream that ends behind them. -/
abbrev OutputStream : Type := List (Except Status Batch)

/-- The loop over the stream; `output` is what came so far. -/
def collectOutput : (output : List UInt8) → OutputStream → Except ModalError (List UInt8)
  | output, [] => .ok output
  | _, .error status :: _ => .error (.grpc status)
  | output, .ok batch :: stream =>
      match batch.error with
      | some errorMessage => .error (.sandboxFilesystem errorMessage)
      | none =>
          let output := output ++ batch.output.flatten
          if batch.eof then .ok output else collectOutput output stream

/-- The output of a request, if the call that opens the stream succeeds. -/
def ModalGrpcTransport.filesystemExecGetOutput (opened : Except Status OutputStream) :
    Except ModalError (List UInt8) :=
  match opened with
  | .error status => .error (.grpc status)
  | .ok stream => collectOutput [] stream

/-! ## 2. Complete outputs -/

/-- A batch that is neither an error nor the last. -/
def Goes (batch : Batch) : Prop := batch.error = none ∧ batch.eof = false

/-- A batch that is no error, and the last. -/
def Ends (batch : Batch) : Prop := batch.error = none ∧ batch.eof = true

/-- The chunks of some batches, in order. -/
def chunksOf (batches : List Batch) : List UInt8 := batches.flatMap (·.output.flatten)

/-- **The output of a stream**: what comes up to the batch that is said to be the last. -/
def FullOutput (opened : Except Status OutputStream) (out : List UInt8) : Prop :=
  ∃ (batches : List Batch) (last : Batch) (after : OutputStream),
    opened = .ok (batches.map .ok ++ .ok last :: after) ∧ (∀ b ∈ batches, Goes b) ∧ Ends last ∧
      out = chunksOf (batches ++ [last])

/-- A stream that ends, and has not said where its output does. -/
def EndsEarly (opened : Except Status OutputStream) : Prop :=
  ∃ batches : List Batch, opened = .ok (batches.map .ok) ∧ ∀ b ∈ batches, Goes b

section Collecting

variable {output out : List UInt8} {stream : OutputStream} {b : Batch}

theorem collectOutput_goes (h : Goes b) :
    collectOutput output (.ok b :: stream) = collectOutput (output ++ b.output.flatten) stream := by
  rw [collectOutput]
  simp only [h.1, h.2, Bool.false_eq_true, if_false]

theorem collectOutput_ends (h : Ends b) :
    collectOutput output (.ok b :: stream) = .ok (output ++ b.output.flatten) := by
  rw [collectOutput]
  simp only [h.1, h.2, if_true]

/-- Batches that go on are all collected. -/
theorem collectOutput_append (output : List UInt8) (stream : OutputStream)
    {batches : List Batch} (h : ∀ b ∈ batches, Goes b) :
    collectOutput output (batches.map .ok ++ stream) =
      collectOutput (output ++ chunksOf batches) stream := by
  induction batches generalizing output with
  | nil => rw [chunksOf, List.flatMap_nil, List.append_nil, List.map_nil, List.nil_append]
  | cons b batches ih =>
    obtain ⟨hb, hrest⟩ := List.forall_mem_cons.mp h
    rw [List.map_cons, List.cons_append, collectOutput_goes hb, ih _ hrest, chunksOf, chunksOf,
      List.flatMap_cons, List.append_assoc]

/-- **What a stream that is collected looks like**: it says where it ends, or it ends early. -/
theorem collectOutput_ok (h : collectOutput output stream = .ok out) :
    ∃ batches : List Batch, (∀ b ∈ batches, Goes b) ∧
      (stream = batches.map .ok ∨
        ∃ last after, stream = batches.map .ok ++ .ok last :: after ∧ Ends last) := by
  induction stream generalizing output with
  | nil => exact ⟨[], fun _ hmem => (List.not_mem_nil hmem).elim, Or.inl rfl⟩
  | cons message stream ih =>
    cases message with
    | error status => cases h
    | ok b =>
      cases herror : b.error with
      | some errorMessage =>
        rw [collectOutput, herror] at h
        cases h
      | none =>
        cases heof : b.eof with
        | true =>
          exact ⟨[], fun _ hmem => (List.not_mem_nil hmem).elim,
            Or.inr ⟨b, stream, rfl, herror, heof⟩⟩
        | false =>
          have hgoes : Goes b := ⟨herror, heof⟩
          rw [collectOutput_goes hgoes] at h
          obtain ⟨batches, hbatches, hstream⟩ := ih h
          refine ⟨b :: batches, List.forall_mem_cons.mpr ⟨hgoes, hbatches⟩, ?_⟩
          rcases hstream with rfl | ⟨last, after, rfl, hlast⟩
          · exact Or.inl rfl
          · exact Or.inr ⟨last, after, rfl, hlast⟩

end Collecting

section Outputs

variable {opened : Except Status OutputStream} {out : List UInt8}

/-- A complete output is collected. -/
theorem collected_of_full (h : FullOutput opened out) :
    ModalGrpcTransport.filesystemExecGetOutput opened = .ok out := by
  obtain ⟨batches, last, after, rfl, hbatches, hlast, rfl⟩ := h
  have hcollect := collectOutput_append [] (.ok last :: after) hbatches
  rw [ModalGrpcTransport.filesystemExecGetOutput, hcollect, collectOutput_ends hlast]
  rw [chunksOf, chunksOf, List.flatMap_append, List.flatMap_singleton, List.nil_append]

/-- What is collected is complete, unless the stream has ended early. -/
theorem full_of_collected (h : ModalGrpcTransport.filesystemExecGetOutput opened = .ok out)
    (hearly : ¬ EndsEarly opened) : FullOutput opened out := by
  cases opened with
  | error status => cases h
  | ok stream =>
    obtain ⟨batches, hbatches, rfl | ⟨last, after, rfl, hlast⟩⟩ := collectOutput_ok h
    · exact absurd ⟨batches, rfl, hbatches⟩ hearly
    · have hfull : FullOutput (.ok (batches.map .ok ++ .ok last :: after))
          (chunksOf (batches ++ [last])) := ⟨batches, last, after, rfl, hbatches, hlast, rfl⟩
      have hsame := (collected_of_full hfull).symm.trans h
      cases hsame
      exact hfull

/-- A stream that ends early gives what it had so far. -/
theorem collected_of_early (h : EndsEarly opened) :
    ∃ out, ModalGrpcTransport.filesystemExecGetOutput opened = .ok out := by
  obtain ⟨batches, rfl, hbatches⟩ := h
  have hcollect := collectOutput_append [] [] hbatches
  rw [List.append_nil] at hcollect
  exact ⟨_, hcollect⟩

/-- Its output is not complete. -/
theorem not_full_of_early (h : EndsEarly opened) : ¬ FullOutput opened out := by
  obtain ⟨batches, rfl, hbatches⟩ := h
  rintro ⟨before, last, after, hsplit, -, hlast, -⟩
  have hmem : (.ok last : Except Status Batch) ∈ batches.map .ok := by
    rw [Except.ok.inj hsplit]
    exact List.mem_append_right _ List.mem_cons_self
  obtain ⟨b, hb, hsame⟩ := List.mem_map.mp hmem
  cases hsame
  have hgoes := (hbatches _ hb).2
  rw [hlast.2] at hgoes
  cases hgoes

end Outputs

/-! ## 3. Reads and writes -/

section Operations

variable {file : FileIO} {es : List FilesystemEvent}

/-- **A read that succeeds returns its output as it came.** -/
theorem read_output {n : Option Nat} {data : List UInt8}
    (h : Resumption.Follows (SandboxFilesystem.read file n).run es (.done (.ok data))) :
    ∃ resp : FilesystemExecResponse,
      es = [⟨.exec file.taskId (.read file.fileDescriptor n), .ok resp⟩,
        ⟨.getOutput resp.execId, .ok data⟩] := by
  rcases follows_check h with ⟨e, -, -, hq⟩ | ⟨-, h⟩
  · cases hq
  rcases follows_check h with ⟨e, -, -, hq⟩ | ⟨-, h⟩
  · cases hq
  rcases follows_check h with ⟨e, -, -, hq⟩ | ⟨-, h⟩
  · cases hq
  cases h with
  | act _ _ reply h =>
    cases reply with
    | error e =>
      obtain ⟨-, hq⟩ := Resumption.Follows.of_done h
      cases hq
    | ok resp =>
      cases h with
      | act _ _ output h =>
        obtain ⟨rfl, hq⟩ := Resumption.Follows.of_done h
        cases hq
        exact ⟨resp, rfl⟩

/-- The last reply of a read that succeeds is its output. -/
theorem read_last {n : Option Nat} {data : List UInt8} {execId : String}
    {reply : Except ModalError (List UInt8)}
    (h : Resumption.Follows (SandboxFilesystem.read file n).run (es ++ [⟨.getOutput execId, reply⟩])
      (.done (.ok data))) : reply = .ok data := by
  obtain ⟨resp, hes⟩ := read_output h
  have hlast := congrArg List.getLast? hes
  rw [List.getLast?_concat] at hlast
  cases hlast
  rfl

/-- All outputs of a write that succeeds came. -/
theorem write_outputs {data : List UInt8} {execId : String} {es' : List FilesystemEvent}
    {reply : Except ModalError (List UInt8)}
    (h : Resumption.Follows (SandboxFilesystem.write file data).run
      (es ++ ⟨.getOutput execId, reply⟩ :: es') (.done (.ok ()))) : ∃ out, reply = .ok out := by
  cases reply with
  | ok out => exact ⟨out, rfl⟩
  | error e =>
    have hk : (es ++ (⟨.getOutput execId, .error e⟩ : FilesystemEvent) :: es')[es.length]? =
        some ⟨.getOutput execId, .error e⟩ := by
      rw [List.getElem?_append_right (Nat.le_refl _), Nat.sub_self]
      rfl
    rcases write_cases h with ⟨e', -, hes, -⟩ | ⟨-, -, -, hrun⟩
    · exact absurd hes (by simp)
    · obtain ⟨-, hq⟩ := hrun.error_last hk rfl
      cases hq

end Operations

/-- **All of the output or an error**: the output that the transport returns is complete, and so
    are what a read returns of it and the outputs that a write relies on. -/
structure AllOrError (opened : Except Status OutputStream) : Prop where
  getOutput : ∀ out, ModalGrpcTransport.filesystemExecGetOutput opened = .ok out ↔
    FullOutput opened out
  read : ∀ (file : FileIO) (n : Option Nat) (es : List FilesystemEvent) (execId : String)
    (data : List UInt8), Resumption.Follows (SandboxFilesystem.read file n).run
      (es ++ [⟨.getOutput execId, ModalGrpcTransport.filesystemExecGetOutput opened⟩])
      (.done (.ok data)) → FullOutput opened data
  write : ∀ (file : FileIO) (data : List UInt8) (es es' : List FilesystemEvent) (execId : String),
    Resumption.Follows (SandboxFilesystem.write file data).run
      (es ++ ⟨.getOutput execId, ModalGrpcTransport.filesystemExecGetOutput opened⟩ :: es')
      (.done (.ok ())) → ∃ out, FullOutput opened out

/-- **When the output is all or an error**: unless the stream ends early. -/
theorem output_all_or_error (opened : Except Status OutputStream) :
    AllOrError opened ↔ ¬ EndsEarly opened := by
  constructor
  · intro hall hearly
    obtain ⟨out, hout⟩ := collected_of_early hearly
    exact not_full_of_early hearly ((hall.getOutput out).mp hout)
  · intro hearly
    have hfull : ∀ out, ModalGrpcTransport.filesystemExecGetOutput opened = .ok out →
        FullOutput opened out := fun out hout => full_of_collected hout hearly
    refine ⟨fun out => ⟨hfull out, collected_of_full⟩, fun file n es execId data hread => ?_,
      fun file data es es' execId hwrite => ?_⟩
    · exact hfull data (read_last hread)
    · obtain ⟨out, hout⟩ := write_outputs hwrite
      exact ⟨out, hfull out hout⟩

/-- The stream ends behind the first of two batches. -/
def truncated : Except Status OutputStream := .ok [.ok ⟨[[1, 2]], none, false⟩]

/-- **A read returns the beginning of a file as all of it.** -/
theorem read_truncated :
    let events : List FilesystemEvent :=
      [⟨.exec "ta-1" (.read "fd-1" none), .ok ⟨"ex-1", none⟩⟩,
        ⟨.getOutput "ex-1", ModalGrpcTransport.filesystemExecGetOutput truncated⟩]
    Resumption.Follows (SandboxFilesystem.read readOnly none).run events (.done (.ok [1, 2])) ∧
      (¬ ∃ out, FullOutput truncated out) ∧ ¬ AllOrError truncated := by
  intro events
  have hearly : EndsEarly truncated :=
    ⟨[⟨[[1, 2]], none, false⟩], rfl, List.forall_mem_singleton.mpr ⟨rfl, rfl⟩⟩
  have hread : Resumption.Follows (SandboxFilesystem.read readOnly none).run events
      (.done (.ok [1, 2])) := .act _ _ _ (.act _ _ _ (.refl _))
  refine ⟨hread, fun ⟨out, hout⟩ => not_full_of_early hearly hout, fun hall => ?_⟩
  exact not_full_of_early hearly ((hall.getOutput [1, 2]).mp rfl)

end ModalRs.FileOutput
