/-
  File:      ModalRs/Sandbox/Reader.lean
  Subject:   The buffered reader of a process's output.

  * `ContainerProcessClient`: what the reader asks for chunks.
  * `ContainerProcessReader.read`: one read into a buffer of some length.
  * `Answers`: a client that gives out a sequence of answers, one a fetch.
  * `ReadStep`, `read_step`: what a read can do.
  * `ReaderInv`, `readMany_inv`: **what was delivered, and then what is pending, is
    what was fetched**, over any sequence of reads.
  * `deliversAll_iff`: when every sequence of reads delivers a given stream.
  * `reads_lossless`: what reads do, whatever the client answers.
-/
import Mathlib.Data.List.Infix
import ModalRs.Error

namespace ModalRs

/-! ## 1. The reader -/

/-- File descriptor selector for container process output streams. -/
inductive FileDescriptor where
  | stdout | stderr
  deriving DecidableEq, Repr

/-- `io::Error::new(ErrorKind::Other, e.to_string())`. -/
structure IoError where
  source : ModalError
  deriving DecidableEq, Repr

/-- The calls needed for the output of a process: `Ok(Some(data))` for data, `Ok(None)` for
    end-of-stream. -/
structure ContainerProcessClient (σ : Type) where
  execStdioRead : (taskId execId : String) → FileDescriptor → σ →
    Except ModalError (Option (List UInt8)) × σ

/-- Buffered reader for container process stdout or stderr. -/
structure ContainerProcessReader where
  taskId : String
  execId : String
  fd : FileDescriptor
  buffer : List UInt8
  bufPos : Nat
  eof : Bool

namespace ContainerProcessReader

/-- A reader at its start; if ignored, immediately at EOF. -/
def new (taskId execId : String) (fd : FileDescriptor) (ignored : Bool) : ContainerProcessReader :=
  ⟨taskId, execId, fd, [], 0, ignored⟩

variable {σ : Type}

/-- One `read` into a buffer of length `len`: the bytes that are copied into it. -/
def read (client : ContainerProcessClient σ) (len : Nat) (r : ContainerProcessReader) (w : σ) :
    Except IoError (List UInt8) × ContainerProcessReader × σ :=
  -- drain buffered data first
  if r.bufPos < r.buffer.length then
    let n := min len (r.buffer.length - r.bufPos)
    let copied := (r.buffer.drop r.bufPos).take n
    if r.bufPos + n = r.buffer.length then (.ok copied, { r with buffer := [], bufPos := 0 }, w)
    else (.ok copied, { r with bufPos := r.bufPos + n }, w)
  else if r.eof then (.ok [], r, w)
  else
    -- fetch the next chunk from the server
    match client.execStdioRead r.taskId r.execId r.fd w with
    | (.ok (some data), w) =>
        if data = [] then (.ok [], { r with eof := true }, w)
        else
          let n := min len data.length
          if n < data.length then (.ok (data.take n), { r with buffer := data, bufPos := n }, w)
          else (.ok (data.take n), r, w)
    | (.ok none, w) => (.ok [], { r with eof := true }, w)
    | (.error e, w) => (.error ⟨e⟩, r, w)

/-- The bytes that are buffered and not yet delivered. -/
def pending (r : ContainerProcessReader) : List UInt8 := r.buffer.drop r.bufPos

/-- What a read gave the caller. -/
def copied : Except IoError (List UInt8) → List UInt8
  | .ok bytes => bytes
  | .error _ => []

/-- Reads one after the other: the bytes delivered, the reader and the world behind them. -/
def readMany (client : ContainerProcessClient σ) :
    List Nat → ContainerProcessReader → σ → List UInt8 × ContainerProcessReader × σ
  | [], r, w => ([], r, w)
  | len :: lens, r, w =>
      let (result, r, w) := r.read client len w
      let (delivered, r, w) := readMany client lens r w
      (copied result ++ delivered, r, w)

/-! ## 2. What a read does -/

/-- The reader with other buffered bytes. -/
def withBuffer (r : ContainerProcessReader) (buffer : List UInt8) (bufPos : Nat) :
    ContainerProcessReader :=
  { r with buffer := buffer, bufPos := bufPos }

/-- The answers that end the stream. -/
def Ends (answer : Except ModalError (Option (List UInt8))) : Prop :=
  answer = .ok none ∨ answer = .ok (some [])

section Read

variable (client : ContainerProcessClient σ) (len : Nat) {r : ContainerProcessReader} {w w' : σ}

/-- As long as bytes are pending, a read takes from them and asks for nothing. -/
theorem read_pending (h : r.pending ≠ []) :
    ∃ buffer bufPos, r.read client len w =
        (.ok (r.pending.take len), r.withBuffer buffer bufPos, w) ∧
      (r.withBuffer buffer bufPos).pending = r.pending.drop len := by
  have hlt : r.bufPos < r.buffer.length := by
    rw [pending, Ne, List.drop_eq_nil_iff] at h
    omega
  have hcopied : (r.buffer.drop r.bufPos).take (min len (r.buffer.length - r.bufPos)) =
      r.pending.take len := by
    rw [pending, ← List.length_drop, ← List.take_take, List.take_length]
  rw [read, if_pos hlt]
  simp only [hcopied]
  by_cases hall : r.bufPos + min len (r.buffer.length - r.bufPos) = r.buffer.length
  · refine ⟨[], 0, if_pos hall, ?_⟩
    show [] = (r.buffer.drop r.bufPos).drop len
    rw [List.drop_drop, List.drop_eq_nil_of_le (by omega)]
  · refine ⟨r.buffer, _, if_neg hall, ?_⟩
    show r.buffer.drop (r.bufPos + min len (r.buffer.length - r.bufPos)) =
      (r.buffer.drop r.bufPos).drop len
    rw [List.drop_drop]
    congr 1
    omega

/-- Behind the end, a read gives nothing. -/
theorem read_ended (h : r.pending = []) (heof : r.eof = true) :
    r.read client len w = (.ok [], r, w) := by
  have hle : ¬ r.bufPos < r.buffer.length := Nat.not_lt.mpr (List.drop_eq_nil_iff.mp h)
  rw [read, if_neg hle, if_pos heof]

section Fetch

variable (h : r.pending = []) (heof : r.eof = false)
include h heof

/-- An answer that ends the stream: the reader is at its end. -/
theorem read_end {answer : Except ModalError (Option (List UInt8))}
    (hanswer : client.execStdioRead r.taskId r.execId r.fd w = (answer, w')) (hends : Ends answer) :
    r.read client len w = (.ok [], { r with eof := true }, w') := by
  have hle : ¬ r.bufPos < r.buffer.length := Nat.not_lt.mpr (List.drop_eq_nil_iff.mp h)
  rw [read, if_neg hle, if_neg (Bool.eq_false_iff.mp heof), hanswer]
  rcases hends with rfl | rfl <;> rfl

/-- A chunk: the read gives its beginning, the rest is pending. -/
theorem read_chunk {data : List UInt8} (hdata : data ≠ [])
    (hanswer : client.execStdioRead r.taskId r.execId r.fd w = (.ok (some data), w')) :
    ∃ buffer bufPos, r.read client len w =
        (.ok (data.take len), r.withBuffer buffer bufPos, w') ∧
      (r.withBuffer buffer bufPos).pending = data.drop len := by
  have hle : ¬ r.bufPos < r.buffer.length := Nat.not_lt.mpr (List.drop_eq_nil_iff.mp h)
  have hcopied : data.take (min len data.length) = data.take len := by
    rw [← List.take_take, List.take_length]
  rw [read, if_neg hle, if_neg (Bool.eq_false_iff.mp heof), hanswer]
  simp only [if_neg hdata, hcopied]
  by_cases hrest : min len data.length < data.length
  · refine ⟨data, _, if_pos hrest, ?_⟩
    show data.drop (min len data.length) = data.drop len
    congr 1
    omega
  · refine ⟨r.buffer, r.bufPos, if_neg hrest, ?_⟩
    show r.pending = data.drop len
    rw [h, List.drop_eq_nil_of_le (by omega)]

/-- An error is passed on, and nothing is lost. -/
theorem read_error {e : ModalError}
    (hanswer : client.execStdioRead r.taskId r.execId r.fd w = (.error e, w')) :
    r.read client len w = (.error ⟨e⟩, r, w') := by
  have hle : ¬ r.bufPos < r.buffer.length := Nat.not_lt.mpr (List.drop_eq_nil_iff.mp h)
  rw [read, if_neg hle, if_neg (Bool.eq_false_iff.mp heof), hanswer]

end Fetch

end Read

/-! ## 3. A sequence of answers -/

/-- The client gives out the answers one after the other, for the stream that the reader asks
    for; `at_` says in front of which answer a world is. -/
def Answers (client : ContainerProcessClient σ) (r : ContainerProcessReader)
    (answers : Nat → Except ModalError (Option (List UInt8))) (at_ : σ → Nat → Prop) : Prop :=
  ∀ w i, at_ w i → ∃ w', client.execStdioRead r.taskId r.execId r.fd w = (answers i, w') ∧
    at_ w' (i + 1)

/-- The bytes of an answer. -/
def chunk : Except ModalError (Option (List UInt8)) → List UInt8
  | .ok (some data) => data
  | .ok none | .error _ => []

/-- The bytes of the first answers, in order. -/
def fetched (answers : Nat → Except ModalError (Option (List UInt8))) : Nat → List UInt8
  | 0 => []
  | i + 1 => fetched answers i ++ chunk (answers i)

theorem fetched_prefix {answers : Nat → Except ModalError (Option (List UInt8))} {i k : Nat}
    (h : i ≤ k) : fetched answers i <+: fetched answers k := by
  induction h with
  | refl => exact List.prefix_refl _
  | step _ ih => exact ih.trans (List.prefix_append _ _)

theorem chunk_of_ends {answer : Except ModalError (Option (List UInt8))} (h : Ends answer) :
    chunk answer = [] := by
  rcases h with rfl | rfl <;> rfl

/-- The answers before `i` do not end the stream, the answer `i` does. -/
def EndsAt (answers : Nat → Except ModalError (Option (List UInt8))) (i : Nat) : Prop :=
  (∀ j, j < i → ¬ Ends (answers j)) ∧ Ends (answers i)

/-- **What was delivered, and then what is pending, is what was fetched**, and the reader is at its
    end exactly when it was told so. -/
structure ReaderInv (answers : Nat → Except ModalError (Option (List UInt8)))
    (delivered : List UInt8) (r : ContainerProcessReader) (i : Nat) : Prop where
  whole : delivered ++ r.pending = fetched answers i
  going : r.eof = false → ∀ j, j < i → ¬ Ends (answers j)
  ended : r.eof = true → r.pending = [] ∧ ∃ j, i = j + 1 ∧ EndsAt answers j

/-- The two readers ask for the same stream. -/
def SameStream (r r' : ContainerProcessReader) : Prop :=
  r'.taskId = r.taskId ∧ r'.execId = r.execId ∧ r'.fd = r.fd

section Run

variable {client : ContainerProcessClient σ} {r : ContainerProcessReader}
  {answers : Nat → Except ModalError (Option (List UInt8))} {at_ : σ → Nat → Prop}
  {delivered : List UInt8} {w : σ} {i : Nat}

theorem new_inv (taskId execId : String) (fd : FileDescriptor) :
    ReaderInv answers [] (new taskId execId fd false) 0 where
  whole := rfl
  going _ j hj := absurd hj (Nat.not_lt_zero j)
  ended h := nomatch h

theorem answers_of_sameStream {r' : ContainerProcessReader} (hsame : SameStream r r')
    (h : Answers client r answers at_) : Answers client r' answers at_ := by
  obtain ⟨htask, hexec, hfd⟩ := hsame
  intro w i hat
  rw [htask, hexec, hfd]
  exact h w i hat

/-- **The five things a read can do**, in front of answer `i`: it takes from what is pending, or
    nothing is pending and it is behind the end, told of the end, given a chunk, or refused. -/
inductive ReadStep (answers : Nat → Except ModalError (Option (List UInt8))) (len : Nat)
    (r : ContainerProcessReader) (i : Nat) :
    Except IoError (List UInt8) → ContainerProcessReader → Nat → Prop where
  | pending (buffer : List UInt8) (bufPos : Nat) (hpending : r.pending ≠ [])
      (hrest : (r.withBuffer buffer bufPos).pending = r.pending.drop len) :
      ReadStep answers len r i (.ok (r.pending.take len)) (r.withBuffer buffer bufPos) i
  | ended (hdrained : r.pending = []) (heof : r.eof = true) :
      ReadStep answers len r i (.ok []) r i
  | ends (hdrained : r.pending = []) (heof : r.eof = false) (hends : Ends (answers i)) :
      ReadStep answers len r i (.ok []) { r with eof := true } (i + 1)
  | chunk (data buffer : List UInt8) (bufPos : Nat) (hdrained : r.pending = [])
      (heof : r.eof = false) (hdata : data ≠ []) (hanswer : answers i = .ok (some data))
      (hrest : (r.withBuffer buffer bufPos).pending = data.drop len) :
      ReadStep answers len r i (.ok (data.take len)) (r.withBuffer buffer bufPos) (i + 1)
  | error (e : ModalError) (hdrained : r.pending = []) (heof : r.eof = false)
      (hanswer : answers i = .error e) :
      ReadStep answers len r i (.error ⟨e⟩) r (i + 1)

theorem read_step (hans : Answers client r answers at_) (hat : at_ w i) (len : Nat) :
    ∃ result r' w' i', r.read client len w = (result, r', w') ∧ at_ w' i' ∧
      ReadStep answers len r i result r' i' := by
  by_cases hpending : r.pending = []
  · cases heof : r.eof with
    | true => exact ⟨_, _, _, i, read_ended client len hpending heof, hat, .ended hpending heof⟩
    | false =>
      obtain ⟨w', hfetch, hat'⟩ := hans w i hat
      by_cases hends : Ends (answers i)
      · exact ⟨_, _, _, i + 1, read_end client len hpending heof hfetch hends, hat',
          .ends hpending heof hends⟩
      · cases hanswer : answers i with
        | error e =>
          rw [hanswer] at hfetch
          exact ⟨_, _, _, i + 1, read_error client len hpending heof hfetch, hat',
            .error e hpending heof hanswer⟩
        | ok data? =>
          cases data? with
          | none => exact absurd (Or.inl hanswer) hends
          | some data =>
            have hdata : data ≠ [] := by
              rintro rfl
              exact hends (Or.inr hanswer)
            rw [hanswer] at hfetch
            obtain ⟨buffer, bufPos, hread, hrest⟩ :=
              read_chunk client len hpending heof hdata hfetch
            exact ⟨_, _, _, i + 1, hread, hat',
              .chunk data buffer bufPos hpending heof hdata hanswer hrest⟩
  · obtain ⟨buffer, bufPos, hread, hrest⟩ := read_pending client len (w := w) hpending
    exact ⟨_, _, _, i, hread, hat, .pending buffer bufPos hpending hrest⟩

section Step

variable {result : Except IoError (List UInt8)} {r' : ContainerProcessReader} {len i' : Nat}

theorem sameStream_of_step (h : ReadStep answers len r i result r' i') : SameStream r r' := by
  cases h <;> exact ⟨rfl, rfl, rfl⟩

/-- As long as the stream did not end before, and does not end now, it goes on. -/
theorem going_succ (hbefore : ∀ j, j < i → ¬ Ends (answers j)) (hnow : ¬ Ends (answers i)) :
    ∀ j, j < i + 1 → ¬ Ends (answers j) := by
  intro j hj
  rcases Nat.lt_or_eq_of_le (Nat.le_of_lt_succ hj) with hlt | rfl
  · exact hbefore j hlt
  · exact hnow

/-- With nothing pending, what was delivered is what was fetched. -/
theorem ReaderInv.drained (h : ReaderInv answers delivered r i) (hdrained : r.pending = []) :
    delivered = fetched answers i := by
  rw [← h.whole, hdrained, List.append_nil]

/-- What one read preserves. -/
theorem step_inv (hstep : ReadStep answers len r i result r' i')
    (h : ReaderInv answers delivered r i) :
    ReaderInv answers (delivered ++ copied result) r' i' := by
  cases hstep with
  | pending buffer bufPos hpending hrest =>
    refine ⟨?_, h.going, fun heof => absurd (h.ended heof).1 hpending⟩
    show (delivered ++ r.pending.take len) ++ _ = fetched answers i
    rw [hrest, List.append_assoc, List.take_append_drop]
    exact h.whole
  | ended hdrained heof =>
    show ReaderInv answers (delivered ++ []) r i
    rw [List.append_nil]
    exact h
  | ends hdrained heof hends =>
    refine ⟨?_, fun hno => Bool.noConfusion hno, fun _ => ⟨hdrained, i, rfl, h.going heof, hends⟩⟩
    show (delivered ++ []) ++ r.pending = fetched answers i ++ chunk (answers i)
    rw [hdrained, chunk_of_ends hends, List.append_nil, List.append_nil, List.append_nil,
      h.drained hdrained]
  | chunk data buffer bufPos hdrained heof hdata hanswer hrest =>
    have hnow : ¬ Ends (answers i) := by
      rintro (hnone | hnil)
      · rw [hanswer] at hnone
        cases hnone
      · rw [hanswer] at hnil
        cases hnil
        exact hdata rfl
    refine ⟨?_, fun _ => going_succ (h.going heof) hnow, fun heof' => ?_⟩
    · show (delivered ++ data.take len) ++ _ = fetched answers i ++ chunk (answers i)
      rw [hrest, List.append_assoc, List.take_append_drop, hanswer, h.drained hdrained]
      rfl
    · have heof' : r.eof = true := heof'
      rw [heof] at heof'
      cases heof'
  | error e hdrained heof hanswer =>
    have hnow : ¬ Ends (answers i) := by
      rintro (hnone | hnil)
      · rw [hanswer] at hnone
        cases hnone
      · rw [hanswer] at hnil
        cases hnil
    refine ⟨?_, fun _ => going_succ (h.going heof) hnow, fun heof' => ?_⟩
    · show (delivered ++ []) ++ r.pending = fetched answers i ++ chunk (answers i)
      rw [hdrained, hanswer, List.append_nil, List.append_nil, h.drained hdrained]
      exact (List.append_nil _).symm
    · rw [heof] at heof'
      cases heof'

/-- A part of some bytes is empty only if there is no room for it. -/
theorem take_ne_nil {bytes : List UInt8} (hne : bytes ≠ []) (hlen : 0 < len) :
    bytes.take len ≠ [] := by
  intro hnil
  rcases List.take_eq_nil_iff.mp hnil with hzero | hnil
  · exact Nat.ne_of_gt hlen hzero
  · exact hne hnil

/-- **A read with room that gives nothing** comes after everything up to the end was delivered. -/
theorem step_reports_end (hstep : ReadStep answers len r i result r' i')
    (h : ReaderInv answers delivered r i) (hlen : 0 < len) (hresult : result = .ok []) :
    ∃ k, EndsAt answers k ∧ delivered = fetched answers k := by
  cases hstep with
  | pending buffer bufPos hpending hrest =>
    exact absurd (Except.ok.inj hresult) (take_ne_nil hpending hlen)
  | ended hdrained heof =>
    obtain ⟨-, j, rfl, hends⟩ := h.ended heof
    refine ⟨j, hends, ?_⟩
    rw [h.drained hdrained, fetched, chunk_of_ends hends.2, List.append_nil]
  | ends hdrained heof hends => exact ⟨i, ⟨h.going heof, hends⟩, h.drained hdrained⟩
  | chunk data buffer bufPos hdrained heof hdata hanswer hrest =>
    exact absurd (Except.ok.inj hresult) (take_ne_nil hdata hlen)
  | error e hdrained heof hanswer => cases hresult

/-- A read of one byte gives it, unless it gives nothing or fails. -/
theorem step_one (hstep : ReadStep answers 1 r i result r' i') (hok : ∀ e, answers i ≠ .error e) :
    result = .ok [] ∨ (copied result).length = 1 := by
  have hone : ∀ bytes : List UInt8, bytes ≠ [] → (bytes.take 1).length = 1 := by
    intro bytes hne
    rw [List.length_take, Nat.min_eq_left (List.length_pos_iff.mpr hne)]
  cases hstep with
  | pending buffer bufPos hpending hrest => exact Or.inr (hone _ hpending)
  | ended hdrained heof => exact Or.inl rfl
  | ends hdrained heof hends => exact Or.inl rfl
  | chunk data buffer bufPos hdrained heof hdata hanswer hrest => exact Or.inr (hone _ hdata)
  | error e hdrained heof hanswer => exact absurd hanswer (hok e)

end Step

/-- What any sequence of reads preserves. -/
theorem readMany_inv (hans : Answers client r answers at_) (hat : at_ w i)
    (h : ReaderInv answers delivered r i) (lens : List Nat) :
    ∃ out r' w' i', readMany client lens r w = (out, r', w') ∧ SameStream r r' ∧ at_ w' i' ∧
      ReaderInv answers (delivered ++ out) r' i' := by
  induction lens generalizing delivered r w i with
  | nil =>
    refine ⟨[], r, w, i, rfl, ⟨rfl, rfl, rfl⟩, hat, ?_⟩
    rw [List.append_nil]
    exact h
  | cons len lens ih =>
    obtain ⟨result, r₁, w₁, i₁, hread, hat₁, hstep⟩ := read_step hans hat len
    have hsame₁ := sameStream_of_step hstep
    obtain ⟨out, r₂, w₂, i₂, hmany, hsame₂, hat₂, h₂⟩ :=
      ih (answers_of_sameStream hsame₁ hans) hat₁ (step_inv hstep h)
    refine ⟨copied result ++ out, r₂, w₂, i₂, ?_, ?_, hat₂, ?_⟩
    · rw [readMany, hread]
      simp only [hmany]
    · obtain ⟨htask₁, hexec₁, hfd₁⟩ := hsame₁
      obtain ⟨htask₂, hexec₂, hfd₂⟩ := hsame₂
      exact ⟨htask₂.trans htask₁, hexec₂.trans hexec₁, hfd₂.trans hfd₁⟩
    · rw [← List.append_assoc]
      exact h₂

end Run

/-! ## 4. Complete output -/

/-- The result of a read after other reads. -/
def readAfter (client : ContainerProcessClient σ) (lens : List Nat) (len : Nat)
    (r : ContainerProcessReader) (w : σ) : Except IoError (List UInt8) :=
  let (_, r, w) := readMany client lens r w
  (r.read client len w).1

/-- Whatever is read, the bytes delivered are a beginning of `s`, and a read that reports the end
    (it has room, and gives nothing) comes after all of `s`. -/
def DeliversAll (client : ContainerProcessClient σ) (s : List UInt8) (r : ContainerProcessReader)
    (w : σ) : Prop :=
  ∀ lens, (readMany client lens r w).1 <+: s ∧
    ∀ len, 0 < len → readAfter client lens len r w = .ok [] → (readMany client lens r w).1 = s

section Complete

variable {client : ContainerProcessClient σ} {r : ContainerProcessReader}
  {answers : Nat → Except ModalError (Option (List UInt8))} {at_ : σ → Nat → Prop} {w : σ}

/-- An ignored stream: nothing is delivered, and every read reports the end. -/
theorem readMany_ended (hpending : r.pending = []) (heof : r.eof = true) :
    ∀ lens, readMany client lens r w = ([], r, w)
  | [] => rfl
  | len :: lens => by
      rw [readMany, read_ended client len hpending heof]
      simp only [readMany_ended hpending heof lens]
      rfl

theorem readMany_snoc (len : Nat) : ∀ (lens : List Nat) (r : ContainerProcessReader) (w : σ),
    (readMany client (lens ++ [len]) r w).1 =
      (readMany client lens r w).1 ++ copied (readAfter client lens len r w)
  | [], r, w => List.append_nil _
  | l :: lens, r, w => by
      show copied _ ++ (readMany client (lens ++ [len]) _ _).1 = (copied _ ++ _) ++ copied _
      rw [readMany_snoc len lens, List.append_assoc]
      rfl

variable (hans : Answers client r answers at_) (hat : at_ w 0) (h : ReaderInv answers [] r 0)
include hans hat h

/-- Reads of one byte each: one of them reports the end, or each gives a byte. -/
theorem readMany_ones (hok : ∀ i e, answers i ≠ .error e) : ∀ m,
    (∃ lens, readAfter client lens 1 r w = .ok []) ∨
      (readMany client (List.replicate m 1) r w).1.length = m
  | 0 => Or.inr rfl
  | m + 1 => by
      rcases readMany_ones hok m with hend | hlength
      · exact Or.inl hend
      · obtain ⟨out, r', w', i', hmany, hsame, hat', -⟩ :=
          readMany_inv hans hat h (List.replicate m 1)
        obtain ⟨result, _, _, _, hread, -, hstep⟩ :=
          read_step (answers_of_sameStream hsame hans) hat' 1
        have hafter : readAfter client (List.replicate m 1) 1 r w = result := by
          rw [readAfter, hmany]
          simp only [hread]
        rcases step_one hstep (hok i') with hnil | hone
        · exact Or.inl ⟨_, hafter.trans hnil⟩
        · right
          rw [List.replicate_succ', readMany_snoc, List.length_append, hlength, hafter, hone]

/-- **Complete output**: every sequence of reads delivers `s` as it should if and only if the
    answers come to an end, and up to there they are `s`. -/
theorem deliversAll_iff (hok : ∀ i e, answers i ≠ .error e) (s : List UInt8) :
    DeliversAll client s r w ↔ ∃ k, EndsAt answers k ∧ fetched answers k = s := by
  -- after any reads, a read with room that gives nothing has found the end
  have hreport : ∀ lens len, 0 < len → readAfter client lens len r w = .ok [] →
      ∃ k, EndsAt answers k ∧ (readMany client lens r w).1 = fetched answers k := by
    intro lens len hlen hend
    obtain ⟨out, r', w', i', hmany, hsame, hat', hinv⟩ := readMany_inv hans hat h lens
    obtain ⟨result, _, _, _, hread, -, hstep⟩ :=
      read_step (answers_of_sameStream hsame hans) hat' len
    rw [readAfter, hmany] at hend
    simp only [hread] at hend
    rw [hmany]
    exact step_reports_end hstep hinv hlen hend
  constructor
  · intro hall
    rcases readMany_ones hans hat h hok (s.length + 1) with ⟨lens, hend⟩ | hlength
    · obtain ⟨k, hends, hfetched⟩ := hreport lens 1 Nat.one_pos hend
      exact ⟨k, hends, hfetched.symm.trans ((hall lens).2 1 Nat.one_pos hend)⟩
    · -- more bytes than `s` has
      have hle := (hall (List.replicate (s.length + 1) 1)).1.length_le
      omega
  · rintro ⟨k, hends, rfl⟩ lens
    have hunique : ∀ j, EndsAt answers j → j = k := by
      intro j hj
      rcases Nat.lt_trichotomy j k with hlt | heq | hgt
      · exact absurd hj.2 (hends.1 j hlt)
      · exact heq
      · exact absurd hends.2 (hj.1 k hgt)
    constructor
    · obtain ⟨out, r', w', i', hmany, -, -, hinv⟩ := readMany_inv hans hat h lens
      rw [hmany]
      have hprefix : out <+: fetched answers i' := ⟨r'.pending, hinv.whole⟩
      refine hprefix.trans ?_
      cases heof : r'.eof with
      | true =>
        obtain ⟨-, j, rfl, hj⟩ := hinv.ended heof
        rw [fetched, chunk_of_ends hj.2, List.append_nil, hunique j hj]
      | false =>
        have hle : i' ≤ k := Nat.le_of_not_lt fun hlt => hinv.going heof k hlt hends.2
        exact fetched_prefix hle
    · intro len hlen hend
      obtain ⟨j, hj, hfetched⟩ := hreport lens len hlen hend
      rw [hfetched, hunique j hj]

end Complete

/-! ## 5. Any client -/

/-- The client that gives out the answers one after the other; its state is how many it gave. -/
def scripted (answers : Nat → Except ModalError (Option (List UInt8))) :
    ContainerProcessClient Nat :=
  ⟨fun _ _ _ i => (answers i, i + 1)⟩

/-- One of the first `i` answers ended the stream. -/
def Ended (answers : Nat → Except ModalError (Option (List UInt8))) (i : Nat) : Prop :=
  ∃ j, j < i ∧ Ends (answers j)

section Scripted

variable {answers : Nat → Except ModalError (Option (List UInt8))} {delivered : List UInt8}
  {r r' : ContainerProcessReader} {i i' len : Nat} {result : Except IoError (List UInt8)}

theorem ReaderInv.ended_of_eof (h : ReaderInv answers delivered r i) (heof : r.eof = true) :
    Ended answers i := by
  obtain ⟨-, j, rfl, hends⟩ := h.ended heof
  exact ⟨j, Nat.lt_succ_self j, hends.2⟩

theorem ReaderInv.eof_of_ended (h : ReaderInv answers delivered r i) (hended : Ended answers i) :
    r.eof = true := by
  obtain ⟨j, hj, hends⟩ := hended
  cases heof : r.eof with
  | true => rfl
  | false => exact absurd hends (h.going heof j hj)

/-- A read gives no more than there is room for. -/
theorem step_length (hstep : ReadStep answers len r i result r' i') :
    (copied result).length ≤ len := by
  have htake : ∀ bytes : List UInt8, (bytes.take len).length ≤ len := by
    intro bytes
    rw [List.length_take]
    exact Nat.min_le_left _ _
  cases hstep with
  | pending buffer bufPos hpending hrest => exact htake _
  | ended hdrained heof => exact Nat.zero_le _
  | ends hdrained heof hends => exact Nat.zero_le _
  | chunk data buffer bufPos hdrained heof hdata hanswer hrest => exact htake _
  | error e hdrained heof hanswer => exact Nat.zero_le _

/-- While bytes are pending, and behind the end, nothing is asked for. -/
theorem step_asks (hstep : ReadStep answers len r i result r' i')
    (h : r.pending ≠ [] ∨ r.eof = true) : i' = i := by
  have hasks : r.pending = [] → r.eof = false → False := by
    intro hdrained heof
    rcases h with hpending | heof'
    · exact hpending hdrained
    · rw [heof] at heof'
      cases heof'
  cases hstep with
  | pending buffer bufPos hpending hrest => rfl
  | ended hdrained heof => rfl
  | ends hdrained heof hends => exact (hasks hdrained heof).elim
  | chunk data buffer bufPos hdrained heof hdata hanswer hrest => exact (hasks hdrained heof).elim
  | error e hdrained heof hanswer => exact (hasks hdrained heof).elim

/-- A read that fails leaves the reader as it is. -/
theorem step_failed (hstep : ReadStep answers len r i result r' i') {e : IoError}
    (hresult : result = .error e) : r' = r := by
  cases hstep with
  | error e hdrained heof hanswer => rfl
  | pending buffer bufPos hpending hrest => cases hresult
  | ended hdrained heof => cases hresult
  | ends hdrained heof hends => cases hresult
  | chunk data buffer bufPos hdrained heof hdata hanswer hrest => cases hresult

end Scripted

/-- **Reading loses nothing**: whatever the client answers, and after any reads, what was delivered
    and then what is pending is what was fetched. The next read does one of the five things; the
    reader is at its end exactly behind an answer that says so or on an ignored stream. So the read
    gives at most what there is room for, asks for nothing while bytes are pending, behind the end
    and on an ignored stream, gives nothing behind the end, and leaves the reader as it is if it
    fails. -/
theorem reads_lossless (answers : Nat → Except ModalError (Option (List UInt8)))
    (taskId execId : String) (fd : FileDescriptor) (ignored : Bool) (lens : List Nat) (len : Nat) :
    let (delivered, r, i) := readMany (scripted answers) lens (new taskId execId fd ignored) 0
    let (result, r', i') := r.read (scripted answers) len i
    delivered ++ r.pending = fetched answers i ∧
    ReadStep answers len r i result r' i' ∧
    (r.eof = true ↔ Ended answers i ∨ ignored = true) ∧
    (copied result).length ≤ len ∧
    (r.pending ≠ [] ∨ Ended answers i ∨ ignored = true → i' = i) ∧
    (Ended answers i ∨ ignored = true → result = .ok []) ∧
    ∀ e, result = .error e → r' = r := by
  cases ignored with
  | true =>
    rw [readMany_ended rfl rfl]
    dsimp only
    rw [read_ended (scripted answers) len (r := new taskId execId fd true) rfl rfl]
    exact ⟨rfl, .ended rfl rfl, ⟨fun _ => Or.inr rfl, fun _ => rfl⟩, Nat.zero_le _, fun _ => rfl,
      fun _ => rfl, fun _ h => by cases h⟩
  | false =>
    have hans : Answers (scripted answers) (new taskId execId fd false) answers fun w i => w = i :=
      fun w i hat => ⟨i + 1, by rw [hat]; rfl, rfl⟩
    obtain ⟨delivered, r, w, i, hmany, hsame, rfl, hinv⟩ :=
      readMany_inv hans rfl (new_inv taskId execId fd) lens
    obtain ⟨result, r', w', i', hread, rfl, hstep⟩ :=
      read_step (answers_of_sameStream hsame hans) rfl len
    rw [hmany]
    dsimp only
    rw [hread]
    have heof : Ended answers w ∨ false = true → r.eof = true := by
      rintro (hended | hno)
      · exact hinv.eof_of_ended hended
      · cases hno
    refine ⟨hinv.whole, hstep, ⟨fun h => Or.inl (hinv.ended_of_eof h), heof⟩, step_length hstep,
      fun h => step_asks hstep ?_, fun h => ?_, fun e he => step_failed hstep he⟩
    · exact h.imp_right heof
    · have hended := read_ended (scripted answers) len (w := w) (hinv.ended (heof h)).1 (heof h)
      rw [hread] at hended
      cases hended
      rfl

end ContainerProcessReader

end ModalRs
