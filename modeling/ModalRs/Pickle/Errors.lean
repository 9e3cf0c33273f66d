/-
  File:      ModalRs/Pickle/Errors.lean
  Subject:   What the decoder fails with.

  * `DecodeStop`: a serialization error that says where, or a panic of a checked operation.
  * `FailsWell`: a reader fails with nothing else; so do all of `fetch`.
  * `pickleDeserialize_stops`: neither does the decoder.
-/
import ModalRs.Pickle.Exec

namespace ModalRs.Pickle

open ModalRs.Lib ModalRs.Rust

/-- The decoder's `Err` names a position; its panics are those of additions and indexings. -/
inductive DecodeStop : Stop ModalError → Prop where
  | malformed (pos : Nat) (msg : String) :
      DecodeStop (.err (.serialization ("pickle decode error at " ++ toString pos ++ ": " ++ msg)))
  | addOverflow : DecodeStop (.panic .addOverflow)
  | indexOutOfRange : DecodeStop (.panic .indexOutOfRange)
  | sliceOutOfRange : DecodeStop (.panic .sliceOutOfRange)

/-! ## 1. Checked operations -/

section Checked

variable {α : Type}

theorem pickleErr_stops (c : Cursor) (msg : String) :
    StopsIn DecodeStop (.error (pickleErr c msg) : Res ModalError α) := .stop (.malformed c.pos msg)

theorem usizeAdd_stops (a b : Nat) : StopsIn DecodeStop (usizeAdd a b) :=
  .ite (.value _) (.stop .addOverflow)

theorem slice_stops (v : List α) (a b : Nat) : StopsIn DecodeStop (slice v a b) :=
  .ite (.value _) (.stop .sliceOutOfRange)

theorem index_stops (v : List α) (i : Nat) : StopsIn DecodeStop (index v i) := by
  unfold index
  cases v[i]? with
  | some a => exact .value a
  | none => exact .stop .indexOutOfRange

theorem chunks2_stops : ∀ items : List α, StopsIn DecodeStop (chunks2 items)
  | [] => .value _
  | [_] => .stop .indexOutOfRange
  | _ :: _ :: rest => (chunks2_stops rest).bind fun _ => .value _

end Checked

/-! ## 2. Reading -/

/-- The reader fails for no other reason. -/
def FailsWell {α : Type} (m : PickleReader α) : Prop := ∀ c, StopsIn DecodeStop (m c)

namespace FailsWell

variable {α β : Type}

theorem pure (a : α) : FailsWell (pure a : PickleReader α) := fun _ => .value _

theorem bind {m : PickleReader α} {k : α → PickleReader β} (hm : FailsWell m)
    (hk : ∀ a, FailsWell (k a)) : FailsWell (m >>= k) := fun c => (hm c).bind fun p => hk p.1 p.2

theorem lift {x : Res ModalError α} (h : StopsIn DecodeStop x) :
    FailsWell (liftM x : PickleReader α) := fun _ => h.bind fun _ => .value _

theorem ite {p : Prop} [Decidable p] {m m' : PickleReader α} (hm : FailsWell m)
    (hm' : FailsWell m') : FailsWell (if p then m else m') := by
  by_cases h : p
  · rw [if_pos h]
    exact hm
  · rw [if_neg h]
    exact hm'

end FailsWell

theorem readByte_fails : FailsWell readByte := fun _ =>
  .ite (pickleErr_stops _ _) <| (index_stops _ _).bind fun _ =>
    (usizeAdd_stops _ _).bind fun _ => .value _

theorem readBytes_fails (n : Nat) : FailsWell (readBytes n) := fun _ =>
  (usizeAdd_stops _ _).bind fun _ => .ite (pickleErr_stops _ _) <|
    (slice_stops _ _ _).bind fun _ => .value _

theorem leading_fails : ∀ (n : Nat) (bytes : List UInt8), FailsWell (leading n bytes)
  | 0, _ => .pure _
  | _ + 1, [] => fun _ => .stop .indexOutOfRange
  | n + 1, _ :: bytes => (leading_fails n bytes).bind fun _ => .pure _

/-- A number of fixed width. -/
theorem word_fails {α : Type} (n : Nat) (f : List UInt8 → α) :
    FailsWell (readArray n >>= fun bytes => pure (f bytes) : PickleReader α) :=
  ((readBytes_fails n).bind (leading_fails n)).bind fun _ => .pure _

theorem readLine_fails : FailsWell readLine := fun _ =>
  .ite (pickleErr_stops _ _) <| (slice_stops _ _ _).bind fun _ =>
    (usizeAdd_stops _ _).bind fun _ => .value _

theorem orErr_fails {δ α : Type} (what : String) (display : δ → String) (x : Except δ α) :
    FailsWell (orErr what display x) := fun c => by
  cases x with
  | ok a => exact .value (a, c)
  | error e => exact pickleErr_stops c _

theorem utf8_fails (bytes : List UInt8) : FailsWell (utf8 bytes) := orErr_fails _ _ _

theorem readIndexLine_fails : FailsWell readIndexLine :=
  readLine_fails.bind fun _ => (orErr_fails _ _ _).bind fun _ => orErr_fails _ _ _

theorem bytesToLong_stops (bytes : List UInt8) : StopsIn DecodeStop (bytesToLong bytes) := by
  obtain ⟨v, hv⟩ := bytesToLong_ok bytes
  rw [hv]
  exact .value v

/-- A length and the bytes it announces. -/
theorem sized_fails {α : Type} {m : PickleReader α} {len : α → Nat}
    {k : List UInt8 → PickleReader Instr} (hm : FailsWell m) (hk : ∀ bytes, FailsWell (k bytes)) :
    FailsWell (m >>= fun a => readBytes (len a) >>= k) :=
  hm.bind fun a => (readBytes_fails (len a)).bind hk

theorem utf8_data_fails (bytes : List UInt8) (f : String → Instr) :
    FailsWell (utf8 bytes >>= fun s => pure (f s)) := (utf8_fails bytes).bind fun _ => .pure _

theorem fetchArgs_fails : ∀ op : Opcode, FailsWell (fetchArgs op)
  | .proto => readByte_fails.bind fun _ => .pure _
  | .frame => (word_fails 8 _).bind fun _ => .pure _
  | .binint1 => readByte_fails.bind fun _ => .pure _
  | .binint2 => (word_fails 2 _).bind fun _ => .pure _
  | .binint => (word_fails 4 _).bind fun _ => .pure _
  | .long1 => sized_fails readByte_fails fun bytes =>
      (FailsWell.lift (bytesToLong_stops bytes)).bind fun _ => .pure _
  | .binfloat => (word_fails 8 _).bind fun _ => .pure _
  | .binunicode => sized_fails (word_fails 4 _) fun _ => utf8_data_fails _ _
  | .shortBinunicode => sized_fails readByte_fails fun _ => utf8_data_fails _ _
  | .binunicode8 => sized_fails (word_fails 8 _) fun _ => utf8_data_fails _ _
  | .shortBinbytes => sized_fails readByte_fails fun _ => .pure _
  | .binbytes => sized_fails (word_fails 4 _) fun _ => .pure _
  | .binbytes8 => sized_fails (word_fails 8 _) fun _ => .pure _
  | .shortBinstring => sized_fails readByte_fails fun _ => .pure _
  | .binstring => sized_fails (word_fails 4 _) fun _ => .pure _
  | .unicode => readLine_fails.bind fun _ => utf8_data_fails _ _
  | .string => readLine_fails.bind fun _ => (utf8_fails _).bind fun _ => .pure _
  | .int => readLine_fails.bind fun _ => (utf8_fails _).bind fun _ =>
      .ite (.pure _) (.ite (.pure _) ((orErr_fails _ _ _).bind fun _ => .pure _))
  | .float => readLine_fails.bind fun _ => (utf8_fails _).bind fun _ =>
      (orErr_fails _ _ _).bind fun _ => .pure _
  | .binput => readByte_fails.bind fun _ => .pure _
  | .longBinput => (word_fails 4 _).bind fun _ => .pure _
  | .put => readIndexLine_fails.bind fun _ => .pure _
  | .binget => readByte_fails.bind fun _ => .pure _
  | .longBinget => (word_fails 4 _).bind fun _ => .pure _
  | .get => readIndexLine_fails.bind fun _ => .pure _
  | .global => readLine_fails.bind fun _ => readLine_fails.bind fun _ => .pure _
  | .stop | .none | .newtrue | .newfalse | .emptyList | .emptyDict | .emptyTuple | .mark | .list
  | .dict | .tuple | .tuple1 | .tuple2 | .tuple3 | .append | .appends | .setitem | .setitems
  | .memoize | .pop | .dup | .popMark | .stackGlobal | .reduce | .newobj | .build => .pure _

theorem fetch_fails : FailsWell fetch := by
  refine readByte_fails.bind fun opcode => ?_
  unfold fetchOp
  cases Opcode.ofByte opcode with
  | none => exact fun c => pickleErr_stops c _
  | some op => exact fetchArgs_fails op

/-! ## 3. Instructions -/

section Instructions

variable (d : Decoder)

theorem err_stops {α : Type} (msg : String) : StopsIn DecodeStop (d.err msg : Res ModalError α) :=
  pickleErr_stops d.toCursor msg

theorem popValue_stops : StopsIn DecodeStop d.popValue := by
  unfold Decoder.popValue
  cases Lib.popValue d.stack with
  | ok p => exact .value _
  | error why => cases why <;> exact err_stops d _

theorem popToMark_stops : StopsIn DecodeStop d.popToMark := by
  unfold Decoder.popToMark
  cases Lib.popToMark d.stack with
  | some p => exact .value _
  | none => exact err_stops d _

theorem extendList_stops (items : List PickleValue) (msg : String) :
    StopsIn DecodeStop (d.extendList items msg) := by
  unfold Decoder.extendList
  split
  · exact .value _
  · exact err_stops d msg

theorem extendDict_stops (newPairs : List (PickleValue × PickleValue)) (msg : String) :
    StopsIn DecodeStop (d.extendDict newPairs msg) := by
  unfold Decoder.extendDict
  split
  · exact .value _
  · exact err_stops d msg

theorem exec_stops (i : Instr) : StopsIn DecodeStop (exec d i) := by
  cases i with
  | stop => exact (popValue_stops d).bind fun _ => .value _
  | list => exact (popToMark_stops d).bind fun _ => .value _
  | dict =>
    exact (popToMark_stops d).bind fun p => .ite (err_stops p.2 _) <|
      (chunks2_stops p.1).bind fun _ => .value _
  | tuple => exact (popToMark_stops d).bind fun _ => .value _
  | tuple1 => exact (popValue_stops d).bind fun _ => .value _
  | tuple2 => exact (popValue_stops d).bind fun p => (popValue_stops p.2).bind fun _ => .value _
  | tuple3 =>
    exact (popValue_stops d).bind fun p => (popValue_stops p.2).bind fun q =>
      (popValue_stops q.2).bind fun _ => .value _
  | append => exact (popValue_stops d).bind fun p => extendList_stops p.2 _ _
  | appends => exact (popToMark_stops d).bind fun p => extendList_stops p.2 _ _
  | setitem =>
    exact (popValue_stops d).bind fun p => (popValue_stops p.2).bind fun q =>
      extendDict_stops q.2 _ _
  | setitems =>
    exact (popToMark_stops d).bind fun p => .ite (err_stops p.2 _) <|
      (chunks2_stops p.1).bind fun _ => extendDict_stops p.2 _ _
  | get idx =>
    simp only [exec]
    cases d.memo.find? idx with
    | some v => exact .value _
    | none => exact err_stops d _
  | dup =>
    simp only [exec]
    split
    · exact .value _
    · exact .value _
  | popMark => exact (popToMark_stops d).bind fun _ => .value _
  | stackGlobal => exact (popValue_stops d).bind fun p => (popValue_stops p.2).bind fun _ => .value _
  | reduce => exact (popValue_stops d).bind fun p => (popValue_stops p.2).bind fun _ => .value _
  | newobj => exact (popValue_stops d).bind fun p => (popValue_stops p.2).bind fun _ => .value _
  | build => exact (popValue_stops d).bind fun _ => .value _
  | skip | data | emptyList | emptyDict | emptyTuple | mark | put | memoize | pop | global =>
    exact .value _

end Instructions

/-! ## 4. The decoder -/

theorem decodeStep_stops (d : Decoder) : StopsIn DecodeStop (decodeStep d) :=
  (fetch_fails d.toCursor).bind fun p => exec_stops { d with toCursor := p.2 } p.1

/-- **Where the decoder answers no value, it names a position or panics in a checked operation.** -/
theorem pickleDeserialize_stops (data : List UInt8) :
    StopsIn DecodeStop (pickleDeserialize data) := by
  have hcut : pickleDeserialize data ≠ .error .diverged := by
    refine loop_ne_cut decodeStep_ahead _ _ (Nat.lt_succ_self _) fun d _ h => ?_
    cases decodeStep_stops d _ h
  intro e he
  obtain ⟨d, -, ⟨v, hv, -⟩ | ⟨e', he', hlast⟩⟩ := loop_last _ _ _ rfl hcut
  · rw [show pickleDeserialize data = .ok v from hv] at he
    cases he
  · rw [show pickleDeserialize data = .error e' from he'] at he
    cases he
    exact decodeStep_stops d _ hlast

end ModalRs.Pickle
