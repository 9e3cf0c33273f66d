/-
  File:      ModalRs/Pickle/RoundTrip.lean
  Subject:   What the encoder writes, the decoder reads back.

  `Runs bs s s'`: wherever the decoder stands in front of `bs` with stack `s`,
  it comes out behind `bs` with stack `s'` and the memo it had.

  * `Runs.append`, `Runs.of_exec`: runs compose, and one instruction is a run.
  * `encodeValue_runs`: the bytes of a value push that value, on any stack.
  * `returnsAt_serialized`: the decoder stops right behind what the encoder wrote.
  * `pickleDeserialize_encode`, `pickle_round_trip`: encoder, then decoder, is
    the identity, whatever bytes follow.
-/
import ModalRs.Pickle.Exec
import ModalRs.Pickle.Integer

namespace ModalRs.Pickle

open ModalRs.Lib ModalRs.Rust

/-! ## 1. Runs -/

/-- **The decoder gets over `bs`**, and its stack changes from `s` to `s'`. -/
def Runs (bs : List UInt8) (s s' : List StackItem) : Prop :=
  ∀ (c : Cursor) (memo : AssocMap UInt32 PickleValue) (rest : List UInt8),
    c.Inside → c.rest = bs ++ rest → c.pos + bs.length < usizeSize →
      Reach decodeStep ⟨c, s, memo⟩ ⟨c.advance bs.length, s', memo⟩

theorem Runs.nil (s : List StackItem) : Runs [] s s := fun _ _ _ _ _ _ => Reach.refl _

theorem Runs.append {bs bs' : List UInt8} {s t u : List StackItem} (h : Runs bs s t)
    (h' : Runs bs' t u) : Runs (bs ++ bs') s u := by
  intro c memo rest hc hrest hlim
  rw [List.append_assoc] at hrest
  rw [List.length_append] at hlim ⊢
  have hfst := h c memo (bs' ++ rest) hc hrest (by omega)
  have hsnd := h' (c.advance bs.length) memo rest (Cursor.inside_advance hc hrest)
    (Cursor.rest_advance hrest) (by rw [Cursor.advance_pos]; omega)
  rw [Cursor.advance_add] at hsnd
  exact hfst.trans hsnd

/-- One instruction that leaves the memo alone. -/
theorem Runs.of_exec {bs : List UInt8} {s s' : List StackItem} {i : Instr} (h : Reads fetch i bs)
    (hx : ∀ c memo, exec ⟨c, s, memo⟩ i = .ok (.inl ⟨c, s', memo⟩)) : Runs bs s s' := by
  intro c memo rest hc hrest hlim
  apply Reach.single
  have hf := h.full c rest hc hrest hlim
  show (fetch c >>= fun p => exec ⟨p.2, s, memo⟩ p.1) = _
  rw [hf]
  exact hx _ memo

/-- An opcode without arguments. -/
theorem Runs.op {op : Opcode} {i : Instr} {s s' : List StackItem}
    (hargs : fetchArgs op = pure i)
    (hx : ∀ c memo, exec ⟨c, s, memo⟩ i = .ok (.inl ⟨c, s', memo⟩)) : Runs [op.byte] s s' :=
  .of_exec (fetch_reads (by rw [hargs]; exact .pure i)) hx

/-- A data opcode pushes its value. -/
theorem Runs.data {op : Opcode} {v : PickleValue} {args : List UInt8}
    (h : Reads (fetchArgs op) (.data v) args) (s : List StackItem) :
    Runs (op.byte :: args) s (.value v :: s) :=
  .of_exec (fetch_reads h) fun _ _ => rfl

/-! ## 2. Data -/

/-- A length prefix, the bytes it announces, and what is made of them. -/
theorem sized_reads {α β : Type} {m : PickleReader α} {a : α} {len : α → Nat}
    {lenBytes bs : List UInt8} {k : List UInt8 → PickleReader β} {b : β} (hm : Reads m a lenBytes)
    (hlen : len a = bs.length) (hk : Reads (k bs) b []) :
    Reads (m >>= fun a => readBytes (len a) >>= k) b (lenBytes ++ bs) := by
  have h := (readBytes_reads bs).bind (k := k) hk
  rw [List.append_nil, ← hlen] at h
  exact hm.bind h

/-- The four-byte length of a payload that fits comes back as that length. -/
theorem u32_length {bs : List UInt8} (h : bs.length < 2 ^ 32) :
    (UInt32.ofNat (leNat (leBytes 4 (UInt32.ofNat bs.length).toNat))).toNat = bs.length := by
  have hn : (UInt32.ofNat bs.length).toNat = bs.length := UInt32.toNat_ofNat_of_lt' h
  rw [hn, leNat_leBytes_of_lt h, hn]

theorem binunicode_reads {s : String} (h : (asBytes s).length < 2 ^ 32) :
    Reads (fetchArgs .binunicode) (.data (.string s))
      (leBytes 4 (UInt32.ofNat (asBytes s).length).toNat ++ asBytes s) := by
  refine sized_reads (readU32Le_reads (leBytes_length 4 _)) (u32_length h) ?_
  exact (utf8_reads s).bind (Reads.pure _)

theorem binbytes_reads {b : List UInt8} (h : b.length < 2 ^ 32) :
    Reads (fetchArgs .binbytes) (.data (.bytes b))
      (leBytes 4 (UInt32.ofNat b.length).toNat ++ b) :=
  sized_reads (readU32Le_reads (leBytes_length 4 _)) (u32_length h) (Reads.pure _)

theorem shortBinbytes_reads {b : List UInt8} (h : b.length < 256) :
    Reads (fetchArgs .shortBinbytes) (.data (.bytes b)) (UInt8.ofNat b.length :: b) :=
  sized_reads (readByte_reads _) (UInt8.toNat_ofNat_of_lt' h) (Reads.pure _)

theorem long1_reads {bytes : List UInt8} {v : Int64} (hv : bytesToLong bytes = .ok v)
    (hlen : bytes.length < 256) :
    Reads (fetchArgs .long1) (.data (.int v)) (UInt8.ofNat bytes.length :: bytes) := by
  have hk : Reads ((liftM (bytesToLong bytes) : PickleReader Int64) >>=
      fun v => pure (.data (.int v))) (Instr.data (.int v)) [] := by
    rw [hv]
    exact .of_stays fun _ => rfl
  exact sized_reads (readByte_reads _) (UInt8.toNat_ofNat_of_lt' hlen) hk

theorem binfloat_reads (v : F64) :
    Reads (fetchArgs .binfloat) (.data (.float v)) (leBytes 8 v.toNat).reverse := by
  have hlen : (leBytes 8 v.toNat).reverse.length = 8 := by
    rw [List.length_reverse, leBytes_length]
  have h := (readF64Be_reads hlen).bind
    (k := fun v => (pure (.data (.float v)) : PickleReader Instr)) (Reads.pure _)
  rw [List.append_nil, List.reverse_reverse, leNat_leBytes_of_lt v.toNat_lt,
    UInt64.ofNat_toNat] at h
  exact h

/-- Every integer is written behind the opcode that its size and sign choose. -/
theorem encodeInt_reads (v : Int64) : Reads fetch (.data (.int v)) (encodeInt v) := by
  unfold encodeInt
  by_cases h1 : 0 ≤ v ∧ v ≤ 0xFF
  · rw [if_pos h1]
    refine @fetch_reads .binint1 _ _ ?_
    have h := (readByte_reads v.toUInt64.toUInt8).bind
      (k := fun b => (pure (.data (.int (.ofNat b.toNat))) : PickleReader Instr)) (Reads.pure _)
    rw [ofNat_toUInt8 h1.1 h1.2] at h
    exact h
  · rw [if_neg h1]
    by_cases h2 : 0 ≤ v ∧ v ≤ 0xFFFF
    · rw [if_pos h2]
      refine @fetch_reads .binint2 _ _ ?_
      have h := (readU16Le_reads (leBytes_length 2 v.toUInt64.toUInt16.toNat)).bind
        (k := fun n => (pure (.data (.int (.ofNat n.toNat))) : PickleReader Instr)) (Reads.pure _)
      rw [List.append_nil, leNat_leBytes_of_lt (UInt16.toNat_lt _), UInt16.ofNat_toNat,
        ofNat_toUInt16 h2.1 h2.2] at h
      exact h
    · rw [if_neg h2]
      by_cases h3 : -0x80000000 ≤ v ∧ v ≤ 0x7FFFFFFF
      · rw [if_pos h3]
        refine @fetch_reads .binint _ _ ?_
        have h := (readI32Le_reads (i32ToLe_length v.toInt32)).bind
          (k := fun n => (pure (.data (.int n.toInt64)) : PickleReader Instr)) (Reads.pure _)
        rw [List.append_nil, i32OfLe_i32ToLe, toInt64_toInt32 h3.1 h3.2] at h
        exact h
      · rw [if_neg h3]
        have hlen : (longToBytes v).length < 256 :=
          Nat.lt_of_le_of_lt (longToBytes_length v) (by decide)
        exact fetch_reads (long1_reads (bytesToLong_longToBytes v) hlen)

theorem encodeInt_runs (v : Int64) (s : List StackItem) :
    Runs (encodeInt v) s (.value (.int v) :: s) :=
  .of_exec (encodeInt_reads v) fun _ _ => rfl

/-! ## 3. Containers -/

/-- Values on a stack, the last one on top. -/
def pushed (vs : List PickleValue) (s : List StackItem) : List StackItem :=
  vs.reverse.map Item.value ++ s

theorem pushed_cons (v : PickleValue) (vs : List PickleValue) (s : List StackItem) :
    pushed (v :: vs) s = pushed vs (.value v :: s) := by
  simp [pushed]

/-- **The items of a container are pushed in their order.** -/
theorem encodeItems_runs {items : List PickleValue}
    (h : ∀ v ∈ items, ∀ s, Runs (encodeValue v) s (.value v :: s)) (s : List StackItem) :
    Runs (encodeItems items) s (pushed items s) := by
  induction items generalizing s with
  | nil => exact .nil s
  | cons v items ih =>
    rw [encodeItems, pushed_cons]
    have hv := h v List.mem_cons_self s
    exact hv.append (ih (fun w hw => h w (List.mem_cons_of_mem v hw)) _)

theorem encodePairs_runs {pairs : List (PickleValue × PickleValue)}
    (h : ∀ p ∈ pairs, (∀ s, Runs (encodeValue p.1) s (.value p.1 :: s)) ∧
      ∀ s, Runs (encodeValue p.2) s (.value p.2 :: s)) (s : List StackItem) :
    Runs (encodePairs pairs) s (pushed (flatPairs pairs) s) := by
  induction pairs generalizing s with
  | nil => exact .nil s
  | cons p pairs ih =>
    obtain ⟨k, v⟩ := p
    rw [encodePairs, flatPairs_cons, pushed_cons, pushed_cons]
    obtain ⟨hk, hv⟩ := h (k, v) List.mem_cons_self
    have hkv := (hk s).append (hv _)
    exact hkv.append (ih (fun q hq => h q (List.mem_cons_of_mem _ hq)) _)

theorem mark_runs (s : List StackItem) : Runs [Opcode.mark.byte] s (.mark :: s) :=
  .op rfl fun _ _ => rfl

theorem popToMark_items (c : Cursor) (memo : AssocMap UInt32 PickleValue)
    (vs : List PickleValue) (s : List StackItem) :
    Decoder.popToMark ⟨c, pushed vs (.mark :: s), memo⟩ = .ok (vs, ⟨c, s, memo⟩) := by
  have h : Lib.popToMark (pushed vs (.mark :: s)) = some (vs, s) := popToMark_pushed vs s
  simp only [Decoder.popToMark, h]

theorem appends_runs (items : List PickleValue) (s : List StackItem) :
    Runs [Opcode.appends.byte] (pushed items (.mark :: .value (.list []) :: s))
      (.value (.list items) :: s) :=
  .op rfl fun c memo => by
    simp only [exec, popToMark_items]
    rfl

theorem tuple_runs (items : List PickleValue) (s : List StackItem) :
    Runs [Opcode.tuple.byte] (pushed items (.mark :: s)) (.value (.tuple items) :: s) :=
  .op rfl fun c memo => by
    simp only [exec, popToMark_items]
    rfl

theorem setitems_runs (pairs : List (PickleValue × PickleValue)) (s : List StackItem) :
    Runs [Opcode.setitems.byte] (pushed (flatPairs pairs) (.mark :: .value (.dict []) :: s))
      (.value (.dict pairs) :: s) :=
  .op rfl fun c memo => by
    have heven : ¬ (flatPairs pairs).length % 2 ≠ 0 := by
      rw [flatPairs_length]
      omega
    simp only [exec, popToMark_items]
    show (if (flatPairs pairs).length % 2 ≠ 0 then _ else _) = _
    rw [if_neg heven, chunks2_flatPairs]
    rfl

/-! ## 4. Values -/

theorem encodeTuple_runs {items : List PickleValue}
    (h : ∀ v ∈ items, ∀ s, Runs (encodeValue v) s (.value v :: s)) (s : List StackItem) :
    Runs (encodeValue (.tuple items)) s (.value (.tuple items) :: s) := by
  match items, h with
  | [], _ =>
    rw [encodeValue]
    exact .op rfl fun _ _ => rfl
  | [a], h =>
    rw [encodeValue]
    have ha := h a (by simp) s
    exact ha.append (.op rfl fun _ _ => rfl)
  | [a, b], h =>
    rw [encodeValue]
    have hab := (h a (by simp) s).append (h b (by simp) _)
    exact hab.append (.op rfl fun _ _ => rfl)
  | [a, b, c], h =>
    rw [encodeValue]
    have habc := ((h a (by simp) s).append (h b (by simp) _)).append (h c (by simp) _)
    exact habc.append (.op rfl fun _ _ => rfl)
  | a :: b :: c :: d :: items, h =>
    have henc : encodeValue (.tuple (a :: b :: c :: d :: items)) =
        [Opcode.mark.byte] ++
          (encodeItems (a :: b :: c :: d :: items) ++ [Opcode.tuple.byte]) := by
      rw [encodeValue] <;> simp
    rw [henc]
    exact (mark_runs s).append ((encodeItems_runs h _).append (tuple_runs _ s))

/-- **The bytes of a value push that value, on any stack.** -/
theorem encodeValue_runs (v : PickleValue) (hfit : payloadsFit v = true) :
    ∀ s, Runs (encodeValue v) s (.value v :: s) := by
  induction v using PickleValue.induction with
  | none => exact fun s => .op rfl fun _ _ => rfl
  | bool b =>
    cases b with
    | false => exact fun s => @Runs.op .newfalse _ _ _ rfl fun _ _ => rfl
    | true => exact fun s => @Runs.op .newtrue _ _ _ rfl fun _ _ => rfl
  | int v => exact encodeInt_runs v
  | float v => exact Runs.data (binfloat_reads v)
  | string str =>
    rw [payloadsFit, decide_eq_true_eq] at hfit
    exact Runs.data (binunicode_reads hfit)
  | bytes b =>
    rw [payloadsFit, decide_eq_true_eq] at hfit
    intro s
    rw [encodeValue]
    by_cases hshort : b.length < 256
    · rw [if_pos hshort]
      exact Runs.data (shortBinbytes_reads hshort) s
    · rw [if_neg hshort]
      exact Runs.data (binbytes_reads hfit) s
  | list items ih =>
    rw [payloadsFit, itemsFit_iff] at hfit
    intro s
    have hempty : Runs [Opcode.emptyList.byte] s (.value (.list []) :: s) :=
      .op rfl fun _ _ => rfl
    cases items with
    | nil =>
      rw [encodeValue]
      exact hempty
    | cons a items =>
      have hitems := encodeItems_runs fun v hv => ih v hv (hfit v hv)
      have hall := (mark_runs _).append ((hitems _).append (appends_runs (a :: items) s))
      rw [encodeValue]
      exact hempty.append hall
  | tuple items ih =>
    rw [payloadsFit, itemsFit_iff] at hfit
    exact encodeTuple_runs fun v hv => ih v hv (hfit v hv)
  | dict pairs ih =>
    rw [payloadsFit, pairsFit_iff] at hfit
    intro s
    have hempty : Runs [Opcode.emptyDict.byte] s (.value (.dict []) :: s) :=
      .op rfl fun _ _ => rfl
    cases pairs with
    | nil =>
      rw [encodeValue]
      exact hempty
    | cons p pairs =>
      have hpairs := encodePairs_runs fun q hq =>
        ⟨(ih q hq).1 (hfit q hq).1, (ih q hq).2 (hfit q hq).2⟩
      have hall := (mark_runs _).append ((hpairs _).append (setitems_runs (p :: pairs) s))
      rw [encodeValue]
      exact hempty.append hall

/-- The protocol header changes nothing. -/
theorem proto_runs (version : UInt8) (s : List StackItem) :
    Runs [Opcode.proto.byte, version] s s :=
  .of_exec (fetch_reads ((readByte_reads version).bind (Reads.pure Instr.skip))) fun _ _ => rfl

/-- A value on the stack and a STOP ahead end the run with that value. -/
theorem returnsAt_of_runs {bs : List UInt8} {v : PickleValue} (h : Runs bs [] [.value v])
    {rest : List UInt8} (hfit : (bs ++ Opcode.stop.byte :: rest).length < usizeSize) :
    ReturnsAt (bs ++ Opcode.stop.byte :: rest) v (bs.length + 1) := by
  rw [List.length_append, List.length_cons] at hfit
  have hc := new_inside (bs ++ Opcode.stop.byte :: rest)
  have hreach := h (Decoder.new (bs ++ Opcode.stop.byte :: rest)).toCursor .empty _ hc rfl
    (by show 0 + bs.length < usizeSize; omega)
  have hstop : Reads fetch .stop [Opcode.stop.byte] := fetch_reads (Reads.pure _)
  have hf := hstop.full (Cursor.advance ⟨bs ++ Opcode.stop.byte :: rest, 0⟩ bs.length) rest
    (Cursor.inside_advance (Nat.zero_le _) rfl) (Cursor.rest_advance rfl)
    (by show 0 + bs.length + 1 < usizeSize; omega)
  refine ⟨_, _, _, hreach, hf, rfl, ?_⟩
  show 0 + bs.length + 1 = bs.length + 1
  rw [Nat.zero_add]

/-- **The decoder reads back what the encoder wrote**, and nothing of the bytes that follow. -/
theorem returnsAt_serialized {v : PickleValue} (hfit : payloadsFit v = true) {b : List UInt8}
    (hb : pickleSerialize v = .ok b) {rest : List UInt8} (hslice : IsSlice (b ++ rest)) :
    ReturnsAt (b ++ rest) v b.length := by
  cases hb
  have hruns := (proto_runs 2 []).append (encodeValue_runs v hfit [])
  have heq : Opcode.proto.byte :: 2 :: (encodeValue v ++ [Opcode.stop.byte]) ++ rest =
      [Opcode.proto.byte, 2] ++ encodeValue v ++ Opcode.stop.byte :: rest := by simp
  have hlength : (Opcode.proto.byte :: 2 :: (encodeValue v ++ [Opcode.stop.byte])).length =
      ([Opcode.proto.byte, 2] ++ encodeValue v).length + 1 := by
    simp only [List.length_cons, List.length_append, List.length_nil]
    omega
  rw [heq] at hslice ⊢
  rw [hlength]
  refine returnsAt_of_runs hruns ?_
  simp only [IsSlice, isizeMax] at hslice
  simp only [usizeSize]
  omega

/-- **Encoder, then decoder, is the identity**, whatever bytes follow. -/
theorem pickleDeserialize_encode {v : PickleValue} (hfit : payloadsFit v = true) {b : List UInt8}
    (hb : pickleSerialize v = .ok b) {rest : List UInt8} (hslice : IsSlice (b ++ rest)) :
    pickleDeserialize (b ++ rest) = .ok v :=
  (returnsAt_serialized hfit hb hslice).decode

theorem pickleDeserialize_serialized {v : PickleValue} (hfit : payloadsFit v = true)
    {b : List UInt8} (hb : pickleSerialize v = .ok b) (hslice : IsSlice b) :
    pickleDeserialize b = .ok v := by
  rw [← List.append_nil b] at hslice ⊢
  exact pickleDeserialize_encode hfit hb hslice

/-- **Round trip**: every value is serialized, and read back in front of any bytes. -/
theorem pickle_round_trip (v : PickleValue) (hfit : payloadsFit v = true) :
    ∃ b, pickleSerialize v = .ok b ∧
      ∀ rest, IsSlice (b ++ rest) → pickleDeserialize (b ++ rest) = .ok v :=
  ⟨_, rfl, fun _ => pickleDeserialize_encode hfit rfl⟩

/-- A dict that nests every kind of container, with other bytes behind it. -/
theorem pickle_round_trip_nested :
    ∃ b, pickleSerialize (.dict [(.string "k", .list [.tuple [.int (-7)], .bytes [1]])]) = .ok b ∧
      ∀ rest, IsSlice (b ++ rest) → pickleDeserialize (b ++ rest) =
        .ok (.dict [(.string "k", .list [.tuple [.int (-7)], .bytes [1]])]) :=
  pickle_round_trip _ rfl

end ModalRs.Pickle
