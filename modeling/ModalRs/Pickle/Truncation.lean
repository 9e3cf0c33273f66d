/-
  File:      ModalRs/Pickle/Truncation.lean
  Subject:   What the decoder's answer depends on: the bytes up to its STOP, all of them, no others.

  A run over one byte string is compared with the run over another that begins
  with the same bytes.

  * `exec_over`: an instruction does the same over other data.
  * `fetch_over`, `fetch_cut`: a fetch does the same where all its bytes are there,
    and fails with an ordinary error where some are missing.
  * `reach_over`, `reach_cut`: so does a run.
  * `ReturnsAt.over`, `ReturnsAt.cut`: the answer to a byte string is that to its
    beginning up to the STOP, and a beginning shorter than that has none.
  * `truncation_detected`: the main result.
-/
import ModalRs.Pickle.RoundTrip

namespace ModalRs.Pickle

open ModalRs.Lib ModalRs.Rust

/-! ## 1. Instructions over other data -/

/-- The decoder at the same place of other data. -/
def Decoder.over (d : Decoder) (data : List UInt8) : Decoder := { d with data := data }

def Outcome.over (data : List UInt8) : Outcome → Outcome
  | .inl d => .inl (d.over data)
  | .inr v => .inr v

/-- The second result is the first one over other data. -/
def Over (data : List UInt8) (r r' : Res ModalError Outcome) : Prop := r' = r.map (Outcome.over data)

section Over

variable {data : List UInt8} {d : Decoder}

theorem Over.popValue {k k' : PickleValue × Decoder → Res ModalError Outcome}
    (hk : ∀ v s, Over data (k (v, { d with stack := s }))
      (k' (v, ({ d with stack := s } : Decoder).over data))) :
    Over data (d.popValue >>= k) ((d.over data).popValue >>= k') := by
  have hstack : (d.over data).stack = d.stack := rfl
  rw [Decoder.popValue, Decoder.popValue, hstack]
  cases Lib.popValue d.stack with
  | ok p => exact hk p.1 p.2
  | error why => cases why <;> rfl

theorem Over.popToMark {k k' : List PickleValue × Decoder → Res ModalError Outcome}
    (hk : ∀ vs s, Over data (k (vs, { d with stack := s }))
      (k' (vs, ({ d with stack := s } : Decoder).over data))) :
    Over data (d.popToMark >>= k) ((d.over data).popToMark >>= k') := by
  have hstack : (d.over data).stack = d.stack := rfl
  rw [Decoder.popToMark, Decoder.popToMark, hstack]
  cases Lib.popToMark d.stack with
  | some p => exact hk p.1 p.2
  | none => rfl

theorem Over.pairs {items : List PickleValue} {msg : String}
    {k k' : List (PickleValue × PickleValue) → Res ModalError Outcome}
    (hk : ∀ pairs, Over data (k pairs) (k' pairs)) :
    Over data (if items.length % 2 ≠ 0 then d.err msg else chunks2 items >>= k)
      (if items.length % 2 ≠ 0 then (d.over data).err msg else chunks2 items >>= k') := by
  by_cases h : items.length % 2 ≠ 0
  · rw [if_pos h, if_pos h]
    rfl
  · rw [if_neg h, if_neg h]
    cases (chunks2 items : Res ModalError _) with
    | ok pairs => exact hk pairs
    | error e => rfl

theorem Over.extendList (d : Decoder) (items : List PickleValue) (msg : String) :
    Over data (d.extendList items msg) ((d.over data).extendList items msg) := by
  have hstack : (d.over data).stack = d.stack := rfl
  rw [Decoder.extendList, Decoder.extendList, hstack]
  split <;> rfl

theorem Over.extendDict (d : Decoder) (newPairs : List (PickleValue × PickleValue))
    (msg : String) :
    Over data (d.extendDict newPairs msg) ((d.over data).extendDict newPairs msg) := by
  have hstack : (d.over data).stack = d.stack := rfl
  rw [Decoder.extendDict, Decoder.extendDict, hstack]
  split <;> rfl

theorem store_over (d : Decoder) (idx : UInt32) :
    (d.over data).store idx = (d.store idx).over data := by
  have hstack : (d.over data).stack = d.stack := rfl
  rw [Decoder.store, Decoder.store, hstack]
  split <;> rfl

/-- **An instruction does the same over other data.** -/
theorem exec_over (d : Decoder) (i : Instr) : Over data (exec d i) (exec (d.over data) i) := by
  cases i with
  | stop | tuple1 | build => exact .popValue fun _ _ => rfl
  | list | tuple | popMark => exact .popToMark fun _ _ => rfl
  | dict => exact .popToMark fun _ s => .pairs fun _ => rfl
  | tuple2 | stackGlobal | reduce | newobj =>
    refine .popValue fun _ s => ?_
    exact .popValue (d := { d with stack := s }) fun _ _ => rfl
  | tuple3 =>
    refine .popValue fun _ s => .popValue (d := { d with stack := s }) fun _ s => ?_
    exact .popValue (d := { d with stack := s }) fun _ _ => rfl
  | append => exact .popValue fun item s => .extendList { d with stack := s } [item] _
  | appends => exact .popToMark fun items s => .extendList { d with stack := s } items _
  | setitem =>
    refine .popValue fun val s => .popValue (d := { d with stack := s }) fun key s => ?_
    exact .extendDict { d with stack := s } [(key, val)] _
  | setitems =>
    exact .popToMark fun _ s => .pairs fun pairs => .extendDict { d with stack := s } pairs _
  | put idx => exact congrArg (fun d => Except.ok (Sum.inl d)) (store_over d idx)
  | memoize => exact congrArg (fun d => Except.ok (Sum.inl d)) (store_over d _)
  | get idx =>
    have hmemo : (d.over data).memo = d.memo := rfl
    simp only [exec, hmemo]
    cases d.memo.find? idx with
    | some v => rfl
    | none => rfl
  | dup =>
    have hstack : (d.over data).stack = d.stack := rfl
    simp only [exec, hstack]
    split
    · rfl
    · rfl
  | skip | data | emptyList | emptyDict | emptyTuple | mark | pop | global => rfl

end Over

/-! ## 2. Fetches over other data -/

section Fetch

variable {c c' : Cursor} {i : Instr} {data : List UInt8} (h : fetch c = .ok (i, c'))

include h

/-- The bytes of a fetched instruction, and what surrounds them. -/
theorem fetch_bytes : ∃ bs rest, Reads fetch i bs ∧ c.rest = bs ++ rest ∧
    c'.pos = c.pos + bs.length ∧ c'.pos ≤ c.data.length := by
  obtain ⟨bs, rest, hr, hrest, rfl⟩ := fetch_local c c' i h
  obtain ⟨-, -, hin⟩ := fetch_advances h
  exact ⟨bs, rest, hr, hrest, rfl, hin⟩

/-- **A fetch does the same** where all its bytes are there. -/
theorem fetch_over (hdata : c.data.take c'.pos <+: data) (hslice : IsSlice data) :
    fetch ⟨data, c.pos⟩ = .ok (i, ⟨data, c'.pos⟩) := by
  obtain ⟨bs, rest, hr, hrest, hpos, hin⟩ := fetch_bytes h
  obtain ⟨tail, rfl⟩ := hdata
  have hfront : (c.data.take c.pos).length = c.pos := by
    rw [List.length_take]
    omega
  have hsplit : c.data.take c'.pos = c.data.take c.pos ++ bs := by
    rw [hpos, List.take_add, show c.data.drop c.pos = bs ++ rest from hrest, List.take_left]
  have hahead : (⟨c.data.take c'.pos ++ tail, c.pos⟩ : Cursor).rest = bs ++ tail := by
    show (c.data.take c'.pos ++ tail).drop c.pos = bs ++ tail
    rw [hsplit, List.append_assoc]
    exact List.drop_left' hfront
  have hlong : c.pos + bs.length ≤ (c.data.take c'.pos ++ tail).length := by
    rw [List.length_append, List.length_take]
    omega
  have hfull := hr.full ⟨c.data.take c'.pos ++ tail, c.pos⟩ tail
    (by show c.pos ≤ (c.data.take c'.pos ++ tail).length; omega) hahead
    (by show c.pos + bs.length < usizeSize; simp only [IsSlice, isizeMax, usizeSize] at *; omega)
  rw [hfull, hpos]
  rfl

/-- **A fetch fails** with an ordinary error where some of its bytes are missing. -/
theorem fetch_cut (hdata : data <+: c.data) (hslice : IsSlice c.data) (hpos : c.pos ≤ data.length)
    (hcut : data.length < c'.pos) : ∃ e, fetch ⟨data, c.pos⟩ = .error (.err e) := by
  obtain ⟨bs, rest, hr, hrest, hend, hin⟩ := fetch_bytes h
  have hahead : data.drop c.pos <+: bs ++ rest := by
    rw [← show c.data.drop c.pos = bs ++ rest from hrest]
    exact hdata.drop c.pos
  have hlength : (data.drop c.pos).length = data.length - c.pos := List.length_drop
  have hshort : data.drop c.pos <+: bs :=
    List.prefix_of_prefix_length_le hahead (List.prefix_append bs rest) (by omega)
  refine hr.short ⟨data, c.pos⟩ hpos hshort (fun heq => ?_) ?_
  · have heq' : data.drop c.pos = bs := heq
    rw [heq'] at hlength
    omega
  · show c.pos + bs.length < usizeSize
    simp only [IsSlice, isizeMax, usizeSize] at *
    omega

end Fetch

/-! ## 3. Runs over other data -/

section Run

variable {d d' : Decoder} {data : List UInt8}

/-- A round that goes on, taken apart: it ends where its fetch does. -/
theorem goes_fetch (h : decodeStep d = .ok (.inl d')) :
    ∃ i, fetch d.toCursor = .ok (i, d'.toCursor) ∧
      exec { d with toCursor := d'.toCursor } i = .ok (.inl d') := by
  obtain ⟨i, c, hf, hx⟩ := decodeStep_eq_ok h
  have hcursor : d'.toCursor = c := exec_toCursor hx
  subst hcursor
  exact ⟨i, hf, hx⟩

/-- A beginning that is long enough has the first bytes. -/
theorem take_prefix_of_prefix {bs cs : List UInt8} (h : bs <+: cs) {n : Nat}
    (hn : n ≤ bs.length) : cs.take n <+: bs := by
  refine List.prefix_of_prefix_length_le (List.take_prefix _ _) h ?_
  rw [List.length_take]
  exact Nat.le_trans (Nat.min_le_left _ _) hn

/-- A round does the same over data that begins with the bytes it read. -/
theorem decodeStep_over {u v : Decoder} (hgo : decodeStep u = .ok (.inl v))
    (hread : u.data.take v.pos <+: data) (hslice : IsSlice data) :
    decodeStep (u.over data) = .ok (.inl (v.over data)) := by
  obtain ⟨i, hf, hx⟩ := goes_fetch hgo
  rw [decodeStep_of_fetch (d := u.over data) (fetch_over hf hread hslice)]
  have hover : Over data _ _ := exec_over { u with toCursor := v.toCursor } i
  rw [hx] at hover
  exact hover

/-- **A run does the same** over data that begins with the bytes it read. -/
theorem reach_over (h : Reach decodeStep d d') (hin : d.toCursor.Inside) {q : Nat}
    (hq : d'.pos ≤ q) (hdata : d.data.take q <+: data) (hslice : IsSlice data) :
    Reach decodeStep (d.over data) (d'.over data) := by
  induction h with
  | refl => exact .refl _
  | @tail u v hreach hgo ih =>
    have hgo : decodeStep u = .ok (.inl v) := hgo
    obtain ⟨-, hpos, -⟩ := decodeStep_advances hgo
    obtain ⟨hsame, -⟩ := reach_inside hreach hin
    have hread : u.data.take v.pos <+: data := by
      rw [hsame]
      exact (List.take_prefix_take_left hq).trans hdata
    have hbefore := ih (by omega)
    exact hbefore.trans (.single (decodeStep_over hgo hread hslice))

/-- **A run is cut off** with an ordinary error over data that ends before the bytes it read. -/
theorem reach_cut (h : Reach decodeStep d d') (hin : d.toCursor.Inside) (hslice : IsSlice d.data)
    (hdata : data <+: d.data) (hpos : d.pos ≤ data.length) (hcut : data.length < d'.pos) :
    ∃ u e, Reach decodeStep (d.over data) u ∧ decodeStep u = .error (.err e) := by
  induction h using Relation.ReflTransGen.head_induction_on with
  | refl => omega
  | @head u v hgo hreach ih =>
    have hgo : decodeStep u = .ok (.inl v) := hgo
    obtain ⟨hsame, -, hin'⟩ := decodeStep_advances hgo
    by_cases hlong : v.pos ≤ data.length
    · -- this round is the same
      have hread : u.data.take v.pos <+: data := take_prefix_of_prefix hdata hlong
      have hsmall : IsSlice data := Nat.le_trans hdata.length_le hslice
      have hstep := decodeStep_over hgo hread hsmall
      have hslice' : IsSlice v.data := hsame ▸ hslice
      have hdata' : data <+: v.data := hsame ▸ hdata
      obtain ⟨w, e, hw, he⟩ := ih hin' hslice' hdata' hlong
      exact ⟨w, e, (Reach.single hstep).trans hw, he⟩
    · -- this one misses some of its bytes
      obtain ⟨i, hf, -⟩ := goes_fetch hgo
      obtain ⟨e, he⟩ := fetch_cut hf hdata hslice hpos (by omega)
      exact ⟨u.over data, e, .refl _, decodeStep_of_error (d := u.over data) he⟩

end Run

/-! ## 4. Answers over other data -/

section ReturnsAt

variable {data data' : List UInt8} {v : PickleValue} {q : Nat} (h : ReturnsAt data v q)

include h

/-- **The answer is that to the bytes up to the STOP**, whatever follows them. -/
theorem ReturnsAt.over (hdata : data.take q <+: data') (hslice : IsSlice data') :
    ReturnsAt data' v q := by
  obtain ⟨d, i, c, hreach, hf, hx, hq⟩ := h
  obtain ⟨hsame, -⟩ := reach_inside hreach (new_inside data)
  obtain ⟨-, hpos, -⟩ := fetch_advances hf
  have hread : d.data.take c.pos <+: data' := by
    rw [hsame, hq]
    exact hdata
  have hlast : Over data' _ _ := exec_over { d with toCursor := c } i
  rw [hx] at hlast
  refine ⟨d.over data', i, ⟨data', c.pos⟩, ?_, fetch_over hf hread hslice, hlast, hq⟩
  exact reach_over hreach (new_inside data) (by omega) hdata hslice

/-- **A beginning that ends before the STOP has no answer.** -/
theorem ReturnsAt.cut (hdata : data' <+: data) (hslice : IsSlice data) (hcut : data'.length < q) :
    ∃ e, pickleDeserialize data' = .error (.err e) := by
  obtain ⟨d, i, c, hreach, hf, hx, hq⟩ := h
  obtain ⟨hsame, -⟩ := reach_inside hreach (new_inside data)
  have hsmall : IsSlice data' := Nat.le_trans hdata.length_le hslice
  by_cases hlong : d.pos ≤ data'.length
  · -- the last fetch misses some of its bytes
    have hread : data.take d.pos <+: data' := take_prefix_of_prefix hdata hlong
    have hover := reach_over hreach (new_inside data) (Nat.le_refl _) hread hsmall
    obtain ⟨e, he⟩ := fetch_cut hf (hsame ▸ hdata) (hsame ▸ hslice) hlong (by omega)
    have hlast : decodeStep (d.over data') = .error (.err e) := decodeStep_of_error he
    exact ⟨e, loop_of_reach_error decodeStep_ahead hover hlast⟩
  · -- an earlier one does
    obtain ⟨u, e, hover, he⟩ := reach_cut hreach (new_inside data) hslice hdata (Nat.zero_le _)
      (by omega)
    exact ⟨e, loop_of_reach_error decodeStep_ahead hover he⟩

end ReturnsAt

/-! ## 5. Truncation and trailing bytes -/

/-- No proper beginning of a serialized value is read. -/
theorem pickleDeserialize_truncated {v : PickleValue} (hfit : payloadsFit v = true)
    {b p : List UInt8} (hb : pickleSerialize v = .ok b) (hslice : IsSlice b) (hp : p <+: b)
    (hne : p ≠ b) : ∃ e, pickleDeserialize p = .error (.err e) := by
  rw [← List.append_nil b] at hslice
  have hat : ReturnsAt b v b.length := by
    have h := returnsAt_serialized hfit hb hslice
    rw [List.append_nil] at h
    exact h
  rw [List.append_nil] at hslice
  have hshort : p.length < b.length :=
    Nat.lt_of_le_of_ne hp.length_le fun heq => hne (hp.eq_of_length heq)
  exact hat.cut hp hslice hshort

/-- Bytes behind the ones that were read change nothing. -/
theorem pickleDeserialize_append {d e : List UInt8} {w : PickleValue} (hslice : IsSlice (d ++ e))
    (h : pickleDeserialize d = .ok w) : pickleDeserialize (d ++ e) = .ok w := by
  obtain ⟨q, -, hat⟩ := returnsAt_of_decode h
  have hread : d.take q <+: d ++ e := (List.take_prefix q d).trans (List.prefix_append d e)
  have hlonger : ReturnsAt (d ++ e) w q := hat.over hread hslice
  exact hlonger.decode

/-- **Truncation is always detected and trailing bytes never matter**: no proper beginning of
    a serialized value is read, and bytes appended to what was read change nothing. -/
theorem truncation_detected :
    (∀ (v : PickleValue) (b p : List UInt8), payloadsFit v = true → pickleSerialize v = .ok b →
      IsSlice b → p <+: b → p ≠ b → ∃ e, pickleDeserialize p = .error (.err e)) ∧
    (∀ (d e : List UInt8) (w : PickleValue), IsSlice (d ++ e) → pickleDeserialize d = .ok w →
      pickleDeserialize (d ++ e) = .ok w) :=
  ⟨fun _ _ _ hfit hb hslice hp hne => pickleDeserialize_truncated hfit hb hslice hp hne,
    fun _ _ _ hslice h => pickleDeserialize_append hslice h⟩

/-- A string that holds a STOP byte, cut right behind that byte, and `None` with bytes behind. -/
theorem truncation_detected_stop_in_payload :
    pickleSerialize (.string "..") = .ok [0x80, 2, 0x58, 2, 0, 0, 0, 0x2e, 0x2e, 0x2e] ∧
    (∃ e, pickleDeserialize ([0x80, 2, 0x58, 2, 0, 0, 0, 0x2e] : List UInt8) =
      .error (.err e)) ∧
    pickleDeserialize ([0x4e, 0x2e] ++ [0x4e] : List UInt8) = .ok .none :=
  ⟨by decide,
    truncation_detected.1 (.string "..") [0x80, 2, 0x58, 2, 0, 0, 0, 0x2e, 0x2e, 0x2e] _
      (by decide) (by decide) (by norm_num [IsSlice, isizeMax]) (by decide) (by decide),
    truncation_detected.2 [0x4e, 0x2e] [0x4e] _ (by norm_num [IsSlice, isizeMax]) rfl⟩

end ModalRs.Pickle
