/-
  File:      ModalRs/Pickle/Exec.lean
  Subject:   What one round of the decoder can do.

  * `chunks2_even`: the pairing of items indexes inside its chunks.
  * `exec_clean`: an instruction goes on without moving the position, returns,
    or fails with an ordinary error. It never panics.
  * `decodeStep_advances`, `decodeStep_ahead`: every round that goes on moves
    the position, so a run ends within as many rounds as there are bytes.
  * `ReturnsAt`: where a run that returns a value ends.
-/
import ModalRs.Pickle.Reading

namespace ModalRs.Pickle

open ModalRs.Lib ModalRs.Rust

/-! ## 1. Pairs -/

/-- The items of a dict, keys and values in turn. -/
def flatPairs {α : Type} (pairs : List (α × α)) : List α := pairs.flatMap fun p => [p.1, p.2]

theorem flatPairs_cons {α : Type} (p : α × α) (pairs : List (α × α)) :
    flatPairs (p :: pairs) = p.1 :: p.2 :: flatPairs pairs := rfl

theorem flatPairs_length {α : Type} (pairs : List (α × α)) :
    (flatPairs pairs).length = 2 * pairs.length := by
  induction pairs with
  | nil => rfl
  | cons p pairs ih =>
    rw [flatPairs_cons, List.length_cons, List.length_cons, List.length_cons, ih]
    omega

theorem chunks2_flatPairs {ε α : Type} (pairs : List (α × α)) :
    (chunks2 (flatPairs pairs) : Res ε _) = .ok pairs := by
  induction pairs with
  | nil => rfl
  | cons p pairs ih =>
    rw [flatPairs_cons, chunks2, ih]
    rfl

/-- Evenly many items are the items of some pairs. -/
theorem even_flatPairs {α : Type} : ∀ (items : List α), items.length % 2 = 0 →
    ∃ pairs, items = flatPairs pairs
  | [], _ => ⟨[], rfl⟩
  | [_], h => absurd h Nat.one_ne_zero
  | a :: b :: items, h => by
      have hitems : items.length % 2 = 0 := by
        simp only [List.length_cons] at h
        omega
      obtain ⟨pairs, rfl⟩ := even_flatPairs items hitems
      exact ⟨(a, b) :: pairs, rfl⟩

/-- The pairing of items indexes inside its chunks. -/
theorem chunks2_even {ε α : Type} {items : List α} (h : items.length % 2 = 0) :
    ∃ pairs, (chunks2 items : Res ε _) = .ok pairs := by
  obtain ⟨pairs, rfl⟩ := even_flatPairs items h
  exact ⟨pairs, chunks2_flatPairs pairs⟩

/-! ## 2. Instructions -/

/-- How an instruction may end when it started at `c`. -/
inductive Clean (c : Cursor) : Res ModalError Outcome → Prop where
  | goes {d : Decoder} (h : d.toCursor = c) : Clean c (.ok (.inl d))
  | returns (v : PickleValue) : Clean c (.ok (.inr v))
  | fails (e : ModalError) : Clean c (.error (.err e))

theorem Clean.popValue {d : Decoder} {k : PickleValue × Decoder → Res ModalError Outcome}
    (hk : ∀ v s, Clean d.toCursor (k (v, { d with stack := s }))) :
    Clean d.toCursor (d.popValue >>= k) := by
  unfold Decoder.popValue
  cases Lib.popValue d.stack with
  | ok p => exact hk p.1 p.2
  | error why => cases why <;> exact .fails _

theorem Clean.popToMark {d : Decoder} {k : List PickleValue × Decoder → Res ModalError Outcome}
    (hk : ∀ vs s, Clean d.toCursor (k (vs, { d with stack := s }))) :
    Clean d.toCursor (d.popToMark >>= k) := by
  unfold Decoder.popToMark
  cases Lib.popToMark d.stack with
  | some p => exact hk p.1 p.2
  | none => exact .fails _

/-- Pairs are made of evenly many items only. -/
theorem Clean.pairs {c : Cursor} {items : List PickleValue} {d : Decoder} (msg : String)
    {k : List (PickleValue × PickleValue) → Res ModalError Outcome} (hk : ∀ pairs, Clean c (k pairs)) :
    Clean c (if items.length % 2 ≠ 0 then d.err msg else chunks2 items >>= k) := by
  by_cases h : items.length % 2 = 0
  · obtain ⟨pairs, hp⟩ := @chunks2_even ModalError _ _ h
    rw [if_neg (not_not.mpr h), hp]
    exact hk pairs
  · rw [if_pos h]
    exact .fails _

theorem Clean.extendList (d : Decoder) (items : List PickleValue) (msg : String) :
    Clean d.toCursor (d.extendList items msg) := by
  unfold Decoder.extendList
  split
  · exact .goes rfl
  · exact .fails _

theorem Clean.extendDict (d : Decoder) (newPairs : List (PickleValue × PickleValue))
    (msg : String) : Clean d.toCursor (d.extendDict newPairs msg) := by
  unfold Decoder.extendDict
  split
  · exact .goes rfl
  · exact .fails _

theorem store_toCursor (d : Decoder) (idx : UInt32) : (d.store idx).toCursor = d.toCursor := by
  unfold Decoder.store
  split <;> rfl

/-- **An instruction goes on where it stands, returns, or fails with an ordinary error.** -/
theorem exec_clean (d : Decoder) (i : Instr) : Clean d.toCursor (exec d i) := by
  cases i with
  | skip => exact .goes rfl
  | stop => exact .popValue fun v _ => .returns v
  | data v => exact .goes rfl
  | emptyList => exact .goes rfl
  | emptyDict => exact .goes rfl
  | emptyTuple => exact .goes rfl
  | mark => exact .goes rfl
  | list => exact .popToMark fun _ _ => .goes rfl
  | dict => exact .popToMark fun _ _ => .pairs _ fun _ => .goes rfl
  | tuple => exact .popToMark fun _ _ => .goes rfl
  | tuple1 => exact .popValue fun _ _ => .goes rfl
  | tuple2 =>
    refine .popValue fun _ s => ?_
    exact .popValue (d := { d with stack := s }) fun _ _ => .goes rfl
  | tuple3 =>
    refine .popValue fun _ s => .popValue (d := { d with stack := s }) fun _ s => ?_
    exact .popValue (d := { d with stack := s }) fun _ _ => .goes rfl
  | append => exact .popValue fun item s => .extendList { d with stack := s } [item] _
  | appends => exact .popToMark fun items s => .extendList { d with stack := s } items _
  | setitem =>
    refine .popValue fun val s => .popValue (d := { d with stack := s }) fun key s => ?_
    exact .extendDict { d with stack := s } [(key, val)] _
  | setitems =>
    exact .popToMark fun _ s => .pairs _ fun pairs => .extendDict { d with stack := s } pairs _
  | put idx => exact .goes (store_toCursor d idx)
  | get idx =>
    simp only [exec]
    cases d.memo.find? idx with
    | some v => exact .goes rfl
    | none => exact .fails _
  | memoize => exact .goes (store_toCursor d _)
  | pop => exact .goes rfl
  | dup =>
    simp only [exec]
    split
    · exact .goes rfl
    · exact .goes rfl
  | popMark => exact .popToMark fun _ _ => .goes rfl
  | global => exact .goes rfl
  | stackGlobal =>
    refine .popValue fun _ s => ?_
    exact .popValue (d := { d with stack := s }) fun _ _ => .goes rfl
  | reduce =>
    refine .popValue fun _ s => ?_
    exact .popValue (d := { d with stack := s }) fun _ _ => .goes rfl
  | newobj =>
    refine .popValue fun _ s => ?_
    exact .popValue (d := { d with stack := s }) fun _ _ => .goes rfl
  | build => exact .popValue fun _ _ => .goes rfl

theorem exec_toCursor {d d' : Decoder} {i : Instr} (h : exec d i = .ok (.inl d')) :
    d'.toCursor = d.toCursor := by
  have hc := exec_clean d i
  rw [h] at hc
  cases hc with
  | goes hd => exact hd

/-! ## 3. Rounds -/

/-- A round is a fetched instruction, executed. -/
theorem decodeStep_of_fetch {d : Decoder} {c : Cursor} {i : Instr}
    (h : fetch d.toCursor = .ok (i, c)) : decodeStep d = exec { d with toCursor := c } i := by
  unfold decodeStep
  rw [h]
  rfl

theorem decodeStep_of_error {d : Decoder} {e : Stop ModalError}
    (h : fetch d.toCursor = .error e) : decodeStep d = .error e := by
  unfold decodeStep
  rw [h]
  rfl

/-- What a round that did not fail fetched and executed. -/
theorem decodeStep_eq_ok {d : Decoder} {o : Outcome} (h : decodeStep d = .ok o) :
    ∃ i c, fetch d.toCursor = .ok (i, c) ∧ exec { d with toCursor := c } i = .ok o := by
  cases hf : fetch d.toCursor with
  | error e =>
    rw [decodeStep_of_error hf] at h
    cases h
  | ok p =>
    rw [decodeStep_of_fetch hf] at h
    exact ⟨p.1, p.2, rfl, h⟩

/-- **A round that goes on moves the position**, inside the same input. -/
theorem decodeStep_advances {d d' : Decoder} (h : decodeStep d = .ok (.inl d')) :
    d'.data = d.data ∧ d.pos < d'.pos ∧ d'.toCursor.Inside := by
  obtain ⟨i, c, hf, hx⟩ := decodeStep_eq_ok h
  have hcur : d'.toCursor = c := exec_toCursor hx
  rw [← hcur] at hf
  exact fetch_advances hf

theorem decodeStep_ahead (d d' : Decoder) (h : decodeStep d = .ok (.inl d')) :
    d'.ahead < d.ahead := by
  obtain ⟨hdata, hpos, hin⟩ := decodeStep_advances h
  simp only [Cursor.Inside, hdata] at hin
  simp only [Decoder.ahead, hdata]
  omega

/-- The position stays inside the input along every run. -/
theorem reach_inside {d d' : Decoder} (h : Reach decodeStep d d') (hd : d.toCursor.Inside) :
    d'.data = d.data ∧ d'.toCursor.Inside :=
  reach_invariant (I := fun x => x.data = d.data ∧ x.toCursor.Inside)
    (fun _ _ hx hstep => by
      obtain ⟨hdata, _, hin⟩ := decodeStep_advances hstep
      exact ⟨hdata.trans hx.1, hin⟩) h ⟨rfl, hd⟩

theorem new_inside (data : List UInt8) : (Decoder.new data).toCursor.Inside := Nat.zero_le _

/-! ## 4. The end of a run -/

/-- The decoder returns `v`, and the last instruction that it read ends at `q`. -/
def ReturnsAt (data : List UInt8) (v : PickleValue) (q : Nat) : Prop :=
  ∃ d i c, Reach decodeStep (Decoder.new data) d ∧ fetch d.toCursor = .ok (i, c) ∧
    exec { d with toCursor := c } i = .ok (.inr v) ∧ c.pos = q

theorem ReturnsAt.decode {data : List UInt8} {v : PickleValue} {q : Nat}
    (h : ReturnsAt data v q) : pickleDeserialize data = .ok v := by
  obtain ⟨d, i, c, hreach, hf, hx, -⟩ := h
  exact loop_of_reach_return decodeStep_ahead hreach ((decodeStep_of_fetch hf).trans hx)

/-- Every value that is returned is returned somewhere in the input. -/
theorem returnsAt_of_decode {data : List UInt8} {v : PickleValue}
    (h : pickleDeserialize data = .ok v) : ∃ q, q ≤ data.length ∧ ReturnsAt data v q := by
  obtain ⟨d, hreach, hlast⟩ := loop_last _ _ _ h nofun
  rcases hlast with ⟨_, hv, hstep⟩ | ⟨_, he, -⟩
  · cases hv
    obtain ⟨i, c, hf, hx⟩ := decodeStep_eq_ok hstep
    obtain ⟨hdata, -⟩ := reach_inside hreach (new_inside data)
    obtain ⟨hdata', -, hin⟩ := fetch_advances hf
    refine ⟨c.pos, ?_, d, i, c, hreach, hf, hx, rfl⟩
    rw [Cursor.Inside, hdata', hdata] at hin
    exact hin
  · cases he

end ModalRs.Pickle
