/-
  File:      ModalRs/Pickle/Expansion.lean
  Subject:   How large a value a short input can decode to.

  DUP and the memo copy values, and the container opcodes combine the copies,
  so a value can be much larger than the input it came from.

  * `PickleValue.size`: the nodes of a value and the bytes of its payloads.
  * `fetch_pays`: what an opcode brings in is no larger than the bytes it takes.
  * `exec_moves`: an instruction copies one value, combines values, or brings one in.
  * `pickle_expansion`: the largest value in `n` bytes has size `3 ^ (n / 3)`,
    up to a constant factor.
-/
import ModalRs.Lib.Growth
import ModalRs.Pickle.RoundTrip

namespace ModalRs.Pickle

open ModalRs.Lib ModalRs.Rust

/-! ## 1. Sizes -/

mutual

/-- The nodes of a value, and the bytes of the strings and byte strings in it. -/
def PickleValue.size : PickleValue → Nat
  | .string s => 1 + (asBytes s).length
  | .bytes b => 1 + b.length
  | .list items => 1 + itemsSize items
  | .tuple items => 1 + itemsSize items
  | .dict pairs => 1 + pairsSize pairs
  | .none | .bool _ | .int _ | .float _ => 1

def itemsSize : List PickleValue → Nat
  | [] => 0
  | item :: items => item.size + itemsSize items

def pairsSize : List (PickleValue × PickleValue) → Nat
  | [] => 0
  | (k, v) :: pairs => k.size + v.size + pairsSize pairs

end

theorem itemsSize_append (as bs : List PickleValue) :
    itemsSize (as ++ bs) = itemsSize as + itemsSize bs := by
  induction as with
  | nil => simp [itemsSize]
  | cons a as ih => simp [itemsSize, ih, Nat.add_assoc]

theorem pairsSize_append (ps qs : List (PickleValue × PickleValue)) :
    pairsSize (ps ++ qs) = pairsSize ps + pairsSize qs := by
  induction ps with
  | nil => simp [pairsSize]
  | cons p ps ih => simp [pairsSize, ih, Nat.add_assoc]

theorem itemsSize_flatPairs (pairs : List (PickleValue × PickleValue)) :
    itemsSize (flatPairs pairs) = pairsSize pairs := by
  induction pairs with
  | nil => rfl
  | cons p pairs ih =>
    rw [flatPairs_cons, itemsSize, itemsSize, ih, pairsSize, Nat.add_assoc]

/-! ## 2. What an opcode brings in -/

/-- The size of the value that comes with an instruction; every other instruction counts as one. -/
def Instr.weight : Instr → Nat
  | .data v => v.size
  | _ => 1

theorem readByte_pays (n : Nat) : Pays n readByte fun _ => n + 1 := by
  intro c c' b h
  obtain ⟨_, _, rfl⟩ := readByte_inv h
  show c.pos + (n + 1) ≤ c.pos + 1 + n
  omega

theorem readBytes_pays (n k : Nat) : Pays n (readBytes k) fun bs => n + bs.length := by
  intro c c' bs h
  obtain ⟨rfl, _, _, rfl⟩ := readBytes_inv h
  show c.pos + (n + bs.length) ≤ c.pos + bs.length + n
  omega

theorem readLine_pays (n : Nat) : Pays n readLine fun line => n + line.length := by
  intro c c' line h
  obtain ⟨bs, rest, hreads, hrest, rfl⟩ := readLine_local c c' line h
  rcases rest_line c.rest with hno | ⟨line', rest', hline, hrest'⟩
  · obtain ⟨e, he⟩ := readLine_unterminated hno
    rw [he] at h
    cases h
  · have hc : c.Inside := Cursor.inside_of_rest (by rw [hrest']; simp)
    rw [readLine_line hc hline hrest'] at h
    obtain ⟨pos, hpos, heq⟩ := except_map_ok h
    unfold usizeAdd at hpos
    split at hpos
    · cases hpos
      have hl := congrArg Prod.fst heq
      have hp := congrArg (fun p => p.2.pos) heq
      simp only [Cursor.advance_pos] at hl hp ⊢
      rw [← hl]
      omega
    · cases hpos

theorem asBytes_fromUtf8 {bytes : List UInt8} {s : String} (h : fromUtf8 bytes = .ok s) :
    asBytes s = bytes := by
  unfold fromUtf8 at h
  split at h
  · rename_i s' hs
    cases h
    rw [String.fromUTF8?] at hs
    split at hs
    · cases hs
      rfl
    · cases hs
  · cases h

theorem orErr_pays {δ α : Type} (what : String) (display : δ → String) (x : Except δ α) {n : Nat}
    {w : α → Nat} (h : ∀ a, x = .ok a → w a ≤ n) : Pays n (orErr what display x) w := by
  intro c c' a hok
  unfold orErr at hok
  split at hok
  · rename_i a'
    cases hok
    have ha := h a rfl
    omega
  · cases hok

theorem utf8_pays (n : Nat) (bytes : List UInt8) :
    Pays (n + bytes.length) (utf8 bytes) fun s => n + (asBytes s).length :=
  orErr_pays _ _ _ fun s hs => by rw [asBytes_fromUtf8 hs]

theorem asBytes_append (s t : String) : asBytes (s ++ t) = asBytes s ++ asBytes t := by
  simp [asBytes]

/-- Trimming shortens. -/
theorem trimMatches_length_le (p : Char → Bool) (cs : List Char) :
    (asBytes (String.ofList (trimMatches p cs))).length ≤ (asBytes (String.ofList cs)).length := by
  have hinfix : trimMatches p cs <:+: cs := by
    have hfront : cs.dropWhile p <:+ cs := List.dropWhile_suffix p
    have hback : trimMatches p cs <+: cs.dropWhile p := by
      have h := List.dropWhile_suffix p (l := (cs.dropWhile p).reverse)
      rw [← List.reverse_prefix, List.reverse_reverse] at h
      exact h
    exact hback.isInfix.trans hfront.isInfix
  obtain ⟨as, bs, h⟩ := hinfix
  have hlen := congrArg (fun l => (asBytes (String.ofList l)).length) h
  simp only [String.ofList_append, asBytes_append, List.length_append] at hlen
  omega

theorem sized_pays {α : Type} {m : PickleReader α} (hm : Local m) {len : α → Nat}
    {k : List UInt8 → PickleReader Instr}
    (hk : ∀ bs, Pays (1 + bs.length) (k bs) Instr.weight) :
    Pays 1 (m >>= fun a => readBytes (len a) >>= k) Instr.weight :=
  (Pays.of_local hm).bind fun _ => (readBytes_pays 1 _).bind hk

theorem utf8_data_pays (bs : List UInt8) :
    Pays (1 + bs.length) (utf8 bs >>= fun s => pure (.data (.string s))) Instr.weight :=
  (utf8_pays 1 bs).bind fun _ => .pure (le_refl _)

theorem bytes_data_pays (bs : List UInt8) :
    Pays (1 + bs.length) (pure (.data (.bytes bs)) : PickleReader Instr) Instr.weight :=
  .pure (le_refl _)

/-- Instructions without a payload are paid for by their opcode. -/
theorem plain_pays {α : Type} {m : PickleReader α} (hm : Local m) {f : α → Instr}
    (hf : ∀ a, (f a).weight ≤ 1) : Pays 1 (m >>= fun a => pure (f a)) Instr.weight :=
  (Pays.of_local hm).bind fun a => .pure (hf a)

theorem fetchArgs_pays : ∀ op : Opcode, Pays 1 (fetchArgs op) Instr.weight
  | .proto => plain_pays readByte_local fun _ => le_refl _
  | .frame => plain_pays (word_local 8 _) fun _ => le_refl _
  | .binint1 => plain_pays readByte_local fun _ => le_refl _
  | .binint2 => plain_pays (word_local 2 _) fun _ => le_refl _
  | .binint => plain_pays (word_local 4 _) fun _ => le_refl _
  | .long1 => (Pays.of_local readByte_local).bind fun _ =>
      (Pays.of_local (readBytes_local _)).bind fun _ =>
        plain_pays (Local.lift _) fun _ => le_refl _
  | .binfloat => plain_pays (word_local 8 _) fun _ => le_refl _
  | .binunicode => sized_pays (word_local 4 _) utf8_data_pays
  | .shortBinunicode => sized_pays readByte_local utf8_data_pays
  | .binunicode8 => sized_pays (word_local 8 _) utf8_data_pays
  | .shortBinbytes => sized_pays readByte_local bytes_data_pays
  | .binbytes => sized_pays (word_local 4 _) bytes_data_pays
  | .binbytes8 => sized_pays (word_local 8 _) bytes_data_pays
  | .shortBinstring => sized_pays readByte_local bytes_data_pays
  | .binstring => sized_pays (word_local 4 _) bytes_data_pays
  | .unicode => (readLine_pays 1).bind utf8_data_pays
  | .string => (readLine_pays 1).bind fun line => (utf8_pays 1 line).bind fun s => by
      refine .pure (Nat.add_le_add_left ?_ 1)
      have hquotes := trimMatches_length_le (· == '"') (trimMatches (· == '\'') s.toList)
      have happ := trimMatches_length_le (· == '\'') s.toList
      rw [String.ofList_toList] at happ
      exact hquotes.trans happ
  | .int => (Pays.of_local readLine_local).bind fun _ =>
      (Pays.of_local (utf8_local _)).bind fun _ =>
        .ite (.pure (le_refl _)) (.ite (.pure (le_refl _))
          (plain_pays (orErr_local _ _ _) fun _ => le_refl _))
  | .float => (Pays.of_local readLine_local).bind fun _ =>
      (Pays.of_local (utf8_local _)).bind fun _ =>
        plain_pays (orErr_local _ _ _) fun _ => le_refl _
  | .binput => plain_pays readByte_local fun _ => le_refl _
  | .longBinput => plain_pays (word_local 4 _) fun _ => le_refl _
  | .put => plain_pays readIndexLine_local fun _ => le_refl _
  | .binget => plain_pays readByte_local fun _ => le_refl _
  | .longBinget => plain_pays (word_local 4 _) fun _ => le_refl _
  | .get => plain_pays readIndexLine_local fun _ => le_refl _
  | .global => (Pays.of_local readLine_local).bind fun _ =>
      plain_pays readLine_local fun _ => le_refl _
  | .stop | .none | .newtrue | .newfalse | .emptyList | .emptyDict | .emptyTuple | .mark | .list
  | .dict | .tuple | .tuple1 | .tuple2 | .tuple3 | .append | .appends | .setitem | .setitems
  | .memoize | .pop | .dup | .popMark | .stackGlobal | .reduce | .newobj | .build =>
      .pure (le_refl _)

/-- **An opcode brings in no more than the bytes it takes.** -/
theorem fetch_pays {c c' : Cursor} {i : Instr} (h : fetch c = .ok (i, c')) :
    c.pos + i.weight ≤ c'.pos := by
  have hop : ∀ b, Pays (0 + 1) (fetchOp b) Instr.weight := by
    intro b
    unfold fetchOp
    split
    · exact fetchArgs_pays _
    · exact fun _ _ _ hok => nomatch hok
  exact (readByte_pays 0).bind hop c c' i h

/-! ## 3. What an instruction does with it -/

def itemSize : StackItem → Nat
  | .value v => v.size
  | .mark => 0

def stackSizes (s : List StackItem) : List Nat := s.map itemSize

def memoSizes (m : AssocMap UInt32 PickleValue) : List Nat := m.entries.map fun e => e.2.size

/-- The sizes of everything on the stack and in the memo. -/
def Decoder.sizes (d : Decoder) : List Nat := stackSizes d.stack ++ memoSizes d.memo

def Decoder.holding (d : Decoder) : Holding := .of d.sizes

theorem sizes_push (d : Decoder) (v : PickleValue) : (d.push v).sizes = v.size :: d.sizes := rfl

theorem sum_sizes (d : Decoder) :
    d.sizes.sum = (stackSizes d.stack).sum + (memoSizes d.memo).sum := List.sum_append

/-- How an instruction of weight `b` may end when it started with `d`. -/
inductive Moves (d : Decoder) (b : Nat) : Res ModalError Outcome → Prop where
  | goes {d' : Decoder} (h : Holding.Step b d.holding d'.holding) : Moves d b (.ok (.inl d'))
  | returns {v : PickleValue} (h : v.size ≤ d.sizes.sum) : Moves d b (.ok (.inr v))
  | fails (e : ModalError) : Moves d b (.error (.err e))

/-- `d₁` is what is left of `d` when values of size `w` were taken off its stack. -/
def Left (d : Decoder) (w : Nat) (d₁ : Decoder) : Prop := d.sizes.sum = w + d₁.sizes.sum

theorem Left.start (d : Decoder) : Left d 0 d := (Nat.zero_add _).symm

section Moves

variable {d d₁ : Decoder} {b w : Nat}

theorem Moves.drop (h : Left d w d₁) : Moves d b (.ok (.inl d₁)) :=
  .goes (.combined (by simp only [Left] at h; omega))

/-- A container made of what was taken. -/
theorem Moves.push (h : Left d w d₁) {v : PickleValue} (hv : v.size ≤ 1 + w) :
    Moves d b (.ok (.inl (d₁.push v))) :=
  .goes (.combined (by simp only [Left, sizes_push, List.sum_cons] at h ⊢; omega))

theorem Moves.popValue (h : Left d w d₁) {k : PickleValue × Decoder → Res ModalError Outcome}
    (hk : ∀ v d₂, Left d (w + v.size) d₂ → Moves d b (k (v, d₂))) :
    Moves d b (d₁.popValue >>= k) := by
  unfold Decoder.popValue
  rcases d₁ with ⟨c, stack, memo⟩
  cases stack with
  | nil => exact .fails _
  | cons item s =>
    cases item with
    | mark => exact .fails _
    | value v =>
      refine hk v ⟨c, s, memo⟩ ?_
      simp only [Left, sum_sizes, stackSizes, List.map_cons, List.sum_cons, itemSize] at h ⊢
      omega

theorem popToMarkOnto_sum {items items' : List PickleValue} {s s' : List StackItem}
    (h : popToMarkOnto items s = some (items', s')) :
    itemsSize items + (stackSizes s).sum = itemsSize items' + (stackSizes s').sum := by
  induction s generalizing items with
  | nil => cases h
  | cons item s ih =>
    cases item with
    | mark =>
      cases h
      simp [stackSizes, itemSize]
    | value v =>
      rw [← ih h]
      simp only [stackSizes, List.map_cons, List.sum_cons, itemSize, itemsSize]
      omega

theorem Moves.popToMark (h : Left d w d₁)
    {k : List PickleValue × Decoder → Res ModalError Outcome}
    (hk : ∀ items d₂, Left d (w + itemsSize items) d₂ → Moves d b (k (items, d₂))) :
    Moves d b (d₁.popToMark >>= k) := by
  unfold Decoder.popToMark
  cases hs : Lib.popToMark d₁.stack with
  | none => exact .fails _
  | some p =>
    obtain ⟨items, s⟩ := p
    refine hk items { d₁ with stack := s } ?_
    have hsum := popToMarkOnto_sum hs
    simp only [Left, sum_sizes, itemsSize] at h hsum ⊢
    omega

/-- Pairs weigh what their keys and values weigh. -/
theorem Moves.pairs {items : List PickleValue} (d₁ : Decoder) (msg : String)
    {k : List (PickleValue × PickleValue) → Res ModalError Outcome}
    (hk : ∀ pairs, pairsSize pairs = itemsSize items → Moves d b (k pairs)) :
    Moves d b (if items.length % 2 ≠ 0 then d₁.err msg else chunks2 items >>= k) := by
  by_cases h : items.length % 2 = 0
  · obtain ⟨pairs, rfl⟩ := even_flatPairs items h
    rw [if_neg (not_not.mpr h), chunks2_flatPairs]
    exact hk pairs (itemsSize_flatPairs pairs).symm
  · rw [if_pos h]
    exact .fails _

theorem Moves.extendList (h : Left d w d₁) {items : List PickleValue} (hw : itemsSize items ≤ w)
    (msg : String) : Moves d b (d₁.extendList items msg) := by
  unfold Decoder.extendList
  split
  · rename_i old s hs
    refine .goes (.combined ?_)
    simp only [Left, sum_sizes, hs, stackSizes, List.map_cons, List.sum_cons, itemSize,
      PickleValue.size, itemsSize_append] at h ⊢
    omega
  · exact .fails _

theorem Moves.extendDict (h : Left d w d₁) {pairs : List (PickleValue × PickleValue)}
    (hw : pairsSize pairs ≤ w) (msg : String) : Moves d b (d₁.extendDict pairs msg) := by
  unfold Decoder.extendDict
  split
  · rename_i old s hs
    refine .goes (.combined ?_)
    simp only [Left, sum_sizes, hs, stackSizes, List.map_cons, List.sum_cons, itemSize,
      PickleValue.size, pairsSize_append] at h ⊢
    omega
  · exact .fails _

/-- A copy of a value that is held already. -/
theorem Moves.copied {d' : Decoder} {x : Nat} (hx : x ∈ d.sizes)
    (hsum : d'.sizes.sum ≤ d.sizes.sum + x) (hmem : ∀ y ∈ d'.sizes, y ∈ d.sizes) :
    Moves d b (.ok (.inl d')) :=
  .goes (.copied hx hsum hmem)

theorem memo_insert_sizes (m : AssocMap UInt32 PickleValue) (idx : UInt32) (v : PickleValue) :
    (memoSizes (m.insert idx v)).sum ≤ v.size + (memoSizes m).sum ∧
      ∀ y ∈ memoSizes (m.insert idx v), y = v.size ∨ y ∈ memoSizes m := by
  have hsub : (AssocMap.without idx m.entries).map (fun e => e.2.size) |>.Sublist (memoSizes m) :=
    List.filter_sublist.map _
  constructor
  · exact Nat.add_le_add_left (hsub.sum_le_sum fun _ _ => Nat.zero_le _) _
  · intro y hy
    rcases List.mem_cons.mp hy with rfl | hy
    · exact Or.inl rfl
    · exact Or.inr (hsub.subset hy)

/-- PUT, BINPUT, LONG_BINPUT and MEMOIZE. -/
theorem Moves.store (d : Decoder) (idx : UInt32) : Moves d b (.ok (.inl (d.store idx))) := by
  unfold Decoder.store
  split
  · rename_i v s hs
    obtain ⟨hsum, hmem⟩ := memo_insert_sizes d.memo idx v
    have hv : v.size ∈ stackSizes d.stack := by
      rw [hs]
      exact List.mem_cons_self
    refine .copied (List.mem_append_left _ hv) ?_ fun y hy => ?_
    · rw [sum_sizes, sum_sizes]
      simp only
      omega
    · rcases List.mem_append.mp hy with hy | hy
      · exact List.mem_append_left _ hy
      · rcases hmem y hy with rfl | hy
        · exact List.mem_append_left _ hv
        · exact List.mem_append_right _ hy
  · exact .drop (.start d)

/-- GET, DUP: a value that is held already is pushed. -/
theorem Moves.copy {v : PickleValue} (hv : v.size ∈ d.sizes) :
    Moves d b (.ok (.inl (d.push v))) := by
  refine .copied hv ?_ fun y hy => ?_
  · rw [sizes_push, List.sum_cons, Nat.add_comm]
  · rcases List.mem_cons.mp hy with rfl | hy
    · exact hv
    · exact hy

theorem find?_size {m : AssocMap UInt32 PickleValue} {idx : UInt32} {v : PickleValue}
    (h : m.find? idx = some v) : v.size ∈ memoSizes m := by
  have hmem : ∀ entries : List (UInt32 × PickleValue), entries.lookup idx = some v →
      v.size ∈ entries.map fun e => e.2.size := by
    intro entries hl
    induction entries with
    | nil => cases hl
    | cons e entries ih =>
      obtain ⟨k, u⟩ := e
      rw [List.lookup_cons] at hl
      split at hl
      · cases hl
        exact List.mem_cons_self
      · exact List.mem_cons_of_mem _ (ih hl)
  exact hmem _ h

end Moves

/-- **An instruction copies a value, combines values, or brings in one that is paid for.** -/
theorem exec_moves (d : Decoder) (i : Instr) : Moves d i.weight (exec d i) := by
  have hstart := Left.start d
  cases i with
  | skip => exact .drop hstart
  | stop =>
    refine .popValue hstart fun v d₁ h₁ => .returns ?_
    simp only [Left] at h₁
    omega
  | data v => exact .goes (.entered (le_refl _))
  | emptyList => exact .push hstart (by simp [PickleValue.size, itemsSize])
  | emptyDict => exact .push hstart (by simp [PickleValue.size, pairsSize])
  | emptyTuple => exact .push hstart (by simp [PickleValue.size, itemsSize])
  | mark =>
    refine .drop (w := 0) ?_
    simp [Left, Decoder.sizes, stackSizes, itemSize]
  | list => exact .popToMark hstart fun items d₁ h₁ => .push h₁ (by simp [PickleValue.size])
  | dict =>
    refine .popToMark hstart fun items d₁ h₁ => .pairs d₁ _ fun pairs hp => .push h₁ ?_
    simp [PickleValue.size, hp]
  | tuple => exact .popToMark hstart fun items d₁ h₁ => .push h₁ (by simp [PickleValue.size])
  | tuple1 =>
    refine .popValue hstart fun a d₁ h₁ => .push h₁ ?_
    simp [PickleValue.size, itemsSize]
  | tuple2 =>
    refine .popValue hstart fun y d₁ h₁ => .popValue h₁ fun x d₂ h₂ => .push h₂ ?_
    simp only [PickleValue.size, itemsSize]
    omega
  | tuple3 =>
    refine .popValue hstart fun z d₁ h₁ => .popValue h₁ fun y d₂ h₂ =>
      .popValue h₂ fun x d₃ h₃ => .push h₃ ?_
    simp only [PickleValue.size, itemsSize]
    omega
  | append =>
    refine .popValue hstart fun item d₁ h₁ => .extendList h₁ ?_ _
    simp [itemsSize]
  | appends =>
    refine .popToMark hstart fun items d₁ h₁ => .extendList h₁ ?_ _
    simp
  | setitem =>
    refine .popValue hstart fun val d₁ h₁ => .popValue h₁ fun key d₂ h₂ => .extendDict h₂ ?_ _
    simp only [pairsSize]
    omega
  | setitems =>
    refine .popToMark hstart fun items d₁ h₁ => .pairs d₁ _ fun pairs hp => .extendDict h₁ ?_ _
    simp [hp]
  | put idx => exact .store d idx
  | get idx =>
    simp only [exec]
    cases hv : d.memo.find? idx with
    | some v => exact .copy (List.mem_append_right _ (find?_size hv))
    | none => exact .fails _
  | memoize => exact .store d _
  | pop =>
    refine .drop (w := (d.stack.head?.map itemSize).getD 0) ?_
    rcases d with ⟨c, stack, memo⟩
    cases stack with
    | nil => exact .start _
    | cons item s => simp [Left, Decoder.sizes, stackSizes]
  | dup =>
    simp only [exec]
    split
    · rename_i v s hs
      refine .copy (List.mem_append_left _ ?_)
      rw [hs]
      exact List.mem_cons_self
    · exact .drop hstart
  | popMark => exact .popToMark hstart fun _ _ h₁ => .drop h₁
  | global => exact .push hstart (by simp [PickleValue.size])
  | stackGlobal =>
    exact .popValue hstart fun _ _ h₁ => .popValue h₁ fun _ _ h₂ =>
      .push h₂ (by simp [PickleValue.size])
  | reduce =>
    exact .popValue hstart fun _ _ h₁ => .popValue h₁ fun _ _ h₂ =>
      .push h₂ (by simp [PickleValue.size])
  | newobj =>
    exact .popValue hstart fun _ _ h₁ => .popValue h₁ fun _ _ h₂ =>
      .push h₂ (by simp [PickleValue.size])
  | build => exact .popValue hstart fun _ _ h₁ => .drop h₁

/-! ## 4. Runs -/

theorem weight_pos (i : Instr) : 1 ≤ i.weight := by
  cases i with
  | data v => cases v <;> simp [Instr.weight, PickleValue.size]
  | _ => exact le_refl _

/-- **After `n` bytes the decoder holds no more than `n` units of work can make.** -/
theorem decodeStep_within {d d' : Decoder} (h : decodeStep d = .ok (.inl d'))
    (hd : d.holding.Within d.pos) : d'.holding.Within d'.pos := by
  obtain ⟨i, c, hf, hx⟩ := decodeStep_eq_ok h
  have hpays := fetch_pays hf
  have hcur : d'.toCursor = c := exec_toCursor hx
  have hmoves := exec_moves { d with toCursor := c } i
  rw [hx] at hmoves
  cases hmoves with
  | goes hs =>
    have hstep := hd.step (weight_pos i) hs
    have hle : d.pos + i.weight ≤ d'.pos := by
      rw [hcur]
      exact hpays
    exact hstep.mono hle

theorem run_within {data : List UInt8} {d : Decoder}
    (h : Reach decodeStep (Decoder.new data) d) : d.holding.Within d.pos :=
  reach_invariant (I := fun x : Decoder => x.holding.Within x.pos)
    (fun _ _ hd hstep => decodeStep_within hstep hd) h Holding.within_empty

/-- What `n` bytes decode to is no larger than what `n` units of work can make. -/
theorem pickleDeserialize_size {data : List UInt8} {v : PickleValue}
    (h : pickleDeserialize data = .ok v) : v.size ≤ growth data.length := by
  obtain ⟨q, hq, d, i, c, hreach, hf, hx, rfl⟩ := returnsAt_of_decode h
  have hpays := fetch_pays hf
  have hpos := weight_pos i
  have htotal := (run_within hreach).total
  have hmoves := exec_moves { d with toCursor := c } i
  rw [hx] at hmoves
  cases hmoves with
  | returns hv =>
    have hsum : v.size ≤ d.holding.total := hv
    have hmono : growth (d.pos + 1) ≤ growth data.length := growth_mono (by omega)
    omega

/-! ## 5. The fastest input -/

/-- DUP, DUP, TUPLE3, `k` times over. -/
def tripling : Nat → List UInt8
  | 0 => [Opcode.none.byte]
  | k + 1 => tripling k ++ ([Opcode.dup.byte] ++ [Opcode.dup.byte] ++ [Opcode.tuple3.byte])

def tripled : Nat → PickleValue
  | 0 => .none
  | k + 1 => .tuple [tripled k, tripled k, tripled k]

theorem tripling_length (k : Nat) : (tripling k).length = 3 * k + 1 := by
  induction k with
  | zero => rfl
  | succ k ih =>
    rw [tripling, List.length_append, ih]
    show 3 * k + 1 + 3 = 3 * (k + 1) + 1
    omega

theorem tripled_size (k : Nat) : 3 ^ k ≤ (tripled k).size := by
  induction k with
  | zero => exact le_refl _
  | succ k ih =>
    rw [Nat.pow_succ, tripled, PickleValue.size]
    simp only [itemsSize]
    omega

theorem dup_runs (v : PickleValue) (s : List StackItem) :
    Runs [Opcode.dup.byte] (.value v :: s) (.value v :: .value v :: s) :=
  .op rfl fun _ _ => rfl

theorem tripling_runs (k : Nat) (s : List StackItem) :
    Runs (tripling k) s (.value (tripled k) :: s) := by
  induction k with
  | zero => exact .op rfl fun _ _ => rfl
  | succ k ih =>
    have htuple : Runs [Opcode.tuple3.byte]
        (.value (tripled k) :: .value (tripled k) :: .value (tripled k) :: s)
        (.value (tripled (k + 1)) :: s) := .op rfl fun _ _ => rfl
    exact ih.append (((dup_runs _ _).append (dup_runs _ _)).append htuple)

/-- **The largest value in `n` bytes has size `3 ^ (n / 3)`, up to a constant factor**: no input
    decodes to more, and for every third length there is one that decodes to as much, in a memory
    that has room for any value. -/
theorem pickle_expansion :
    (∀ (data : List UInt8) (v : PickleValue), pickleDeserialize data = .ok v →
      v.size ≤ 19 * 3 ^ (data.length / 3)) ∧
    ∀ k : Nat, 3 * k + 2 ≤ isizeMax → ∃ (data : List UInt8) (v : PickleValue),
      data.length = 3 * k + 2 ∧ pickleDeserialize data = .ok v ∧ 3 ^ k ≤ v.size := by
  refine ⟨fun data v h => (pickleDeserialize_size h).trans (growth_le _), fun k hk => ?_⟩
  have hlength : (tripling k ++ [Opcode.stop.byte]).length = 3 * k + 2 := by
    rw [List.length_append, tripling_length]
    rfl
  refine ⟨tripling k ++ [Opcode.stop.byte], tripled k, hlength, ?_, tripled_size k⟩
  refine (returnsAt_of_runs (tripling_runs k []) ?_).decode
  rw [hlength]
  simp only [isizeMax, usizeSize] at hk ⊢
  omega

/-- `N22\x8722\x87.`: eight bytes, thirteen nodes. -/
theorem pickle_expansion_eight :
    (tripled 2).size ≤ 19 * 3 ^ (8 / 3) ∧ ∃ (data : List UInt8) (v : PickleValue),
      data.length = 8 ∧ pickleDeserialize data = .ok v ∧ 9 ≤ v.size :=
  ⟨pickle_expansion.1 [0x4e, 0x32, 0x32, 0x87, 0x32, 0x32, 0x87, 0x2e] (tripled 2) rfl,
    pickle_expansion.2 2 (by decide)⟩

end ModalRs.Pickle
