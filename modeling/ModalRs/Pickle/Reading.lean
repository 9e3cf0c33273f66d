/-
  File:      ModalRs/Pickle/Reading.lean
  Subject:   What the read helpers and `fetch` consume, and when they panic.

  * `readByte_reads` … `readLine_reads`: each helper reads what it says.
  * `fetch_local`: a fetched instruction depends on the bytes it consumed
    only, and consumes at least its opcode (`fetch_advances`).
  * `fetchArgs_safe`: no opcode panics on its arguments, but for the three
    whose length prefix can pass `2 ^ 63` (`LongPrefix`).
-/
import ModalRs.Pickle.Decode

namespace ModalRs.Pickle

open ModalRs.Lib ModalRs.Rust

/-! ## 1. Bytes -/

theorem readByte_eq {c : Cursor} {b : UInt8} {rest : List UInt8} (h : c.rest = b :: rest)
    (hlim : c.pos + 1 < usizeSize) : readByte c = .ok (b, c.advance 1) := by
  have hlt : c.pos < c.data.length := by
    have hlen := congrArg List.length h
    simp only [Cursor.rest, List.length_drop, List.length_cons] at hlen
    omega
  have hb : c.data[c.pos] = b := by
    have h0 := congrArg (fun l => l[0]?) h
    simpa [Cursor.rest, List.getElem?_drop, List.getElem?_eq_getElem hlt] using h0
  have hi : (index c.data c.pos : Res ModalError UInt8) = .ok b := hb ▸ index_of_lt hlt
  unfold readByte
  rw [if_neg (by omega), hi, usizeAdd_of_lt hlim]
  rfl

theorem readByte_end {c : Cursor} (h : c.rest = []) : ∃ e, readByte c = .error (.err e) := by
  have hle : c.data.length ≤ c.pos := List.drop_eq_nil_iff.mp h
  unfold readByte
  rw [if_pos hle]
  exact ⟨_, rfl⟩

theorem readByte_reads (b : UInt8) : Reads readByte b [b] where
  full c rest _ h hlim := readByte_eq h hlim
  short c _ hp hne _ := by
    cases h : c.rest with
    | nil => exact readByte_end h
    | cons b' r =>
      rw [h] at hp hne
      obtain ⟨rfl, hr⟩ := List.cons_prefix_cons.mp hp
      exact absurd (by rw [List.prefix_nil.mp hr]) hne

/-- A read that found a byte found the byte at its position, with room for the next one. -/
theorem readByte_inv {c c' : Cursor} {b : UInt8} (h : readByte c = .ok (b, c')) :
    ∃ rest, c.rest = b :: rest ∧ c' = c.advance 1 := by
  unfold readByte at h
  split at h
  · cases h
  · rename_i hlt
    rw [Nat.not_le] at hlt
    rw [index_of_lt hlt] at h
    by_cases hadd : c.pos + 1 < usizeSize
    · rw [usizeAdd_of_lt hadd] at h
      cases h
      exact ⟨c.data.drop (c.pos + 1), List.drop_eq_getElem_cons hlt, rfl⟩
    · rw [usizeAdd_of_ge (by omega)] at h
      cases h

theorem readByte_local : Local readByte := by
  intro c c' b h
  obtain ⟨rest, hrest, rfl⟩ := readByte_inv h
  exact ⟨[b], rest, readByte_reads b, hrest, rfl⟩

theorem readByte_safe : Safe readByte := by
  intro c _ hlen
  cases h : c.rest with
  | nil => exact Or.inr (readByte_end h)
  | cons b r =>
    refine Or.inl ⟨_, readByte_eq h ?_⟩
    have hl := congrArg List.length h
    simp only [Cursor.rest, List.length_drop, List.length_cons] at hl
    simp only [IsSlice, isizeMax, usizeSize] at hlen ⊢
    omega

/-! ## 2. Runs of bytes -/

theorem readBytes_eq {c : Cursor} {bs rest : List UInt8} (hc : c.Inside)
    (h : c.rest = bs ++ rest) (hlim : c.pos + bs.length < usizeSize) :
    readBytes bs.length c = .ok (bs, c.advance bs.length) := by
  have hle : c.pos + bs.length ≤ c.data.length := Cursor.inside_advance hc h
  have hs : (slice c.data c.pos (c.pos + bs.length) : Res ModalError (List UInt8)) = .ok bs := by
    have ht : (c.data.drop c.pos).take bs.length = bs := by
      rw [show c.data.drop c.pos = bs ++ rest from h, List.take_left]
    rw [slice_of_le (by omega) hle, Nat.add_sub_cancel_left, ht]
  unfold readBytes
  rw [usizeAdd_of_lt hlim]
  show (if c.data.length < c.pos + bs.length then _ else _) = _
  rw [if_neg (by omega), hs]
  rfl

theorem readBytes_short {c : Cursor} {n : Nat} (h : c.data.length < c.pos + n)
    (hlim : c.pos + n < usizeSize) : ∃ e, readBytes n c = .error (.err e) := by
  unfold readBytes
  rw [usizeAdd_of_lt hlim]
  show ∃ e, (if c.data.length < c.pos + n then _ else _) = _
  rw [if_pos h]
  exact ⟨_, rfl⟩

/-- The addition in `read_bytes` is the one place where a length from the input can panic. -/
theorem readBytes_overflow {c : Cursor} {n : Nat} (h : usizeSize ≤ c.pos + n) :
    readBytes n c = .error (.panic .addOverflow) := by
  unfold readBytes
  rw [usizeAdd_of_ge h]
  rfl

theorem readBytes_reads (bs : List UInt8) : Reads (readBytes bs.length) bs bs where
  full _ _ hc h hlim := readBytes_eq hc h hlim
  short c hc hp hne hlim := by
    refine readBytes_short ?_ hlim
    have hlt := (Nat.lt_or_ge c.rest.length bs.length).resolve_right
      fun h => hne (hp.eq_of_length_le h)
    simp only [Cursor.rest, List.length_drop, Cursor.Inside] at hlt hc
    omega

theorem readBytes_inv {c c' : Cursor} {n : Nat} {bs : List UInt8}
    (h : readBytes n c = .ok (bs, c')) :
    bs.length = n ∧ ∃ rest, c.rest = bs ++ rest ∧ c' = c.advance n := by
  by_cases hlim : c.pos + n < usizeSize
  · by_cases hle : c.data.length < c.pos + n
    · obtain ⟨e, he⟩ := readBytes_short hle hlim
      rw [he] at h
      cases h
    · have hle' : c.pos + n ≤ c.data.length := by omega
      unfold readBytes at h
      rw [usizeAdd_of_lt hlim] at h
      simp only [bind, Except.bind, if_neg hle,
        slice_of_le (Nat.le_add_right c.pos n) hle', Nat.add_sub_cancel_left] at h
      cases h
      refine ⟨by simp; omega, c.rest.drop n, ?_, rfl⟩
      exact (List.take_append_drop n c.rest).symm
  · rw [readBytes_overflow (by omega)] at h
    cases h

theorem readBytes_local (n : Nat) : Local (readBytes n) := by
  intro c c' bs h
  obtain ⟨rfl, rest, hrest, rfl⟩ := readBytes_inv h
  exact ⟨bs, rest, readBytes_reads bs, hrest, rfl⟩

/-- Without the overflow, the bytes are there or they are not. -/
theorem readBytes_returns {c : Cursor} {n : Nat} (hc : c.Inside) (hlim : c.pos + n < usizeSize) :
    Returns (readBytes n c) := by
  by_cases hle : c.data.length < c.pos + n
  · exact Or.inr (readBytes_short hle hlim)
  · have hl : n ≤ c.rest.length := by
      simp only [Cursor.rest, List.length_drop]
      omega
    have htake : (c.rest.take n).length = n := List.length_take_of_le hl
    have h := @readBytes_eq c (c.rest.take n) (c.rest.drop n) hc
      (List.take_append_drop n c.rest).symm (by rw [htake]; exact hlim)
    rw [htake] at h
    exact Or.inl ⟨_, h⟩

theorem readBytes_safe {n : Nat} (hn : n ≤ isizeMax) : Safe (readBytes n) := by
  intro c hc hlen
  refine readBytes_returns hc ?_
  simp only [Cursor.Inside, IsSlice, isizeMax, usizeSize] at hc hlen hn ⊢
  omega

/-! ## 3. Words -/

theorem leading_stays : ∀ (bs : List UInt8) (c : Cursor), leading bs.length bs c = .ok (bs, c)
  | [], _ => rfl
  | b :: bs, c => by
      show (leading bs.length bs >>= fun rest => pure (b :: rest)) c = _
      rw [bind_ok (leading_stays bs c)]
      rfl

theorem leading_local : ∀ (n : Nat) (bs : List UInt8), Local (leading n bs)
  | 0, _ => .pure _
  | _ + 1, [] => .of_fails fun _ _ h => nomatch h
  | n + 1, _ :: bs => (leading_local n bs).bind fun _ => .pure _

theorem readArray_reads (bs : List UInt8) : Reads (readArray bs.length) bs bs := by
  have h := (readBytes_reads bs).bind (k := leading bs.length)
    (Reads.of_stays (leading_stays bs))
  rw [List.append_nil] at h
  exact h

theorem readArray_local (n : Nat) : Local (readArray n) :=
  (readBytes_local n).bind (leading_local n)

theorem readArray_safe {n : Nat} (hn : n ≤ isizeMax) : Safe (readArray n) := by
  refine (readBytes_safe hn).bind (readBytes_local n) fun bs c c' h => ?_
  obtain ⟨rfl, _⟩ := readBytes_inv h
  exact .of_stays (leading_stays bs)

/-- A word is an array and what it denotes. -/
theorem word_reads {α : Type} (f : List UInt8 → α) (bs : List UInt8) :
    Reads (readArray bs.length >>= fun bytes => pure (f bytes) : PickleReader α) (f bs) bs := by
  have h := (readArray_reads bs).bind (k := fun bytes => (pure (f bytes) : PickleReader α))
    (Reads.pure (f bs))
  rw [List.append_nil] at h
  exact h

theorem word_local {α : Type} (n : Nat) (f : List UInt8 → α) :
    Local (readArray n >>= fun bytes => pure (f bytes) : PickleReader α) :=
  (readArray_local n).bind fun _ => .pure _

theorem word_safe {α : Type} {n : Nat} (hn : n ≤ isizeMax) (f : List UInt8 → α) :
    Safe (readArray n >>= fun bytes => pure (f bytes) : PickleReader α) :=
  (readArray_safe hn).bind (readArray_local n) fun _ _ _ _ => .pure _

theorem readU16Le_reads {bs : List UInt8} (h : bs.length = 2) :
    Reads readU16Le (.ofNat (leNat bs)) bs := by
  have hr := word_reads (fun bytes => UInt16.ofNat (leNat bytes)) bs
  rw [h] at hr
  exact hr

theorem readI32Le_reads {bs : List UInt8} (h : bs.length = 4) :
    Reads readI32Le (i32OfLe bs) bs := by
  have hr := word_reads i32OfLe bs
  rw [h] at hr
  exact hr

theorem readU32Le_reads {bs : List UInt8} (h : bs.length = 4) :
    Reads readU32Le (.ofNat (leNat bs)) bs := by
  have hr := word_reads (fun bytes => UInt32.ofNat (leNat bytes)) bs
  rw [h] at hr
  exact hr

theorem readU64Le_reads {bs : List UInt8} (h : bs.length = 8) :
    Reads readU64Le (.ofNat (leNat bs)) bs := by
  have hr := word_reads (fun bytes => UInt64.ofNat (leNat bytes)) bs
  rw [h] at hr
  exact hr

theorem readF64Be_reads {bs : List UInt8} (h : bs.length = 8) :
    Reads readF64Be (.ofNat (leNat bs.reverse)) bs := by
  have hr := word_reads (fun bytes => UInt64.ofNat (leNat bytes.reverse)) bs
  rw [h] at hr
  exact hr

/-! ## 4. Lines and texts -/

/-- The line before the next line feed. -/
theorem lineEnd_line {line : List UInt8} (h : (10 : UInt8) ∉ line) (rest : List UInt8) (pos : Nat) :
    lineEnd (line ++ 10 :: rest) pos = pos + line.length := by
  induction line generalizing pos with
  | nil => simp [lineEnd]
  | cons b line ih =>
    rw [List.mem_cons, not_or] at h
    rw [List.cons_append, lineEnd, if_neg (Ne.symm h.1), ih h.2, List.length_cons]
    omega

theorem lineEnd_none {bs : List UInt8} (h : (10 : UInt8) ∉ bs) (pos : Nat) :
    lineEnd bs pos = pos + bs.length := by
  induction bs generalizing pos with
  | nil => rfl
  | cons b bs ih =>
    rw [List.mem_cons, not_or] at h
    rw [lineEnd, if_neg (Ne.symm h.1), ih h.2, List.length_cons]
    omega

/-- With a line ahead, all that can fail is the step over its line feed. -/
theorem readLine_line {c : Cursor} {line rest : List UInt8} (hc : c.Inside)
    (hline : (10 : UInt8) ∉ line) (h : c.rest = line ++ 10 :: rest) :
    readLine c = (usizeAdd (c.pos + line.length) 1).map fun pos =>
      (line, { c with pos := pos }) := by
  have hle : c.pos + line.length + 1 ≤ c.data.length := by
    have hin := @Cursor.inside_advance c (line ++ [10]) rest hc (by simp [h])
    simpa [Cursor.Inside, Nat.add_assoc] using hin
  have hs : (slice c.data c.pos (c.pos + line.length) : Res ModalError (List UInt8)) =
      .ok line := by
    have ht : (c.data.drop c.pos).take line.length = line := by
      rw [show c.data.drop c.pos = line ++ 10 :: rest from h, List.take_left]
    rw [slice_of_le (by omega) (by omega), Nat.add_sub_cancel_left, ht]
  unfold readLine
  rw [h, lineEnd_line hline]
  show (if c.data.length ≤ c.pos + line.length then _ else _) = _
  rw [if_neg (by omega), hs]
  cases (usizeAdd (c.pos + line.length) 1 : Res ModalError Nat) <;> rfl

theorem readLine_eq {c : Cursor} {line rest : List UInt8} (hc : c.Inside)
    (hline : (10 : UInt8) ∉ line) (h : c.rest = line ++ 10 :: rest)
    (hlim : c.pos + line.length + 1 < usizeSize) :
    readLine c = .ok (line, c.advance (line.length + 1)) := by
  rw [readLine_line hc hline h, usizeAdd_of_lt hlim]
  rfl

theorem readLine_overflow {c : Cursor} {line rest : List UInt8} (hc : c.Inside)
    (hline : (10 : UInt8) ∉ line) (h : c.rest = line ++ 10 :: rest)
    (hlim : usizeSize ≤ c.pos + line.length + 1) :
    readLine c = .error (.panic .addOverflow) := by
  rw [readLine_line hc hline h, usizeAdd_of_ge hlim]
  rfl

theorem readLine_unterminated {c : Cursor} (h : (10 : UInt8) ∉ c.rest) :
    ∃ e, readLine c = .error (.err e) := by
  unfold readLine
  rw [lineEnd_none h]
  have hle : c.data.length ≤ c.pos + c.rest.length := by
    simp only [Cursor.rest, List.length_drop]
    omega
  show ∃ e, (if c.data.length ≤ c.pos + c.rest.length then _ else _) = _
  rw [if_pos hle]
  exact ⟨_, rfl⟩

theorem readLine_reads {line : List UInt8} (hline : (10 : UInt8) ∉ line) :
    Reads readLine line (line ++ [10]) where
  full c rest hc h hlim := by
    rw [List.length_append] at hlim ⊢
    exact readLine_eq hc hline (by simpa using h) (by simpa [Nat.add_assoc] using hlim)
  short c _ hp hne _ := by
    -- a proper prefix of a terminated line has no line feed
    refine readLine_unterminated fun hmem => hline ?_
    rcases List.prefix_concat_iff.mp hp with heq | hin
    · exact absurd heq hne
    · exact hin.subset hmem

/-- Either a line feed lies ahead, with a line before it, or none does. -/
theorem rest_line (bs : List UInt8) :
    (10 : UInt8) ∉ bs ∨ ∃ line rest, (10 : UInt8) ∉ line ∧ bs = line ++ 10 :: rest := by
  by_cases h : (10 : UInt8) ∈ bs
  · obtain ⟨line, rest, rfl, hline⟩ := List.eq_append_cons_of_mem h
    exact Or.inr ⟨line, rest, hline, rfl⟩
  · exact Or.inl h

theorem readLine_local : Local readLine := by
  intro c c' l h
  rcases rest_line c.rest with hno | ⟨line, rest, hline, hrest⟩
  · obtain ⟨e, he⟩ := readLine_unterminated hno
    rw [he] at h
    cases h
  · have hc : c.Inside := Cursor.inside_of_rest (by rw [hrest]; simp)
    by_cases hlim : c.pos + line.length + 1 < usizeSize
    · rw [readLine_eq hc hline hrest hlim] at h
      cases h
      exact ⟨l ++ [10], rest, readLine_reads hline, by simp [hrest], by simp⟩
    · rw [readLine_overflow hc hline hrest (by omega)] at h
      cases h

theorem readLine_safe : Safe readLine := by
  intro c hc hlen
  rcases rest_line c.rest with hno | ⟨line, rest, hline, hrest⟩
  · exact Or.inr (readLine_unterminated hno)
  · refine Or.inl ⟨_, readLine_eq hc hline hrest ?_⟩
    have hin := @Cursor.inside_advance c (line ++ [10]) rest hc (by simp [hrest])
    simp only [Cursor.Inside, Cursor.advance_data, Cursor.advance_pos, List.length_append,
      List.length_singleton, IsSlice, isizeMax, usizeSize] at hin hlen ⊢
    omega

theorem orErr_local {δ α : Type} (what : String) (display : δ → String) (x : Except δ α) :
    Local (orErr what display x) :=
  match x with
  | .ok _ => .of_stays fun _ => rfl
  | .error _ => .of_fails fun _ _ h => nomatch h

theorem orErr_safe {δ α : Type} (what : String) (display : δ → String) (x : Except δ α) :
    Safe (orErr what display x) :=
  fun c _ _ => match x with
  | .ok a => Or.inl ⟨(a, c), rfl⟩
  | .error _ => Or.inr ⟨_, rfl⟩

theorem utf8_local (bytes : List UInt8) : Local (utf8 bytes) := orErr_local _ _ _

theorem utf8_safe (bytes : List UInt8) : Safe (utf8 bytes) := orErr_safe _ _ _

theorem utf8_reads (s : String) : Reads (utf8 (asBytes s)) s [] :=
  .of_stays fun _ => by simp only [utf8, orErr, fromUtf8_asBytes]

theorem readIndexLine_local : Local readIndexLine :=
  readLine_local.bind fun _ => (orErr_local _ _ _).bind fun _ => orErr_local _ _ _

theorem readIndexLine_safe : Safe readIndexLine :=
  readLine_safe.bind readLine_local fun _ _ _ _ =>
    (orErr_safe _ _ _).bind (orErr_local _ _ _) fun _ _ _ _ => orErr_safe _ _ _

/-! ## 5. Opcodes -/

/-- Sign extension never indexes outside the bytes. -/
theorem bytesToLong_ok (bytes : List UInt8) : ∃ v, bytesToLong bytes = .ok v := by
  unfold bytesToLong
  by_cases he : bytes.isEmpty
  · exact ⟨0, by rw [if_pos he]⟩
  · rw [if_neg he]
    have hpos : 0 < bytes.length := List.length_pos_of_ne_nil (by simpa using he)
    rw [index_of_lt (by omega : bytes.length - 1 < bytes.length)]
    simp only [bind, Except.bind]
    rw [slice_of_le (Nat.zero_le _) (Nat.min_le_left _ _)]
    exact ⟨_, rfl⟩

/-- The arguments of every opcode are read locally. -/
theorem fetchArgs_local : ∀ op : Opcode, Local (fetchArgs op)
  | .proto => readByte_local.bind fun _ => .pure _
  | .frame => (word_local 8 _).bind fun _ => .pure _
  | .binint1 => readByte_local.bind fun _ => .pure _
  | .binint2 => (word_local 2 _).bind fun _ => .pure _
  | .binint => (word_local 4 _).bind fun _ => .pure _
  | .long1 => readByte_local.bind fun _ => (readBytes_local _).bind fun _ =>
      (Local.lift _).bind fun _ => .pure _
  | .binfloat => (word_local 8 _).bind fun _ => .pure _
  | .binunicode => (word_local 4 _).bind fun _ => (readBytes_local _).bind fun _ =>
      (utf8_local _).bind fun _ => .pure _
  | .shortBinunicode => readByte_local.bind fun _ => (readBytes_local _).bind fun _ =>
      (utf8_local _).bind fun _ => .pure _
  | .binunicode8 => (word_local 8 _).bind fun _ => (readBytes_local _).bind fun _ =>
      (utf8_local _).bind fun _ => .pure _
  | .shortBinbytes => readByte_local.bind fun _ => (readBytes_local _).bind fun _ => .pure _
  | .binbytes => (word_local 4 _).bind fun _ => (readBytes_local _).bind fun _ => .pure _
  | .binbytes8 => (word_local 8 _).bind fun _ => (readBytes_local _).bind fun _ => .pure _
  | .shortBinstring => readByte_local.bind fun _ => (readBytes_local _).bind fun _ => .pure _
  | .binstring => (word_local 4 _).bind fun _ => (readBytes_local _).bind fun _ => .pure _
  | .unicode => readLine_local.bind fun _ => (utf8_local _).bind fun _ => .pure _
  | .string => readLine_local.bind fun _ => (utf8_local _).bind fun _ => .pure _
  | .int => readLine_local.bind fun _ => (utf8_local _).bind fun _ =>
      .ite (.pure _) (.ite (.pure _) ((orErr_local _ _ _).bind fun _ => .pure _))
  | .float => readLine_local.bind fun _ => (utf8_local _).bind fun _ =>
      (orErr_local _ _ _).bind fun _ => .pure _
  | .binput => readByte_local.bind fun _ => .pure _
  | .longBinput => (word_local 4 _).bind fun _ => .pure _
  | .put => readIndexLine_local.bind fun _ => .pure _
  | .binget => readByte_local.bind fun _ => .pure _
  | .longBinget => (word_local 4 _).bind fun _ => .pure _
  | .get => readIndexLine_local.bind fun _ => .pure _
  | .global => readLine_local.bind fun _ => readLine_local.bind fun _ => .pure _
  | .stop | .none | .newtrue | .newfalse | .emptyList | .emptyDict | .emptyTuple | .mark | .list
  | .dict | .tuple | .tuple1 | .tuple2 | .tuple3 | .append | .appends | .setitem | .setitems
  | .memoize | .pop | .dup | .popMark | .stackGlobal | .reduce | .newobj | .build => .pure _

/-- The opcodes whose length prefix can announce `2 ^ 63` bytes or more. -/
def LongPrefix : Opcode → Bool
  | .binunicode8 | .binbytes8 | .binstring => true
  | _ => false

theorem u8_le (n : UInt8) : n.toNat ≤ isizeMax := by
  have := n.toNat_lt
  simp only [isizeMax]
  omega

theorem u32_le (n : UInt32) : n.toNat ≤ isizeMax := by
  have := n.toNat_lt
  simp only [isizeMax]
  omega

/-- A length and the bytes it announces. -/
theorem sized_safe {α : Type} {m : PickleReader α} {len : α → Nat} {k : List UInt8 → PickleReader Instr}
    (hl : Local m) (hm : Safe m) (hlen : ∀ a, len a ≤ isizeMax) (hk : ∀ bytes, Safe (k bytes)) :
    Safe (m >>= fun a => readBytes (len a) >>= k) :=
  hm.bind hl fun a _ _ _ =>
    (readBytes_safe (hlen a)).bind (readBytes_local _) fun bytes _ _ _ => hk bytes

theorem utf8_data_safe (bytes : List UInt8) (f : String → Instr) :
    Safe (utf8 bytes >>= fun s => pure (f s) : PickleReader Instr) :=
  (utf8_safe bytes).bind (utf8_local bytes) fun _ _ _ _ => .pure _

/-- **No other opcode panics on its arguments.** -/
theorem fetchArgs_safe : ∀ op : Opcode, LongPrefix op = false → Safe (fetchArgs op)
  | .proto, _ => readByte_safe.bind readByte_local fun _ _ _ _ => .pure _
  | .frame, _ => (word_safe (by decide) _).bind (word_local 8 _) fun _ _ _ _ => .pure _
  | .binint1, _ => readByte_safe.bind readByte_local fun _ _ _ _ => .pure _
  | .binint2, _ => (word_safe (by decide) _).bind (word_local 2 _) fun _ _ _ _ => .pure _
  | .binint, _ => (word_safe (by decide) _).bind (word_local 4 _) fun _ _ _ _ => .pure _
  | .long1, _ => sized_safe readByte_local readByte_safe u8_le fun bytes => by
      obtain ⟨v, hv⟩ := bytesToLong_ok bytes
      exact (Safe.lift hv).bind (.lift _) fun _ _ _ _ => .pure _
  | .binfloat, _ => (word_safe (by decide) _).bind (word_local 8 _) fun _ _ _ _ => .pure _
  | .binunicode, _ => sized_safe (word_local 4 _) (word_safe (by decide) _) u32_le fun _ =>
      utf8_data_safe _ _
  | .shortBinunicode, _ => sized_safe readByte_local readByte_safe u8_le fun _ =>
      utf8_data_safe _ _
  | .shortBinbytes, _ => sized_safe readByte_local readByte_safe u8_le fun _ => .pure _
  | .binbytes, _ => sized_safe (word_local 4 _) (word_safe (by decide) _) u32_le fun _ => .pure _
  | .shortBinstring, _ => sized_safe readByte_local readByte_safe u8_le fun _ => .pure _
  | .unicode, _ => readLine_safe.bind readLine_local fun _ _ _ _ => utf8_data_safe _ _
  | .string, _ => readLine_safe.bind readLine_local fun _ _ _ _ =>
      (utf8_safe _).bind (utf8_local _) fun _ _ _ _ => .pure _
  | .int, _ => readLine_safe.bind readLine_local fun _ _ _ _ =>
      (utf8_safe _).bind (utf8_local _) fun _ _ _ _ =>
        .ite (.pure _) (.ite (.pure _)
          ((orErr_safe _ _ _).bind (orErr_local _ _ _) fun _ _ _ _ => .pure _))
  | .float, _ => readLine_safe.bind readLine_local fun _ _ _ _ =>
      (utf8_safe _).bind (utf8_local _) fun _ _ _ _ =>
        (orErr_safe _ _ _).bind (orErr_local _ _ _) fun _ _ _ _ => .pure _
  | .binput, _ => readByte_safe.bind readByte_local fun _ _ _ _ => .pure _
  | .longBinput, _ => (word_safe (by decide) _).bind (word_local 4 _) fun _ _ _ _ => .pure _
  | .put, _ => readIndexLine_safe.bind readIndexLine_local fun _ _ _ _ => .pure _
  | .binget, _ => readByte_safe.bind readByte_local fun _ _ _ _ => .pure _
  | .longBinget, _ => (word_safe (by decide) _).bind (word_local 4 _) fun _ _ _ _ => .pure _
  | .get, _ => readIndexLine_safe.bind readIndexLine_local fun _ _ _ _ => .pure _
  | .global, _ => readLine_safe.bind readLine_local fun _ _ _ _ =>
      readLine_safe.bind readLine_local fun _ _ _ _ => .pure _
  | .stop, _ | .none, _ | .newtrue, _ | .newfalse, _ | .emptyList, _ | .emptyDict, _
  | .emptyTuple, _ | .mark, _ | .list, _ | .dict, _ | .tuple, _ | .tuple1, _ | .tuple2, _
  | .tuple3, _ | .append, _ | .appends, _ | .setitem, _ | .setitems, _ | .memoize, _ | .pop, _
  | .dup, _ | .popMark, _ | .stackGlobal, _ | .reduce, _ | .newobj, _ | .build, _ => .pure _

/-! ## 6. Instructions -/

/-- An opcode and its arguments, one after the other. -/
theorem fetch_reads {op : Opcode} {i : Instr} {args : List UInt8} (h : Reads (fetchArgs op) i args) :
    Reads fetch i (op.byte :: args) := by
  refine (readByte_reads op.byte).bind ?_
  rw [fetchOp, Opcode.ofByte_byte]
  exact h

theorem fetchOp_local (b : UInt8) : Local (fetchOp b) := by
  unfold fetchOp
  cases Opcode.ofByte b with
  | none => exact .of_fails fun _ _ h => nomatch h
  | some op => exact fetchArgs_local op

theorem fetch_local : Local fetch := readByte_local.bind fetchOp_local

/-- Every fetched instruction moves the position on, inside the same input. -/
theorem fetch_advances {c c' : Cursor} {i : Instr} (h : fetch c = .ok (i, c')) :
    c'.data = c.data ∧ c.pos < c'.pos ∧ c'.Inside := by
  obtain ⟨b, c₁, h₁, h₂⟩ := bind_eq_ok h
  obtain ⟨rest, hrest, rfl⟩ := readByte_inv h₁
  have hc : c.Inside := Cursor.inside_of_rest (by rw [hrest]; simp)
  have hc₁ : (c.advance 1).Inside := @Cursor.inside_advance c [b] rest hc hrest
  obtain ⟨hdata, hpos, hin⟩ := (fetchOp_local b).inside h₂ hc₁
  exact ⟨hdata, by simp only [Cursor.advance_pos] at hpos; omega, hin⟩

end ModalRs.Pickle
