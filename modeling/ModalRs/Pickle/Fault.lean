/-
  File:      ModalRs/Pickle/Fault.lean
  Subject:   The one way the decoder panics: a length prefix that passes the end of `usize`.

  * `HostileLength d`: the decoder stands in front of BINUNICODE8, BINBYTES8 or
    BINSTRING with a length prefix `n` for which `pos + n`, taken behind the
    prefix, is `2 ^ 64` or more. (A negative BINSTRING length is extended to
    a 64-bit one.)
  * `fetch_hostile`, `fetch_returns`: there, and only there, a fetch panics.
  * `decode_fault_exactly`: the decoder answers `Ok` or `Err` exactly when it
    meets no such length.
-/
import ModalRs.Pickle.Exec

namespace ModalRs.Pickle

open ModalRs.Lib ModalRs.Rust

/-! ## 1. Length prefixes -/

/-- The width of the length prefix of an opcode with a `LongPrefix`. -/
def prefixWidth : Opcode → Nat
  | .binstring => 4
  | _ => 8

/-- The number of bytes the prefix announces; `i32 as usize` extends the sign. -/
def announced (op : Opcode) (bs : List UInt8) : Nat :=
  match op with
  | .binstring => (i32OfLe bs).toInt64.toUInt64.toNat
  | _ => (UInt64.ofNat (leNat bs)).toNat

/-- The position behind the length prefix plus the announced length does not fit `usize`. -/
def HostileLength (d : Decoder) : Prop :=
  ∃ op bs rest, LongPrefix op = true ∧ bs.length = prefixWidth op ∧
    d.rest = op.byte :: (bs ++ rest) ∧ usizeSize ≤ d.pos + 1 + prefixWidth op + announced op bs

/-- Such an opcode reads its prefix, reads the announced bytes, and goes on safely. -/
theorem longPrefix_args {op : Opcode} (hop : LongPrefix op = true) :
    ∃ (α : Type) (m : PickleReader α) (len : α → Nat) (k : List UInt8 → PickleReader Instr),
      fetchArgs op = (m >>= fun a => readBytes (len a) >>= k) ∧ (∀ bytes, Safe (k bytes)) ∧
        ∀ bs : List UInt8, bs.length = prefixWidth op →
          ∃ a, Reads m a bs ∧ len a = announced op bs := by
  cases op with
  | binunicode8 =>
    exact ⟨_, readU64Le, fun n => n.toNat, fun bytes => utf8 bytes >>= fun s =>
      pure (.data (.string s)), rfl, fun bytes => utf8_data_safe bytes _,
      fun bs hbs => ⟨_, readU64Le_reads hbs, rfl⟩⟩
  | binbytes8 =>
    exact ⟨_, readU64Le, fun n => n.toNat, fun bytes => pure (.data (.bytes bytes)), rfl,
      fun bytes => .pure _, fun bs hbs => ⟨_, readU64Le_reads hbs, rfl⟩⟩
  | binstring =>
    exact ⟨_, readI32Le, fun n => n.toInt64.toUInt64.toNat, fun bytes =>
      pure (.data (.bytes bytes)), rfl, fun bytes => .pure _,
      fun bs hbs => ⟨_, readI32Le_reads hbs, rfl⟩⟩
  | _ => cases hop

section Args

variable {op : Opcode} {c : Cursor} (hop : LongPrefix op = true) (hc : c.Inside)
  (hslice : IsSlice c.data)

include hop hc hslice

/-- Where the input ends inside the prefix, that is an ordinary error. -/
theorem fetchArgs_short (hlen : c.rest.length < prefixWidth op) : Returns (fetchArgs op c) := by
  obtain ⟨α, m, len, k, hargs, -, hm⟩ := longPrefix_args hop
  have hwidth : prefixWidth op ≤ 8 := by
    unfold prefixWidth
    split <;> omega
  -- the missing bytes may be anything
  obtain ⟨pad, hpad⟩ : ∃ pad : List UInt8, pad = List.replicate (prefixWidth op - c.rest.length) 0 :=
    ⟨_, rfl⟩
  have hbs : (c.rest ++ pad).length = prefixWidth op := by
    rw [List.length_append, hpad, List.length_replicate]
    omega
  have hne : c.rest ≠ c.rest ++ pad := by
    intro h
    have hl := congrArg List.length h
    omega
  have hlim : c.pos + (c.rest ++ pad).length < usizeSize := by
    simp only [Cursor.Inside, IsSlice, isizeMax, usizeSize] at hc hslice ⊢
    omega
  obtain ⟨a, ha, -⟩ := hm _ hbs
  obtain ⟨e, he⟩ := ha.short c hc (List.prefix_append _ _) hne hlim
  rw [hargs]
  exact Or.inr ⟨e, bind_error he⟩

variable {bs rest : List UInt8} (hbs : bs.length = prefixWidth op) (hrest : c.rest = bs ++ rest)

include hbs hrest

/-- Behind the prefix, the announced bytes are read. -/
theorem fetchArgs_prefix : ∃ k : List UInt8 → PickleReader Instr, (∀ bytes, Safe (k bytes)) ∧
    fetchArgs op c = (readBytes (announced op bs) >>= k) (c.advance bs.length) := by
  obtain ⟨α, m, len, k, hargs, hk, hm⟩ := longPrefix_args hop
  obtain ⟨a, ha, hlen⟩ := hm bs hbs
  have hin := Cursor.inside_advance hc hrest
  have hlim : c.pos + bs.length < usizeSize := by
    simp only [Cursor.Inside, Cursor.advance_pos, Cursor.advance_data, IsSlice, isizeMax,
      usizeSize] at hin hslice ⊢
    omega
  refine ⟨k, hk, ?_⟩
  rw [hargs, bind_ok (ha.full c rest hc hrest hlim), hlen]

theorem fetchArgs_hostile (hbig : usizeSize ≤ c.pos + prefixWidth op + announced op bs) :
    fetchArgs op c = .error (.panic .addOverflow) := by
  obtain ⟨k, -, hargs⟩ := fetchArgs_prefix hop hc hslice hbs hrest
  rw [hargs]
  refine bind_error (readBytes_overflow ?_)
  rw [Cursor.advance_pos, hbs]
  exact hbig

theorem fetchArgs_harmless (hsmall : c.pos + prefixWidth op + announced op bs < usizeSize) :
    Returns (fetchArgs op c) := by
  obtain ⟨k, hk, hargs⟩ := fetchArgs_prefix hop hc hslice hbs hrest
  have hin := Cursor.inside_advance hc hrest
  have hread : Returns (readBytes (announced op bs) (c.advance bs.length)) :=
    readBytes_returns hin (by rw [Cursor.advance_pos, hbs]; exact hsmall)
  rw [hargs]
  rcases hread with ⟨⟨bytes, c'⟩, h⟩ | ⟨e, h⟩
  · obtain ⟨hdata, -, hin'⟩ := (readBytes_local _).inside h hin
    rw [bind_ok h]
    exact hk bytes c' hin' (by rw [IsSlice, hdata]; exact hslice)
  · exact Or.inr ⟨e, bind_error h⟩

end Args

/-! ## 2. Rounds -/

theorem ofByte_eq_some {b : UInt8} {op : Opcode} (h : Opcode.ofByte b = some op) :
    op.byte = b := by
  have hfound := List.find?_some h
  simpa using hfound

section Round

variable {d : Decoder} (hin : d.toCursor.Inside) (hslice : IsSlice d.data)

include hin hslice

/-- In front of a hostile length, the round panics. -/
theorem decodeStep_hostile (h : HostileLength d) : decodeStep d = .error (.panic .addOverflow) := by
  obtain ⟨op, bs, rest, hop, hbs, hrest, hbig⟩ := h
  have hc : (d.toCursor.advance 1).Inside := @Cursor.inside_advance d.toCursor [op.byte] _ hin hrest
  have hrest' : (d.toCursor.advance 1).rest = bs ++ rest :=
    @Cursor.rest_advance d.toCursor [op.byte] _ hrest
  have hlim : d.pos + 1 < usizeSize := by
    simp only [Cursor.Inside, Cursor.advance_pos, Cursor.advance_data, IsSlice, isizeMax,
      usizeSize] at hc hslice ⊢
    omega
  apply decodeStep_of_error
  show (readByte >>= fetchOp) d.toCursor = _
  rw [bind_ok (readByte_eq hrest hlim), fetchOp, Opcode.ofByte_byte]
  exact fetchArgs_hostile hop hc hslice hbs hrest' hbig

/-- Everywhere else, the fetch comes back. -/
theorem fetch_returns (h : ¬ HostileLength d) : Returns (fetch d.toCursor) := by
  show Returns ((readByte >>= fetchOp) d.toCursor)
  rcases readByte_safe d.toCursor hin hslice with ⟨⟨b, c⟩, hb⟩ | ⟨e, hb⟩
  · obtain ⟨args, hrest, rfl⟩ := readByte_inv hb
    have hc : (d.toCursor.advance 1).Inside := @Cursor.inside_advance d.toCursor [b] _ hin hrest
    have hargs : (d.toCursor.advance 1).rest = args :=
      @Cursor.rest_advance d.toCursor [b] _ hrest
    rw [bind_ok hb, fetchOp]
    cases hop : Opcode.ofByte b with
    | none => exact Or.inr ⟨_, rfl⟩
    | some op =>
      by_cases hlong : LongPrefix op = true
      · rcases Nat.lt_or_ge args.length (prefixWidth op) with hlen | hlen
        · exact fetchArgs_short hlong hc hslice (by rw [hargs]; exact hlen)
        · have hbs : (args.take (prefixWidth op)).length = prefixWidth op :=
            List.length_take_of_le hlen
          have hsplit := (List.take_append_drop (prefixWidth op) args).symm
          refine fetchArgs_harmless hlong hc hslice hbs (hargs.trans hsplit) ?_
          have hhead : d.rest = op.byte ::
              (args.take (prefixWidth op) ++ args.drop (prefixWidth op)) := by
            rw [← hsplit, ofByte_eq_some hop]
            exact hrest
          exact Nat.lt_of_not_le fun hbig => h ⟨op, _, _, hlong, hbs, hhead, hbig⟩
      · exact fetchArgs_safe op (by simpa using hlong) _ hc hslice
  · exact Or.inr ⟨e, bind_error hb⟩

theorem decodeStep_returns (h : ¬ HostileLength d) : Returns (decodeStep d) := by
  rcases fetch_returns hin hslice h with ⟨⟨i, c⟩, hf⟩ | ⟨e, hf⟩
  · rw [decodeStep_of_fetch hf]
    have hx := exec_clean { d with toCursor := c } i
    cases hr : exec { d with toCursor := c } i with
    | ok o => exact Or.inl ⟨o, rfl⟩
    | error e =>
      rw [hr] at hx
      cases hx with
      | fails e => exact Or.inr ⟨e, rfl⟩
  · exact Or.inr ⟨e, decodeStep_of_error hf⟩

end Round

/-! ## 3. Runs -/

/-- Every state of a run over a slice is inside that slice. -/
theorem reach_slice {data : List UInt8} (hslice : IsSlice data) {d : Decoder}
    (h : Reach decodeStep (Decoder.new data) d) : d.toCursor.Inside ∧ IsSlice d.data := by
  obtain ⟨hdata, hin⟩ := reach_inside h (new_inside data)
  exact ⟨hin, by rw [IsSlice, hdata]; exact hslice⟩

/-- **The decoder answers `Ok` or `Err` exactly when its run meets no hostile length.** -/
theorem decode_fault_exactly (data : List UInt8) (hslice : IsSlice data) :
    Returns (pickleDeserialize data) ↔
      ∀ d, Reach decodeStep (Decoder.new data) d → ¬ HostileLength d := by
  constructor
  · intro hret d hd hhostile
    obtain ⟨hin, hs⟩ := reach_slice hslice hd
    have hpanic : pickleDeserialize data = .error (.panic .addOverflow) :=
      loop_of_reach_error decodeStep_ahead hd (decodeStep_hostile hin hs hhostile)
    rw [hpanic] at hret
    exact not_returns_panic _ hret
  · intro hnone
    have hstep : ∀ d, Reach decodeStep (Decoder.new data) d → Returns (decodeStep d) := by
      intro d hd
      obtain ⟨hin, hs⟩ := reach_slice hslice hd
      exact decodeStep_returns hin hs (hnone d hd)
    have hcut : pickleDeserialize data ≠ .error .diverged := by
      refine loop_ne_cut decodeStep_ahead _ _ (Nat.lt_succ_self _) fun d hd h => ?_
      rcases hstep d hd with ⟨o, ho⟩ | ⟨e, he⟩
      · rw [ho] at h
        cases h
      · rw [he] at h
        cases h
    -- the last round of the run decides
    obtain ⟨d, hd, hlast⟩ := loop_last _ _ _ rfl hcut
    rcases hlast with ⟨v, hv, -⟩ | ⟨e, he, hlast⟩
    · exact Or.inl ⟨v, hv⟩
    · rcases hstep d hd with ⟨o, ho⟩ | ⟨e', he'⟩
      · rw [ho] at hlast
        cases hlast
      · rw [he'] at hlast
        cases hlast
        exact Or.inr ⟨e', he⟩

/-- A BINUNICODE8 with the length prefix `2 ^ 64 - 1` panics. -/
theorem binunicode8_faults : IsSlice [0x8d, 255, 255, 255, 255, 255, 255, 255, 255] ∧
    ¬ Returns (pickleDeserialize [0x8d, 255, 255, 255, 255, 255, 255, 255, 255]) := by
  refine ⟨by unfold IsSlice isizeMax; decide, ?_⟩
  have h : pickleDeserialize [0x8d, 255, 255, 255, 255, 255, 255, 255, 255] =
      .error (.panic .addOverflow) := rfl
  rw [h]
  exact not_returns_panic _

/-- The hypothesis of `decode_fault_exactly` is met by every short input, such as `N.`. -/
theorem decode_fault_none : Returns (pickleDeserialize [78, 46]) ↔
    ∀ d, Reach decodeStep (Decoder.new [78, 46]) d → ¬ HostileLength d :=
  decode_fault_exactly [78, 46] (by unfold IsSlice isizeMax; decide)

end ModalRs.Pickle
