/-
  File:      ModalRs/Pickle/Value.lean
  Subject:   The values and the opcodes of the pickle codec.

  * `PickleValue`: what can be put on a queue. A float is its bit pattern.
  * `PickleValue.induction`: induction over the nesting, with one hypothesis
    for every element of a list, a tuple or a dict.
  * `Opcode`: the opcodes the decoder knows; `Opcode.byte` is the table of
    constants at the head of the source file, `Opcode.ofByte` its inverse.
-/
import ModalRs.Rust.Parse

namespace ModalRs.Pickle

open ModalRs.Rust

/-- A value that can be serialized/deserialized via pickle protocol. -/
inductive PickleValue where
  | none
  | bool (b : Bool)
  | int (v : Int64)
  | float (v : F64)
  | string (s : String)
  | bytes (b : List UInt8)
  | list (items : List PickleValue)
  | tuple (items : List PickleValue)
  | dict (pairs : List (PickleValue × PickleValue))
  deriving Repr

/-- **Induction over the nesting of a value.** -/
theorem PickleValue.induction {P : PickleValue → Prop} (none : P .none) (bool : ∀ b, P (.bool b))
    (int : ∀ v, P (.int v)) (float : ∀ v, P (.float v)) (string : ∀ s, P (.string s))
    (bytes : ∀ b, P (.bytes b)) (list : ∀ items, (∀ v ∈ items, P v) → P (.list items))
    (tuple : ∀ items, (∀ v ∈ items, P v) → P (.tuple items))
    (dict : ∀ pairs, (∀ p ∈ pairs, P p.1 ∧ P p.2) → P (.dict pairs)) (v : PickleValue) : P v :=
  @PickleValue.rec P (fun l => ∀ v ∈ l, P v) (fun l => ∀ p ∈ l, P p.1 ∧ P p.2)
    (fun p => P p.1 ∧ P p.2) none bool int float string bytes list tuple dict
    (fun _ h => nomatch h) (fun _ _ hx hxs => List.forall_mem_cons.mpr ⟨hx, hxs⟩)
    (fun _ h => nomatch h) (fun _ _ hp hps => List.forall_mem_cons.mpr ⟨hp, hps⟩)
    (fun _ _ hk hv => ⟨hk, hv⟩) v

/-! ## Opcodes -/

/-- The pickle opcodes. -/
inductive Opcode where
  | proto | stop | none | newtrue | newfalse | binint1 | binint2 | binint | long1 | binfloat
  | binunicode | shortBinunicode | shortBinbytes | binbytes | binbytes8 | binunicode8
  | shortBinstring | binstring | emptyList | emptyDict | emptyTuple | mark | append | appends
  | setitem | setitems | list | dict | tuple | tuple1 | tuple2 | tuple3 | binput | longBinput
  | binget | longBinget | put | get | memoize | frame | int | float | string | unicode | pop | dup
  | popMark | global | reduce | build | newobj | stackGlobal
  deriving DecidableEq, Repr

namespace Opcode

/-- The byte of an opcode. -/
def byte : Opcode → UInt8
  | proto => 0x80
  | stop => '.'.toUInt8
  | none => 'N'.toUInt8
  | newtrue => 0x88
  | newfalse => 0x89
  | binint1 => 'K'.toUInt8
  | binint2 => 'M'.toUInt8
  | binint => 'J'.toUInt8
  | long1 => 0x8a
  | binfloat => 'G'.toUInt8
  | binunicode => 'X'.toUInt8
  | shortBinunicode => 0x8c
  | shortBinbytes => 'C'.toUInt8
  | binbytes => 'B'.toUInt8
  | binbytes8 => 0x8e
  | binunicode8 => 0x8d
  | shortBinstring => 'U'.toUInt8
  | binstring => 'T'.toUInt8
  | emptyList => ']'.toUInt8
  | emptyDict => '}'.toUInt8
  | emptyTuple => ')'.toUInt8
  | mark => '('.toUInt8
  | append => 'a'.toUInt8
  | appends => 'e'.toUInt8
  | setitem => 's'.toUInt8
  | setitems => 'u'.toUInt8
  | list => 'l'.toUInt8
  | dict => 'd'.toUInt8
  | tuple => 't'.toUInt8
  | tuple1 => 0x85
  | tuple2 => 0x86
  | tuple3 => 0x87
  | binput => 'q'.toUInt8
  | longBinput => 'r'.toUInt8
  | binget => 'h'.toUInt8
  | longBinget => 'j'.toUInt8
  | put => 'p'.toUInt8
  | get => 'g'.toUInt8
  | memoize => 0x94
  | frame => 0x95
  | int => 'I'.toUInt8
  | float => 'F'.toUInt8
  | string => 'S'.toUInt8
  | unicode => 'V'.toUInt8
  | pop => '0'.toUInt8
  | dup => '2'.toUInt8
  | popMark => '1'.toUInt8
  | global => 'c'.toUInt8
  | reduce => 'R'.toUInt8
  | build => 'b'.toUInt8
  | newobj => 0x81
  | stackGlobal => 0x93

/-- Every opcode. -/
def all : List Opcode :=
  [proto, stop, none, newtrue, newfalse, binint1, binint2, binint, long1, binfloat, binunicode,
   shortBinunicode, shortBinbytes, binbytes, binbytes8, binunicode8, shortBinstring, binstring,
   emptyList, emptyDict, emptyTuple, mark, append, appends, setitem, setitems, list, dict, tuple,
   tuple1, tuple2, tuple3, binput, longBinput, binget, longBinget, put, get, memoize, frame, int,
   float, string, unicode, pop, dup, popMark, global, reduce, build, newobj, stackGlobal]

/-- The opcode a byte stands for, if any. -/
def ofByte (b : UInt8) : Option Opcode := all.find? fun o => o.byte == b

/-- No two opcodes share a byte. -/
theorem ofByte_byte (o : Opcode) : ofByte o.byte = some o := by
  cases o <;> rfl

end Opcode

end ModalRs.Pickle
