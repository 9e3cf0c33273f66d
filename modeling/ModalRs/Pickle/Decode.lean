/-
  File:      ModalRs/Pickle/Decode.lean
  Subject:   The protocol 0-5 decoder, as the loop of the source: read an opcode, do it.

  Every arm of the source's `match` first reads the arguments that follow its
  opcode and then works on the stack and the memo. The model keeps the two
  halves of the arms apart: `fetch` reads an opcode with its arguments and
  answers an `Instr`, `exec` does it. Positions in error texts are the same,
  since `exec` no longer moves the position.

  * `readByte`, `readBytes`, `readLine`: the primitives, with the checked
    additions, indexings and slicings of the source.
  * `fetch`: one opcode and its arguments. The data opcodes end up as `Instr.data`.
  * `exec`: what an instruction does to the stack and the memo.
  * `decodeStep`, `decode`, `pickleDeserialize`: one round of the loop, the loop, the decoder.
-/
import ModalRs.Error
import ModalRs.Lib.Bytes
import ModalRs.Lib.Cursor
import ModalRs.Lib.Loop
import ModalRs.Lib.MarkedStack
import ModalRs.Pickle.Value
import ModalRs.Rust.Unicode

namespace ModalRs.Pickle

open ModalRs.Lib ModalRs.Rust

/-! ## 1. The read helpers -/

abbrev PickleReader (α : Type) : Type := Reader ModalError α

/-- `Decoder::err`. -/
def pickleErr (c : Cursor) (msg : String) : Stop ModalError :=
  .err (.serialization ("pickle decode error at " ++ toString c.pos ++ ": " ++ msg))

def readByte : PickleReader UInt8 := fun c =>
  if c.data.length ≤ c.pos then .error (pickleErr c "unexpected end of data")
  else do
    let b ← index c.data c.pos
    let pos ← usizeAdd c.pos 1
    .ok (b, { c with pos := pos })

def readBytes (n : Nat) : PickleReader (List UInt8) := fun c => do
  let stop ← usizeAdd c.pos n
  if c.data.length < stop then .error (pickleErr c "unexpected end of data")
  else do
    let bytes ← slice c.data c.pos stop
    .ok (bytes, { c with pos := stop })

/-- The array `[bytes[0], …, bytes[n - 1]]`. -/
def leading : Nat → List UInt8 → PickleReader (List UInt8)
  | 0, _ => pure []
  | _ + 1, [] => throw (.panic .indexOutOfRange)
  | n + 1, b :: bs => do
      let rest ← leading n bs
      pure (b :: rest)

/-- `n` bytes as the array that `from_le_bytes` and `from_be_bytes` take. -/
def readArray (n : Nat) : PickleReader (List UInt8) := do
  let bytes ← readBytes n
  leading n bytes

def readU16Le : PickleReader UInt16 := do
  let bytes ← readArray 2
  pure (.ofNat (leNat bytes))

def readI32Le : PickleReader Int32 := do
  let bytes ← readArray 4
  pure (i32OfLe bytes)

def readU32Le : PickleReader UInt32 := do
  let bytes ← readArray 4
  pure (.ofNat (leNat bytes))

def readU64Le : PickleReader UInt64 := do
  let bytes ← readArray 8
  pure (.ofNat (leNat bytes))

def readF64Be : PickleReader F64 := do
  let bytes ← readArray 8
  pure (.ofNat (leNat bytes.reverse))

/-- The loop of `read_line`: the position of the next line feed, or the end of the data. -/
def lineEnd : List UInt8 → Nat → Nat
  | [], pos => pos
  | b :: bs, pos => if b = 10 then pos else lineEnd bs (pos + 1)

def readLine : PickleReader (List UInt8) := fun c => do
  let stop := lineEnd c.rest c.pos
  if c.data.length ≤ stop then .error (pickleErr { c with pos := stop } "unterminated line")
  else do
    let line ← slice c.data c.pos stop
    let pos ← usizeAdd stop 1 -- skip \n
    .ok (line, { c with pos := pos })

/-- `.map_err(|e| self.err(&format!("{what}: {}", e)))?`. -/
def orErr {δ α : Type} (what : String) (display : δ → String) (x : Except δ α) :
    PickleReader α := fun c =>
  match x with
  | .ok a => .ok (a, c)
  | .error e => .error (pickleErr c (what ++ ": " ++ display e))

def utf8 (bytes : List UInt8) : PickleReader String :=
  orErr "invalid UTF-8" Utf8Error.display (fromUtf8 bytes)

/-- The memo index of `PUT` and `GET`: a decimal line. -/
def readIndexLine : PickleReader UInt32 := do
  let line ← readLine
  let s ← orErr "invalid memo index" Utf8Error.display (fromUtf8 line)
  orErr "invalid memo index" IntErrorKind.display (parseU32 (trim s.toList))

/-- Convert pickle long bytes (signed, little-endian) to i64. -/
def bytesToLong (bytes : List UInt8) : Res ModalError Int64 := do
  if bytes.isEmpty then .ok 0
  else
    -- sign-extend to 8 bytes
    let last ← index bytes (bytes.length - 1)
    let fill : UInt8 := if last &&& 0x80 ≠ 0 then 0xFF else 0x00
    let len := min bytes.length 8
    let low ← slice bytes 0 len
    .ok (i64OfLe (low ++ List.replicate (8 - len) fill))

/-! ## 2. Instructions -/

/-- An opcode with its arguments. -/
inductive Instr where
  | skip
  | stop
  | data (v : PickleValue)
  | emptyList | emptyDict | emptyTuple
  | mark | list | dict | tuple | tuple1 | tuple2 | tuple3
  | append | appends | setitem | setitems
  | put (idx : UInt32)
  | get (idx : UInt32)
  | memoize | pop | dup | popMark
  | global | stackGlobal | reduce | newobj | build
  deriving Repr

/-- The arguments that follow an opcode. -/
def fetchArgs : Opcode → PickleReader Instr
  | .proto => do
      let _version ← readByte
      pure .skip
  | .frame => do
      -- protocol 4+ frame: 8-byte frame size, just skip it
      let _frameSize ← readU64Le
      pure .skip
  | .stop => pure .stop
  | .none => pure (.data .none)
  | .newtrue => pure (.data (.bool true))
  | .newfalse => pure (.data (.bool false))
  | .binint1 => do
      let v ← readByte
      pure (.data (.int (.ofNat v.toNat)))
  | .binint2 => do
      let v ← readU16Le
      pure (.data (.int (.ofNat v.toNat)))
  | .binint => do
      let v ← readI32Le
      pure (.data (.int v.toInt64))
  | .long1 => do
      let n ← readByte
      let bytes ← readBytes n.toNat
      let v ← bytesToLong bytes
      pure (.data (.int v))
  | .binfloat => do
      let v ← readF64Be
      pure (.data (.float v))
  | .binunicode => do
      let len ← readU32Le
      let bytes ← readBytes len.toNat
      let s ← utf8 bytes
      pure (.data (.string s))
  | .shortBinunicode => do
      let len ← readByte
      let bytes ← readBytes len.toNat
      let s ← utf8 bytes
      pure (.data (.string s))
  | .binunicode8 => do
      let len ← readU64Le
      let bytes ← readBytes len.toNat
      let s ← utf8 bytes
      pure (.data (.string s))
  | .shortBinbytes => do
      let len ← readByte
      let bytes ← readBytes len.toNat
      pure (.data (.bytes bytes))
  | .binbytes => do
      let len ← readU32Le
      let bytes ← readBytes len.toNat
      pure (.data (.bytes bytes))
  | .binbytes8 => do
      let len ← readU64Le
      let bytes ← readBytes len.toNat
      pure (.data (.bytes bytes))
  | .shortBinstring => do
      let len ← readByte
      let bytes ← readBytes len.toNat
      pure (.data (.bytes bytes))
  | .binstring => do
      -- `i32 as usize` extends the sign
      let len ← readI32Le
      let bytes ← readBytes len.toInt64.toUInt64.toNat
      pure (.data (.bytes bytes))
  | .unicode => do
      let line ← readLine
      let s ← utf8 line
      pure (.data (.string s))
  | .string => do
      let line ← readLine
      let s ← utf8 line
      -- remove surrounding quotes
      let trimmed := trimMatches (· == '"') (trimMatches (· == '\'') s.toList)
      pure (.data (.bytes (asBytes (String.ofList trimmed))))
  | .int => do
      let line ← readLine
      let s ← utf8 line
      let s := trim s.toList
      if s = ['0', '0'] then pure (.data (.bool false))
      else if s = ['0', '1'] then pure (.data (.bool true))
      else
        let v ← orErr "invalid int" IntErrorKind.display (parseI64 s)
        pure (.data (.int v))
  | .float => do
      let line ← readLine
      let s ← utf8 line
      let v ← orErr "invalid float" FloatErrorKind.display (parseF64 (trim s.toList))
      pure (.data (.float v))
  | .emptyList => pure .emptyList
  | .emptyDict => pure .emptyDict
  | .emptyTuple => pure .emptyTuple
  | .mark => pure .mark
  | .list => pure .list
  | .dict => pure .dict
  | .tuple => pure .tuple
  | .tuple1 => pure .tuple1
  | .tuple2 => pure .tuple2
  | .tuple3 => pure .tuple3
  | .append => pure .append
  | .appends => pure .appends
  | .setitem => pure .setitem
  | .setitems => pure .setitems
  | .binput => do
      let idx ← readByte
      pure (.put idx.toUInt32)
  | .longBinput => do
      let idx ← readU32Le
      pure (.put idx)
  | .put => do
      let idx ← readIndexLine
      pure (.put idx)
  | .binget => do
      let idx ← readByte
      pure (.get idx.toUInt32)
  | .longBinget => do
      let idx ← readU32Le
      pure (.get idx)
  | .get => do
      let idx ← readIndexLine
      pure (.get idx)
  | .memoize => pure .memoize
  | .pop => pure .pop
  | .dup => pure .dup
  | .popMark => pure .popMark
  | .global => do
      let _module ← readLine
      let _name ← readLine
      pure .global
  | .stackGlobal => pure .stackGlobal
  | .reduce => pure .reduce
  | .newobj => pure .newobj
  | .build => pure .build

def hexDigit (n : Nat) : Char := (Nat.toDigits 16 n).headD '0'

/-- `{:02x}` of a byte. -/
def hex2 (b : UInt8) : String := String.ofList [hexDigit (b.toNat / 16), hexDigit (b.toNat % 16)]

/-- The `match` on the opcode byte. -/
def fetchOp (opcode : UInt8) : PickleReader Instr :=
  match Opcode.ofByte opcode with
  | some op => fetchArgs op
  | none => fun c => .error (pickleErr c ("unsupported opcode 0x" ++ hex2 opcode))

/-- One opcode and its arguments. -/
def fetch : PickleReader Instr := do
  let opcode ← readByte
  fetchOp opcode

/-! ## 3. The machine -/

abbrev StackItem : Type := Item PickleValue

/-- The decoder's state; the stack has its top in front. -/
structure Decoder extends Cursor where
  stack : List StackItem
  memo : AssocMap UInt32 PickleValue

namespace Decoder

/-- `Decoder::new`. -/
def new (data : List UInt8) : Decoder where
  data := data
  pos := 0
  stack := []
  memo := .empty

def push (d : Decoder) (v : PickleValue) : Decoder := { d with stack := .value v :: d.stack }

@[simp] theorem push_toCursor (d : Decoder) (v : PickleValue) :
    (d.push v).toCursor = d.toCursor := rfl

@[simp] theorem push_memo (d : Decoder) (v : PickleValue) : (d.push v).memo = d.memo := rfl

def err {α : Type} (d : Decoder) (msg : String) : Res ModalError α :=
  .error (pickleErr d.toCursor msg)

def popValue (d : Decoder) : Res ModalError (PickleValue × Decoder) :=
  match Lib.popValue d.stack with
  | .ok (v, s) => .ok (v, { d with stack := s })
  | .error .mark => d.err "unexpected mark on stack"
  | .error .underflow => d.err "stack underflow"

/-- Pop items from stack down to the most recent MARK, returning them in order. -/
def popToMark (d : Decoder) : Res ModalError (List PickleValue × Decoder) :=
  match Lib.popToMark d.stack with
  | some (items, s) => .ok (items, { d with stack := s })
  | none => d.err "MARK not found on stack"

/-- `if let Some(StackItem::Value(v)) = self.stack.last() { self.memo.insert(idx, v.clone()) }`. -/
def store (d : Decoder) (idx : UInt32) : Decoder :=
  match d.stack with
  | .value v :: _ => { d with memo := d.memo.insert idx v }
  | _ => d

end Decoder

/-- `items.chunks(2).map(|c| (c[0].clone(), c[1].clone()))`. -/
def chunks2 {ε α : Type} : List α → Res ε (List (α × α))
  | [] => .ok []
  | [_] => .error (.panic .indexOutOfRange)
  | a :: b :: rest => do
      let pairs ← chunks2 rest
      .ok ((a, b) :: pairs)

/-- The next state, or the value that ends the loop. -/
abbrev Outcome : Type := Decoder ⊕ PickleValue

/-- `if let Some(StackItem::Value(PickleValue::List(ref mut list))) = self.stack.last_mut()`:
    the list grows in place. -/
def Decoder.extendList (d : Decoder) (items : List PickleValue) (msg : String) :
    Res ModalError Outcome :=
  match d.stack with
  | .value (.list list) :: s => .ok (.inl { d with stack := .value (.list (list ++ items)) :: s })
  | _ => d.err msg

/-- The same for `PickleValue::Dict(ref mut pairs)`. -/
def Decoder.extendDict (d : Decoder) (newPairs : List (PickleValue × PickleValue)) (msg : String) :
    Res ModalError Outcome :=
  match d.stack with
  | .value (.dict pairs) :: s => .ok (.inl { d with stack := .value (.dict (pairs ++ newPairs)) :: s })
  | _ => d.err msg

/-- What an instruction does. -/
def exec (d : Decoder) : Instr → Res ModalError Outcome
  | .skip => .ok (.inl d)
  | .stop => do
      let (v, _) ← d.popValue
      .ok (.inr v)
  | .data v => .ok (.inl (d.push v))
  | .emptyList => .ok (.inl (d.push (.list [])))
  | .emptyDict => .ok (.inl (d.push (.dict [])))
  | .emptyTuple => .ok (.inl (d.push (.tuple [])))
  | .mark => .ok (.inl { d with stack := .mark :: d.stack })
  | .list => do
      let (items, d) ← d.popToMark
      .ok (.inl (d.push (.list items)))
  | .dict => do
      let (items, d) ← d.popToMark
      if items.length % 2 ≠ 0 then d.err "odd number of items for dict"
      else
        let pairs ← chunks2 items
        .ok (.inl (d.push (.dict pairs)))
  | .tuple => do
      let (items, d) ← d.popToMark
      .ok (.inl (d.push (.tuple items)))
  | .tuple1 => do
      let (a, d) ← d.popValue
      .ok (.inl (d.push (.tuple [a])))
  | .tuple2 => do
      let (b, d) ← d.popValue
      let (a, d) ← d.popValue
      .ok (.inl (d.push (.tuple [a, b])))
  | .tuple3 => do
      let (c, d) ← d.popValue
      let (b, d) ← d.popValue
      let (a, d) ← d.popValue
      .ok (.inl (d.push (.tuple [a, b, c])))
  | .append => do
      let (item, d) ← d.popValue
      d.extendList [item] "APPEND on non-list"
  | .appends => do
      let (items, d) ← d.popToMark
      d.extendList items "APPENDS on non-list"
  | .setitem => do
      let (val, d) ← d.popValue
      let (key, d) ← d.popValue
      d.extendDict [(key, val)] "SETITEM on non-dict"
  | .setitems => do
      let (items, d) ← d.popToMark
      if items.length % 2 ≠ 0 then d.err "odd number of items for SETITEMS"
      else
        let newPairs ← chunks2 items
        d.extendDict newPairs "SETITEMS on non-dict"
  | .put idx => .ok (.inl (d.store idx))
  | .get idx =>
      match d.memo.find? idx with
      | some v => .ok (.inl (d.push v))
      | none => d.err ("memo key " ++ toString idx.toNat ++ " not found")
  | .memoize => .ok (.inl (d.store (.ofNat d.memo.size)))
  | .pop => .ok (.inl { d with stack := d.stack.tail })
  | .dup =>
      match d.stack with
      | .value v :: _ => .ok (.inl (d.push v))
      | _ => .ok (.inl d)
  | .popMark => do
      let (_, d) ← d.popToMark
      .ok (.inl d)
  | .global => .ok (.inl (d.push .none)) -- a placeholder: arbitrary globals are not supported
  | .stackGlobal => do
      let (_name, d) ← d.popValue
      let (_module, d) ← d.popValue
      .ok (.inl (d.push .none))
  | .reduce => do
      let (_args, d) ← d.popValue
      let (_callable, d) ← d.popValue
      .ok (.inl (d.push .none)) -- nothing is called
  | .newobj => do
      let (_args, d) ← d.popValue
      let (_cls, d) ← d.popValue
      .ok (.inl (d.push .none))
  | .build => do
      let (_state, d) ← d.popValue
      .ok (.inl d)

/-- One round of the loop of `decode`. -/
def decodeStep (d : Decoder) : Res ModalError Outcome := do
  let (instr, c) ← fetch d.toCursor
  exec { d with toCursor := c } instr

/-- The number of bytes ahead: what every round makes smaller. -/
def Decoder.ahead (d : Decoder) : Nat := d.data.length - d.pos

/-- `Decoder::decode`. Every round reads at least its opcode, so one round more than there are
    bytes ahead is enough. -/
def decode (d : Decoder) : Res ModalError PickleValue :=
  loop .diverged decodeStep (d.ahead + 1) d

/-- Deserialize pickle bytes into a PickleValue. -/
def pickleDeserialize (data : List UInt8) : Res ModalError PickleValue := decode (Decoder.new data)

end ModalRs.Pickle
