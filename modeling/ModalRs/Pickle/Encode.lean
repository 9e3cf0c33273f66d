/-
  File:      ModalRs/Pickle/Encode.lean
  Subject:   The protocol 2 encoder.

  `encodeValue` and its companions return the bytes that the source pushes
  onto its buffer; the source's `Result` is always `Ok`. The type of the
  container and the size and sign of a number choose the opcode.

  * `payloadsFit`: every string and byte payload is shorter than `2 ^ 32`
    bytes, the range of the length prefixes.
-/
import ModalRs.Error
import ModalRs.Lib.Bytes
import ModalRs.Pickle.Value

namespace ModalRs.Pickle

open ModalRs.Lib ModalRs.Rust

/-! ## 1. Integers -/

/-- The trimming loop of `long_to_bytes`: drops high bytes equal to `fill` while more than one
    byte is left. -/
def trimLen (raw : List UInt8) (fill : UInt8) : Nat → Nat
  | 0 => 0
  | 1 => 1
  | n + 2 => if raw[n + 1]? = some fill then trimLen raw fill (n + 1) else n + 2

/-- Convert i64 to pickle long format (signed, little-endian, minimal bytes). -/
def longToBytes (v : Int64) : List UInt8 :=
  if v = 0 then []
  else
    let raw := i64ToLe v
    if 0 ≤ v then
      let len := trimLen raw 0 8
      -- an extra 0 byte keeps the sign positive
      if raw.getD (len - 1) 0 &&& 0x80 ≠ 0 then raw.take len ++ [0] else raw.take len
    else
      let len := trimLen raw 0xFF 8
      -- an extra 0xFF byte keeps the sign negative
      if raw.getD (len - 1) 0 &&& 0x80 = 0 then raw.take len ++ [0xFF] else raw.take len

/-- `encode_int`. -/
def encodeInt (v : Int64) : List UInt8 :=
  if 0 ≤ v ∧ v ≤ 0xFF then [Opcode.binint1.byte, v.toUInt64.toUInt8]
  else if 0 ≤ v ∧ v ≤ 0xFFFF then Opcode.binint2.byte :: leBytes 2 v.toUInt64.toUInt16.toNat
  else if -0x80000000 ≤ v ∧ v ≤ 0x7FFFFFFF then Opcode.binint.byte :: i32ToLe v.toInt32
  else
    let bytes := longToBytes v
    Opcode.long1.byte :: UInt8.ofNat bytes.length :: bytes

/-! ## 2. Values -/

mutual

/-- `encode_value`. -/
def encodeValue : PickleValue → List UInt8
  | .none => [Opcode.none.byte]
  | .bool true => [Opcode.newtrue.byte]
  | .bool false => [Opcode.newfalse.byte]
  | .int v => encodeInt v
  | .float v => Opcode.binfloat.byte :: (leBytes 8 v.toNat).reverse
  | .string s =>
      let bytes := asBytes s
      Opcode.binunicode.byte :: (leBytes 4 (UInt32.ofNat bytes.length).toNat ++ bytes)
  | .bytes b =>
      if b.length < 256 then Opcode.shortBinbytes.byte :: UInt8.ofNat b.length :: b
      else Opcode.binbytes.byte :: (leBytes 4 (UInt32.ofNat b.length).toNat ++ b)
  | .list items =>
      Opcode.emptyList.byte ::
        (if items.isEmpty then []
         else Opcode.mark.byte :: (encodeItems items ++ [Opcode.appends.byte]))
  | .tuple [] => [Opcode.emptyTuple.byte]
  | .tuple [a] => encodeValue a ++ [Opcode.tuple1.byte]
  | .tuple [a, b] => encodeValue a ++ encodeValue b ++ [Opcode.tuple2.byte]
  | .tuple [a, b, c] =>
      encodeValue a ++ encodeValue b ++ encodeValue c ++ [Opcode.tuple3.byte]
  | .tuple items => Opcode.mark.byte :: (encodeItems items ++ [Opcode.tuple.byte])
  | .dict pairs =>
      Opcode.emptyDict.byte ::
        (if pairs.isEmpty then []
         else Opcode.mark.byte :: (encodePairs pairs ++ [Opcode.setitems.byte]))

/-- The loop over the items of a list or a tuple. -/
def encodeItems : List PickleValue → List UInt8
  | [] => []
  | item :: items => encodeValue item ++ encodeItems items

/-- The loop over the pairs of a dict. -/
def encodePairs : List (PickleValue × PickleValue) → List UInt8
  | [] => []
  | (k, v) :: pairs => encodeValue k ++ encodeValue v ++ encodePairs pairs

end

/-- Serialize a PickleValue to pickle protocol 2 bytes. -/
def pickleSerialize (value : PickleValue) : Except ModalError (List UInt8) :=
  .ok (Opcode.proto.byte :: 2 :: (encodeValue value ++ [Opcode.stop.byte]))

/-! ## 3. Payload sizes -/

mutual

/-- Every `String` and `Bytes` payload inside the value is shorter than `2 ^ 32` bytes. -/
def payloadsFit : PickleValue → Bool
  | .string s => (asBytes s).length < 2 ^ 32
  | .bytes b => b.length < 2 ^ 32
  | .list items => itemsFit items
  | .tuple items => itemsFit items
  | .dict pairs => pairsFit pairs
  | .none | .bool _ | .int _ | .float _ => true

def itemsFit : List PickleValue → Bool
  | [] => true
  | item :: items => payloadsFit item && itemsFit items

def pairsFit : List (PickleValue × PickleValue) → Bool
  | [] => true
  | (k, v) :: pairs => payloadsFit k && payloadsFit v && pairsFit pairs

end

theorem itemsFit_iff (items : List PickleValue) :
    itemsFit items = true ↔ ∀ v ∈ items, payloadsFit v = true := by
  induction items with
  | nil => simp [itemsFit]
  | cons v items ih => simp [itemsFit, ih]

theorem pairsFit_iff (pairs : List (PickleValue × PickleValue)) :
    pairsFit pairs = true ↔ ∀ p ∈ pairs, payloadsFit p.1 = true ∧ payloadsFit p.2 = true := by
  induction pairs with
  | nil => simp [pairsFit]
  | cons p pairs ih => simp [pairsFit, ih, and_assoc]

end ModalRs.Pickle
