/-
  File:      ModalRs/Pickle/Reference.lean
  Subject:   The pickle machine with a heap: lists and dicts are shared objects.

  This is the machine the format is defined by, written down on its own terms.
  Lists and dicts live in a heap, the stack and the memo hold references to
  them, and appending changes the object, whoever holds a reference to it. It
  reads its input with the decoder's `fetch` and stops at opcodes that are not
  data, mark, pop, container or memo opcodes.

  * `Ref`, `Obj`, `Heap`: references and objects. A reference to an object also
    counts the items that got there by way of it (`seen`); no rule of the
    machine reads that count.
  * `perform`, `machineStep`, `reference`: one instruction, one round, a run.
  * `treeOf`: the tree under a reference, when there is no cycle below it.
  * `Current`: no reference below this one misses an item of its object.
-/
import ModalRs.Pickle.Decode

namespace ModalRs.Pickle

open ModalRs.Lib ModalRs.Rust

/-! ## 1. The heap -/

/-- What the stack, the memo and the objects hold. -/
inductive Ref where
  | data (v : PickleValue)
  | tuple (items : List Ref)
  /-- The object at `addr`; `seen` of its items were there when the reference was made, or were
      appended by way of it. -/
  | obj (addr seen : Nat)

/-- A mutable object; a dict is its pairs in the order they were set. -/
inductive Obj where
  | list (items : List Ref)
  | dict (pairs : List (Ref × Ref))

/-- The number of items, or of pairs. -/
def Obj.size : Obj → Nat
  | .list items => items.length
  | .dict pairs => pairs.length

/-- An address is a position in the heap. -/
abbrev Heap : Type := List Obj

/-! ## 2. The machine -/

structure Machine extends Cursor where
  stack : List (Item Ref)
  memo : AssocMap UInt32 Ref
  heap : Heap

/-- Why the machine stops without a value. -/
inductive Refusal where
  | input | noValue | noMark | noMemo | notAList | notADict | oddItems | foreignOpcode
  deriving DecidableEq, Repr

namespace Machine

def new (data : List UInt8) : Machine where
  data := data
  pos := 0
  stack := []
  memo := .empty
  heap := []

def push (m : Machine) (r : Ref) : Machine := { m with stack := .value r :: m.stack }

/-- A new object, with a reference to it on the stack. -/
def alloc (m : Machine) (o : Obj) : Machine :=
  { m with heap := m.heap ++ [o], stack := .value (.obj m.heap.length o.size) :: m.stack }

def popValue (m : Machine) : Except Refusal (Ref × Machine) :=
  match Lib.popValue m.stack with
  | .ok (r, s) => .ok (r, { m with stack := s })
  | .error _ => .error .noValue

def popToMark (m : Machine) : Except Refusal (List Ref × Machine) :=
  match Lib.popToMark m.stack with
  | some (items, s) => .ok (items, { m with stack := s })
  | none => .error .noMark

/-- The reference on top, for the memo and for DUP. -/
def top (m : Machine) : Except Refusal Ref :=
  match m.stack with
  | .value r :: _ => .ok r
  | _ => .error .noValue

/-- Appends to the list that the top of the stack refers to. -/
def extendList (m : Machine) (items : List Ref) : Except Refusal Machine :=
  match m.stack with
  | .value (.obj addr seen) :: s =>
      match m.heap[addr]? with
      | some (.list old) =>
          .ok { m with
            heap := m.heap.set addr (.list (old ++ items))
            stack := .value (.obj addr (seen + items.length)) :: s }
      | _ => .error .notAList
  | _ => .error .notAList

/-- Sets pairs in the dict that the top of the stack refers to. -/
def extendDict (m : Machine) (pairs : List (Ref × Ref)) : Except Refusal Machine :=
  match m.stack with
  | .value (.obj addr seen) :: s =>
      match m.heap[addr]? with
      | some (.dict old) =>
          .ok { m with
            heap := m.heap.set addr (.dict (old ++ pairs))
            stack := .value (.obj addr (seen + pairs.length)) :: s }
      | _ => .error .notADict
  | _ => .error .notADict

end Machine

/-- Keys and values in turn, as pairs. -/
def pairUp {α : Type} : List α → Except Refusal (List (α × α))
  | [] => .ok []
  | [_] => .error .oddItems
  | k :: v :: rest => do
      let pairs ← pairUp rest
      .ok ((k, v) :: pairs)

/-- What an instruction does; STOP answers the heap and the top reference. -/
def perform (m : Machine) : Instr → Except Refusal (Machine ⊕ (Heap × Ref))
  | .skip => .ok (.inl m)
  | .stop => do
      let (r, m) ← m.popValue
      .ok (.inr (m.heap, r))
  | .data v => .ok (.inl (m.push (.data v)))
  | .emptyList => .ok (.inl (m.alloc (.list [])))
  | .emptyDict => .ok (.inl (m.alloc (.dict [])))
  | .emptyTuple => .ok (.inl (m.push (.tuple [])))
  | .mark => .ok (.inl { m with stack := .mark :: m.stack })
  | .list => do
      let (items, m) ← m.popToMark
      .ok (.inl (m.alloc (.list items)))
  | .dict => do
      let (items, m) ← m.popToMark
      let pairs ← pairUp items
      .ok (.inl (m.alloc (.dict pairs)))
  | .tuple => do
      let (items, m) ← m.popToMark
      .ok (.inl (m.push (.tuple items)))
  | .tuple1 => do
      let (a, m) ← m.popValue
      .ok (.inl (m.push (.tuple [a])))
  | .tuple2 => do
      let (b, m) ← m.popValue
      let (a, m) ← m.popValue
      .ok (.inl (m.push (.tuple [a, b])))
  | .tuple3 => do
      let (c, m) ← m.popValue
      let (b, m) ← m.popValue
      let (a, m) ← m.popValue
      .ok (.inl (m.push (.tuple [a, b, c])))
  | .append => do
      let (item, m) ← m.popValue
      let m ← m.extendList [item]
      .ok (.inl m)
  | .appends => do
      let (items, m) ← m.popToMark
      let m ← m.extendList items
      .ok (.inl m)
  | .setitem => do
      let (val, m) ← m.popValue
      let (key, m) ← m.popValue
      let m ← m.extendDict [(key, val)]
      .ok (.inl m)
  | .setitems => do
      let (items, m) ← m.popToMark
      let pairs ← pairUp items
      let m ← m.extendDict pairs
      .ok (.inl m)
  | .put idx => do
      let r ← m.top
      .ok (.inl { m with memo := m.memo.insert idx r })
  | .memoize => do
      let r ← m.top
      .ok (.inl { m with memo := m.memo.insert (.ofNat m.memo.size) r })
  | .get idx =>
      match m.memo.find? idx with
      | some r => .ok (.inl (m.push r))
      | none => .error .noMemo
  | .dup => do
      let r ← m.top
      .ok (.inl (m.push r))
  | .pop =>
      match m.stack with
      | _ :: s => .ok (.inl { m with stack := s })
      | [] => .error .noValue
  | .popMark => do
      let (_, m) ← m.popToMark
      .ok (.inl m)
  | .global | .stackGlobal | .reduce | .newobj | .build => .error .foreignOpcode

/-- One round. -/
def machineStep (m : Machine) : Except Refusal (Machine ⊕ (Heap × Ref)) :=
  match fetch m.toCursor with
  | .ok (instr, c) => perform { m with toCursor := c } instr
  | .error _ => .error .input

/-- A run: the heap and the reference it stops with. Every round reads a byte. -/
def reference (data : List UInt8) : Except Refusal (Heap × Ref) :=
  loop .input machineStep (data.length + 1) (Machine.new data)

/-! ## 3. Values -/

/-- The tree under a reference, for a heap without a cycle of more than `n` steps below it. -/
def treeOf (heap : Heap) : Nat → Ref → Option PickleValue
  | 0, _ => none
  | _ + 1, .data v => some v
  | n + 1, .tuple items => (items.mapM (treeOf heap n)).map .tuple
  | n + 1, .obj addr _ =>
      match heap[addr]? with
      | some (.list items) => (items.mapM (treeOf heap n)).map .list
      | some (.dict pairs) =>
          (pairs.mapM fun p : Ref × Ref => do
            let k ← treeOf heap n p.1
            let v ← treeOf heap n p.2
            some (k, v)).map .dict
      | none => none

/-- **Nothing below the reference is out of date**: every reference to an object has seen all the
    items the object has. -/
inductive Current (heap : Heap) : Ref → Prop where
  | data (v : PickleValue) : Current heap (.data v)
  | tuple (items : List Ref) (h : ∀ r ∈ items, Current heap r) : Current heap (.tuple items)
  | list (addr : Nat) (items : List Ref) (ho : heap[addr]? = some (.list items))
      (h : ∀ r ∈ items, Current heap r) : Current heap (.obj addr items.length)
  | dict (addr : Nat) (pairs : List (Ref × Ref)) (ho : heap[addr]? = some (.dict pairs))
      (hk : ∀ p ∈ pairs, Current heap p.1) (hv : ∀ p ∈ pairs, Current heap p.2) :
      Current heap (.obj addr pairs.length)

end ModalRs.Pickle
