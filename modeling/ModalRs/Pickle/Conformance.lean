/-
  File:      ModalRs/Pickle/Conformance.lean
  Subject:   What the encoder writes, the machine with a heap reads.

  The round trip says that the two halves of the source agree with each other.
  This module holds the encoder against the machine that defines the format.

  * `MachineRuns`: the machine's counterpart of `Runs`, from heap to heap.
  * `Builds bs n`: on a heap of `n` objects, `bs` pushes one reference and adds
    objects; nothing below the reference is older than the first of them, so the
    heap below may change and the heap above may grow.
  * `encodeValue_builds`: so do the bytes of every value, by induction over its nesting.
  * `serialize_conforms`: the machine stops with a reference whose tree is the value.
-/
import ModalRs.Pickle.RoundTrip
import ModalRs.Pickle.Simulation

namespace ModalRs.Pickle

open ModalRs.Lib ModalRs.Rust

/-! ## 1. Runs of the machine -/

/-- The machine gets over `bs`, from one stack and heap to another, and keeps its memo. -/
def MachineRuns (bs : List UInt8) (s s' : List (Item Ref)) (heap heap' : Heap) : Prop :=
  ∀ (c : Cursor) (memo : AssocMap UInt32 Ref) (rest : List UInt8),
    c.Inside → c.rest = bs ++ rest → c.pos + bs.length < usizeSize →
      Reach machineStep ⟨c, s, memo, heap⟩ ⟨c.advance bs.length, s', memo, heap'⟩

theorem MachineRuns.nil (s : List (Item Ref)) (heap : Heap) : MachineRuns [] s s heap heap :=
  fun _ _ _ _ _ _ => Reach.refl _

theorem MachineRuns.append {bs bs' : List UInt8} {s t u : List (Item Ref)} {h₁ h₂ h₃ : Heap}
    (h : MachineRuns bs s t h₁ h₂) (h' : MachineRuns bs' t u h₂ h₃) :
    MachineRuns (bs ++ bs') s u h₁ h₃ := by
  intro c memo rest hc hrest hlim
  rw [List.append_assoc] at hrest
  rw [List.length_append] at hlim ⊢
  have hfst := h c memo (bs' ++ rest) hc hrest (by omega)
  have hsnd := h' (c.advance bs.length) memo rest (Cursor.inside_advance hc hrest)
    (Cursor.rest_advance hrest) (by rw [Cursor.advance_pos]; omega)
  rw [Cursor.advance_add] at hsnd
  exact hfst.trans hsnd

/-- One instruction that leaves the memo alone. -/
theorem MachineRuns.of_perform {bs : List UInt8} {s s' : List (Item Ref)} {heap heap' : Heap}
    {i : Instr} (h : Reads fetch i bs)
    (hx : ∀ c memo, perform ⟨c, s, memo, heap⟩ i = .ok (.inl ⟨c, s', memo, heap'⟩)) :
    MachineRuns bs s s' heap heap' := by
  intro c memo rest hc hrest hlim
  apply Reach.single
  have hf := h.full c rest hc hrest hlim
  simp only [machineStep, hf]
  exact hx _ memo

/-- An opcode without arguments. -/
theorem MachineRuns.op {op : Opcode} {i : Instr} {s s' : List (Item Ref)} {heap heap' : Heap}
    (hargs : fetchArgs op = pure i)
    (hx : ∀ c memo, perform ⟨c, s, memo, heap⟩ i = .ok (.inl ⟨c, s', memo, heap'⟩)) :
    MachineRuns [op.byte] s s' heap heap' :=
  .of_perform (fetch_reads (by rw [hargs]; exact .pure i)) hx

/-! ## 2. Fresh trees -/

/-- **Nothing below `r` is older than the objects `more`**: it is current on every heap that has
    them on top of `n` objects. -/
def Fresh (n : Nat) (more : Heap) (r : Ref) : Prop :=
  ∀ low later : Heap, low.length = n → Current (low ++ more ++ later) r

theorem Fresh.append {n : Nat} {more : Heap} {r : Ref} (h : Fresh n more r) (more' : Heap) :
    Fresh n (more ++ more') r := by
  intro low later hlow
  have hcur := h low (more' ++ later) hlow
  simp only [List.append_assoc] at hcur ⊢
  exact hcur

/-- Objects below the tree's own count as older ones. -/
theorem Fresh.above {n : Nat} {b more : Heap} {r : Ref} (h : Fresh (n + b.length) more r) :
    Fresh n (b ++ more) r := by
  intro low later hlow
  have hcur := h (low ++ b) later (by rw [List.length_append, hlow])
  simp only [List.append_assoc] at hcur ⊢
  exact hcur

/-- `bs` pushes one reference to a fresh tree, on any stack and any heap of `n` objects. -/
def Builds (bs : List UInt8) (n : Nat) : Prop :=
  ∃ (r : Ref) (more : Heap), Fresh n more r ∧
    ∀ s heap, heap.length = n → MachineRuns bs s (.value r :: s) heap (heap ++ more)

/-- References on a stack, the last one on top. -/
def pushedRefs (rs : List Ref) (s : List (Item Ref)) : List (Item Ref) :=
  rs.reverse.map Item.value ++ s

theorem pushedRefs_cons (r : Ref) (rs : List Ref) (s : List (Item Ref)) :
    pushedRefs (r :: rs) s = pushedRefs rs (.value r :: s) := by
  simp [pushedRefs]

/-- The same for `k` references. -/
def BuildsAll (bs : List UInt8) (k n : Nat) : Prop :=
  ∃ (rs : List Ref) (more : Heap), rs.length = k ∧ (∀ r ∈ rs, Fresh n more r) ∧
    ∀ s heap, heap.length = n → MachineRuns bs s (pushedRefs rs s) heap (heap ++ more)

theorem BuildsAll.nil (n : Nat) : BuildsAll [] 0 n :=
  ⟨[], [], rfl, List.forall_mem_nil _, fun s heap _ => by
    rw [List.append_nil]
    exact .nil s heap⟩

theorem BuildsAll.cons {bs bs' : List UInt8} {k n : Nat} (h : ∀ m, Builds bs m)
    (h' : ∀ m, BuildsAll bs' k m) : BuildsAll (bs ++ bs') (k + 1) n := by
  obtain ⟨r, more, hr, hrun⟩ := h n
  obtain ⟨rs, more', hlen, hrs, hrun'⟩ := h' (n + more.length)
  refine ⟨r :: rs, more ++ more', by rw [List.length_cons, hlen], fun q hq => ?_,
    fun s heap hheap => ?_⟩
  · rcases List.mem_cons.mp hq with rfl | hq
    · exact hr.append more'
    · exact (hrs q hq).above
  · have hfst := hrun s heap hheap
    have hsnd := hrun' (.value r :: s) (heap ++ more) (by rw [List.length_append, hheap])
    rw [pushedRefs_cons, ← List.append_assoc]
    exact hfst.append hsnd

/-- An instruction that pushes data. -/
theorem Builds.data {bs : List UInt8} {v : PickleValue} (h : Reads fetch (.data v) bs) (n : Nat) :
    Builds bs n :=
  ⟨.data v, [], fun _ _ _ => .data v, fun s heap _ => by
    rw [List.append_nil]
    exact .of_perform h fun _ _ => rfl⟩

/-! ## 3. Containers -/

theorem Fresh.tuple {n : Nat} {more : Heap} {rs : List Ref} (h : ∀ r ∈ rs, Fresh n more r) :
    Fresh n more (.tuple rs) :=
  fun low later hlow => .tuple rs fun r hr => h r hr low later hlow

theorem Fresh.list {n : Nat} {more : Heap} {rs : List Ref} (h : ∀ r ∈ rs, Fresh (n + 1) more r) :
    Fresh n (.list rs :: more) (.obj n rs.length) := by
  intro low later hlow
  refine .list n rs ?_ fun r hr => (h r hr).above (b := [.list rs]) low later hlow
  rw [List.append_assoc, List.getElem?_append_right (by omega), hlow, Nat.sub_self]
  rfl

theorem Fresh.dict {n : Nat} {more : Heap} {ps : List (Ref × Ref)}
    (h : ∀ p ∈ ps, Fresh (n + 1) more p.1 ∧ Fresh (n + 1) more p.2) :
    Fresh n (.dict ps :: more) (.obj n ps.length) := by
  intro low later hlow
  refine .dict n ps ?_ (fun p hp => (h p hp).1.above (b := [.dict ps]) low later hlow)
    fun p hp => (h p hp).2.above (b := [.dict ps]) low later hlow
  rw [List.append_assoc, List.getElem?_append_right (by omega), hlow, Nat.sub_self]
  rfl

theorem machine_popToMark (c : Cursor) (memo : AssocMap UInt32 Ref) (heap : Heap)
    (rs : List Ref) (s : List (Item Ref)) :
    Machine.popToMark ⟨c, pushedRefs rs (.mark :: s), memo, heap⟩ = .ok (rs, ⟨c, s, memo, heap⟩) := by
  have h : Lib.popToMark (pushedRefs rs (.mark :: s)) = some (rs, s) := popToMark_pushed rs s
  simp only [Machine.popToMark, h]

theorem machine_mark (s : List (Item Ref)) (heap : Heap) :
    MachineRuns [Opcode.mark.byte] s (.mark :: s) heap heap :=
  .op rfl fun _ _ => rfl

/-- The object that was allocated last but for `more`. -/
theorem getElem?_below (heap : Heap) (o : Obj) (more : Heap) :
    (heap ++ o :: more)[heap.length]? = some o := by
  rw [List.getElem?_append_right (Nat.le_refl _), Nat.sub_self]
  rfl

theorem set_below (heap : Heap) (o o' : Obj) (more : Heap) :
    (heap ++ o :: more).set heap.length o' = heap ++ o' :: more := by
  rw [List.set_append_right _ _ (Nat.le_refl _), Nat.sub_self]
  rfl

theorem machine_emptyList (s : List (Item Ref)) (heap : Heap) :
    MachineRuns [Opcode.emptyList.byte] s (.value (.obj heap.length 0) :: s) heap
      (heap ++ [.list []]) :=
  .op rfl fun _ _ => rfl

theorem machine_emptyDict (s : List (Item Ref)) (heap : Heap) :
    MachineRuns [Opcode.emptyDict.byte] s (.value (.obj heap.length 0) :: s) heap
      (heap ++ [.dict []]) :=
  .op rfl fun _ _ => rfl

theorem machine_appends (rs : List Ref) (s : List (Item Ref)) (heap more : Heap) :
    MachineRuns [Opcode.appends.byte]
      (pushedRefs rs (.mark :: .value (.obj heap.length 0) :: s))
      (.value (.obj heap.length rs.length) :: s) (heap ++ .list [] :: more)
      (heap ++ .list rs :: more) :=
  .op rfl fun c memo => by
    simp only [perform, machine_popToMark, bind, Except.bind, Machine.extendList, getElem?_below,
      set_below, List.nil_append, Nat.zero_add]

/-- Evenly many references are the references of some pairs. -/
theorem pairUp_even : ∀ (rs : List Ref), rs.length % 2 = 0 →
    ∃ ps, pairUp rs = .ok ps ∧ 2 * ps.length = rs.length ∧ ∀ p ∈ ps, p.1 ∈ rs ∧ p.2 ∈ rs
  | [], _ => ⟨[], rfl, rfl, fun _ hp => nomatch hp⟩
  | [_], h => absurd h Nat.one_ne_zero
  | k :: v :: rs, h => by
      have hrs : rs.length % 2 = 0 := by
        simp only [List.length_cons] at h
        omega
      obtain ⟨ps, hps, hlen, hmem⟩ := pairUp_even rs hrs
      refine ⟨(k, v) :: ps, by rw [pairUp, hps]; rfl, ?_, fun p hp => ?_⟩
      · simp only [List.length_cons]
        omega
      · rcases List.mem_cons.mp hp with rfl | hp
        · simp
        · obtain ⟨h₁, h₂⟩ := hmem p hp
          exact ⟨by simp [h₁], by simp [h₂]⟩

theorem machine_setitems {rs : List Ref} {ps : List (Ref × Ref)} (hps : pairUp rs = .ok ps)
    (s : List (Item Ref)) (heap more : Heap) :
    MachineRuns [Opcode.setitems.byte]
      (pushedRefs rs (.mark :: .value (.obj heap.length 0) :: s))
      (.value (.obj heap.length ps.length) :: s) (heap ++ .dict [] :: more)
      (heap ++ .dict ps :: more) :=
  .op rfl fun c memo => by
    simp only [perform, machine_popToMark, bind, Except.bind, hps, Machine.extendDict,
      getElem?_below, set_below, List.nil_append, Nat.zero_add]

theorem builds_emptyList (n : Nat) : Builds [Opcode.emptyList.byte] n :=
  ⟨.obj n 0, [.list []], Fresh.list (List.forall_mem_nil _), fun s heap hheap => by
    rw [← hheap]
    exact machine_emptyList s heap⟩

theorem builds_emptyDict (n : Nat) : Builds [Opcode.emptyDict.byte] n :=
  ⟨.obj n 0, [.dict []], Fresh.dict (List.forall_mem_nil _), fun s heap hheap => by
    rw [← hheap]
    exact machine_emptyDict s heap⟩

/-- The list is allocated first, below everything in it, and filled last. -/
theorem builds_list {bs : List UInt8} {k : Nat} (h : ∀ m, BuildsAll bs k m) (n : Nat) :
    Builds ([Opcode.emptyList.byte] ++ ([Opcode.mark.byte] ++ (bs ++ [Opcode.appends.byte]))) n := by
  obtain ⟨rs, more, -, hrs, hrun⟩ := h (n + 1)
  refine ⟨.obj n rs.length, .list rs :: more, Fresh.list hrs, fun s heap hheap => ?_⟩
  subst hheap
  have halloc := machine_emptyList s heap
  have hmark := machine_mark (.value (.obj heap.length 0) :: s) (heap ++ [.list []])
  have hitems := hrun (.mark :: .value (.obj heap.length 0) :: s) (heap ++ [.list []])
    (by rw [List.length_append, List.length_singleton])
  have hfill := machine_appends rs s heap more
  rw [List.append_assoc] at hitems
  exact halloc.append (hmark.append (hitems.append hfill))

theorem builds_dict {bs : List UInt8} {k : Nat} (h : ∀ m, BuildsAll bs (2 * k) m) (n : Nat) :
    Builds ([Opcode.emptyDict.byte] ++ ([Opcode.mark.byte] ++ (bs ++ [Opcode.setitems.byte]))) n := by
  obtain ⟨rs, more, hlen, hrs, hrun⟩ := h (n + 1)
  obtain ⟨ps, hps, -, hmem⟩ := pairUp_even rs (by omega)
  have hfresh : ∀ p ∈ ps, Fresh (n + 1) more p.1 ∧ Fresh (n + 1) more p.2 :=
    fun p hp => ⟨hrs _ (hmem p hp).1, hrs _ (hmem p hp).2⟩
  refine ⟨.obj n ps.length, .dict ps :: more, Fresh.dict hfresh, fun s heap hheap => ?_⟩
  subst hheap
  have halloc := machine_emptyDict s heap
  have hmark := machine_mark (.value (.obj heap.length 0) :: s) (heap ++ [.dict []])
  have hitems := hrun (.mark :: .value (.obj heap.length 0) :: s) (heap ++ [.dict []])
    (by rw [List.length_append, List.length_singleton])
  have hfill := machine_setitems hps s heap more
  rw [List.append_assoc] at hitems
  exact halloc.append (hmark.append (hitems.append hfill))

/-- A tuple is what the last opcode makes of the references above what was there. -/
theorem builds_tuple {bs : List UInt8} {k : Nat} (h : ∀ m, BuildsAll bs k m) {last : List UInt8}
    (hlast : ∀ rs s heap, rs.length = k →
      MachineRuns last (pushedRefs rs s) (.value (.tuple rs) :: s) heap heap) (n : Nat) :
    Builds (bs ++ last) n := by
  obtain ⟨rs, more, hlen, hrs, hrun⟩ := h n
  exact ⟨.tuple rs, more, Fresh.tuple hrs, fun s heap hheap =>
    (hrun s heap hheap).append (hlast rs s _ hlen)⟩

theorem builds_marked {bs : List UInt8} {k : Nat} (h : ∀ m, BuildsAll bs k m) (n : Nat) :
    Builds ([Opcode.mark.byte] ++ (bs ++ [Opcode.tuple.byte])) n := by
  obtain ⟨rs, more, -, hrs, hrun⟩ := h n
  refine ⟨.tuple rs, more, Fresh.tuple hrs, fun s heap hheap => ?_⟩
  have hitems := hrun (.mark :: s) heap hheap
  have htuple : MachineRuns [Opcode.tuple.byte] (pushedRefs rs (.mark :: s))
      (.value (.tuple rs) :: s) (heap ++ more) (heap ++ more) :=
    .op rfl fun c memo => by
      simp only [perform, machine_popToMark, bind, Except.bind]
      rfl
  exact (machine_mark s heap).append (hitems.append htuple)

/-! ## 4. Values -/

theorem encodeItems_builds : ∀ (items : List PickleValue),
    (∀ v ∈ items, ∀ n, Builds (encodeValue v) n) → ∀ n, BuildsAll (encodeItems items) items.length n
  | [], _, n => .nil n
  | v :: items, h, n => by
      rw [encodeItems]
      exact .cons (h v List.mem_cons_self)
        (encodeItems_builds items fun w hw => h w (List.mem_cons_of_mem v hw))

theorem encodePairs_builds : ∀ (pairs : List (PickleValue × PickleValue)),
    (∀ p ∈ pairs, (∀ n, Builds (encodeValue p.1) n) ∧ ∀ n, Builds (encodeValue p.2) n) →
      ∀ n, BuildsAll (encodePairs pairs) (2 * pairs.length) n
  | [], _, n => .nil n
  | (k, v) :: pairs, h, n => by
      obtain ⟨hk, hv⟩ := h (k, v) List.mem_cons_self
      have hrest := encodePairs_builds pairs fun q hq => h q (List.mem_cons_of_mem _ hq)
      rw [encodePairs, List.append_assoc, List.length_cons, Nat.mul_succ]
      exact .cons hk fun m => .cons hv hrest

theorem encodeTuple_builds {items : List PickleValue}
    (h : ∀ v ∈ items, ∀ n, Builds (encodeValue v) n) (n : Nat) :
    Builds (encodeValue (.tuple items)) n := by
  have hall := encodeItems_builds items h
  match items, h, hall with
  | [], _, hall =>
    rw [encodeValue]
    refine builds_tuple hall (fun rs s heap hlen => ?_) n
    cases List.eq_nil_of_length_eq_zero hlen
    exact .op rfl fun _ _ => rfl
  | [a], _, hall =>
    rw [encodeItems, encodeItems, List.append_nil] at hall
    rw [encodeValue]
    refine builds_tuple hall (fun rs s heap hlen => ?_) n
    obtain ⟨x, rfl⟩ := List.length_eq_one_iff.mp hlen
    exact .op rfl fun _ _ => rfl
  | [a, b], _, hall =>
    rw [encodeItems, encodeItems, encodeItems, List.append_nil] at hall
    rw [encodeValue]
    refine builds_tuple hall (fun rs s heap hlen => ?_) n
    obtain ⟨x, y, rfl⟩ := List.length_eq_two.mp hlen
    exact .op rfl fun _ _ => rfl
  | [a, b, c], _, hall =>
    rw [encodeItems, encodeItems, encodeItems, encodeItems, List.append_nil,
      ← List.append_assoc] at hall
    rw [encodeValue]
    refine builds_tuple hall (fun rs s heap hlen => ?_) n
    obtain ⟨x, y, z, rfl⟩ := List.length_eq_three.mp hlen
    exact .op rfl fun _ _ => rfl
  | a :: b :: c :: d :: items, _, hall =>
    have henc : encodeValue (.tuple (a :: b :: c :: d :: items)) =
        [Opcode.mark.byte] ++
          (encodeItems (a :: b :: c :: d :: items) ++ [Opcode.tuple.byte]) := by
      rw [encodeValue] <;> simp
    rw [henc]
    exact builds_marked hall n

/-- **The bytes of a value push a reference to a fresh tree.** -/
theorem encodeValue_builds (v : PickleValue) (hfit : payloadsFit v = true) :
    ∀ n, Builds (encodeValue v) n := by
  induction v using PickleValue.induction with
  | none => exact .data (@fetch_reads .none _ _ (Reads.pure _))
  | bool b =>
    cases b with
    | false => exact .data (@fetch_reads .newfalse _ _ (Reads.pure _))
    | true => exact .data (@fetch_reads .newtrue _ _ (Reads.pure _))
  | int v => exact .data (encodeInt_reads v)
  | float v => exact .data (fetch_reads (binfloat_reads v))
  | string str =>
    rw [payloadsFit, decide_eq_true_eq] at hfit
    exact .data (fetch_reads (binunicode_reads hfit))
  | bytes b =>
    rw [payloadsFit, decide_eq_true_eq] at hfit
    rw [encodeValue]
    by_cases hshort : b.length < 256
    · rw [if_pos hshort]
      exact .data (fetch_reads (shortBinbytes_reads hshort))
    · rw [if_neg hshort]
      exact .data (fetch_reads (binbytes_reads hfit))
  | list items ih =>
    rw [payloadsFit, itemsFit_iff] at hfit
    have hitems := encodeItems_builds items fun v hv => ih v hv (hfit v hv)
    rw [encodeValue]
    cases items with
    | nil => exact builds_emptyList
    | cons a items => exact builds_list hitems
  | tuple items ih =>
    rw [payloadsFit, itemsFit_iff] at hfit
    exact encodeTuple_builds fun v hv => ih v hv (hfit v hv)
  | dict pairs ih =>
    rw [payloadsFit, pairsFit_iff] at hfit
    have hpairs := encodePairs_builds pairs fun q hq =>
      ⟨(ih q hq).1 (hfit q hq).1, (ih q hq).2 (hfit q hq).2⟩
    rw [encodeValue]
    cases pairs with
    | nil => exact builds_emptyDict
    | cons p pairs => exact builds_dict hpairs

/-! ## 5. The whole input -/

/-- The protocol header changes nothing. -/
theorem machine_proto (version : UInt8) (s : List (Item Ref)) (heap : Heap) :
    MachineRuns [Opcode.proto.byte, version] s s heap heap :=
  .of_perform (fetch_reads ((readByte_reads version).bind (Reads.pure Instr.skip))) fun _ _ => rfl

/-- How an instruction of the machine may end when it started at `c`. -/
inductive Stays (c : Cursor) : Except Refusal (Machine ⊕ (Heap × Ref)) → Prop where
  | goes {m : Machine} (h : m.toCursor = c) : Stays c (.ok (.inl m))
  | returns (p : Heap × Ref) : Stays c (.ok (.inr p))
  | fails (e : Refusal) : Stays c (.error e)

namespace Stays

variable {c : Cursor} {m : Machine}

theorem bind {α : Type} (x : Except Refusal α)
    {k : α → Except Refusal (Machine ⊕ (Heap × Ref))} (hk : ∀ a, x = .ok a → Stays c (k a)) :
    Stays c (x >>= k) := by
  cases x with
  | error e => exact .fails e
  | ok a => exact hk a rfl

theorem popValue (hm : m.toCursor = c) {k : Ref × Machine → Except Refusal (Machine ⊕ (Heap × Ref))}
    (hk : ∀ r m', m'.toCursor = c → Stays c (k (r, m'))) : Stays c (m.popValue >>= k) := by
  unfold Machine.popValue
  cases Lib.popValue m.stack with
  | ok p => exact hk p.1 _ hm
  | error e => exact .fails _

theorem popToMark (hm : m.toCursor = c)
    {k : List Ref × Machine → Except Refusal (Machine ⊕ (Heap × Ref))}
    (hk : ∀ rs m', m'.toCursor = c → Stays c (k (rs, m'))) : Stays c (m.popToMark >>= k) := by
  unfold Machine.popToMark
  cases Lib.popToMark m.stack with
  | some p => exact hk p.1 _ hm
  | none => exact .fails _

theorem extendList (hm : m.toCursor = c) (items : List Ref) :
    Stays c (m.extendList items >>= fun m' => .ok (.inl m')) := by
  refine bind _ fun m' hext => .goes ?_
  unfold Machine.extendList at hext
  split at hext
  · split at hext
    · cases hext
      exact hm
    · cases hext
  · cases hext

theorem extendDict (hm : m.toCursor = c) (pairs : List (Ref × Ref)) :
    Stays c (m.extendDict pairs >>= fun m' => .ok (.inl m')) := by
  refine bind _ fun m' hext => .goes ?_
  unfold Machine.extendDict at hext
  split at hext
  · split at hext
    · cases hext
      exact hm
    · cases hext
  · cases hext

end Stays

/-- No instruction moves the machine in its input. -/
theorem perform_stays (m : Machine) (i : Instr) : Stays m.toCursor (perform m i) := by
  cases i with
  | skip => exact .goes rfl
  | stop => exact .popValue rfl fun _ _ _ => .returns _
  | data v => exact .goes rfl
  | emptyList => exact .goes rfl
  | emptyDict => exact .goes rfl
  | emptyTuple => exact .goes rfl
  | mark => exact .goes rfl
  | list => exact .popToMark rfl fun _ _ h => .goes h
  | dict => exact .popToMark rfl fun _ _ h => .bind _ fun _ _ => .goes h
  | tuple => exact .popToMark rfl fun _ _ h => .goes h
  | tuple1 => exact .popValue rfl fun _ _ h => .goes h
  | tuple2 => exact .popValue rfl fun _ _ h => .popValue h fun _ _ h => .goes h
  | tuple3 =>
    exact .popValue rfl fun _ _ h => .popValue h fun _ _ h => .popValue h fun _ _ h => .goes h
  | append => exact .popValue rfl fun r _ h => .extendList h [r]
  | appends => exact .popToMark rfl fun rs _ h => .extendList h rs
  | setitem =>
    exact .popValue rfl fun v _ h => .popValue h fun k _ h => .extendDict h [(k, v)]
  | setitems => exact .popToMark rfl fun _ _ h => .bind _ fun ps _ => .extendDict h ps
  | put idx => exact .bind _ fun _ _ => .goes rfl
  | memoize => exact .bind _ fun _ _ => .goes rfl
  | get idx =>
    simp only [perform]
    cases m.memo.find? idx with
    | some r => exact .goes rfl
    | none => exact .fails _
  | dup => exact .bind _ fun _ _ => .goes rfl
  | pop =>
    simp only [perform]
    split
    · exact .goes rfl
    · exact .fails _
  | popMark => exact .popToMark rfl fun _ _ h => .goes h
  | global => exact .fails _
  | stackGlobal => exact .fails _
  | reduce => exact .fails _
  | newobj => exact .fails _
  | build => exact .fails _

/-- A round reads at least its opcode, so the fuel of `reference` is enough. -/
theorem machineStep_ahead (m m' : Machine) (h : machineStep m = .ok (.inl m')) :
    m'.data.length - m'.pos < m.data.length - m.pos := by
  unfold machineStep at h
  cases hf : fetch m.toCursor with
  | error e =>
    rw [hf] at h
    cases h
  | ok p =>
    rw [hf] at h
    obtain ⟨hdata, hpos, hin⟩ := fetch_advances hf
    have hstays := perform_stays { m with toCursor := p.2 } p.1
    rw [show perform { m with toCursor := p.2 } p.1 = _ from h] at hstays
    cases hstays with
    | goes hcur =>
      have hcur' : m'.toCursor = p.2 := hcur
      rw [hcur', hdata]
      simp only [Cursor.Inside, hdata] at hin
      omega

/-- What can be read of each element from some depth on can be read of all of them. -/
theorem mapM_eventually {α β : Type} {f : Nat → α → Option β} {as : List α}
    (h : ∀ a ∈ as, ∃ n b, ∀ m, n ≤ m → f m a = some b) :
    ∃ n bs, ∀ m, n ≤ m → as.mapM (f m) = some bs := by
  induction as with
  | nil => exact ⟨0, [], fun _ _ => rfl⟩
  | cons a as ih =>
    obtain ⟨ha, has⟩ := List.forall_mem_cons.mp h
    obtain ⟨n, b, hb⟩ := ha
    obtain ⟨n', bs, hbs⟩ := ih has
    refine ⟨max n n', b :: bs, fun m hm => ?_⟩
    rw [List.mapM_cons, hb m (by omega), hbs m (by omega)]
    rfl

/-- **A reference that is current has a tree**: nothing that is current lies on a cycle. -/
theorem Current.tree {heap : Heap} {r : Ref} (h : Current heap r) :
    ∃ n t, ∀ m, n ≤ m → treeOf heap m r = some t := by
  induction h with
  | data v =>
    refine ⟨1, v, fun m hm => ?_⟩
    obtain ⟨m, rfl⟩ := Nat.exists_eq_add_of_le' hm
    rfl
  | tuple items _ ih =>
    obtain ⟨n, ts, hts⟩ := mapM_eventually ih
    refine ⟨n + 1, .tuple ts, fun m hm => ?_⟩
    obtain ⟨m, rfl⟩ := Nat.exists_eq_add_of_le' (Nat.le_trans (Nat.le_add_left 1 n) hm)
    rw [treeOf, hts m (by omega)]
    rfl
  | list addr items ho _ ih =>
    obtain ⟨n, ts, hts⟩ := mapM_eventually ih
    refine ⟨n + 1, .list ts, fun m hm => ?_⟩
    obtain ⟨m, rfl⟩ := Nat.exists_eq_add_of_le' (Nat.le_trans (Nat.le_add_left 1 n) hm)
    simp only [treeOf, ho, hts m (by omega)]
    rfl
  | dict addr pairs ho _ _ ihk ihv =>
    have hpair : ∀ p ∈ pairs, ∃ n t, ∀ m, n ≤ m → pairTree heap m p = some t := by
      intro p hp
      obtain ⟨n, k, hk⟩ := ihk p hp
      obtain ⟨n', v, hv⟩ := ihv p hp
      refine ⟨max n n', (k, v), fun m hm => ?_⟩
      rw [pairTree, hk m (by omega), hv m (by omega)]
      rfl
    obtain ⟨n, ts, hts⟩ := mapM_eventually hpair
    refine ⟨n + 1, .dict ts, fun m hm => ?_⟩
    obtain ⟨m, rfl⟩ := Nat.exists_eq_add_of_le' (Nat.le_trans (Nat.le_add_left 1 n) hm)
    have hm' : pairs.mapM (pairTree heap m) = some ts := hts m (by omega)
    simp only [treeOf, ho]
    exact congrArg (Option.map PickleValue.dict) hm'

/-- The machine runs to the end of what the encoder wrote, and stops with a current reference. -/
theorem reference_serialized {v : PickleValue} (hfit : payloadsFit v = true) {b : List UInt8}
    (hb : pickleSerialize v = .ok b) (hslice : IsSlice b) :
    ∃ heap r, reference b = .ok (heap, r) ∧ Current heap r := by
  cases hb
  obtain ⟨r, heap, hfresh, hbuild⟩ := encodeValue_builds v hfit 0
  have hruns := (machine_proto 2 [] []).append (hbuild [] [] rfl)
  have hcur : Current heap r := by
    have h := hfresh [] [] rfl
    rw [List.nil_append, List.append_nil] at h
    exact h
  have heq : Opcode.proto.byte :: 2 :: (encodeValue v ++ [Opcode.stop.byte]) =
      [Opcode.proto.byte, 2] ++ encodeValue v ++ [Opcode.stop.byte] := by simp
  rw [heq] at hslice ⊢
  generalize hbs : [Opcode.proto.byte, 2] ++ encodeValue v = bs at hruns hslice ⊢
  simp only [IsSlice, isizeMax, List.length_append, List.length_singleton] at hslice
  have hlim : bs.length + 1 < usizeSize := by
    simp only [usizeSize]
    omega
  have hreach := hruns ⟨bs ++ [Opcode.stop.byte], 0⟩ .empty [Opcode.stop.byte] (Nat.zero_le _) rfl
    (by show 0 + bs.length < usizeSize; omega)
  have hstop : Reads fetch .stop [Opcode.stop.byte] := fetch_reads (Reads.pure _)
  have hin : (Cursor.advance ⟨bs ++ [Opcode.stop.byte], 0⟩ bs.length).Inside :=
    @Cursor.inside_advance _ _ [Opcode.stop.byte] (Nat.zero_le _) rfl
  have hf := hstop.full _ [] hin (Cursor.rest_advance rfl)
    (by show 0 + bs.length + 1 < usizeSize; omega)
  refine ⟨heap, r, loop_of_reach_return machineStep_ahead hreach ?_, hcur⟩
  simp only [machineStep, hf]
  rfl

/-- **What the encoder writes means the value to the machine that defines the format**, whichever
    decoder reads it, if the length of every string and byte string in it fits its field of 32
    bits: the machine stops, nothing it stops with is out of date, and the tree under its reference
    is the value. -/
theorem serialize_conforms {v : PickleValue} (hfit : payloadsFit v = true) {b : List UInt8}
    (hb : pickleSerialize v = .ok b) (hslice : IsSlice b) :
    ∃ heap r n, reference b = .ok (heap, r) ∧ Current heap r ∧ treeOf heap n r = some v := by
  obtain ⟨heap, r, hrun, hcur⟩ := reference_serialized hfit hb hslice
  obtain ⟨n, t, ht⟩ := hcur.tree
  -- the decoder answers both the value and what the reference shows
  obtain ⟨v', hv', hshows⟩ := reference_shows hrun
  rw [pickleDeserialize_serialized hfit hb hslice] at hv'
  cases hv'
  have heq : v = t := (shows_tree n hshows (ht n (le_refl n))).mpr hcur
  exact ⟨heap, r, n, hrun, hcur, by rw [heq]; exact ht n (le_refl n)⟩

/-- A list that is nested in a dict, in a pair. -/
theorem serialize_conforms_nested :
    ∃ heap r n, reference [0x80, 2, 0x7d, 0x28, 0x4b, 1, 0x5d, 0x28, 0x4b, 2, 0x65, 0x75, 0x4e, 0x86,
        0x2e] = .ok (heap, r) ∧ Current heap r ∧
      treeOf heap n r = some (.tuple [.dict [(.int 1, .list [.int 2])], .none]) :=
  serialize_conforms rfl rfl (by simp [IsSlice, isizeMax])

end ModalRs.Pickle
