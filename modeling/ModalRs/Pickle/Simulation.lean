/-
  File:      ModalRs/Pickle/Simulation.lean
  Subject:   The decoder against the machine with a heap.

  The decoder holds copies where the machine holds references. A copy has one
  item for every item its reference has seen, and as long as the reference has
  seen all of them, the items correspond.

  * `Shows heap v r`: the decoder's `v` is what the reference `r` has seen.
    The relation survives every append (`Shows.mono`), since an object only grows.
  * `Sim d m`, `perform_simulates`: the decoder follows the machine, instruction by instruction.
  * `shows_tree`: a copy is the tree of its reference exactly when the reference is `Current`.
  * `decode_refines_exactly`: so the decoder answers the machine's value exactly
    when nothing in that value is out of date.
-/
import ModalRs.Pickle.Exec
import ModalRs.Pickle.Reference

namespace ModalRs.Pickle

open ModalRs.Lib ModalRs.Rust

/-! ## 1. Growing heaps -/

/-- An object and the same object with more in it. -/
inductive Obj.Extends : Obj → Obj → Prop where
  | list (items more : List Ref) : Extends (.list items) (.list (items ++ more))
  | dict (pairs more : List (Ref × Ref)) : Extends (.dict pairs) (.dict (pairs ++ more))

theorem Obj.Extends.refl : ∀ o : Obj, o.Extends o
  | .list items => by
      have h := Extends.list items []
      rw [List.append_nil] at h
      exact h
  | .dict pairs => by
      have h := Extends.dict pairs []
      rw [List.append_nil] at h
      exact h

/-- Every object is still there, with what it had. -/
def Grows (heap heap' : Heap) : Prop :=
  ∀ (addr : Nat) (o : Obj), heap[addr]? = some o → ∃ o', heap'[addr]? = some o' ∧ o.Extends o'

theorem grows_alloc (heap : Heap) (o : Obj) : Grows heap (heap ++ [o]) := by
  intro addr o' ho'
  have hlt : addr < heap.length := (List.getElem?_eq_some_iff.mp ho').1
  exact ⟨o', by rw [List.getElem?_append_left hlt]; exact ho', .refl o'⟩

theorem grows_set {heap : Heap} {addr : Nat} {o o' : Obj} (ho : heap[addr]? = some o)
    (hext : o.Extends o') : Grows heap (heap.set addr o') := by
  intro a p hp
  by_cases ha : addr = a
  · subst ha
    rw [ho] at hp
    cases hp
    have hlt : addr < heap.length := (List.getElem?_eq_some_iff.mp ho).1
    exact ⟨o', List.getElem?_set_self hlt, hext⟩
  · exact ⟨p, by rw [List.getElem?_set_ne ha]; exact hp, .refl p⟩

/-! ## 2. Copies and references -/

/-- **The decoder's value is what the reference has seen.** Behind a reference that missed an item
    nothing is known but the number of items. -/
inductive Shows (heap : Heap) : PickleValue → Ref → Prop where
  | data (v : PickleValue) : Shows heap v (.data v)
  | tuple (vs : List PickleValue) (items : List Ref) (hlen : vs.length = items.length)
      (h : ∀ v r, (v, r) ∈ vs.zip items → Shows heap v r) : Shows heap (.tuple vs) (.tuple items)
  | list (addr : Nat) (vs : List PickleValue) (items : List Ref)
      (ho : heap[addr]? = some (.list items)) (hle : vs.length ≤ items.length)
      (h : vs.length = items.length → ∀ v r, (v, r) ∈ vs.zip items → Shows heap v r) :
      Shows heap (.list vs) (.obj addr vs.length)
  | dict (addr : Nat) (vs : List (PickleValue × PickleValue)) (pairs : List (Ref × Ref))
      (ho : heap[addr]? = some (.dict pairs)) (hle : vs.length ≤ pairs.length)
      (hk : vs.length = pairs.length → ∀ v r, (v, r) ∈ vs.zip pairs → Shows heap v.1 r.1)
      (hv : vs.length = pairs.length → ∀ v r, (v, r) ∈ vs.zip pairs → Shows heap v.2 r.2) :
      Shows heap (.dict vs) (.obj addr vs.length)

/-- Only an object that did not grow still has as many items as were seen. -/
theorem more_eq_nil {α : Type} {n : Nat} {old more : List α} (hle : n ≤ old.length)
    (h : n = (old ++ more).length) : more = [] := by
  rw [List.length_append] at h
  exact List.eq_nil_of_length_eq_zero (by omega)

/-- **What is shown stays shown while objects grow**: a reference that has seen everything now
    misses something, unless the object did not change. -/
theorem Shows.mono {heap heap' : Heap} (hg : Grows heap heap') {v : PickleValue} {r : Ref}
    (h : Shows heap v r) : Shows heap' v r := by
  induction h with
  | data v => exact .data v
  | tuple vs items hlen _ ih => exact .tuple vs items hlen ih
  | list addr vs items ho hle _ ih =>
    obtain ⟨o', ho', hext⟩ := hg addr _ ho
    cases hext with
    | list _ more =>
      refine .list addr vs _ ho' (by rw [List.length_append]; omega) fun hall => ?_
      have hmore := more_eq_nil hle hall
      subst hmore
      rw [List.append_nil] at hall ⊢
      exact ih hall
  | dict addr vs pairs ho hle _ _ ihk ihv =>
    obtain ⟨o', ho', hext⟩ := hg addr _ ho
    cases hext with
    | dict _ more =>
      refine .dict addr vs _ ho' (by rw [List.length_append]; omega) (fun hall => ?_)
        (fun hall => ?_)
      · have hmore := more_eq_nil hle hall
        subst hmore
        rw [List.append_nil] at hall ⊢
        exact ihk hall
      · have hmore := more_eq_nil hle hall
        subst hmore
        rw [List.append_nil] at hall ⊢
        exact ihv hall

theorem shows_all_mono {heap heap' : Heap} (hg : Grows heap heap') {vs : List PickleValue}
    {rs : List Ref} (h : List.Forall₂ (Shows heap) vs rs) : List.Forall₂ (Shows heap') vs rs :=
  List.Forall₂.imp (fun _ _ hvr => hvr.mono hg) h

/-- The pairs of a dict, and the references for them. -/
def ShowsPair (heap : Heap) (p : PickleValue × PickleValue) (q : Ref × Ref) : Prop :=
  Shows heap p.1 q.1 ∧ Shows heap p.2 q.2

theorem ShowsPair.mono {heap heap' : Heap} (hg : Grows heap heap')
    {p : PickleValue × PickleValue} {q : Ref × Ref} (h : ShowsPair heap p q) :
    ShowsPair heap' p q :=
  ⟨h.1.mono hg, h.2.mono hg⟩

theorem forall₂_mem_zip {α β : Type} {R : α → β → Prop} {as : List α} {bs : List β}
    (h : List.Forall₂ R as bs) {a : α} {b : β} (hab : (a, b) ∈ as.zip bs) : R a b :=
  (List.forall₂_iff_zip.mp h).2 hab

theorem shows_tuple {heap : Heap} {vs : List PickleValue} {rs : List Ref}
    (h : List.Forall₂ (Shows heap) vs rs) : Shows heap (.tuple vs) (.tuple rs) :=
  .tuple vs rs h.length_eq fun _ _ hvr => forall₂_mem_zip h hvr

/-- A copy that has every item of the object. -/
theorem shows_list {heap : Heap} {addr : Nat} {vs : List PickleValue} {items : List Ref}
    (ho : heap[addr]? = some (.list items)) (h : List.Forall₂ (Shows heap) vs items) :
    Shows heap (.list vs) (.obj addr items.length) := by
  rw [← h.length_eq]
  exact .list addr vs items ho h.length_eq.le fun _ _ _ hvr => forall₂_mem_zip h hvr

theorem shows_dict {heap : Heap} {addr : Nat} {vs : List (PickleValue × PickleValue)}
    {pairs : List (Ref × Ref)} (ho : heap[addr]? = some (.dict pairs))
    (h : List.Forall₂ (ShowsPair heap) vs pairs) :
    Shows heap (.dict vs) (.obj addr pairs.length) := by
  rw [← h.length_eq]
  exact .dict addr vs pairs ho h.length_eq.le (fun _ _ _ hvr => (forall₂_mem_zip h hvr).1)
    fun _ _ _ hvr => (forall₂_mem_zip h hvr).2

/-- In two lists of pairs that were extended together, a pair is an old or a new one. -/
theorem mem_zip_append {α β : Type} {as as' : List α} {bs bs' : List β}
    (hlen : as.length = bs.length) {a : α} {b : β} (h : (a, b) ∈ (as ++ as').zip (bs ++ bs')) :
    (a, b) ∈ as.zip bs ∨ (a, b) ∈ as'.zip bs' := by
  rw [List.zip_append hlen] at h
  exact List.mem_append.mp h

/-- **Appending to the object and to the copy**: the copy keeps missing what it missed. -/
theorem shows_list_append {heap : Heap} {addr : Nat} {vs ws : List PickleValue}
    {items more : List Ref} (ho : heap[addr]? = some (.list items))
    (hv : Shows heap (.list vs) (.obj addr vs.length)) (hw : List.Forall₂ (Shows heap) ws more) :
    Shows (heap.set addr (.list (items ++ more))) (.list (vs ++ ws))
      (.obj addr (vs.length + more.length)) := by
  have hg := grows_set ho (Obj.Extends.list items more)
  have hlt : addr < heap.length := (List.getElem?_eq_some_iff.mp ho).1
  have hw' := shows_all_mono hg hw
  cases hv with
  | list _ _ items' ho' hle h =>
    rw [ho] at ho'
    cases ho'
    rw [← hw.length_eq, ← List.length_append]
    refine .list addr _ _ (List.getElem?_set_self hlt) ?_ fun hall v r hvr => ?_
    · rw [List.length_append, List.length_append, hw.length_eq]
      omega
    · rw [List.length_append, List.length_append, hw.length_eq] at hall
      have hlen : vs.length = items.length := by omega
      rcases mem_zip_append hlen hvr with hold | hnew
      · exact (h hlen v r hold).mono hg
      · exact forall₂_mem_zip hw' hnew

theorem shows_dict_append {heap : Heap} {addr : Nat} {vs ws : List (PickleValue × PickleValue)}
    {pairs more : List (Ref × Ref)} (ho : heap[addr]? = some (.dict pairs))
    (hv : Shows heap (.dict vs) (.obj addr vs.length))
    (hw : List.Forall₂ (ShowsPair heap) ws more) :
    Shows (heap.set addr (.dict (pairs ++ more))) (.dict (vs ++ ws))
      (.obj addr (vs.length + more.length)) := by
  have hg := grows_set ho (Obj.Extends.dict pairs more)
  have hlt : addr < heap.length := (List.getElem?_eq_some_iff.mp ho).1
  have hw' := List.Forall₂.imp (fun _ _ hpq => ShowsPair.mono hg hpq) hw
  cases hv with
  | dict _ _ pairs' ho' hle hk hv =>
    rw [ho] at ho'
    cases ho'
    rw [← hw.length_eq, ← List.length_append]
    have hsum : (vs ++ ws).length = (pairs ++ more).length → vs.length = pairs.length := by
      intro hall
      rw [List.length_append, List.length_append, hw.length_eq] at hall
      omega
    refine .dict addr _ _ (List.getElem?_set_self hlt) ?_ (fun hall v r hvr => ?_)
      (fun hall v r hvr => ?_)
    · rw [List.length_append, List.length_append, hw.length_eq]
      omega
    · rcases mem_zip_append (hsum hall) hvr with hold | hnew
      · exact (hk (hsum hall) v r hold).mono hg
      · exact (forall₂_mem_zip hw' hnew).1
    · rcases mem_zip_append (hsum hall) hvr with hold | hnew
      · exact (hv (hsum hall) v r hold).mono hg
      · exact (forall₂_mem_zip hw' hnew).2

/-! ## 3. The decoder follows the machine -/

/-- The two stand at the same byte, and the decoder's stack and memo show the machine's. -/
structure Sim (d : Decoder) (m : Machine) : Prop where
  cursor : d.toCursor = m.toCursor
  stack : List.Forall₂ (ItemRel (Shows m.heap)) d.stack m.stack
  memo : MapRel (Shows m.heap) d.memo m.memo

theorem shows_stack_mono {heap heap' : Heap} (hg : Grows heap heap') {ds : List StackItem}
    {ms : List (Item Ref)} (h : List.Forall₂ (ItemRel (Shows heap)) ds ms) :
    List.Forall₂ (ItemRel (Shows heap')) ds ms :=
  List.Forall₂.imp (fun _ _ hab => hab.mono fun _ _ hs => hs.mono hg) h

theorem Decoder.extendList_top (d : Decoder) {old : List PickleValue} {s : List StackItem}
    (hs : d.stack = .value (.list old) :: s) (items : List PickleValue) (msg : String) :
    d.extendList items msg = .ok (.inl { d with stack := .value (.list (old ++ items)) :: s }) := by
  simp only [Decoder.extendList, hs]

theorem Decoder.extendDict_top (d : Decoder) {old : List (PickleValue × PickleValue)}
    {s : List StackItem} (hs : d.stack = .value (.dict old) :: s)
    (pairs : List (PickleValue × PickleValue)) (msg : String) :
    d.extendDict pairs msg = .ok (.inl { d with stack := .value (.dict (old ++ pairs)) :: s }) := by
  simp only [Decoder.extendDict, hs]

namespace Sim

variable {d : Decoder} {m m' : Machine}

theorem start (data : List UInt8) : Sim (Decoder.new data) (Machine.new data) :=
  ⟨rfl, .nil, MapRel.empty⟩

theorem push (h : Sim d m) {v : PickleValue} {r : Ref} (hv : Shows m.heap v r) :
    Sim (d.push v) (m.push r) :=
  ⟨h.cursor, .cons (.value hv) h.stack, h.memo⟩

/-- A new object changes nothing that was shown. -/
theorem alloc (h : Sim d m) {o : Obj} {v : PickleValue}
    (hv : Shows (m.heap ++ [o]) v (.obj m.heap.length o.size)) : Sim (d.push v) (m.alloc o) := by
  have hg := grows_alloc m.heap o
  have hstack := shows_stack_mono hg h.stack
  exact ⟨h.cursor, .cons (.value hv) hstack, h.memo.mono fun _ _ hs => hs.mono hg⟩

theorem allocList (h : Sim d m) {vs : List PickleValue} {rs : List Ref}
    (hvs : List.Forall₂ (Shows m.heap) vs rs) : Sim (d.push (.list vs)) (m.alloc (.list rs)) :=
  h.alloc (shows_list List.getElem?_concat_length (shows_all_mono (grows_alloc m.heap _) hvs))

theorem allocDict (h : Sim d m) {vs : List (PickleValue × PickleValue)} {rs : List (Ref × Ref)}
    (hvs : List.Forall₂ (ShowsPair m.heap) vs rs) :
    Sim (d.push (.dict vs)) (m.alloc (.dict rs)) :=
  h.alloc (shows_dict List.getElem?_concat_length
    (List.Forall₂.imp (fun _ _ hpq => hpq.mono (grows_alloc m.heap _)) hvs))

/-- A pop leaves the heap, so what the value shows it still shows after it. -/
theorem popValue (h : Sim d m) {r : Ref} (hp : m.popValue = .ok (r, m')) :
    ∃ v d', d.popValue = .ok (v, d') ∧ Shows m'.heap v r ∧ Sim d' m' ∧ m'.heap = m.heap := by
  unfold Machine.popValue at hp
  cases hs : Lib.popValue m.stack with
  | error e =>
    rw [hs] at hp
    cases hp
  | ok p =>
    obtain ⟨r', s⟩ := p
    rw [hs] at hp
    cases hp
    obtain ⟨v, s', hv, hvr, hrest⟩ := popValue_rel h.stack hs
    refine ⟨v, { d with stack := s' }, ?_, hvr, ⟨h.cursor, hrest, h.memo⟩, rfl⟩
    simp only [Decoder.popValue, hv]

theorem popToMark (h : Sim d m) {rs : List Ref} (hp : m.popToMark = .ok (rs, m')) :
    ∃ vs d', d.popToMark = .ok (vs, d') ∧ List.Forall₂ (Shows m'.heap) vs rs ∧ Sim d' m' := by
  unfold Machine.popToMark at hp
  cases hs : Lib.popToMark m.stack with
  | none =>
    rw [hs] at hp
    cases hp
  | some p =>
    obtain ⟨rs', s⟩ := p
    rw [hs] at hp
    cases hp
    obtain ⟨vs, s', hv, hvr, hrest⟩ := popToMark_rel h.stack hs
    refine ⟨vs, { d with stack := s' }, ?_, hvr, ⟨h.cursor, hrest, h.memo⟩⟩
    simp only [Decoder.popToMark, hv]

theorem top (h : Sim d m) {r : Ref} (hp : m.top = .ok r) :
    ∃ v s, d.stack = .value v :: s ∧ Shows m.heap v r := by
  obtain ⟨-, hstack, -⟩ := h
  unfold Machine.top at hp
  split at hp
  · rename_i r' s hs
    cases hp
    rw [hs] at hstack
    generalize d.stack = ds at hstack
    cases hstack with
    | cons hab _ =>
      cases hab with
      | value hvr => exact ⟨_, _, rfl, hvr⟩
  · cases hp

/-- PUT, BINPUT, LONG_BINPUT and MEMOIZE: the memo gets what is on top. -/
theorem store (h : Sim d m) {r : Ref} (hp : m.top = .ok r) (idx : UInt32) :
    Sim (d.store idx) { m with memo := m.memo.insert idx r } := by
  obtain ⟨v, s, hs, hvr⟩ := h.top hp
  have hd : d.store idx = { d with memo := d.memo.insert idx v } := by
    simp only [Decoder.store, hs]
  rw [hd]
  exact ⟨h.cursor, h.stack, h.memo.insert idx hvr⟩

theorem extendList (h : Sim d m) {vs : List PickleValue} {rs : List Ref}
    (hvs : List.Forall₂ (Shows m.heap) vs rs) (hm : m.extendList rs = .ok m') (msg : String) :
    ∃ d', d.extendList vs msg = .ok (.inl d') ∧ Sim d' m' := by
  obtain ⟨hcur, hstack, hmemo⟩ := h
  unfold Machine.extendList at hm
  split at hm
  · rename_i addr seen s hs
    split at hm
    · rename_i old ho
      cases hm
      rw [hs] at hstack
      generalize hds : d.stack = ds at hstack
      cases hstack with
      | cons hab hrest =>
        cases hab with
        | value hvr =>
          have hg := grows_set ho (Obj.Extends.list old rs)
          cases hvr with
          | list _ ws items ho' hle hitems =>
            have hlist := shows_list_append ho (.list addr ws items ho' hle hitems) hvs
            refine ⟨_, d.extendList_top hds vs msg, hcur, ?_, ?_⟩
            · exact .cons (.value hlist) (shows_stack_mono hg hrest)
            · exact hmemo.mono fun _ _ hs => hs.mono hg
          | dict _ _ _ ho' =>
            rw [ho] at ho'
            cases ho'
    · cases hm
  · cases hm

theorem extendDict (h : Sim d m) {vs : List (PickleValue × PickleValue)} {rs : List (Ref × Ref)}
    (hvs : List.Forall₂ (ShowsPair m.heap) vs rs) (hm : m.extendDict rs = .ok m')
    (msg : String) : ∃ d', d.extendDict vs msg = .ok (.inl d') ∧ Sim d' m' := by
  obtain ⟨hcur, hstack, hmemo⟩ := h
  unfold Machine.extendDict at hm
  split at hm
  · rename_i addr seen s hs
    split at hm
    · rename_i old ho
      cases hm
      rw [hs] at hstack
      generalize hds : d.stack = ds at hstack
      cases hstack with
      | cons hab hrest =>
        cases hab with
        | value hvr =>
          have hg := grows_set ho (Obj.Extends.dict old rs)
          cases hvr with
          | dict _ ws pairs ho' hle hk hv =>
            have hdict := shows_dict_append ho (.dict addr ws pairs ho' hle hk hv) hvs
            refine ⟨_, d.extendDict_top hds vs msg, hcur, ?_, ?_⟩
            · exact .cons (.value hdict) (shows_stack_mono hg hrest)
            · exact hmemo.mono fun _ _ hs => hs.mono hg
          | list _ _ _ ho' =>
            rw [ho] at ho'
            cases ho'
    · cases hm
  · cases hm

end Sim

/-- Results that correspond. -/
inductive SimOut : Outcome → Machine ⊕ (Heap × Ref) → Prop where
  | goes {d : Decoder} {m : Machine} (h : Sim d m) : SimOut (.inl d) (.inl m)
  | returns {v : PickleValue} {heap : Heap} {r : Ref} (h : Shows heap v r) :
      SimOut (.inr v) (.inr (heap, r))

/-- Pairs of references come from pairs of values. -/
theorem pairUp_shows {heap : Heap} : ∀ {rs : List Ref} {vs : List PickleValue}
    {pairs : List (Ref × Ref)}, List.Forall₂ (Shows heap) vs rs → pairUp rs = .ok pairs →
      ∃ ps, vs = flatPairs ps ∧ List.Forall₂ (ShowsPair heap) ps pairs
  | [], _, _, .nil, hp => by
      cases hp
      exact ⟨[], rfl, .nil⟩
  | [_], _, _, _, hp => nomatch hp
  | _ :: _ :: rs, _, _, .cons (a := a) ha (.cons (a := b) hb hrest), hp => by
      obtain ⟨pairs', hp', hcons⟩ := except_bind_ok hp
      cases hcons
      obtain ⟨ps, rfl, hps⟩ := pairUp_shows hrest hp'
      exact ⟨(a, b) :: ps, rfl, .cons ⟨ha, hb⟩ hps⟩

/-- The decoder's check for an odd number of items passes. -/
theorem chunks2_of_flatPairs (ps : List (PickleValue × PickleValue)) (d : Decoder)
    (msg : String) (k : List (PickleValue × PickleValue) → Res ModalError Outcome) :
    (if (flatPairs ps).length % 2 ≠ 0 then d.err msg else chunks2 (flatPairs ps) >>= k) = k ps := by
  have heven : ¬ (flatPairs ps).length % 2 ≠ 0 := by
    rw [flatPairs_length]
    omega
  rw [if_neg heven, chunks2_flatPairs]
  rfl

/-- **The decoder follows the machine, instruction by instruction.** -/
theorem perform_simulates {d : Decoder} {m : Machine} (h : Sim d m) (i : Instr)
    {o : Machine ⊕ (Heap × Ref)} (hm : perform m i = .ok o) :
    ∃ o', exec d i = .ok o' ∧ SimOut o' o := by
  cases i with
  | skip =>
    cases hm
    exact ⟨_, rfl, .goes h⟩
  | stop =>
    obtain ⟨⟨r, m₁⟩, hp, hm⟩ := except_bind_ok hm
    cases hm
    obtain ⟨v, d₁, hd, hvr, -, -⟩ := h.popValue hp
    exact ⟨_, by simp only [exec, hd]; rfl, .returns hvr⟩
  | data v =>
    cases hm
    exact ⟨_, rfl, .goes (h.push (.data v))⟩
  | emptyList =>
    cases hm
    exact ⟨_, rfl, .goes (h.allocList .nil)⟩
  | emptyDict =>
    cases hm
    exact ⟨_, rfl, .goes (h.allocDict .nil)⟩
  | emptyTuple =>
    cases hm
    exact ⟨_, rfl, .goes (h.push (shows_tuple .nil))⟩
  | mark =>
    cases hm
    exact ⟨_, rfl, .goes ⟨h.cursor, .cons .mark h.stack, h.memo⟩⟩
  | list =>
    obtain ⟨⟨rs, m₁⟩, hp, hm⟩ := except_bind_ok hm
    cases hm
    obtain ⟨vs, d₁, hd, hvs, h₁⟩ := h.popToMark hp
    exact ⟨_, by simp only [exec, hd]; rfl, .goes (h₁.allocList hvs)⟩
  | dict =>
    obtain ⟨⟨rs, m₁⟩, hp, hm⟩ := except_bind_ok hm
    obtain ⟨pairs, hpairs, hm⟩ := except_bind_ok hm
    cases hm
    obtain ⟨vs, d₁, hd, hvs, h₁⟩ := h.popToMark hp
    obtain ⟨ps, rfl, hps⟩ := pairUp_shows hvs hpairs
    refine ⟨_, ?_, .goes (h₁.allocDict hps)⟩
    simp only [exec, hd]
    exact chunks2_of_flatPairs ps d₁ _ _
  | tuple =>
    obtain ⟨⟨rs, m₁⟩, hp, hm⟩ := except_bind_ok hm
    cases hm
    obtain ⟨vs, d₁, hd, hvs, h₁⟩ := h.popToMark hp
    exact ⟨_, by simp only [exec, hd]; rfl, .goes (h₁.push (shows_tuple hvs))⟩
  | tuple1 =>
    obtain ⟨⟨r, m₁⟩, hp, hm⟩ := except_bind_ok hm
    cases hm
    obtain ⟨v, d₁, hd, hvr, h₁, -⟩ := h.popValue hp
    exact ⟨_, by simp only [exec, hd]; rfl, .goes (h₁.push (shows_tuple (.cons hvr .nil)))⟩
  | tuple2 =>
    obtain ⟨⟨r, m₁⟩, hp, hm⟩ := except_bind_ok hm
    obtain ⟨⟨r', m₂⟩, hp', hm⟩ := except_bind_ok hm
    cases hm
    obtain ⟨v, d₁, hd, hvr, h₁, -⟩ := h.popValue hp
    obtain ⟨v', d₂, hd', hvr', h₂, hheap⟩ := h₁.popValue hp'
    rw [← hheap] at hvr
    exact ⟨_, by simp only [exec, hd]; simp only [bind, Except.bind, hd'],
      .goes (h₂.push (shows_tuple (.cons hvr' (.cons hvr .nil))))⟩
  | tuple3 =>
    obtain ⟨⟨r, m₁⟩, hp, hm⟩ := except_bind_ok hm
    obtain ⟨⟨r', m₂⟩, hp', hm⟩ := except_bind_ok hm
    obtain ⟨⟨r'', m₃⟩, hp'', hm⟩ := except_bind_ok hm
    cases hm
    obtain ⟨v, d₁, hd, hvr, h₁, -⟩ := h.popValue hp
    obtain ⟨v', d₂, hd', hvr', h₂, hheap⟩ := h₁.popValue hp'
    obtain ⟨v'', d₃, hd'', hvr'', h₃, hheap'⟩ := h₂.popValue hp''
    rw [← hheap, ← hheap'] at hvr
    rw [← hheap'] at hvr'
    exact ⟨_, by simp only [exec, hd]; simp only [bind, Except.bind, hd', hd''],
      .goes (h₃.push (shows_tuple (.cons hvr'' (.cons hvr' (.cons hvr .nil)))))⟩
  | append =>
    obtain ⟨⟨r, m₁⟩, hp, hm⟩ := except_bind_ok hm
    obtain ⟨m₂, hext, hm⟩ := except_bind_ok hm
    cases hm
    obtain ⟨v, d₁, hd, hvr, h₁, -⟩ := h.popValue hp
    obtain ⟨d₂, hd₂, h₂⟩ := h₁.extendList (.cons hvr .nil) hext "APPEND on non-list"
    exact ⟨_, by simp only [exec, hd]; exact hd₂, .goes h₂⟩
  | appends =>
    obtain ⟨⟨rs, m₁⟩, hp, hm⟩ := except_bind_ok hm
    obtain ⟨m₂, hext, hm⟩ := except_bind_ok hm
    cases hm
    obtain ⟨vs, d₁, hd, hvs, h₁⟩ := h.popToMark hp
    obtain ⟨d₂, hd₂, h₂⟩ := h₁.extendList hvs hext "APPENDS on non-list"
    exact ⟨_, by simp only [exec, hd]; exact hd₂, .goes h₂⟩
  | setitem =>
    obtain ⟨⟨r, m₁⟩, hp, hm⟩ := except_bind_ok hm
    obtain ⟨⟨r', m₂⟩, hp', hm⟩ := except_bind_ok hm
    obtain ⟨m₃, hext, hm⟩ := except_bind_ok hm
    cases hm
    obtain ⟨v, d₁, hd, hvr, h₁, -⟩ := h.popValue hp
    obtain ⟨k, d₂, hd', hkr, h₂, hheap⟩ := h₁.popValue hp'
    rw [← hheap] at hvr
    obtain ⟨d₃, hd₃, h₃⟩ :=
      h₂.extendDict (.cons (a := (k, v)) ⟨hkr, hvr⟩ .nil) hext "SETITEM on non-dict"
    refine ⟨_, ?_, .goes h₃⟩
    simp only [exec, hd]
    simp only [bind, Except.bind, hd']
    exact hd₃
  | setitems =>
    obtain ⟨⟨rs, m₁⟩, hp, hm⟩ := except_bind_ok hm
    obtain ⟨pairs, hpairs, hm⟩ := except_bind_ok hm
    obtain ⟨m₂, hext, hm⟩ := except_bind_ok hm
    cases hm
    obtain ⟨vs, d₁, hd, hvs, h₁⟩ := h.popToMark hp
    obtain ⟨ps, rfl, hps⟩ := pairUp_shows hvs hpairs
    obtain ⟨d₂, hd₂, h₂⟩ := h₁.extendDict hps hext "SETITEMS on non-dict"
    refine ⟨_, ?_, .goes h₂⟩
    simp only [exec, hd]
    exact (chunks2_of_flatPairs ps d₁ _ _).trans hd₂
  | put idx =>
    obtain ⟨r, hp, hm⟩ := except_bind_ok hm
    cases hm
    exact ⟨_, rfl, .goes (h.store hp idx)⟩
  | memoize =>
    obtain ⟨r, hp, hm⟩ := except_bind_ok hm
    cases hm
    have hstore := h.store hp (.ofNat d.memo.size)
    rw [h.memo.size_eq] at hstore
    exact ⟨_, by simp only [exec, h.memo.size_eq], .goes hstore⟩
  | get idx =>
    simp only [perform] at hm
    cases hr : m.memo.find? idx with
    | none =>
      rw [hr] at hm
      cases hm
    | some r =>
      rw [hr] at hm
      cases hm
      obtain ⟨v, hv, hvr⟩ := h.memo.find? hr
      exact ⟨_, by simp only [exec, hv], .goes (h.push hvr)⟩
  | dup =>
    obtain ⟨r, hp, hm⟩ := except_bind_ok hm
    cases hm
    obtain ⟨v, s, hs, hvr⟩ := h.top hp
    exact ⟨_, by simp only [exec, hs], .goes (h.push hvr)⟩
  | pop =>
    simp only [perform] at hm
    split at hm
    · rename_i a s hs
      cases hm
      refine ⟨_, rfl, .goes ⟨h.cursor, ?_, h.memo⟩⟩
      have hstack := h.stack
      rw [hs] at hstack
      generalize d.stack = ds at hstack
      cases hstack with
      | cons _ hrest => exact hrest
    · cases hm
  | popMark =>
    obtain ⟨⟨rs, m₁⟩, hp, hm⟩ := except_bind_ok hm
    cases hm
    obtain ⟨vs, d₁, hd, -, h₁⟩ := h.popToMark hp
    exact ⟨_, by simp only [exec, hd]; rfl, .goes h₁⟩
  | global => cases hm
  | stackGlobal => cases hm
  | reduce => cases hm
  | newobj => cases hm
  | build => cases hm

/-- One round of the machine is one round of the decoder. -/
theorem machineStep_simulates {d : Decoder} {m : Machine} (h : Sim d m)
    {o : Machine ⊕ (Heap × Ref)} (hm : machineStep m = .ok o) :
    ∃ o', decodeStep d = .ok o' ∧ SimOut o' o := by
  unfold machineStep at hm
  cases hf : fetch m.toCursor with
  | error e =>
    rw [hf] at hm
    cases hm
  | ok p =>
    obtain ⟨i, c⟩ := p
    rw [hf] at hm
    rw [← h.cursor] at hf
    rw [decodeStep_of_fetch hf]
    have hsim : Sim { d with toCursor := c } { m with toCursor := c } := ⟨rfl, h.stack, h.memo⟩
    exact perform_simulates hsim i hm

/-- **When the machine stops with a reference, the decoder answers what that reference shows.** -/
theorem reference_shows {data : List UInt8} {heap : Heap} {r : Ref}
    (h : reference data = .ok (heap, r)) :
    ∃ v, pickleDeserialize data = .ok v ∧ Shows heap v r := by
  refine loop_simulates (R := Sim) (Q := fun v p => Shows p.1 v p.2) ?_ ?_ _ _ _ _
    (Sim.start data) h
  · intro d m m' hsim hm
    obtain ⟨o, ho, hout⟩ := machineStep_simulates hsim hm
    cases hout with
    | goes h' => exact ⟨_, ho, h'⟩
  · intro d m p hsim hm
    obtain ⟨o, ho, hout⟩ := machineStep_simulates hsim hm
    cases hout with
    | returns hv => exact ⟨_, ho, hv⟩

/-! ## 4. Trees -/

/-- Values are what is read element by element exactly when each of them is. -/
theorem mapM_eq_iff {α β : Type} {R : α → β → Prop} {f : β → Option α} {P : β → Prop}
    (ih : ∀ a b a', R a b → f b = some a' → (a = a' ↔ P b)) {as as' : List α} {bs : List β}
    (h : List.Forall₂ R as bs) (hread : bs.mapM f = some as') : as = as' ↔ ∀ b ∈ bs, P b := by
  induction h generalizing as' with
  | nil =>
    cases hread
    simp
  | @cons a b as bs hab _ ihs =>
    rw [List.mapM_cons] at hread
    obtain ⟨t, ht, hrest⟩ := Option.bind_eq_some_iff.mp hread
    obtain ⟨ts, hts, heq⟩ := Option.bind_eq_some_iff.mp hrest
    cases heq
    rw [List.cons.injEq, ih _ _ _ hab ht, ihs hts, List.forall_mem_cons]

/-- Copies are trees exactly when each of their references is current. -/
theorem shows_all_trees {heap : Heap} {n : Nat}
    (ih : ∀ {v r t}, Shows heap v r → treeOf heap n r = some t → (v = t ↔ Current heap r))
    {vs ts : List PickleValue} {rs : List Ref} (h : List.Forall₂ (Shows heap) vs rs)
    (hts : rs.mapM (treeOf heap n) = some ts) : vs = ts ↔ ∀ r ∈ rs, Current heap r :=
  mapM_eq_iff (P := Current heap) (fun _ _ _ => ih) h hts

/-- The pairs of a dict, as trees. -/
def pairTree (heap : Heap) (n : Nat) (p : Ref × Ref) : Option (PickleValue × PickleValue) := do
  let k ← treeOf heap n p.1
  let v ← treeOf heap n p.2
  some (k, v)

theorem shows_pair_trees {heap : Heap} {n : Nat}
    (ih : ∀ {v r t}, Shows heap v r → treeOf heap n r = some t → (v = t ↔ Current heap r))
    {vs ts : List (PickleValue × PickleValue)} {pairs : List (Ref × Ref)}
    (h : List.Forall₂ (ShowsPair heap) vs pairs) (hts : pairs.mapM (pairTree heap n) = some ts) :
    vs = ts ↔ (∀ p ∈ pairs, Current heap p.1) ∧ ∀ p ∈ pairs, Current heap p.2 := by
  have hpair : ∀ (v : PickleValue × PickleValue) (p : Ref × Ref) (t : PickleValue × PickleValue),
      ShowsPair heap v p → pairTree heap n p = some t →
        (v = t ↔ Current heap p.1 ∧ Current heap p.2) := by
    intro v p t hshow ht
    obtain ⟨k, hk, ht⟩ := Option.bind_eq_some_iff.mp ht
    obtain ⟨w, hw, heq⟩ := Option.bind_eq_some_iff.mp ht
    cases heq
    rw [Prod.ext_iff, ih hshow.1 hk, ih hshow.2 hw]
  rw [mapM_eq_iff hpair h hts]
  exact forall₂_and

theorem mapM_length {α β : Type} {f : α → Option β} {as : List α} {bs : List β}
    (h : as.mapM f = some bs) : bs.length = as.length := by
  induction as generalizing bs with
  | nil =>
    cases h
    rfl
  | cons a as ih =>
    rw [List.mapM_cons] at h
    obtain ⟨b, -, h⟩ := Option.bind_eq_some_iff.mp h
    obtain ⟨bs', hbs', heq⟩ := Option.bind_eq_some_iff.mp h
    cases heq
    rw [List.length_cons, List.length_cons, ih hbs']

/-- **A copy is the tree of its reference exactly when the reference is current.** -/
theorem shows_tree {heap : Heap} : ∀ (n : Nat) {v : PickleValue} {r : Ref} {t : PickleValue},
    Shows heap v r → treeOf heap n r = some t → (v = t ↔ Current heap r)
  | 0, _, _, _, _, ht => nomatch ht
  | n + 1, _, _, _, .data v, ht => by
      cases ht
      exact ⟨fun _ => .data v, fun _ => rfl⟩
  | n + 1, _, _, t, .tuple vs items hlen h, ht => by
      obtain ⟨ts, hts, rfl⟩ := Option.map_eq_some_iff.mp ht
      have hall : List.Forall₂ (Shows heap) vs items :=
        List.forall₂_iff_zip.mpr ⟨hlen, fun hvr => h _ _ hvr⟩
      rw [PickleValue.tuple.injEq, shows_all_trees (shows_tree n) hall hts]
      constructor
      · exact .tuple items
      · intro hcur
        cases hcur with
        | tuple _ h => exact h
  | n + 1, _, _, t, .list addr vs items ho hle h, ht => by
      simp only [treeOf, ho] at ht
      obtain ⟨ts, hts, rfl⟩ := Option.map_eq_some_iff.mp ht
      rw [PickleValue.list.injEq]
      constructor
      · intro heq
        have hlen : vs.length = items.length := by rw [heq, mapM_length hts]
        have hall : List.Forall₂ (Shows heap) vs items :=
          List.forall₂_iff_zip.mpr ⟨hlen, fun hvr => h hlen _ _ hvr⟩
        rw [hlen]
        exact .list addr items ho ((shows_all_trees (shows_tree n) hall hts).mp heq)
      · intro hcur
        generalize hseen : vs.length = seen at hcur
        cases hcur with
        | list _ items' ho' hitems =>
          rw [ho] at ho'
          cases ho'
          have hall : List.Forall₂ (Shows heap) vs items :=
            List.forall₂_iff_zip.mpr ⟨hseen, fun hvr => h hseen _ _ hvr⟩
          exact (shows_all_trees (shows_tree n) hall hts).mpr hitems
        | dict _ pairs ho' =>
          rw [ho] at ho'
          cases ho'
  | n + 1, _, _, t, .dict addr vs pairs ho hle hk hv, ht => by
      simp only [treeOf, ho] at ht
      obtain ⟨ts, hts, rfl⟩ := Option.map_eq_some_iff.mp ht
      have hts' : pairs.mapM (pairTree heap n) = some ts := hts
      rw [PickleValue.dict.injEq]
      constructor
      · intro heq
        have hlen : vs.length = pairs.length := by rw [heq, mapM_length hts]
        have hall : List.Forall₂ (ShowsPair heap) vs pairs :=
          List.forall₂_iff_zip.mpr ⟨hlen, fun hvr => ⟨hk hlen _ _ hvr, hv hlen _ _ hvr⟩⟩
        obtain ⟨hks, hvs⟩ := (shows_pair_trees (shows_tree n) hall hts').mp heq
        rw [hlen]
        exact .dict addr pairs ho hks hvs
      · intro hcur
        generalize hseen : vs.length = seen at hcur
        cases hcur with
        | list _ items' ho' =>
          rw [ho] at ho'
          cases ho'
        | dict _ pairs' ho' hks hvs =>
          rw [ho] at ho'
          cases ho'
          have hall : List.Forall₂ (ShowsPair heap) vs pairs :=
            List.forall₂_iff_zip.mpr ⟨hseen, fun hvr => ⟨hk hseen _ _ hvr, hv hseen _ _ hvr⟩⟩
          exact (shows_pair_trees (shows_tree n) hall hts').mpr ⟨hks, hvs⟩

/-- **The decoder answers the machine's value exactly when nothing in it is out of date.** -/
theorem decode_refines_exactly {data : List UInt8} {heap : Heap} {r : Ref} {n : Nat}
    {t : PickleValue} (hrun : reference data = .ok (heap, r)) (ht : treeOf heap n r = some t) :
    pickleDeserialize data = .ok t ↔ Current heap r := by
  obtain ⟨v, hv, hshows⟩ := reference_shows hrun
  rw [hv, Except.ok.injEq]
  exact shows_tree n hshows ht

/-- `]q\x00K\x01a.`: a list that is memoized, filled, and not fetched again. -/
theorem decode_refines_unshared :
    pickleDeserialize [0x5d, 0x71, 0, 0x4b, 1, 0x61, 0x2e] = .ok (.list [.int 1]) ↔
      Current [.list [.data (.int 1)]] (.obj 0 1) :=
  decode_refines_exactly (n := 2) rfl rfl

/-- `]q\x00(K\x01eh\x00\x86.`: a list that is memoized empty, filled, and fetched again. The
    machine stops with `([1], [1])`, the decoder with `([1], [])`. -/
theorem decode_misses_append :
    (∃ heap r, reference [0x5d, 0x71, 0, 0x28, 0x4b, 1, 0x65, 0x68, 0, 0x86, 0x2e] = .ok (heap, r) ∧
      treeOf heap 3 r = some (.tuple [.list [.int 1], .list [.int 1]])) ∧
    pickleDeserialize [0x5d, 0x71, 0, 0x28, 0x4b, 1, 0x65, 0x68, 0, 0x86, 0x2e] ≠
      .ok (.tuple [.list [.int 1], .list [.int 1]]) := by
  refine ⟨⟨_, _, rfl, rfl⟩, ?_⟩
  have hdec : pickleDeserialize [0x5d, 0x71, 0, 0x28, 0x4b, 1, 0x65, 0x68, 0, 0x86, 0x2e] =
      .ok (.tuple [.list [.int 1], .list []]) := rfl
  rw [hdec]
  intro h
  simp at h

end ModalRs.Pickle
