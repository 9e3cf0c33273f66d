/-
  File:      ModalRs/Lib/MarkedStack.lean
  Subject:   Stacks whose entries are values or marks, and maps with few keys.

  A stack is a list with its top in front.

  * `popValue`, `popToMark`: taking the top value, and everything above the
    topmost mark, in the order it was pushed.
  * `ItemRel R`: two stacks entry by entry, marks against marks; both
    operations respect it (`popValue_rel`, `popToMark_rel`).
  * `AssocMap`: a map as a list of entries with distinct keys; `insert` and
    `find?` respect a relation on the values (`MapRel.insert`, `MapRel.find?`).
-/
import Mathlib.Data.List.Forall2
import Mathlib.Data.List.Nodup

namespace ModalRs.Lib

variable {α β κ : Type}

/-! ## 1. Stacks with marks -/

/-- An entry of a stack. -/
inductive Item (α : Type) where
  | value (v : α)
  | mark
  deriving DecidableEq, Repr

/-- Why there is no value on top. -/
inductive NoValue where
  | mark | underflow
  deriving DecidableEq, Repr

/-- The top value and the stack below it. -/
def popValue : List (Item α) → Except NoValue (α × List (Item α))
  | .value v :: s => .ok (v, s)
  | .mark :: _ => .error .mark
  | [] => .error .underflow

/-- The values above the topmost mark, in the order they were pushed, and the stack below the
    mark. Putting each popped value in front of `items` undoes the reversal of popping. -/
def popToMarkOnto : List α → List (Item α) → Option (List α × List (Item α))
  | items, .value v :: s => popToMarkOnto (v :: items) s
  | items, .mark :: s => some (items, s)
  | _, [] => none

def popToMark (s : List (Item α)) : Option (List α × List (Item α)) := popToMarkOnto [] s

theorem popToMarkOnto_values (ws items : List α) (s : List (Item α)) :
    popToMarkOnto items (ws.map Item.value ++ .mark :: s) = some (ws.reverse ++ items, s) := by
  induction ws generalizing items with
  | nil => rfl
  | cons w ws ih =>
    simp only [List.map_cons, List.cons_append, popToMarkOnto, ih, List.reverse_cons,
      List.append_assoc, List.nil_append]

/-- Values pushed one after the other above a mark are popped in their order. -/
theorem popToMark_pushed (vs : List α) (s : List (Item α)) :
    popToMark (vs.reverse.map Item.value ++ .mark :: s) = some (vs, s) := by
  rw [popToMark, popToMarkOnto_values, List.reverse_reverse, List.append_nil]

/-- Entries that correspond: related values, or two marks. -/
inductive ItemRel (R : α → β → Prop) : Item α → Item β → Prop where
  | value {v : α} {w : β} (h : R v w) : ItemRel R (.value v) (.value w)
  | mark : ItemRel R .mark .mark

theorem ItemRel.mono {R S : α → β → Prop} (h : ∀ v w, R v w → S v w) {a : Item α} {b : Item β} :
    ItemRel R a b → ItemRel S a b
  | .value hvw => .value (h _ _ hvw)
  | .mark => .mark

section Related

variable {R : α → β → Prop}

/-- A value on top of one stack has its counterpart on top of the other. -/
theorem popValue_rel {s : List (Item α)} {t t' : List (Item β)} {w : β}
    (h : List.Forall₂ (ItemRel R) s t) (hw : popValue t = .ok (w, t')) :
    ∃ v s', popValue s = .ok (v, s') ∧ R v w ∧ List.Forall₂ (ItemRel R) s' t' := by
  cases h with
  | nil => cases hw
  | cons hab hrest =>
    cases hab with
    | mark => cases hw
    | value hvw =>
      cases hw
      exact ⟨_, _, rfl, hvw, hrest⟩

theorem popToMarkOnto_rel {s : List (Item α)} {t t' : List (Item β)} {us : List β}
    (h : List.Forall₂ (ItemRel R) s t) {vs : List α} {ws : List β} (hvw : List.Forall₂ R vs ws)
    (hus : popToMarkOnto ws t = some (us, t')) :
    ∃ xs s', popToMarkOnto vs s = some (xs, s') ∧ List.Forall₂ R xs us ∧
      List.Forall₂ (ItemRel R) s' t' := by
  induction h generalizing vs ws with
  | nil => cases hus
  | cons hab hrest ih =>
    cases hab with
    | mark =>
      cases hus
      exact ⟨_, _, rfl, hvw, hrest⟩
    | value hab => exact ih (.cons hab hvw) hus

/-- A mark in one stack has its counterpart in the other, with related values above it. -/
theorem popToMark_rel {s : List (Item α)} {t t' : List (Item β)} {us : List β}
    (h : List.Forall₂ (ItemRel R) s t) (hus : popToMark t = some (us, t')) :
    ∃ xs s', popToMark s = some (xs, s') ∧ List.Forall₂ R xs us ∧
      List.Forall₂ (ItemRel R) s' t' :=
  popToMarkOnto_rel h .nil hus

end Related

/-! ## 2. Maps as lists of entries -/

/-- A map with finitely many keys. -/
structure AssocMap (κ α : Type) where
  entries : List (κ × α)
  nodup : (entries.map Prod.fst).Nodup

namespace AssocMap

variable [DecidableEq κ]

def empty : AssocMap κ α := ⟨[], List.nodup_nil⟩

/-- The number of keys. -/
def size (m : AssocMap κ α) : Nat := m.entries.length

def find? (m : AssocMap κ α) (k : κ) : Option α := m.entries.lookup k

/-- The entries other than the one at `k`. -/
def without (k : κ) (entries : List (κ × α)) : List (κ × α) := entries.filter fun e => e.1 ≠ k

theorem without_nodup (k : κ) {entries : List (κ × α)} (h : (entries.map Prod.fst).Nodup) :
    (((without k entries)).map Prod.fst).Nodup :=
  h.sublist (List.filter_sublist.map Prod.fst)

/-- Sets the value at `k`, whether or not there is one. -/
def insert (m : AssocMap κ α) (k : κ) (v : α) : AssocMap κ α where
  entries := (k, v) :: without k m.entries
  nodup := by
    rw [List.map_cons, List.nodup_cons]
    refine ⟨fun hk => ?_, without_nodup k m.nodup⟩
    obtain ⟨e, he, hek⟩ := List.mem_map.mp hk
    have hne := (List.mem_filter.mp he).2
    simp [hek] at hne

end AssocMap

/-- Two maps with the same keys and related values. -/
def MapRel (R : α → β → Prop) (m : AssocMap κ α) (n : AssocMap κ β) : Prop :=
  List.Forall₂ (fun a b => a.1 = b.1 ∧ R a.2 b.2) m.entries n.entries

namespace MapRel

variable {R : α → β → Prop} {m : AssocMap κ α} {n : AssocMap κ β}

theorem empty : MapRel R (AssocMap.empty : AssocMap κ α) AssocMap.empty := .nil

theorem mono {S : α → β → Prop} (hRS : ∀ v w, R v w → S v w) (h : MapRel R m n) : MapRel S m n :=
  List.Forall₂.imp (fun _ _ hab => ⟨hab.1, hRS _ _ hab.2⟩) h

theorem size_eq (h : MapRel R m n) : m.size = n.size := List.Forall₂.length_eq h

variable [DecidableEq κ]

theorem insert (h : MapRel R m n) (k : κ) {v : α} {w : β} (hvw : R v w) :
    MapRel R (m.insert k v) (n.insert k w) :=
  .cons ⟨rfl, hvw⟩ (List.rel_filter (fun _ _ hab => by simp [hab.1]) h)

theorem lookup {as : List (κ × α)} {bs : List (κ × β)}
    (h : List.Forall₂ (fun a b => a.1 = b.1 ∧ R a.2 b.2) as bs) {k : κ} {w : β}
    (hw : bs.lookup k = some w) : ∃ v, as.lookup k = some v ∧ R v w := by
  induction h with
  | nil => cases hw
  | @cons a b as bs hab _ ih =>
    obtain ⟨ka, va⟩ := a
    obtain ⟨kb, vb⟩ := b
    obtain ⟨hk, hv⟩ := hab
    have hk' : ka = kb := hk
    subst hk'
    by_cases he : k = ka
    · subst he
      simp only [List.lookup_cons_self, Option.some.injEq] at hw ⊢
      exact ⟨va, rfl, hw ▸ hv⟩
    · have hb : (k == ka) = false := by simpa using he
      simp only [List.lookup_cons, hb] at hw ⊢
      exact ih hw

theorem find? (h : MapRel R m n) {k : κ} {w : β} (hw : n.find? k = some w) :
    ∃ v, m.find? k = some v ∧ R v w := lookup h hw

end MapRel

end ModalRs.Lib
