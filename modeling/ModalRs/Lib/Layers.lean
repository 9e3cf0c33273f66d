/-
  File:      ModalRs/Lib/Layers.lean
  Subject:   Programs whose actions are performed by programs of a layer below.

  The layer below may give up on an action; the program above then ends as well.

  * `through`: a program over the layer below.
  * `Blocks R es as`: the answered actions `es` of the layer below are blocks, each of which
    comes to one of the answered actions `as` of the layer above, as `R` says.
  * `follows_through`: what a layered program has done is some blocks and the beginning
    of one more; the blocks come to what the program above has done.
-/
import ModalRs.Lib.Resumption

namespace ModalRs.Lib

namespace Resumption

variable {Hi Lo : Type} {HiReply : Hi → Type} {LoReply : Lo → Type} {π α β : Type}

/-- What has been done of a sequence: a beginning of its first part, or all of that and a beginning
    of the second. -/
theorem follows_bind {p : Resumption Lo LoReply α} {f : α → Resumption Lo LoReply β}
    {es : List (Answered Lo LoReply)} {q : Resumption Lo LoReply β} (h : Follows (p >>= f) es q) :
    (∃ p', Follows p es p' ∧ (∀ a, p' ≠ .done a) ∧ q = p' >>= f) ∨
    ∃ es₁ es₂ a, es = es₁ ++ es₂ ∧ Follows p es₁ (.done a) ∧ Follows (f a) es₂ q := by
  induction p generalizing es with
  | done a => exact Or.inr ⟨[], es, a, rfl, .refl _, h⟩
  | act a next ih =>
    cases h with
    | refl => exact Or.inl ⟨_, .refl _, nofun, rfl⟩
    | act _ _ r h =>
      rcases ih r h with ⟨p', hp, hne, rfl⟩ | ⟨es₁, es₂, b, rfl, hp, hf⟩
      · exact Or.inl ⟨p', .act a next r hp, hne, rfl⟩
      · exact Or.inr ⟨⟨a, r⟩ :: es₁, es₂, b, rfl, .act a next r hp, hf⟩

variable (lower : (a : Hi) → ExceptT π (Resumption Lo LoReply) (HiReply a))

/-- A program, each of its actions performed by the layer below. -/
def through : Resumption Hi HiReply α → ExceptT π (Resumption Lo LoReply) α
  | .done a => pure a
  | .act a next => lower a >>= fun r => (next r).through

/-- The answered actions of the layer below, block by block, and those that they come to. -/
inductive Blocks (R : (a : Hi) → List (Answered Lo LoReply) → HiReply a → Prop) :
    List (Answered Lo LoReply) → List (Answered Hi HiReply) → Prop where
  | nil : Blocks R [] []
  | cons {a : Hi} {r : HiReply a} {es es' : List (Answered Lo LoReply)}
      {as : List (Answered Hi HiReply)} (h : R a es r) (hrest : Blocks R es' as) :
      Blocks R (es ++ es') (⟨a, r⟩ :: as)

theorem Blocks.mono {R R' : (a : Hi) → List (Answered Lo LoReply) → HiReply a → Prop}
    (hR : ∀ a es r, R a es r → R' a es r) {es : List (Answered Lo LoReply)}
    {as : List (Answered Hi HiReply)} (h : Blocks R es as) : Blocks R' es as := by
  induction h with
  | nil => exact .nil
  | cons h _ ih => exact .cons (hR _ _ _ h) ih

/-- The layer below performs an action, and comes to an answer. -/
def Performs (a : Hi) (es : List (Answered Lo LoReply)) (r : HiReply a) : Prop :=
  Follows (lower a).run es (.done (.ok r))

/-- A program in the middle of its next action: of that action, `es` was done, and `q` is left of
    the whole. -/
inductive Underway : Resumption Hi HiReply α → List (Answered Lo LoReply) →
    Resumption Lo LoReply (Except π α) → Prop where
  | done (x : α) : Underway (.done x) [] (.done (.ok x))
  | act {a : Hi} {next : HiReply a → Resumption Hi HiReply α} {es : List (Answered Lo LoReply)}
      {l : Resumption Lo LoReply (Except π (HiReply a))} (h : Follows (lower a).run es l)
      (hl : ∀ out, l ≠ .done out) :
      Underway (.act a next) es ((ExceptT.mk l >>= fun r => (next r).through lower).run)
  /-- The layer below has given up. -/
  | gaveUp {a : Hi} {next : HiReply a → Resumption Hi HiReply α} {es : List (Answered Lo LoReply)}
      {e : π} (h : Follows (lower a).run es (.done (.error e))) :
      Underway (.act a next) es (.done (.error e))

variable {lower}

/-- **What a layered program has done** is some blocks, and the beginning of one more; the blocks
    come to a path of the program above. -/
theorem follows_through {p : Resumption Hi HiReply α} {es : List (Answered Lo LoReply)}
    {q : Resumption Lo LoReply (Except π α)} (h : Follows (p.through lower).run es q) :
    ∃ past rest as p', es = past ++ rest ∧ Blocks (Performs lower) past as ∧ Follows p as p' ∧
      Underway lower p' rest q := by
  induction p generalizing es with
  | done x =>
    obtain ⟨rfl, rfl⟩ := h.of_done
    exact ⟨[], [], [], .done x, rfl, .nil, .refl _, .done x⟩
  | act a next ih =>
    rcases follows_bind h with ⟨l, hl, hne, rfl⟩ | ⟨es₁, es₂, out, rfl, hlower, hnext⟩
    · exact ⟨[], es, [], .act a next, rfl, .nil, .refl _, .act hl hne⟩
    · cases out with
      | error e =>
        obtain ⟨rfl, rfl⟩ := Follows.of_done hnext
        exact ⟨[], es₁, [], .act a next, List.append_nil _, .nil, .refl _, .gaveUp hlower⟩
      | ok r =>
        obtain ⟨past, rest, as, p', rfl, hpast, hfollows, hrest⟩ := ih r hnext
        exact ⟨es₁ ++ past, rest, ⟨a, r⟩ :: as, p', (List.append_assoc _ _ _).symm,
          .cons hlower hpast, .act a next r hfollows, hrest⟩

end Resumption

end ModalRs.Lib
