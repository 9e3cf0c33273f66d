/-
  File:      ModalRs/Rust/Text.lean
  Subject:   The words of a text, and its letters in upper case.

  `str::split_whitespace` and `str::to_ascii_uppercase`, on characters, and what
  they have to do with `str::trim` and `str::to_uppercase`.

  * `splitWhitespace_word`: the first word of a text is what is before white space.
  * `splitWhitespace_trim`: trimming keeps the words.
  * `Unmistakable`, `toUppercase_prefix`: a prefix in upper case that only ASCII
    letters give.
-/
import Mathlib.Data.List.TakeWhile
import ModalRs.Rust.Unicode

namespace ModalRs.Rust

/-! ## 1. Words -/

/-- `str::split_whitespace`, on characters. -/
def splitWhitespace (cs : List Char) : List (List Char) :=
  (cs.splitOnP isWhitespace).filter fun word => !word.isEmpty

/-- No white space. -/
def Solid (cs : List Char) : Prop := ∀ c ∈ cs, isWhitespace c = false

/-- Nothing but white space. -/
def Blank (cs : List Char) : Prop := ∀ c ∈ cs, isWhitespace c = true

theorem solid_of_all {cs : List Char} (h : cs.any isWhitespace = false) : Solid cs := by
  intro c hc
  have hno := List.any_eq_false.mp h c hc
  rwa [Bool.not_eq_true] at hno

theorem Solid.append {cs ds : List Char} (hcs : Solid cs) (hds : Solid ds) : Solid (cs ++ ds) := by
  intro c hc
  rcases List.mem_append.mp hc with hc | hc
  · exact hcs c hc
  · exact hds c hc

theorem solid_takeWhile (cs : List Char) : Solid (cs.takeWhile fun c => !isWhitespace c) := by
  intro c hc
  have hc' := List.mem_takeWhile_imp hc
  rwa [Bool.not_eq_true'] at hc'

theorem blank_takeWhile (cs : List Char) : Blank (cs.takeWhile isWhitespace) :=
  fun _ hc => List.mem_takeWhile_imp hc

theorem Blank.reverse {cs : List Char} (h : Blank cs) : Blank cs.reverse :=
  fun c hc => h c (List.mem_reverse.mp hc)

/-- White space between two texts separates their words. -/
theorem splitWhitespace_append_cons {sep : Char} (hsep : isWhitespace sep = true)
    (cs ds : List Char) :
    splitWhitespace (cs ++ sep :: ds) = splitWhitespace cs ++ splitWhitespace ds := by
  rw [splitWhitespace, List.splitOnP_append_cons cs ds hsep, List.filter_append]
  rfl

theorem splitWhitespace_cons {sep : Char} (hsep : isWhitespace sep = true) (ds : List Char) :
    splitWhitespace (sep :: ds) = splitWhitespace ds :=
  splitWhitespace_append_cons hsep [] ds

theorem splitWhitespace_solid {word : List Char} (hne : word ≠ []) (hword : Solid word) :
    splitWhitespace word = [word] := by
  rw [splitWhitespace, List.splitOnP_eq_singleton hword]
  refine List.filter_eq_self.mpr fun w hw => ?_
  rw [List.mem_singleton.mp hw, List.isEmpty_eq_false_iff.mpr hne]
  rfl

/-- **The first word** goes on to the next white space. -/
theorem splitWhitespace_word {word : List Char} (hne : word ≠ []) (hword : Solid word)
    (cs : List Char) : splitWhitespace (word ++ cs) =
      (word ++ cs.takeWhile fun c => !isWhitespace c) ::
        splitWhitespace (cs.dropWhile fun c => !isWhitespace c) := by
  have hsolid := hword.append (solid_takeWhile cs)
  have hne' : (word ++ cs.takeWhile fun c => !isWhitespace c) ≠ [] :=
    List.append_ne_nil_of_left_ne_nil hne _
  have hsplit : word ++ cs = (word ++ cs.takeWhile fun c => !isWhitespace c) ++
      cs.dropWhile fun c => !isWhitespace c := by
    rw [List.append_assoc, List.takeWhile_append_dropWhile]
  rw [hsplit]
  rcases hrest : cs.dropWhile fun c => !isWhitespace c with _ | ⟨sep, ds⟩
  · rw [List.append_nil, splitWhitespace_solid hne' hsolid]
    rfl
  · have hsep : isWhitespace sep = true := by
      have hhead := List.head?_dropWhile_not (fun c => !isWhitespace c) cs
      rw [hrest] at hhead
      have hnot : (!isWhitespace sep) = false := hhead
      rwa [Bool.not_eq_false'] at hnot
    rw [splitWhitespace_append_cons hsep, splitWhitespace_solid hne' hsolid,
      splitWhitespace_cons hsep]
    rfl

/-! ## 2. Trimming -/

theorem splitWhitespace_blank_append {blank : List Char} (h : Blank blank) (cs : List Char) :
    splitWhitespace (blank ++ cs) = splitWhitespace cs := by
  induction blank with
  | nil => rfl
  | cons c blank ih =>
    obtain ⟨hc, hblank⟩ := List.forall_mem_cons.mp h
    rw [List.cons_append, splitWhitespace_cons hc, ih hblank]

theorem splitWhitespace_append_blank {blank : List Char} (h : Blank blank) (cs : List Char) :
    splitWhitespace (cs ++ blank) = splitWhitespace cs := by
  cases blank with
  | nil => rw [List.append_nil]
  | cons c blank =>
    obtain ⟨hc, hblank⟩ := List.forall_mem_cons.mp h
    have hnone : splitWhitespace blank = [] := by
      have hwords := splitWhitespace_blank_append hblank []
      rw [List.append_nil] at hwords
      exact hwords
    rw [splitWhitespace_append_cons hc, hnone, List.append_nil]

/-- What is trimmed is white space. -/
theorem trim_split (cs : List Char) :
    ∃ before after, cs = before ++ (trim cs ++ after) ∧ Blank before ∧ Blank after := by
  refine ⟨cs.takeWhile isWhitespace,
    ((cs.dropWhile isWhitespace).reverse.takeWhile isWhitespace).reverse, ?_,
    blank_takeWhile cs, (blank_takeWhile _).reverse⟩
  rw [trim, trimMatches, ← List.reverse_append, List.takeWhile_append_dropWhile,
    List.reverse_reverse, List.takeWhile_append_dropWhile]

/-- **Trimming keeps the words.** -/
theorem splitWhitespace_trim (cs : List Char) : splitWhitespace (trim cs) = splitWhitespace cs := by
  obtain ⟨before, after, hsplit, hbefore, hafter⟩ := trim_split cs
  have hwords := congrArg splitWhitespace hsplit
  rw [splitWhitespace_blank_append hbefore, splitWhitespace_append_blank hafter] at hwords
  exact hwords.symm

/-- A trimmed text does not start with white space. -/
theorem trim_cons {cs ds : List Char} {c : Char} (h : trim cs = c :: ds) :
    isWhitespace c = false := by
  have hdrop : cs.dropWhile isWhitespace = trim cs ++
      ((cs.dropWhile isWhitespace).reverse.takeWhile isWhitespace).reverse := by
    rw [trim, trimMatches, ← List.reverse_append, List.takeWhile_append_dropWhile,
      List.reverse_reverse]
  have hhead := List.head?_dropWhile_not isWhitespace cs
  rw [hdrop, h] at hhead
  exact hhead

/-! ## 3. Upper case -/

/-- `str::to_ascii_uppercase`, on characters. -/
def toAsciiUppercase (cs : List Char) : List Char := cs.map Char.toUpper

/-- No character but an ASCII one gives this text in upper case, nor a beginning of it. -/
def Unmistakable : List Char → Bool
  | [] => true
  | p :: ps =>
      0 < p.toNat && p.toNat < 128 &&
        upperRanges.all (fun r => r.lo < 128 ||
          !(decide (r.lo + r.delta ≤ p.toNat) && decide (p.toNat ≤ r.hi + r.delta))) &&
        upperSpecial.all (fun e =>
          !((p :: ps).isPrefixOf (e.2.map Char.ofNat) ||
            (e.2.map Char.ofNat).isPrefixOf (p :: ps))) &&
        Unmistakable ps

/-- Only small letters have an ASCII upper case of their own. -/
theorem toUpper_eq_self {c : Char} (h : ¬ (97 ≤ c.toNat ∧ c.toNat ≤ 122)) : c.toUpper = c :=
  dif_neg h

theorem toUpper_of_nonascii {c : Char} (h : 128 ≤ c.toNat) : c.toUpper = c :=
  toUpper_eq_self fun hlower => absurd (Nat.le_trans h hlower.2) (by decide)

theorem ascii_cases {P : Char → Prop} (h : ∀ n : Fin 128, P (Char.ofNat n.val)) {c : Char}
    (hc : c.toNat < 128) : P c := by
  have hp := h ⟨c.toNat, hc⟩
  rwa [Char.ofNat_toNat] at hp

/-- Upper case keeps white space apart. -/
theorem isWhitespace_toUpper (c : Char) : isWhitespace c.toUpper = isWhitespace c := by
  rcases Nat.lt_or_ge c.toNat 128 with hascii | hother
  · exact ascii_cases (P := fun c => isWhitespace c.toUpper = isWhitespace c)
      (by decide +kernel) hascii
  · rw [toUpper_of_nonascii hother]

/-- What is below the letters is its own upper case only. -/
theorem eq_of_toUpper {c p : Char} (hp : p.toNat < 65) (h : c.toUpper = p) : c = p := by
  rcases Nat.lt_or_ge c.toNat 128 with hascii | hother
  · have hself := ascii_cases (P := fun c => c.toUpper.toNat < 65 → c = c.toUpper)
      (by decide +kernel) hascii
    rw [h] at hself
    exact hself hp
  · rwa [toUpper_of_nonascii hother] at h

theorem solid_of_upper {cs ps : List Char} (hps : Solid ps) (h : toAsciiUppercase cs = ps) :
    Solid cs := by
  intro c hc
  rw [← isWhitespace_toUpper]
  refine hps _ ?_
  rw [← h]
  exact List.mem_map_of_mem hc

/-- The tables move no ASCII characters but the small letters. -/
theorem upperSpecial_nonascii : ∀ e ∈ upperSpecial, 128 ≤ e.1 := by decide +kernel

theorem upperRanges_ascii : ∀ r ∈ upperRanges, r.lo < 128 → r = ⟨97, 122, 1, -32⟩ := by
  decide +kernel

theorem covers_letters (n : Nat) :
    UpperRange.covers ⟨97, 122, 1, -32⟩ n = true ↔ 97 ≤ n ∧ n ≤ 122 := by
  simp [UpperRange.covers, Nat.mod_one]

/-- An ASCII character has the ASCII upper case. -/
theorem charToUppercase_ascii {c : Char} (h : c.toNat < 128) :
    charToUppercase c = [c.toUpper] := by
  have hnone : upperSpecial.lookup c.toNat = none := by
    refine List.lookup_eq_none_iff.mpr fun e he => ?_
    have hkey := upperSpecial_nonascii e he
    rw [bne_iff_ne]
    omega
  rw [charToUppercase, hnone]
  cases hfind : upperRanges.find? (·.covers c.toNat) with
  | none =>
    have hno := List.find?_eq_none.mp hfind ⟨97, 122, 1, -32⟩ List.mem_cons_self
    rw [covers_letters] at hno
    simp only [toUpper_eq_self hno]
  | some r =>
    have hcovers := List.find?_some hfind
    have hlow : r.lo < 128 := by
      rw [UpperRange.covers, Bool.and_eq_true, Bool.and_eq_true, decide_eq_true_eq] at hcovers
      exact Nat.lt_of_le_of_lt hcovers.1.1 h
    have hr := upperRanges_ascii r (List.mem_of_find?_eq_some hfind) hlow
    subst hr
    have hmoved := ascii_cases (P := fun c => 97 ≤ c.toNat ∧ c.toNat ≤ 122 →
      Char.ofNat (c.toNat + -32 : Int).toNat = c.toUpper) (by decide +kernel) h
    simp only [hmoved ((covers_letters _).mp hcovers)]

/-- A number that is no code point gives the character 0. -/
theorem toNat_charOfNat (n : Nat) : (Char.ofNat n).toNat = n ∨ (Char.ofNat n).toNat = 0 := by
  by_cases hvalid : n.isValidChar
  · rw [Char.ofNat, dif_pos hvalid]
    exact Or.inl rfl
  · rw [Char.ofNat, dif_neg hvalid]
    exact Or.inr rfl

theorem isPrefixOf_of_prefix_append {p xs ys : List Char} (h : p <+: xs ++ ys) :
    p.isPrefixOf xs = true ∨ xs.isPrefixOf p = true := by
  rcases List.prefix_or_prefix_of_prefix h (List.prefix_append xs ys) with h | h
  · exact Or.inl (List.isPrefixOf_iff_prefix.mpr h)
  · exact Or.inr (List.isPrefixOf_iff_prefix.mpr h)

theorem unmistakable_ascii {p : Char} {ps : List Char} (h : Unmistakable (p :: ps) = true) :
    p.toNat < 128 := by
  simp only [Unmistakable, Bool.and_eq_true, decide_eq_true_eq] at h
  exact h.1.1.1.2

/-- **No other character gives an unmistakable text**, nor one that starts with it. -/
theorem not_prefix_of_nonascii {p : Char} {ps : List Char} (h : Unmistakable (p :: ps) = true)
    {c : Char} (hc : 128 ≤ c.toNat) (rest : List Char) :
    ¬ p :: ps <+: charToUppercase c ++ rest := by
  rw [Unmistakable, Bool.and_eq_true, Bool.and_eq_true, Bool.and_eq_true, Bool.and_eq_true,
    decide_eq_true_eq, decide_eq_true_eq] at h
  obtain ⟨⟨⟨⟨hpos, hascii⟩, hranges⟩, hspecial⟩, -⟩ := h
  intro hprefix
  unfold charToUppercase at hprefix
  split at hprefix
  · -- one of the mappings to more than one character
    next ns hlookup =>
    obtain ⟨_, _, hmem, -⟩ := List.lookup_eq_some_iff.mp hlookup
    have hin : (c.toNat, ns) ∈ upperSpecial := by
      rw [hmem]
      exact List.mem_append_right _ List.mem_cons_self
    have hno := List.all_eq_true.mp hspecial _ hin
    rcases isPrefixOf_of_prefix_append hprefix with hp | hp
    · rw [hp] at hno
      cases hno
    · rw [hp, Bool.or_true] at hno
      cases hno
  · split at hprefix
    · -- one of the ranges: the character it moves to would be `p`
      next r hfind =>
      have hcovers := List.find?_some hfind
      have hin := List.mem_of_find?_eq_some hfind
      rw [UpperRange.covers, Bool.and_eq_true, Bool.and_eq_true, decide_eq_true_eq,
        decide_eq_true_eq] at hcovers
      obtain ⟨⟨hlo, hhi⟩, -⟩ := hcovers
      have hletters : r.lo < 128 → r.hi < 128 := fun hlow => by
        rw [upperRanges_ascii r hin hlow]
        decide
      have hstart : ¬ r.lo < 128 := fun hlow =>
        absurd (Nat.lt_of_le_of_lt hhi (hletters hlow)) (Nat.not_lt.mpr hc)
      have hno := List.all_eq_true.mp hranges _ hin
      have hp : p = Char.ofNat (c.toNat + r.delta).toNat := (List.cons_prefix_cons.mp hprefix).1
      have hvalue := toNat_charOfNat (c.toNat + r.delta).toNat
      rw [← hp] at hvalue
      simp only [hstart, decide_false, Bool.false_or, Bool.not_eq_true', Bool.and_eq_false_iff,
        decide_eq_false_iff_not] at hno
      omega
    · have hp : p = c := (List.cons_prefix_cons.mp hprefix).1
      rw [hp] at hascii
      omega

/-- **A prefix in upper case**: only ASCII letters give it. -/
theorem toUppercase_prefix {ps : List Char} (h : Unmistakable ps = true) (cs : List Char) :
    ps <+: toUppercase cs ↔ ps <+: toAsciiUppercase cs := by
  induction ps generalizing cs with
  | nil => exact ⟨fun _ => List.nil_prefix, fun _ => List.nil_prefix⟩
  | cons p ps ih =>
    have hrest : Unmistakable ps = true := by
      rw [Unmistakable, Bool.and_eq_true] at h
      exact h.2
    cases cs with
    | nil => exact Iff.rfl
    | cons c cs =>
      have hupper : toUppercase (c :: cs) = charToUppercase c ++ toUppercase cs := rfl
      rw [hupper, toAsciiUppercase, List.map_cons]
      rcases Nat.lt_or_ge c.toNat 128 with hascii | hother
      · rw [charToUppercase_ascii hascii, List.singleton_append, List.cons_prefix_cons,
          List.cons_prefix_cons, ih hrest]
        rfl
      · refine iff_of_false (not_prefix_of_nonascii h hother _) fun hprefix => ?_
        have hp : p = c := (List.cons_prefix_cons.mp hprefix).1.trans (toUpper_of_nonascii hother)
        have hascii := unmistakable_ascii h
        rw [hp] at hascii
        exact absurd hascii (Nat.not_lt.mpr hother)

end ModalRs.Rust
