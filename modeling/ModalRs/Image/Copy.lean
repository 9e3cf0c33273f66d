/-
  File:      ModalRs/Image/Copy.lean
  Subject:   Which commands are refused as a COPY from local context.

  A command is an instruction: its first word names it, and the words right
  behind that start with "--" are its flags. The check compares the beginning of
  the trimmed command instead.

  * `copiesLocally`: a COPY instruction without a `--from=` flag.
  * `isLocalCopy_eq`: what the check looks at.
  * `copy_validation_exactly`: for which lists of commands that comes to the same.
-/
import ModalRs.Image.Basic
import ModalRs.Rust.Text

namespace ModalRs

open ModalRs.Rust

/-! ## 1. Instructions -/

/-- The first word is COPY, in any letter case. -/
def isCopy (command : String) : Bool :=
  match splitWhitespace command.toList with
  | [] => false
  | instruction :: _ => toAsciiUppercase instruction == "COPY".toList

/-- The flags of an instruction, given its words. -/
def flagsOf (words : List (List Char)) : List (List Char) :=
  words.tail.takeWhile ("--".toList.isPrefixOf ·)

/-- A `--from=` flag, in any letter case. -/
def isFromFlag (flag : List Char) : Bool := "--FROM=".toList.isPrefixOf (toAsciiUppercase flag)

def hasFromFlag (command : String) : Bool :=
  (flagsOf (splitWhitespace command.toList)).any isFromFlag

/-- A COPY from local context. -/
def copiesLocally (command : String) : Bool := isCopy command && !hasFromFlag command

/-! ## 2. What the check looks at -/

/-- The fifth character of the trimmed command is a space. -/
def spaceFollows (command : String) : Bool := (trim command.toList)[4]? == some ' '

/-- Behind that space comes `--from=`. -/
def fromFollows (command : String) : Bool := isFromFlag ((trim command.toList).drop 5)

section Beginnings

variable {command : String} {word rest : List Char}

theorem length_of_copy (hword : toAsciiUppercase word = "COPY".toList) : word.length = 4 := by
  have hlength := congrArg List.length hword
  rwa [toAsciiUppercase, List.length_map] at hlength

/-- The text is COPY, a space, and something. -/
theorem copy_space_iff (cs : List Char) :
    "COPY ".toList <+: toAsciiUppercase cs ↔
      ∃ word rest, cs = word ++ ' ' :: rest ∧ toAsciiUppercase word = "COPY".toList := by
  constructor
  · rintro ⟨more, hmore⟩
    have hsplit : cs.map Char.toUpper = "COPY".toList ++ (' ' :: more) := hmore.symm
    obtain ⟨word, tail, rfl, hword, htail⟩ := List.map_eq_append_iff.mp hsplit
    obtain ⟨space, rest, rfl, hspace, -⟩ := List.map_eq_cons_iff.mp htail
    rw [eq_of_toUpper (by decide) hspace]
    exact ⟨word, rest, rfl, hword⟩
  · rintro ⟨word, rest, rfl, hword⟩
    rw [toAsciiUppercase] at hword
    rw [toAsciiUppercase, List.map_append, List.map_cons, hword]
    exact ⟨rest.map Char.toUpper, rfl⟩

/-- Its words are COPY and those of what comes behind. -/
theorem words_of_copy (htrim : trim command.toList = word ++ ' ' :: rest)
    (hword : toAsciiUppercase word = "COPY".toList) :
    splitWhitespace command.toList = word :: splitWhitespace rest := by
  have hne : word ≠ [] := List.ne_nil_of_length_eq_add_one (length_of_copy hword)
  have hspace : isWhitespace ' ' = true := by decide
  have hsolid : Solid word := solid_of_upper (solid_of_all rfl) hword
  rw [← splitWhitespace_trim, htrim, splitWhitespace_append_cons hspace,
    splitWhitespace_solid hne hsolid]
  rfl

/-- The first word is a beginning of the trimmed command. -/
theorem first_word {words : List (List Char)}
    (h : splitWhitespace command.toList = word :: words) :
    ∃ rest, trim command.toList = word ++ rest := by
  rw [← splitWhitespace_trim] at h
  cases htrim : trim command.toList with
  | nil =>
    rw [htrim] at h
    cases h
  | cons c cs =>
    have hsolid : Solid [c] := fun c' hc => by
      rw [List.mem_singleton.mp hc]
      exact trim_cons htrim
    rw [htrim, ← List.singleton_append,
      splitWhitespace_word (List.cons_ne_nil _ _) hsolid] at h
    rw [← (List.cons.inj h).1]
    refine ⟨cs.dropWhile fun c => !isWhitespace c, ?_⟩
    rw [List.append_assoc, List.takeWhile_append_dropWhile]
    rfl

/-- **The first comparison**: the instruction is COPY, and a space ends it. -/
theorem starts_with_copy (command : String) :
    "COPY ".toList <+: toAsciiUppercase (trim command.toList) ↔
      isCopy command = true ∧ spaceFollows command = true := by
  rw [copy_space_iff]
  constructor
  · rintro ⟨word, rest, htrim, hword⟩
    rw [isCopy, words_of_copy htrim hword, spaceFollows, htrim, beq_iff_eq, beq_iff_eq]
    refine ⟨hword, ?_⟩
    rw [List.getElem?_append_right (Nat.le_of_eq (length_of_copy hword)), length_of_copy hword]
    rfl
  · rintro ⟨hcopy, hspace⟩
    unfold isCopy at hcopy
    split at hcopy
    · cases hcopy
    · next word words hwords =>
      have hword : toAsciiUppercase word = "COPY".toList := beq_iff_eq.mp hcopy
      obtain ⟨tail, htrim⟩ := first_word hwords
      rw [spaceFollows, htrim, beq_iff_eq,
        List.getElem?_append_right (Nat.le_of_eq (length_of_copy hword)),
        length_of_copy hword] at hspace
      cases tail with
      | nil => cases hspace
      | cons c rest =>
        cases hspace
        exact ⟨word, rest, htrim, hword⟩

/-- What comes behind COPY and a space. -/
theorem drop_of_copy (htrim : trim command.toList = word ++ ' ' :: rest)
    (hword : toAsciiUppercase word = "COPY".toList) : (trim command.toList).drop 5 = rest := by
  have hfive : 5 = word.length + 1 := by rw [length_of_copy hword]
  rw [htrim, hfive, List.drop_length_add_append]
  rfl

/-- **What the check looks at.** -/
theorem isLocalCopy_eq (command : String) : isLocalCopy command =
    (isCopy command && spaceFollows command && !fromFollows command) := by
  have hfirst : "COPY ".toList.isPrefixOf (toUppercase (trim command.toList)) =
      (isCopy command && spaceFollows command) := by
    rw [Bool.eq_iff_iff, List.isPrefixOf_iff_prefix, toUppercase_prefix (by decide +kernel),
      starts_with_copy, Bool.and_eq_true]
  rw [isLocalCopy]
  simp only [hfirst]
  cases hstarts : isCopy command && spaceFollows command with
  | false => rfl
  | true =>
    obtain ⟨word, rest, htrim, hword⟩ := (copy_space_iff _).mp
      ((starts_with_copy command).mpr (Bool.and_eq_true_iff.mp hstarts))
    have hupper : toAsciiUppercase (trim command.toList) =
        "COPY ".toList ++ toAsciiUppercase rest := by
      rw [toAsciiUppercase] at hword
      rw [htrim, toAsciiUppercase, List.map_append, List.map_cons, hword]
      rfl
    have hsecond : "COPY --FROM=".toList.isPrefixOf (toUppercase (trim command.toList)) =
        fromFollows command := by
      have hsplit : "COPY --FROM=".toList = "COPY ".toList ++ "--FROM=".toList := rfl
      rw [Bool.eq_iff_iff, List.isPrefixOf_iff_prefix, toUppercase_prefix (by decide +kernel),
        hupper, hsplit, List.prefix_append_right_inj, fromFollows, drop_of_copy htrim hword,
        isFromFlag, List.isPrefixOf_iff_prefix]
    rw [hsecond]

/-! ## 3. Where that differs from the instruction -/

/-- A `--from=` that comes right behind is a flag. -/
theorem isFromFlag_first (h : isFromFlag rest = true) :
    (flagsOf (word :: splitWhitespace rest)).any isFromFlag = true := by
  rw [isFromFlag, List.isPrefixOf_iff_prefix] at h
  obtain ⟨more, hmore⟩ := h
  have hsplit : rest.map Char.toUpper = "--FROM=".toList ++ more := hmore.symm
  obtain ⟨flag, tail, rfl, hflag, -⟩ := List.map_eq_append_iff.mp hsplit
  have hsolid : Solid flag := solid_of_upper (solid_of_all rfl) hflag
  have hne : flag ≠ [] := fun hnil => by
    rw [hnil] at hflag
    cases hflag
  rw [splitWhitespace_word hne hsolid, flagsOf, List.tail_cons]
  generalize tail.takeWhile (fun c => !isWhitespace c) = value
  have hfrom : isFromFlag (flag ++ value) = true := by
    rw [isFromFlag, List.isPrefixOf_iff_prefix, toAsciiUppercase, List.map_append, hflag]
    exact List.prefix_append _ _
  have hdashes : "--".toList.isPrefixOf (flag ++ value) = true := by
    have hstart : flag.map Char.toUpper = '-' :: '-' :: "FROM=".toList := hflag
    obtain ⟨c₁, flag₁, rfl, hc₁, hflag₁⟩ := List.map_eq_cons_iff.mp hstart
    obtain ⟨c₂, flag₂, rfl, hc₂, -⟩ := List.map_eq_cons_iff.mp hflag₁
    rw [eq_of_toUpper (by decide) hc₁, eq_of_toUpper (by decide) hc₂]
    rfl
  rw [List.takeWhile_cons_of_pos hdashes, List.any_cons, hfrom, Bool.true_or]

theorem fromFollows_flag (hcopy : isCopy command = true) (hspace : spaceFollows command = true)
    (hfrom : fromFollows command = true) : hasFromFlag command = true := by
  obtain ⟨word, rest, htrim, hword⟩ := (copy_space_iff _).mp
    ((starts_with_copy command).mpr ⟨hcopy, hspace⟩)
  rw [fromFollows, drop_of_copy htrim hword] at hfrom
  rw [hasFromFlag, words_of_copy htrim hword]
  exact isFromFlag_first hfrom

/-- A COPY with a `--from=` flag, of which more than a space is in front. -/
def fromLate (command : String) : Bool :=
  isCopy command && spaceFollows command && hasFromFlag command && !fromFollows command

/-- **What the check refuses**: a COPY from local context that a space ends, and a late
    `--from=`. -/
theorem isLocalCopy_iff (command : String) : isLocalCopy command = true ↔
    (copiesLocally command = true ∧ spaceFollows command = true) ∨ fromLate command = true := by
  simp only [isLocalCopy_eq, copiesLocally, fromLate, Bool.and_eq_true, Bool.not_eq_true']
  constructor
  · rintro ⟨⟨hcopy, hspace⟩, hnone⟩
    cases hflag : hasFromFlag command with
    | false => exact Or.inl ⟨⟨hcopy, rfl⟩, hspace⟩
    | true => exact Or.inr ⟨⟨⟨hcopy, hspace⟩, rfl⟩, hnone⟩
  · rintro (⟨⟨hcopy, hflag⟩, hspace⟩ | ⟨⟨⟨hcopy, hspace⟩, -⟩, hnone⟩)
    · refine ⟨⟨hcopy, hspace⟩, ?_⟩
      cases hfrom : fromFollows command with
      | false => rfl
      | true =>
        rw [fromFollows_flag hcopy hspace hfrom] at hflag
        cases hflag
    · exact ⟨⟨hcopy, hspace⟩, hnone⟩

end Beginnings

theorem validateDockerfileCommands_error (commands : List String) :
    (∃ e, validateDockerfileCommands commands = .error e) ↔
      ∃ c ∈ commands, isLocalCopy c = true := by
  induction commands with
  | nil => exact ⟨fun ⟨_, h⟩ => (nomatch h), fun ⟨_, h, _⟩ => (nomatch h)⟩
  | cons command commands ih =>
    rw [validateDockerfileCommands]
    simp only [List.mem_cons, exists_eq_or_imp]
    by_cases hlocal : isLocalCopy command = true
    · rw [if_pos hlocal]
      exact ⟨fun _ => Or.inl hlocal, fun _ => ⟨_, rfl⟩⟩
    · rw [if_neg hlocal, ih]
      exact ⟨Or.inr, fun h => h.resolve_left hlocal⟩

/-- **For which lists of commands the check is right**, exactly: those with a COPY from local
    context that a space ends; and those that have a COPY from local context that none ends, and a
    `--from=` that comes late, or neither of the two. -/
theorem copy_validation_exactly (commands : List String) :
    ((∃ e, validateDockerfileCommands commands = .error e) ↔
        ∃ c ∈ commands, copiesLocally c = true) ↔
      (∃ c ∈ commands, copiesLocally c = true ∧ spaceFollows c = true) ∨
        ((∃ c ∈ commands, copiesLocally c = true ∧ spaceFollows c = false) ↔
          ∃ c ∈ commands, fromLate c = true) := by
  have hrefused : (∃ c ∈ commands, isLocalCopy c = true) ↔
      (∃ c ∈ commands, copiesLocally c = true ∧ spaceFollows c = true) ∨
        ∃ c ∈ commands, fromLate c = true := by
    simp only [isLocalCopy_iff, and_or_left, exists_or]
  have hlocal : (∃ c ∈ commands, copiesLocally c = true) ↔
      (∃ c ∈ commands, copiesLocally c = true ∧ spaceFollows c = true) ∨
        ∃ c ∈ commands, copiesLocally c = true ∧ spaceFollows c = false := by
    simp only [← exists_or, ← and_or_left, Bool.eq_true_or_eq_false_self, and_true]
  rw [validateDockerfileCommands_error, hrefused, hlocal]
  by_cases hspaced : ∃ c ∈ commands, copiesLocally c = true ∧ spaceFollows c = true
  · exact ⟨fun _ => Or.inl hspaced, fun _ => iff_of_true (Or.inl hspaced) (Or.inl hspaced)⟩
  · simp only [hspaced, false_or]
    exact ⟨Iff.symm, Iff.symm⟩

/-- A command that the check takes for the other kind makes it wrong, alone in a list. -/
theorem wrong_alone {command : String} (h : isLocalCopy command ≠ copiesLocally command) :
    ¬ ((∃ e, validateDockerfileCommands [command] = .error e) ↔
      ∃ c ∈ [command], copiesLocally c = true) := by
  rw [validateDockerfileCommands_error]
  simp only [List.mem_singleton, exists_eq_left, ← Bool.eq_iff_iff]
  exact h

/-- **A tab slips through, and two spaces are refused.** -/
theorem copy_misread :
    ¬ ((∃ e, validateDockerfileCommands ["COPY\ta b"] = .error e) ↔
        ∃ c ∈ ["COPY\ta b"], copiesLocally c = true) ∧
      ¬ ((∃ e, validateDockerfileCommands ["COPY  --from=x a b"] = .error e) ↔
        ∃ c ∈ ["COPY  --from=x a b"], copiesLocally c = true) := by
  exact ⟨wrong_alone (by decide), wrong_alone (by decide)⟩

end ModalRs
