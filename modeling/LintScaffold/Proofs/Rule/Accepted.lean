import LintScaffold.Proofs.Rule.AsciiWords
import Mathlib.Data.List.Sections

/-!
# Accepted names

A name is judged by its capitalised form, which is made of the words that it is cut into.  Here it
is said on the name itself which names are accepted, for names whose letters and digits are ASCII:

* the capitalised form is in letters and digits anyway, and it begins with a letter if the first
  letter or digit of the name is a letter (`isTypeName_pascal_iff`);
* it is the reserved word `Self` if the letters and digits of the name are one row that spells the
  word and is not cut.  Every word of a capitalised form begins with a capital or a digit, so that
  there can be only one word (`word_of_reserved`); and of the sixteen ways to write it in small
  and capital letters all but three have a camel boundary inside (`reserved_evaluated`).

For names beyond ASCII there is no such description, since there upper case can be anything.  But
an accepted name has a capitalised form that begins with a capital letter, and a refusal hands
back the name as it was given (`parse_accepts_iff`).
-/

namespace LintScaffold.RuleName

open Text (isAlphanumeric isAsciiLetter isAsciiDigit IsAscii)
open Words (HasAsciiWords TwoForms isSmall isCapital split capitalize)

/-! ## Names in letters and digits -/

theorem letter_or_digit_of_capitalize {given word : Text} (h : HasAsciiWords given)
    (hword : word ∈ split given) :
    ∀ d ∈ capitalize word, (isAsciiLetter d || isAsciiDigit d) = true := by
  obtain ⟨low, up, tail, hforms⟩ := h.exists_twoForms hword
  rw [hforms.capitalized]
  exact hforms.letter_or_digit

/-- The first letter or digit of a text begins its first word. -/
theorem find?_eq_head_flatten (given : Text) :
    given.find? isAlphanumeric = (split given).flatten.head? := by
  rw [Words.flatten_split, List.head?_filter]

theorem isTypeName_pascal_iff {given : Text} (h : HasAsciiWords given) :
    isTypeName (Words.pascal given) = true ↔
      ∃ c, given.find? isAlphanumeric = some c ∧ isAsciiLetter c = true := by
  rw [find?_eq_head_flatten, Words.pascal]
  cases hsplit : split given with
  | nil => simp [isTypeName]
  | cons word later =>
      have hword : word ∈ split given := by simp [hsplit]
      have hrow := Words.isWord_of_mem_split hword
      cases word with
      | nil => exact absurd rfl hrow.ne_nil
      | cons c rest =>
          have hc : c.toNat < 128 := Words.isAscii_of_mem_split h hword c List.mem_cons_self
          obtain ⟨low, up, hcases⟩ :=
            Text.exists_hasCases hc (hrow.alphanumeric c List.mem_cons_self)
          have hall : ∀ d ∈ Text.lower rest ++ later.flatMap capitalize,
              (isAsciiLetter d || isAsciiDigit d) = true := by
            intro d hd
            rcases List.mem_append.mp hd with hd | hd
            · refine letter_or_digit_of_capitalize h hword d ?_
              rw [capitalize]
              exact List.mem_append_right _ hd
            · obtain ⟨other, hother, hd⟩ := List.mem_flatMap.mp hd
              have hother : other ∈ split given := by
                rw [hsplit]
                exact List.mem_cons_of_mem _ hother
              exact letter_or_digit_of_capitalize h hother d hd
          have hletter : isAsciiLetter up = isAsciiLetter c := by
            rcases hcases.kind with ⟨hletter, -, hcapital⟩ | ⟨-, -, rfl⟩
            · rw [hletter, Words.isAsciiLetter_of_isCapital hcapital]
            · rfl
          rw [List.flatMap_cons, capitalize, hcases.upper, List.append_assoc,
            List.singleton_append, isTypeName, List.all_eq_true.mpr hall, Bool.and_true, hletter]
          simp

/-! ## The reserved word -/

/-- The spellings of the reserved word that are one word. -/
def reservedRuns : List Text := ["self".toList, "Self".toList, "SELF".toList]

/-- The ways to write a small letter. -/
def spellings (low : Char) : List Char := [low, low.toUpper]

/-- What is found by evaluation: of the sixteen spellings of the reserved word three are not cut,
and the forms of these three are the same. -/
theorem reserved_evaluated :
    (∀ word ∈ ("self".toList.map spellings).sections,
      split word = [word] → word ∈ reservedRuns) ∧
    ∀ run ∈ reservedRuns, Words.pascal run = "Self".toList ∧ Text.lower run = "self".toList := by
  decide +kernel

/-- The letters and digits of the text are those of `run`, which stands in it in one piece. -/
def StandsAlone (run given : Text) : Prop :=
  ∃ before after, given = before ++ run ++ after ∧
    (∀ c ∈ before, isAlphanumeric c = false) ∧ ∀ c ∈ after, isAlphanumeric c = false

theorem split_standsAlone {run given : Text} (h : StandsAlone run given) :
    split given = split run := by
  obtain ⟨before, after, rfl, hbefore, hafter⟩ := h
  rw [Words.split_append hafter]
  induction before with
  | nil => rfl
  | cons c before ih =>
      obtain ⟨hc, hrest⟩ := List.forall_mem_cons.mp hbefore
      rw [List.cons_append, Words.split_cons_of_not hc, ih hrest]

theorem standsAlone_of_split {word given : Text} (h : split given = [word]) :
    StandsAlone word given := by
  have hword : word ∈ split given := by simp [h]
  obtain ⟨⟨before, after, hgiven⟩, -⟩ := Words.split_of_mem hword
  have halnum := (Words.isWord_of_mem_split hword).alphanumeric
  refine ⟨before, after, hgiven, ?_⟩
  -- the word is all that is left if everything else is dropped
  have hkept : (before ++ word ++ after).filter isAlphanumeric = word := by
    rw [← hgiven, ← Words.flatten_split, h, List.flatten_singleton]
  rw [List.filter_append, List.filter_append, List.filter_eq_self.mpr halnum] at hkept
  have hlength := congrArg List.length hkept
  simp only [List.length_append] at hlength
  have hnone : ∀ part : Text, (part.filter isAlphanumeric).length = 0 →
      ∀ c ∈ part, isAlphanumeric c = false := by
    intro part hpart c hc
    have hnot := List.filter_eq_nil_iff.mp (List.eq_nil_of_length_eq_zero hpart) c hc
    exact Bool.eq_false_iff.mpr hnot
  exact ⟨hnone before (by omega), hnone after (by omega)⟩

/-- A name with the reserved word as its capitalised form has one word, which is the reserved word
in lower case. -/
theorem word_of_reserved {given : Text} (h : HasAsciiWords given)
    (hself : Words.pascal given = "Self".toList) :
    ∃ word, split given = [word] ∧ Text.lower word = "self".toList := by
  rw [Words.pascal] at hself
  cases hsplit : split given with
  | nil =>
      rw [hsplit] at hself
      exact absurd hself (by decide)
  | cons word later =>
      have hword : word ∈ split given := by simp [hsplit]
      obtain ⟨low, up, tail, hforms⟩ := h.exists_twoForms hword
      rw [hsplit, List.flatMap_cons, hforms.capitalized, List.cons_append] at hself
      have hrest : tail ++ later.flatMap capitalize = "elf".toList :=
        (List.cons.inj (hself.trans (b := 'S' :: "elf".toList) rfl)).2
      cases later with
      | nil =>
          refine ⟨word, rfl, ?_⟩
          rw [List.flatMap_nil, List.append_nil] at hself
          rw [hforms.lower, ← hforms.lower_again, hself]
          exact (reserved_evaluated.2 _ (by simp [reservedRuns])).2
      | cons next more =>
          -- a second word would begin with one of the small letters
          have hlater : next ∈ split given := by simp [hsplit]
          obtain ⟨low', up', tail', hnext⟩ := h.exists_twoForms hlater
          have hmem : up' ∈ "elf".toList := by
            rw [← hrest, List.flatMap_cons, hnext.capitalized]
            simp
          have hsmall : ∀ c ∈ "elf".toList, isCapital c = false ∧ isAsciiDigit c = false :=
            List.forall_iff_forall_mem.mp (by decide)
          rcases hnext.first with ⟨-, hcapital⟩ | ⟨hdigit, rfl⟩
          · rw [(hsmall up' hmem).1] at hcapital
            exact absurd hcapital (by decide)
          · rw [(hsmall up' hmem).2] at hdigit
            exact absurd hdigit (by decide)

theorem mem_spellings {c low : Char} (hc : c.toNat < 128) (h : Text.lowerChar c = [low]) :
    c ∈ spellings low := by
  obtain rfl : c.toLower = low := by
    rw [(Text.case_of_ascii hc).2] at h
    exact List.singleton_inj.mp h
  exact Text.forall_char_lt (P := fun c => c ∈ spellings c.toLower) (by decide +kernel) hc

theorem mem_sections_of_lower {word text : Text} (hascii : IsAscii word) {cased : Bool}
    (h : Text.lowerAfter cased word = text) : word ∈ (text.map spellings).sections := by
  rw [List.mem_sections, List.forall₂_map_right_iff]
  induction word generalizing cased text with
  | nil =>
      subst h
      exact .nil
  | cons c rest ih =>
      obtain ⟨hc, hrest⟩ := List.forall_mem_cons.mp hascii
      obtain ⟨low, hlow, -⟩ := Text.lowersTo_of_ascii hc
      obtain ⟨next, hnext⟩ := Text.lowerAfter_cons (Text.ne_sigma_of_ascii hc) cased rest
      rw [hnext, hlow.lower, List.singleton_append] at h
      subst h
      exact .cons (mem_spellings hc hlow.lower) (ih hrest rfl)

theorem mem_reservedRuns {word : Text} (hascii : IsAscii word)
    (hlower : Text.lower word = "self".toList) (huncut : split word = [word]) :
    word ∈ reservedRuns :=
  reserved_evaluated.1 word (mem_sections_of_lower hascii hlower) huncut

theorem pascal_eq_reserved_iff {given : Text} (h : HasAsciiWords given) :
    Words.pascal given = "Self".toList ↔ ∃ run ∈ reservedRuns, StandsAlone run given := by
  constructor
  · intro hself
    obtain ⟨word, hsplit, hlower⟩ := word_of_reserved h hself
    have hword : word ∈ split given := by simp [hsplit]
    have hascii := Words.isAscii_of_mem_split h hword
    exact ⟨word, mem_reservedRuns hascii hlower (Words.split_of_mem hword).2,
      standsAlone_of_split hsplit⟩
  · rintro ⟨run, hrun, halone⟩
    rw [Words.pascal, split_standsAlone halone]
    exact (reserved_evaluated.2 run hrun).1

/-! ## Names beyond ASCII -/

/-- An upper case in ASCII is not empty, and no small letter is in it. -/
theorem upperChar_spec {c : Char} (h : IsAscii (Text.upperChar c)) :
    Text.upperChar c ≠ [] ∧ (Text.upperChar c).all (fun d => !isSmall d) = true := by
  by_cases hc : c.toNat < 128
  · rw [(Text.case_of_ascii hc).1, List.all_cons, List.all_nil, Bool.and_true]
    refine ⟨by simp, ?_⟩
    exact Text.forall_char_lt (P := fun c => (!isSmall c.toUpper) = true) (by decide +kernel) hc
  · have hmem := Text.mem_outsiders (Nat.le_of_not_lt hc) h
    have hall : Text.outsiders.Forall fun x => Text.upperChar x ≠ [] ∧
        (Text.upperChar x).all (fun d => !isSmall d) = true := by decide +kernel
    exact List.forall_iff_forall_mem.mp hall c hmem

/-- A capitalised form that is the name of a type begins with a capital. -/
theorem exists_capital {given : Text} (h : isTypeName (Words.pascal given) = true) :
    ∃ c rest, Words.pascal given = c :: rest ∧ isCapital c = true ∧
      ∀ d ∈ rest, (isAsciiLetter d || isAsciiDigit d) = true := by
  cases hsplit : split given with
  | nil =>
      rw [Words.pascal, hsplit] at h
      exact absurd h (by decide)
  | cons word later =>
      have hword : word ∈ split given := by simp [hsplit]
      obtain ⟨hrow, hascii, -⟩ := word_spec h hword
      cases word with
      | nil => exact absurd rfl hrow.ne_nil
      | cons first others =>
          rw [Words.capitalize, Text.isAscii_append] at hascii
          obtain ⟨hne, hsmall⟩ := upperChar_spec hascii.1
          obtain ⟨c, more, hupper⟩ := List.exists_cons_of_ne_nil hne
          have hpascal : Words.pascal given =
              c :: (more ++ Text.lower others ++ later.flatMap capitalize) := by
            rw [Words.pascal, hsplit, List.flatMap_cons, capitalize, hupper]
            simp
          rw [hpascal, isTypeName, Bool.and_eq_true, List.all_eq_true] at h
          refine ⟨c, _, hpascal, ?_, h.2⟩
          have hletter := h.1
          rw [hupper, List.all_cons, Bool.and_eq_true, Bool.not_eq_true'] at hsmall
          have hnot := hsmall.1
          rw [isSmall] at hnot
          rw [isAsciiLetter, hnot, Bool.false_or] at hletter
          exact hletter

theorem name_of_error {given : Text} {invalid : InvalidName}
    (h : parse given = .error invalid) : invalid.name = given := by
  unfold parse at h
  dsimp only at h
  split_ifs at h <;> exact (congrArg InvalidName.name (Except.error.inj h)).symm

/-! ## The accepted names -/

theorem parse_eq_ok_iff_ascii {given : Text} (h : HasAsciiWords given) :
    (∃ name, parse given = .ok name) ↔
      (∃ c, given.find? isAlphanumeric = some c ∧ isAsciiLetter c = true) ∧
        ∀ run ∈ reservedRuns, ¬ StandsAlone run given := by
  have hreserved : reservedNames.contains (Words.pascal given) = false ↔
      ∀ run ∈ reservedRuns, ¬ StandsAlone run given := by
    rw [Bool.eq_false_iff, Ne, List.contains_iff_mem, reservedNames, List.mem_singleton,
      pascal_eq_reserved_iff h]
    simp only [not_exists, not_and]
  rw [← isTypeName_pascal_iff h, ← hreserved]
  constructor
  · rintro ⟨name, hname⟩
    obtain ⟨htype, hfree, -⟩ := parse_eq_ok.mp hname
    exact ⟨htype, hfree⟩
  · rintro ⟨htype, hfree⟩
    exact ⟨_, parse_eq_ok.mpr ⟨htype, hfree, rfl⟩⟩

/-- A name in ASCII letters and digits, with anything between its words, is accepted exactly if
the first of them is a letter and they are not one row that spells the reserved word.  Whatever
the name, an accepted one has a capitalised form of a capital letter and letters and digits behind
it, which is not reserved, and a refused one is handed back as it was given. -/
theorem parse_accepts_iff (given : Text) :
    (HasAsciiWords given → ((∃ name, parse given = .ok name) ↔
      (∃ c, given.find? isAlphanumeric = some c ∧ isAsciiLetter c = true) ∧
        ∀ run ∈ reservedRuns, ¬ StandsAlone run given)) ∧
    (∀ name, parse given = .ok name →
      (∃ c rest, name.pascal = c :: rest ∧ isCapital c = true ∧
        ∀ d ∈ rest, (isAsciiLetter d || isAsciiDigit d) = true) ∧
      name.pascal ≠ "Self".toList) ∧
    ∀ invalid, parse given = .error invalid → invalid.name = given := by
  refine ⟨parse_eq_ok_iff_ascii, fun name hname => ?_, fun invalid => name_of_error⟩
  obtain ⟨htype, hfree, rfl⟩ := parse_eq_ok.mp hname
  refine ⟨exists_capital htype, fun hself => ?_⟩
  dsimp only at hself
  rw [hself] at hfree
  exact absurd hfree (by decide)

/-- The reserved word between two marks, in a spelling that is cut into two words. -/
def cutGiven : Text := "¿SElf?".toList

/-- The spelling is accepted: it is none of those that are one word. -/
theorem cut_spelling_is_accepted : HasAsciiWords cutGiven ∧
    (∃ c, cutGiven.find? isAlphanumeric = some c ∧ isAsciiLetter c = true) ∧
    (∀ run ∈ reservedRuns, ¬ StandsAlone run cutGiven) ∧
    parse cutGiven = .ok ⟨cutGiven, "SElf".toList, "s_elf".toList, "s-elf".toList⟩ := by
  have hascii : HasAsciiWords cutGiven := by decide +kernel
  have hparsed : parse cutGiven = .ok ⟨cutGiven, "SElf".toList, "s_elf".toList,
      "s-elf".toList⟩ := by decide +kernel
  obtain ⟨hletter, hfree⟩ := ((parse_accepts_iff cutGiven).1 hascii).mp ⟨_, hparsed⟩
  exact ⟨hascii, hletter, hfree, hparsed⟩

end LintScaffold.RuleName
