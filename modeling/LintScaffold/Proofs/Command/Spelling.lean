import LintScaffold.Command.New
import LintScaffold.Proofs.Command.Arguments

/-!
# How options are spelled

Arguments are a row of phrases: operands, and options with their values.  A value stands behind an
equals sign or is the next argument; that of a letter can also follow the letter at once.  Two
hyphens end the options, and everything behind them is an operand.  `Spells` says this without a
word on how arguments are read.

Reading agrees with it: `Arguments.read_eq_ok_iff` says that arguments are read exactly if they are
such a row, and then as what their phrases say, in the order of the phrases.  So the values of an
option come in the order in which they stand, whatever other options come between them.

Where an argument could be taken for a phrase of two kinds, reading would have to choose.  This
cannot happen in a regular vocabulary: its long names begin with two hyphens, have no equals sign,
and differ from one another, as do its letters, each of which takes a value.
-/

namespace LintScaffold

/-! ## Cutting at an equals sign -/

namespace Text

theorem cut?_singleton_eq_none {text : Text} {c : Char} (h : c ∉ text) :
    text.cut? [c] = none := by
  induction text with
  | nil => rfl
  | cons d rest ih =>
      rw [List.mem_cons, not_or] at h
      rw [cut?]
      simp [dropStart?, h.1, ih h.2]

theorem cut?_singleton_append {name : Text} {c : Char} (h : c ∉ name) (value : Text) :
    cut? (name ++ c :: value) [c] = some (name, value) := by
  induction name with
  | nil =>
      rw [List.nil_append, cut?]
      simp [dropStart?]
  | cons d rest ih =>
      rw [List.mem_cons, not_or] at h
      rw [List.cons_append, cut?]
      simp [dropStart?, h.1, ih h.2]

/-- A text is cut at the first place where the character stands, if there is one. -/
theorem cut?_singleton_cases (text : Text) (c : Char) :
    (c ∉ text ∧ text.cut? [c] = none) ∨
    ∃ name value, text = name ++ c :: value ∧ c ∉ name ∧ text.cut? [c] = some (name, value) := by
  by_cases h : c ∈ text
  · obtain ⟨name, value, rfl, hname⟩ := List.eq_append_cons_of_mem h
    exact .inr ⟨name, value, rfl, hname, cut?_singleton_append hname value⟩
  · exact .inl ⟨h, cut?_singleton_eq_none h⟩

end Text

/-! ## Phrases -/

variable {α : Type} {vocabulary : Vocabulary α}

namespace Vocabulary

theorem long_of_long? {name : Text} {option : α}
    (h : vocabulary.long? name = some option) : (vocabulary.form option).long = name := by
  simpa using List.find?_some h

theorem letter_of_letter? {c : Char} {option : α}
    (h : vocabulary.letter? c = some option) : (vocabulary.form option).letter = some c := by
  simpa using List.find?_some h

/-- No argument can be taken for a phrase of two kinds. -/
structure IsRegular (vocabulary : Vocabulary α) : Prop where
  long (option : α) : vocabulary.long? (vocabulary.form option).long = some option
  hyphens (option : α) : ∃ c rest, (vocabulary.form option).long = '-' :: '-' :: c :: rest
  plain (option : α) : '=' ∉ (vocabulary.form option).long
  letter {option : α} {c : Char} (h : (vocabulary.form option).letter = some c) :
    vocabulary.letter? c = some option ∧ (vocabulary.form option).takesValue = true ∧ c ≠ '-'

end Vocabulary

namespace Arguments

/-- One or two arguments that say something by themselves: an operand, an option without a value,
or one with its value. -/
inductive Phrase (vocabulary : Vocabulary α) : List Text → Arguments α → Prop
  | operand {text : Text} (h : isOption text = false) : Phrase vocabulary [text] ⟨[], [text]⟩
  | flag {option : α} (h : (vocabulary.form option).takesValue = false) :
      Phrase vocabulary [(vocabulary.form option).long] ⟨[(option, [])], []⟩
  | joined {option : α} (h : (vocabulary.form option).takesValue = true) (value : Text) :
      Phrase vocabulary [(vocabulary.form option).long ++ '=' :: value] ⟨[(option, value)], []⟩
  | separate {option : α} (h : (vocabulary.form option).takesValue = true) (value : Text) :
      Phrase vocabulary [(vocabulary.form option).long, value] ⟨[(option, value)], []⟩
  | letterJoined {option : α} {c : Char} (h : (vocabulary.form option).letter = some c)
      {value : Text} (hvalue : value ≠ []) :
      Phrase vocabulary ['-' :: c :: value] ⟨[(option, value)], []⟩
  | letterSeparate {option : α} {c : Char} (h : (vocabulary.form option).letter = some c)
      (value : Text) : Phrase vocabulary [['-', c], value] ⟨[(option, value)], []⟩

/-- Arguments are a row of phrases, perhaps with two hyphens and further operands behind them. -/
inductive Spells (vocabulary : Vocabulary α) : List Text → Arguments α → Prop
  | nil : Spells vocabulary [] ⟨[], []⟩
  | dashes (operands : List Text) : Spells vocabulary (['-', '-'] :: operands) ⟨[], operands⟩
  | cons {first after : List Text} {part rest : Arguments α}
      (hfirst : Phrase vocabulary first part) (hafter : Spells vocabulary after rest) :
      Spells vocabulary (first ++ after) (part.append rest)

theorem isOption_hyphen (c : Char) (rest : Text) : isOption ('-' :: c :: rest) = true := by
  simp [isOption, Text.startsWith, Text.dropStart?]

theorem exists_of_isOption {text : Text} (h : isOption text = true) :
    ∃ c rest, text = '-' :: c :: rest := by
  obtain ⟨hstart, hlength⟩ := Bool.and_eq_true_iff.mp h
  cases text with
  | nil => simp at hlength
  | cons first others =>
      cases others with
      | nil => simp at hlength
      | cons c rest =>
          have hfirst : '-' = first := by simpa [Text.startsWith, Text.dropStart?] using hstart
          exact ⟨c, rest, hfirst ▸ rfl⟩

/-! ## Reading single arguments -/

theorem readOption_long (hregular : vocabulary.IsRegular) (option : α) :
    readOption vocabulary (vocabulary.form option).long =
      if (vocabulary.form option).takesValue then .ok ([], some option)
      else .ok ([(option, [])], none) := by
  unfold readOption
  rw [Text.cut?_singleton_eq_none (hregular.plain option)]
  dsimp only
  rw [hregular.long]
  cases hvalue : (vocabulary.form option).takesValue <;> simp [hvalue]

theorem readOption_joined (hregular : vocabulary.IsRegular) (option : α) (value : Text) :
    readOption vocabulary ((vocabulary.form option).long ++ '=' :: value) =
      if (vocabulary.form option).takesValue then .ok ([(option, value)], none)
      else .error .unwantedValue := by
  unfold readOption
  rw [Text.cut?_singleton_append (hregular.plain option)]
  dsimp only
  rw [hregular.long]
  cases hvalue : (vocabulary.form option).takesValue <;> simp [hvalue]

theorem readLetters_cons (hregular : vocabulary.IsRegular) {option : α} {c : Char}
    (h : (vocabulary.form option).letter = some c) (value : Text) :
    readLetters vocabulary (c :: value) =
      if value.isEmpty then .ok ([], some option) else .ok ([(option, value)], none) := by
  obtain ⟨hletter, hvalue, -⟩ := hregular.letter h
  rw [readLetters, hletter]
  dsimp only
  rw [if_pos hvalue]

/-- The argument is not that of a long name. -/
theorem readOption_letter (hregular : vocabulary.IsRegular) {c : Char} (hc : c ≠ '-')
    (value : Text) :
    readOption vocabulary ('-' :: c :: value) = readLetters vocabulary (c :: value) := by
  have hlong : ∀ name, (∃ after, '-' :: c :: value = name ++ after) →
      vocabulary.long? name = none := by
    rintro name ⟨after, htext⟩
    rw [Option.eq_none_iff_forall_ne_some]
    intro option hoption
    obtain ⟨d, rest, hhyphens⟩ := hregular.hyphens option
    -- a long name has a hyphen where the argument has `c`
    rw [← Vocabulary.long_of_long? hoption, hhyphens] at htext
    exact hc (List.cons.inj (List.cons.inj htext).2).1
  have hstart : Text.startsWith ('-' :: c :: value) ['-', '-'] = false := by
    simp [Text.startsWith, Text.dropStart?, hc.symm]
  unfold readOption
  obtain ⟨-, hcut⟩ | ⟨name, joined, htext, -, hcut⟩ :=
    Text.cut?_singleton_cases ('-' :: c :: value) '='
  · rw [hcut]
    dsimp only
    rw [hlong _ ⟨[], (List.append_nil _).symm⟩, hstart]
    rfl
  · rw [hcut]
    dsimp only
    rw [hlong _ ⟨_, htext⟩, hstart]
    rfl

/-- What is read from an argument is that of a phrase, or of one that the next argument ends. -/
def ReadsPhrase (vocabulary : Vocabulary α) (text : Text) : List (α × Text) × Option α → Prop
  | (uses, none) => Phrase vocabulary [text] ⟨uses, []⟩
  | (uses, some option) =>
      ∀ value, Phrase vocabulary [text, value] ⟨uses ++ [(option, value)], []⟩

theorem readsPhrase_of_readOption (hregular : vocabulary.IsRegular) {text : Text}
    (hoption : isOption text = true) {found : List (α × Text) × Option α}
    (h : readOption vocabulary text = .ok found) : ReadsPhrase vocabulary text found := by
  obtain ⟨c, rest, rfl⟩ := exists_of_isOption hoption
  by_cases hc : c = '-'
  · -- behind two hyphens there must be a long name, which an equals sign ends if there is one
    subst hc
    have hstart : Text.startsWith ('-' :: '-' :: rest) ['-', '-'] = true := rfl
    have hread := h
    unfold readOption at hread
    obtain ⟨-, hcut⟩ | ⟨name, value, htext, -, hcut⟩ :=
      Text.cut?_singleton_cases ('-' :: '-' :: rest) '='
    · rw [hcut] at hread
      dsimp only at hread
      split at hread
      · rename_i option hlong
        rw [← Vocabulary.long_of_long? hlong, readOption_long hregular] at h
        rw [← Vocabulary.long_of_long? hlong]
        split at h
        · rename_i hvalue
          obtain rfl := Except.ok.inj h
          exact fun value => .separate hvalue value
        · rename_i hvalue
          obtain rfl := Except.ok.inj h
          exact .flag (Bool.eq_false_iff.mpr hvalue)
      · simp [hstart] at hread
    · rw [hcut] at hread
      dsimp only at hread
      split at hread
      · rename_i option hlong
        obtain rfl := Vocabulary.long_of_long? hlong
        rw [htext, readOption_joined hregular] at h
        rw [htext]
        split at h
        · rename_i hvalue
          obtain rfl := Except.ok.inj h
          exact .joined hvalue value
        · simp at h
      · simp [hstart] at hread
  · -- the first letter takes a value, so that no further one is read
    rw [readOption_letter hregular hc, readLetters] at h
    split at h
    · simp at h
    · rename_i option hletter
      have hform := Vocabulary.letter_of_letter? hletter
      rw [if_pos (hregular.letter hform).2.1] at h
      split at h
      · rename_i hvalue
        obtain rfl := Except.ok.inj h
        rw [List.isEmpty_iff.mp hvalue]
        exact fun value => .letterSeparate hform value
      · rename_i hvalue
        obtain rfl := Except.ok.inj h
        exact .letterJoined hform (by simpa using hvalue)

/-! ## Reading whole arguments -/

/-- A phrase is read as what it says, whatever stands behind it. -/
theorem Phrase.precedes (hregular : vocabulary.IsRegular) {before : List Text} {part : Arguments α}
    (h : Phrase vocabulary before part) : Precedes vocabulary before part := by
  -- neither a long name nor a letter makes the two hyphens that end the options
  have hlong : ∀ option after, (vocabulary.form option).long ++ after ≠ ['-', '-'] ∧
      isOption ((vocabulary.form option).long ++ after) = true := by
    intro option after
    obtain ⟨c, rest, hhyphens⟩ := hregular.hyphens option
    rw [hhyphens]
    exact ⟨by simp, isOption_hyphen '-' _⟩
  have hletter : ∀ {option c}, (vocabulary.form option).letter = some c → ∀ value,
      '-' :: c :: value ≠ ['-', '-'] := by
    intro option c hform value hdashes
    exact (hregular.letter hform).2.2 (List.cons.inj (List.cons.inj hdashes).2).1
  cases h with
  | @operand text hoperand =>
      refine precedes_operand ?_ hoperand
      rintro rfl
      exact absurd hoperand (by decide)
  | @flag option hvalue =>
      obtain ⟨hdashes, hoption⟩ := hlong option []
      rw [List.append_nil] at hdashes hoption
      refine precedes_option hdashes hoption ?_
      rw [readOption_long hregular, hvalue]
      rfl
  | @joined option hvalue value =>
      obtain ⟨hdashes, hoption⟩ := hlong option ('=' :: value)
      refine precedes_option hdashes hoption ?_
      rw [readOption_joined hregular, if_pos hvalue]
  | @separate option hvalue value =>
      obtain ⟨hdashes, hoption⟩ := hlong option []
      rw [List.append_nil] at hdashes hoption
      exact precedes_value hdashes hoption (by rw [readOption_long hregular, if_pos hvalue]) value
  | @letterJoined option c hform value hvalue =>
      refine precedes_option (hletter hform value) (isOption_hyphen c value) ?_
      rw [readOption_letter hregular (hregular.letter hform).2.2, readLetters_cons hregular hform,
        if_neg (by simpa using hvalue)]
  | @letterSeparate option c hform value =>
      have hread : readOption vocabulary ['-', c] = .ok ([], some option) := by
        rw [readOption_letter hregular (hregular.letter hform).2.2, readLetters_cons hregular hform]
        rfl
      exact precedes_value (hletter hform []) (isOption_hyphen c []) hread value

/-- Arguments are read exactly if they are a row of phrases, and then as what these say. -/
theorem read_eq_ok_iff (hregular : vocabulary.IsRegular) {arguments : List Text}
    {parsed : Arguments α} :
    read vocabulary true arguments = .ok parsed ↔ Spells vocabulary arguments parsed := by
  constructor
  · -- the recursion of the reader takes one phrase after another
    intro h
    induction arguments using read.induct (α := α) true generalizing parsed with
    | case1 =>
        obtain rfl := Except.ok.inj h
        exact .nil
    | case2 rest =>
        rw [read_cons, if_pos rfl] at h
        obtain rfl := Except.ok.inj h
        exact .dashes rest
    | case3 argument rest hdashes hoption ih =>
        rw [read_cons, if_neg hdashes, if_pos hoption] at h
        obtain ⟨⟨uses, waiting⟩, hread, h⟩ := bind_eq_ok.mp h
        have hphrase := readsPhrase_of_readOption hregular hoption hread
        cases waiting with
        | none =>
            obtain ⟨later, hrest, h⟩ := bind_eq_ok.mp h
            obtain rfl := Except.ok.inj h
            exact .cons hphrase (ih none hrest)
        | some option =>
            cases rest with
            | nil => simp at h
            | cons value rest =>
                obtain ⟨later, hrest, h⟩ := bind_eq_ok.mp h
                obtain rfl := Except.ok.inj h
                have hrow := Spells.cons (hphrase value) (ih (some option) hrest)
                simpa [append] using hrow
    | case4 argument rest hdashes hoption _ ih =>
        rw [read_cons, if_neg hdashes, if_neg hoption, if_pos rfl] at h
        obtain ⟨later, hrest, rfl⟩ := map_eq_ok.mp h
        exact .cons (.operand (Bool.eq_false_iff.mpr hoption)) (ih hrest)
    | case5 argument rest hdashes hoption hmixed => exact absurd rfl hmixed
  · intro h
    induction h with
    | nil => rfl
    | dashes operands => rw [read_cons, if_pos rfl]; rfl
    | cons hfirst hafter ih =>
        rw [hfirst.precedes hregular, ih]
        rfl

end Arguments

/-- The options of the command that makes a rule are regular. -/
theorem NewOption.isRegular_vocabulary : NewOption.vocabulary.IsRegular where
  long option := by cases option <;> decide
  hyphens option := by cases option <;> exact ⟨_, _, rfl⟩
  plain option := by cases option <;> decide
  letter {option c} h := by
    cases option with
    | config =>
        obtain rfl : 'c' = c := Option.some.inj h
        decide
    | kind =>
        obtain rfl : 'k' = c := Option.some.inj h
        decide
    | output =>
        obtain rfl : 'o' = c := Option.some.inj h
        decide
    | pass | fail | cases | hasFilename | write | force =>
        exact absurd h.symm (Option.some_ne_none c)

end LintScaffold
