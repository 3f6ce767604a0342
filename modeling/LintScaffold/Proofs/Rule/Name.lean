import LintScaffold.Proofs.Rule.Words
import LintScaffold.Rule.Name

/-!
# The forms of a name

A name is accepted for its capitalised form alone.  That form is in ASCII letters and digits, so
every word of an accepted name has a lower case that cannot be cut again and has the same
capitalised form.  Hence the words in lower case say all that there is to say about the name:
joined by whatever mark, they are accepted again and have the same three forms.

In particular two names with the same snake form have the same forms altogether, and two rules
that are written to the same file declare the same type.
-/

namespace LintScaffold.RuleName

open Words (IsWord)
open Text (IsAscii lower)

/-! ## Accepted names -/

theorem ne_nil_of_isTypeName {text : Text} (h : isTypeName text = true) : text ≠ [] := by
  rintro rfl
  exact absurd h (by decide)

theorem letter_or_digit_of_isTypeName {text : Text} (h : isTypeName text = true) :
    ∀ c ∈ text, (Text.isAsciiLetter c || Text.isAsciiDigit c) = true := by
  cases text with
  | nil => simp
  | cons c rest =>
      simp only [isTypeName, Bool.and_eq_true, List.all_eq_true] at h
      exact List.forall_mem_cons.mpr ⟨by simp [h.1], h.2⟩

/-- A name is accepted if its words, capitalised and run together, are the name of a type and
not a reserved one. -/
theorem parse_eq_ok {given : Text} {name : RuleName} :
    parse given = .ok name ↔ isTypeName (Words.pascal given) = true ∧
      reservedNames.contains (Words.pascal given) = false ∧
      name = ⟨Text.strip given, Words.pascal given, Words.snake given, Words.kebab given⟩ := by
  have hpascal : Words.pascal (Text.strip given) = Words.pascal given := by
    rw [Words.pascal, Words.split_strip, ← Words.pascal]
  have hsnake : Words.snake (Text.strip given) = Words.snake given := by
    rw [Words.snake, Words.split_strip, ← Words.snake]
  have hkebab : Words.kebab (Text.strip given) = Words.kebab given := by
    rw [Words.kebab, Words.split_strip, ← Words.kebab]
  have hempty : isTypeName (Words.pascal given) = true → Text.strip given ≠ [] ∧
      Words.pascal given ≠ [] := by
    intro htype
    have hne := ne_nil_of_isTypeName htype
    refine ⟨fun hnil => hne ?_, hne⟩
    rw [← hpascal, hnil]
    rfl
  unfold parse
  dsimp only
  rw [hpascal, hsnake, hkebab]
  by_cases htype : isTypeName (Words.pascal given) = true
  · obtain ⟨hstrip, hne⟩ := hempty htype
    by_cases hreserved : reservedNames.contains (Words.pascal given) = true
    · simp only [List.isEmpty_iff, hstrip, hne, htype, hreserved, Bool.not_true,
        Bool.false_eq_true, if_false, if_true, reduceCtorEq, false_and, and_false]
    · simp only [List.isEmpty_iff, hstrip, hne, htype, hreserved, Bool.not_true,
        Bool.false_eq_true, if_false, Except.ok.injEq, true_and]
      exact eq_comm
  · simp only [Bool.not_eq_true] at htype
    simp only [htype, Bool.not_false, if_true, Bool.false_eq_true, false_and, iff_false]
    split
    · simp
    · split
      · simp
      · simp

/-- What the words of an accepted name have in common. -/
theorem word_spec {given : Text} (h : isTypeName (Words.pascal given) = true) {word : Text}
    (hword : word ∈ Words.split given) : IsWord word ∧ IsAscii (Words.capitalize word) ∧
      ∀ c ∈ Words.capitalize word, Text.isAlphanumeric c = true := by
  have hpart : Words.capitalize word ⊆ Words.pascal given :=
    fun c hc => List.mem_flatMap.mpr ⟨word, hword, hc⟩
  have hchars := letter_or_digit_of_isTypeName h
  exact ⟨Words.isWord_of_mem_split hword,
    fun c hc => Text.toNat_lt_of_letter_or_digit (hchars c (hpart hc)),
    fun c hc => Text.isAlphanumeric_of_letter_or_digit (hchars c (hpart hc))⟩

/-! ## The words in lower case -/

/-- The words of a name in lower case. -/
def lowerWords (given : Text) : List Text := (Words.split given).map lower

theorem lowerWords_spec {given : Text} (h : isTypeName (Words.pascal given) = true) {word : Text}
    (hword : word ∈ lowerWords given) : IsWord word ∧
      (∀ c ∈ word, Words.isCapital c = false) ∧ lower word = word := by
  obtain ⟨source, hsource, rfl⟩ := List.mem_map.mp hword
  obtain ⟨hrow, hascii, halnum⟩ := word_spec h hsource
  obtain ⟨hlow, hsmall, hstays, -⟩ := Words.lower_spec hrow hascii halnum
  exact ⟨hlow, hsmall, hstays⟩

theorem lowerWords_ne_nil {given : Text} (h : isTypeName (Words.pascal given) = true) :
    lowerWords given ≠ [] := by
  intro hnil
  rw [lowerWords, List.map_eq_nil_iff] at hnil
  refine ne_nil_of_isTypeName h ?_
  rw [Words.pascal, hnil]
  rfl

theorem mark_not_mem {given : Text} (h : isTypeName (Words.pascal given) = true) {mark : Char}
    (hmark : Text.isAlphanumeric mark = false) : ∀ word ∈ lowerWords given, mark ∉ word := by
  intro word hword hmem
  have halnum := (lowerWords_spec h hword).1.alphanumeric mark hmem
  rw [hmark] at halnum
  exact absurd halnum (by decide)

/-- Joined by a mark, the words of an accepted name in lower case are a name with the same
forms. -/
theorem forms_join {given : Text} (h : isTypeName (Words.pascal given) = true) {mark : Char}
    (hmark : Text.isAlphanumeric mark = false) :
    Words.pascal (Text.join [mark] (lowerWords given)) = Words.pascal given ∧
    Words.snake (Text.join [mark] (lowerWords given)) = Words.snake given ∧
    Words.kebab (Text.join [mark] (lowerWords given)) = Words.kebab given := by
  have hsplit : Words.split (Text.join [mark] (lowerWords given)) = lowerWords given :=
    Words.split_join hmark (fun word hword => (lowerWords_spec h hword).1)
      fun word hword => (lowerWords_spec h hword).2.1
  have hstays : (lowerWords given).map lower = lowerWords given :=
    (List.map_congr_left fun word hword => (lowerWords_spec h hword).2.2).trans (List.map_id' _)
  refine ⟨?_, ?_, ?_⟩
  · rw [Words.pascal, hsplit, lowerWords, List.flatMap_map, Words.pascal]
    refine List.flatMap_congr fun word hword => ?_
    obtain ⟨hrow, hascii, halnum⟩ := word_spec h hword
    exact (Words.lower_spec hrow hascii halnum).2.2.2
  · rw [Words.snake, hsplit, hstays]
    rfl
  · rw [Words.kebab, hsplit, hstays]
    rfl

theorem parse_join {given : Text} {name : RuleName} (h : parse given = .ok name) {mark : Char}
    (hmark : Text.isAlphanumeric mark = false) :
    ∃ again, parse (Text.join [mark] (lowerWords given)) = .ok again ∧
      again.pascal = name.pascal ∧ again.snake = name.snake ∧ again.kebab = name.kebab := by
  obtain ⟨htype, hreserved, rfl⟩ := parse_eq_ok.mp h
  obtain ⟨hpascal, hsnake, hkebab⟩ := forms_join htype hmark
  exact ⟨_, parse_eq_ok.mpr ⟨hpascal.symm ▸ htype, hpascal.symm ▸ hreserved, rfl⟩, hpascal,
    hsnake, hkebab⟩

theorem underscore_joins : Text.isAlphanumeric '_' = false := by decide

theorem hyphen_joins : Text.isAlphanumeric '-' = false := by decide

theorem snake_eq {given : Text} {name : RuleName} (h : parse given = .ok name) :
    name.snake = Text.join ['_'] (lowerWords given) := by
  obtain ⟨-, -, rfl⟩ := parse_eq_ok.mp h
  rfl

theorem kebab_eq {given : Text} {name : RuleName} (h : parse given = .ok name) :
    name.kebab = Text.join ['-'] (lowerWords given) := by
  obtain ⟨-, -, rfl⟩ := parse_eq_ok.mp h
  rfl

theorem parse_snake {given : Text} {name : RuleName} (h : parse given = .ok name) :
    ∃ again, parse name.snake = .ok again ∧
      again.pascal = name.pascal ∧ again.snake = name.snake ∧ again.kebab = name.kebab := by
  rw [congrArg parse (snake_eq h)]
  exact parse_join h underscore_joins

theorem parse_kebab {given : Text} {name : RuleName} (h : parse given = .ok name) :
    ∃ again, parse name.kebab = .ok again ∧
      again.pascal = name.pascal ∧ again.snake = name.snake ∧ again.kebab = name.kebab := by
  rw [congrArg parse (kebab_eq h)]
  exact parse_join h hyphen_joins

/-- The snake form and the kebab form of an accepted name are accepted and have the same three
forms as the name.  Cut at their marks they are the words of the name in lower case.  Hence two
accepted names with the same snake form agree in their other forms too. -/
theorem parse_forms {given : Text} {name : RuleName} (h : parse given = .ok name) :
    (∃ again, parse name.snake = .ok again ∧
      again.pascal = name.pascal ∧ again.snake = name.snake ∧ again.kebab = name.kebab) ∧
    (∃ again, parse name.kebab = .ok again ∧
      again.pascal = name.pascal ∧ again.snake = name.snake ∧ again.kebab = name.kebab) ∧
    Text.splitAt '_' name.snake = (Words.split given).map lower ∧
    Text.splitAt '-' name.kebab = (Words.split given).map lower ∧
    ∀ {other : Text} {second : RuleName}, parse other = .ok second →
      name.snake = second.snake → name.pascal = second.pascal ∧ name.kebab = second.kebab := by
  obtain ⟨htype, -, -⟩ := parse_eq_ok.mp h
  have hne := lowerWords_ne_nil htype
  refine ⟨parse_snake h, parse_kebab h, ?_, ?_, ?_⟩
  · rw [snake_eq h]
    exact Text.splitAt_join hne (mark_not_mem htype underscore_joins)
  · rw [kebab_eq h]
    exact Text.splitAt_join hne (mark_not_mem htype hyphen_joins)
  · -- both names have the forms of the snake form that they share
    intro other second hsecond hsame
    obtain ⟨again, hparsed, hpascal, -, hkebab⟩ := parse_snake h
    obtain ⟨again', hparsed', hpascal', -, hkebab'⟩ := parse_snake hsecond
    rw [← hsame, hparsed] at hparsed'
    obtain rfl := Except.ok.inj hparsed'
    exact ⟨hpascal.symm.trans hpascal', hkebab.symm.trans hkebab'⟩

/-- A name with an acronym, a sharp s at the start of a word and a Kelvin sign inside it. -/
def mixedGiven : Text := " noHTTPServer ".toList ++ ['ß', 'o', Char.ofNat Text.kelvinCode]

/-- The forms of that name. -/
def mixed : RuleName where
  raw := "noHTTPServer ".toList ++ ['ß', 'o', Char.ofNat Text.kelvinCode]
  pascal := "NoHttpServerSSok".toList
  snake := "no_http_server_".toList ++ ['ß', 'o', 'k']
  kebab := "no-http-server-".toList ++ ['ß', 'o', 'k']

theorem parse_forms_mixed : parse mixedGiven = .ok mixed ∧
    (∃ again, parse mixed.snake = .ok again ∧
      again.pascal = mixed.pascal ∧ again.snake = mixed.snake ∧ again.kebab = mixed.kebab) ∧
    (∃ again, parse mixed.kebab = .ok again ∧
      again.pascal = mixed.pascal ∧ again.snake = mixed.snake ∧ again.kebab = mixed.kebab) ∧
    Text.splitAt '_' mixed.snake =
      ["no".toList, "http".toList, "server".toList, ['ß', 'o', 'k']] := by
  have hparsed : parse mixedGiven = .ok mixed := by decide +kernel
  have hwords : (Words.split mixedGiven).map lower =
      ["no".toList, "http".toList, "server".toList, ['ß', 'o', 'k']] := by decide +kernel
  obtain ⟨hsnake, hkebab, hsplit, -, -⟩ := parse_forms hparsed
  exact ⟨hparsed, hsnake, hkebab, hsplit.trans hwords⟩

end LintScaffold.RuleName
