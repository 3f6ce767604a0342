import LintScaffold.Proofs.Rule.Name

/-!
# Names as module names

The snake form of a rule is the stem of its file, and so the name of a module.  A module name is
made of words of small letters and digits with single underscores between them, and begins with
a letter.

An accepted name has such a snake form, save for one thing: a name is judged by its capitalised
form, and there are letters beyond ASCII whose upper case is ASCII.  At the start of a word such
an outsider passes into the snake form as it is.  `isModuleName_snake_iff` says that nothing else
can go wrong, neither in the snake form nor in the kebab form, which is the same text with other
marks.
-/

namespace LintScaffold.RuleName

open Words (IsWord isSmall isCapital)
open Text (IsAscii lower outsiders)

/-- A small ASCII letter or a digit. -/
def isPlain (c : Char) : Bool := isSmall c || Text.isAsciiDigit c

/-- The text is of the form `[a-z][a-z0-9]*(_[a-z0-9]+)*`. -/
def IsModuleName (text : Text) : Prop :=
  ∃ (c : Char) (rest : Text) (later : List Text),
    text = c :: rest ++ later.flatMap ('_' :: ·) ∧ isSmall c = true ∧
    (∀ d ∈ rest, isPlain d = true) ∧ ∀ word ∈ later, word ≠ [] ∧ ∀ d ∈ word, isPlain d = true

theorem toNat_lt_of_isPlain {c : Char} (h : isPlain c = true) : c.toNat < 128 := by
  refine Text.toNat_lt_of_letter_or_digit (Bool.or_eq_true_iff.mpr ?_)
  rcases Bool.or_eq_true_iff.mp h with hsmall | hdigit
  · exact .inl (Words.isAsciiLetter_of_isSmall hsmall)
  · exact .inr hdigit

theorem IsModuleName.isAscii {text : Text} (h : IsModuleName text) : IsAscii text := by
  obtain ⟨c, rest, later, rfl, hc, hrest, hlater⟩ := h
  intro d hd
  rw [List.mem_append, List.mem_cons, List.mem_flatMap] at hd
  rcases hd with (rfl | hd) | ⟨word, hword, hd⟩
  · exact toNat_lt_of_isPlain (by simp [isPlain, hc])
  · exact toNat_lt_of_isPlain (hrest d hd)
  · rcases List.mem_cons.mp hd with rfl | hd
    · decide
    · exact toNat_lt_of_isPlain ((hlater word hword).2 d hd)

/-! ## Joined words -/

theorem join_eq_flatMap (mark : Char) (word : Text) (later : List Text) :
    Text.join [mark] (word :: later) = word ++ later.flatMap (mark :: ·) := by
  induction later generalizing word with
  | nil => simp [Text.join]
  | cons next more ih => rw [Text.join_cons_cons, ih, List.flatMap_cons, List.cons_append]

theorem mem_join {mark c : Char} {words : List Text} (hne : words ≠ []) :
    c ∈ Text.join [mark] words ↔
      (∃ word ∈ words, c ∈ word) ∨ c = mark ∧ 1 < words.length := by
  cases words with
  | nil => exact absurd rfl hne
  | cons word later =>
      rw [join_eq_flatMap, List.mem_append, List.mem_flatMap]
      cases later with
      | nil => simp
      | cons next more =>
          simp only [List.mem_cons, exists_eq_or_imp, List.length_cons]
          constructor
          · rintro (hc | (hmark | hc) | ⟨other, hother, hmark | hc⟩)
            · exact .inl (.inl hc)
            · exact .inr ⟨hmark, by omega⟩
            · exact .inl (.inr (.inl hc))
            · exact .inr ⟨hmark, by omega⟩
            · exact .inl (.inr (.inr ⟨other, hother, hc⟩))
          · rintro ((hc | hc | ⟨other, hother, hc⟩) | ⟨hmark, -⟩)
            · exact .inl hc
            · exact .inr (.inl (.inr hc))
            · exact .inr (.inr ⟨other, hother, .inr hc⟩)
            · exact .inr (.inl (.inl hmark))

/-- Other marks between the words make another text, and nothing else does. -/
theorem replaceChar_join {old new : Char} {words : List Text} (h : ∀ word ∈ words, old ∉ word) :
    Text.replaceChar old new (Text.join [old] words) = Text.join [new] words := by
  have hkept : ∀ word ∈ words, word.map (fun c => if c = old then new else c) = word := by
    intro word hword
    refine (List.map_congr_left fun c hc => ?_).trans (List.map_id' word)
    exact if_neg fun hold : c = old => h word hword (hold ▸ hc)
  cases words with
  | nil => rfl
  | cons word later =>
      rw [join_eq_flatMap, join_eq_flatMap, Text.replaceChar, List.map_append,
        hkept word List.mem_cons_self, List.map_flatMap]
      refine congrArg (word ++ ·) (List.flatMap_congr fun other hother => ?_)
      rw [List.map_cons, if_pos rfl, hkept other (List.mem_cons_of_mem word hother)]

/-! ## Words in lower case -/

/-- A letter or digit that is ASCII and no capital is a small letter or a digit. -/
theorem isPlain_of_isAscii {c : Char} (hascii : c.toNat < 128)
    (hword : Text.isAlphanumeric c = true) (hsmall : isCapital c = false) : isPlain c = true :=
  Text.forall_char_lt (P := fun c => Text.isAlphanumeric c = true → isCapital c = false →
    isPlain c = true) (by decide +kernel) hascii hword hsmall

/-- The lower case of a word of an accepted name: behind its first character there are small
letters and digits only, and so is the first character, unless the word begins with an
outsider. -/
theorem lower_word {given : Text} (h : isTypeName (Words.pascal given) = true) {word : Text}
    (hword : word ∈ Words.split given) : ∃ c rest d tail, word = c :: rest ∧
      lower word = d :: tail ∧ (∀ e ∈ tail, isPlain e = true) ∧
      Text.upperChar d = Text.upperChar c ∧
      (c ∉ outsiders ∧ isPlain d = true ∨ c ∈ outsiders ∧ d = c) := by
  obtain ⟨hrow, hascii, halnum⟩ := word_spec h hword
  cases word with
  | nil => exact absurd rfl hrow.ne_nil
  | cons c rest =>
      obtain ⟨d, hd, hdword, hupper, hfirst, hlower⟩ :=
        Words.exists_lower (hrow.alphanumeric c List.mem_cons_self) hascii
      rw [Words.capitalize, Text.isAscii_append] at hascii
      rw [Words.capitalize, List.forall_mem_append] at halnum
      have hsmall := (Text.lowerAfter_of_isAscii hascii.2 false).2.2
      refine ⟨c, rest, d, lower rest, rfl, hlower, fun e he => ?_, hupper, ?_⟩
      · exact isPlain_of_isAscii (hascii.2 e he) (halnum.2 e he) (hsmall e he)
      · rcases hfirst with ⟨hnot, hdascii⟩ | hout
        · exact .inl ⟨hnot, isPlain_of_isAscii hdascii hdword hd.small⟩
        · exact .inr hout

/-- A digit is its own upper case, so that it cannot begin the lower case of a word whose
capitalised form begins with a letter. -/
theorem upperChar_of_isPlain {d : Char} (hplain : isPlain d = true) :
    Text.upperChar d ≠ [] ∧
      ((Text.upperChar d).head?.all Text.isAsciiLetter = true → isSmall d = true) := by
  have hd := toNat_lt_of_isPlain hplain
  rw [(Text.case_of_ascii hd).1]
  refine ⟨by simp, ?_⟩
  exact Text.forall_char_lt (P := fun d => isPlain d = true →
    Text.isAsciiLetter d.toUpper = true → isSmall d = true) (by decide +kernel) hd hplain

/-! ## The snake form -/

/-- No word of the name begins with an outsider. -/
def HasPlainStarts (given : Text) : Prop :=
  ∀ word ∈ Words.split given, ∀ c ∈ word.head?, c ∉ outsiders

theorem isPlain_lowerWords {given : Text} (h : isTypeName (Words.pascal given) = true)
    (hstarts : HasPlainStarts given) {word : Text} (hword : word ∈ lowerWords given) :
    word ≠ [] ∧ ∀ d ∈ word, isPlain d = true := by
  obtain ⟨source, hsource, rfl⟩ := List.mem_map.mp hword
  obtain ⟨c, rest, d, tail, rfl, hlower, htail, -, hfirst⟩ := lower_word h hsource
  rw [hlower]
  refine ⟨by simp, List.forall_mem_cons.mpr ⟨?_, htail⟩⟩
  rcases hfirst with ⟨-, hplain⟩ | ⟨hout, -⟩
  · exact hplain
  · exact absurd hout (hstarts _ hsource c rfl)

theorem isModuleName_join {given : Text} (h : isTypeName (Words.pascal given) = true)
    (hstarts : HasPlainStarts given) : IsModuleName (Text.join ['_'] (lowerWords given)) := by
  cases hsplit : Words.split given with
  | nil => exact absurd (by rw [lowerWords, hsplit]; rfl) (lowerWords_ne_nil h)
  | cons word later =>
      have hword : word ∈ Words.split given := by rw [hsplit]; exact List.mem_cons_self
      obtain ⟨c, rest, d, tail, rfl, hlower, htail, hupper, -⟩ := lower_word h hword
      have hplain : isPlain d = true :=
        (isPlain_lowerWords h hstarts (List.mem_map_of_mem hword)).2 d (by simp [hlower])
      have hwords : lowerWords given = (d :: tail) :: later.map lower := by
        rw [lowerWords, hsplit, List.map_cons, hlower]
      rw [hwords, join_eq_flatMap]
      refine ⟨d, tail, later.map lower, rfl, ?_, htail, fun other hother => ?_⟩
      · -- the first character of the capitalised form is a letter, and comes from this one
        obtain ⟨hne, hsmall⟩ := upperChar_of_isPlain hplain
        rw [hupper] at hne hsmall
        obtain ⟨first, more, hfirst'⟩ := List.exists_cons_of_ne_nil hne
        have hpascal : Words.pascal given = first :: (more ++ lower rest ++
            later.flatMap Words.capitalize) := by
          rw [Words.pascal, hsplit, List.flatMap_cons, Words.capitalize, hfirst']
          simp
        rw [hpascal, isTypeName, Bool.and_eq_true] at h
        refine hsmall ?_
        rw [hfirst']
        exact h.1
      · exact isPlain_lowerWords h hstarts (by rw [hwords]; exact List.mem_cons_of_mem _ hother)

/-- Every character of the words in lower case is ASCII or an outsider, and there is an outsider
among them if a word begins with one. -/
theorem isAscii_or_outsider {given : Text} (h : isTypeName (Words.pascal given) = true) :
    (∀ word ∈ lowerWords given, ∀ d ∈ word, d.toNat < 128 ∨ d ∈ outsiders) ∧
    ((∀ word ∈ lowerWords given, IsAscii word) → HasPlainStarts given) := by
  refine ⟨fun word hword d hd => ?_, fun hascii source hsource c hc hout => ?_⟩
  · obtain ⟨source, hsource, rfl⟩ := List.mem_map.mp hword
    obtain ⟨c, rest, e, tail, -, hlower, htail, -, hfirst⟩ := lower_word h hsource
    rw [hlower] at hd
    rcases List.mem_cons.mp hd with rfl | hd
    · rcases hfirst with ⟨-, hplain⟩ | ⟨hout, rfl⟩
      · exact .inl (toNat_lt_of_isPlain hplain)
      · exact .inr hout
    · exact .inl (toNat_lt_of_isPlain (htail d hd))
  · obtain ⟨c', rest, d, tail, rfl, hlower, -, -, hfirst⟩ := lower_word h hsource
    obtain rfl := Option.some.inj hc
    have hlow := hascii (lower _) (List.mem_map_of_mem hsource)
    rw [hlower] at hlow
    have hall : outsiders.all (fun x => decide (128 ≤ x.toNat)) = true := by decide +kernel
    have hbeyond := of_decide_eq_true (List.all_eq_true.mp hall _ hout)
    rcases hfirst with ⟨hnot, -⟩ | ⟨-, rfl⟩
    · exact hnot hout
    · exact Nat.not_lt.mpr hbeyond (hlow _ List.mem_cons_self)

theorem isAscii_join {mark : Char} (hmark : mark.toNat < 128) {words : List Text}
    (hne : words ≠ []) :
    IsAscii (Text.join [mark] words) ↔ ∀ word ∈ words, IsAscii word := by
  constructor
  · intro h word hword c hc
    exact h c ((mem_join hne).mpr (.inl ⟨word, hword, hc⟩))
  · intro h c hc
    rcases (mem_join hne).mp hc with ⟨word, hword, hc⟩ | ⟨rfl, -⟩
    · exact h word hword c hc
    · exact hmark

/-- The kebab form of an accepted name is its snake form with hyphens for underscores.  The snake
form is a module name exactly if no word of the name begins with a letter beyond ASCII that has
an ASCII upper case, and so exactly if the two forms are ASCII.  Such letters are all that can be
in them beyond ASCII. -/
theorem isModuleName_snake_iff {given : Text} {name : RuleName} (h : parse given = .ok name) :
    name.kebab = Text.replaceChar '_' '-' name.snake ∧
    (IsModuleName name.snake ↔ HasPlainStarts given) ∧
    (IsAscii name.snake ↔ HasPlainStarts given) ∧
    (IsAscii name.kebab ↔ HasPlainStarts given) ∧
    (∀ c ∈ name.snake, c.toNat < 128 ∨ c ∈ outsiders) ∧
    ∀ c ∈ name.kebab, c.toNat < 128 ∨ c ∈ outsiders := by
  obtain ⟨htype, -, -⟩ := parse_eq_ok.mp h
  obtain ⟨hchars, hstarts⟩ := isAscii_or_outsider htype
  have hne := lowerWords_ne_nil htype
  have hjoin : ∀ {mark : Char}, mark.toNat < 128 →
      (IsAscii (Text.join [mark] (lowerWords given)) ↔ HasPlainStarts given) ∧
      ∀ c ∈ Text.join [mark] (lowerWords given), c.toNat < 128 ∨ c ∈ outsiders := by
    intro mark hmark
    refine ⟨(isAscii_join hmark hne).trans ⟨hstarts, fun hplain word hword c hc => ?_⟩,
      fun c hc => ?_⟩
    · exact toNat_lt_of_isPlain ((isPlain_lowerWords htype hplain hword).2 c hc)
    · rcases (mem_join hne).mp hc with ⟨word, hword, hc⟩ | ⟨rfl, -⟩
      · exact hchars word hword c hc
      · exact .inl hmark
  obtain ⟨hsnake, hsnakeChars⟩ := @hjoin '_' (by decide)
  obtain ⟨hkebab, hkebabChars⟩ := @hjoin '-' (by decide)
  rw [snake_eq h, kebab_eq h]
  refine ⟨?_, ⟨fun hmodule => hsnake.mp hmodule.isAscii, isModuleName_join htype⟩, hsnake, hkebab,
    hsnakeChars, hkebabChars⟩
  exact (replaceChar_join (mark_not_mem htype underscore_joins)).symm

/-- A sharp s and a small x. -/
def sharp : RuleName := ⟨['ß', 'x'], "SSx".toList, ['ß', 'x'], ['ß', 'x']⟩

theorem parse_sharp : parse ['ß', 'x'] = .ok sharp ∧ ¬ IsAscii sharp.snake ∧
    ¬ IsAscii sharp.kebab := by
  have hbeyond : ¬ IsAscii ['ß', 'x'] := fun h => absurd (h 'ß' List.mem_cons_self) (by decide)
  exact ⟨by decide +kernel, hbeyond, hbeyond⟩

/-- The name is accepted, and its snake form is no module name. -/
theorem sharp_is_no_module : parse ['ß', 'x'] = .ok sharp ∧ ¬ IsModuleName sharp.snake ∧
    ¬ IsAscii sharp.snake ∧ ¬ IsAscii sharp.kebab := by
  obtain ⟨hparsed, hsnake, hkebab⟩ := parse_sharp
  exact ⟨hparsed, fun hmodule => hsnake hmodule.isAscii, hsnake, hkebab⟩

/-- This is so because a word begins with an outsider. -/
theorem sharp_starts_outside : parse ['ß', 'x'] = .ok sharp ∧
    (IsModuleName sharp.snake ↔ HasPlainStarts ['ß', 'x']) ∧ ¬ HasPlainStarts ['ß', 'x'] := by
  obtain ⟨hparsed, hbeyond, -⟩ := parse_sharp
  obtain ⟨-, hmodule, hsnake, -, -, -⟩ := isModuleName_snake_iff hparsed
  exact ⟨hparsed, hmodule, fun hplain => hbeyond (hsnake.mpr hplain)⟩

end LintScaffold.RuleName
