import LintScaffold.Proofs.Rule.Accepted

/-!
# The capitalised form as a name

The snake form and the kebab form of a name are names with the same forms.  The capitalised form
has no marks between its words, so that the words can only be told apart by their capitals.  Where
one word ends and the next one begins, there is a boundary exactly if the two are `Apart`: the
second begins with a letter, which is a capital then, and in front of this capital stands a small
letter or a digit, or behind it a small letter.

There are no other boundaries, since the only capitals are at the beginning of words.  So the
capitalised form has at most as many words as the name (`length_split_le`).  If all neighbours are
apart, it has the same words (`split_of_isChain`), and if some are not, it has fewer of them
(`length_split_lt`).  In between, a word of a single digit is an exception: the word behind it is
told apart from it although the two are not `Apart`.  But such a digit is not told apart from the
word in front of it, and it cannot be the first word of an accepted name.
-/

namespace LintScaffold

namespace Words

open Text (isAlphanumeric isAsciiLetter isAsciiDigit)
open RuleName (isPlain)

/-! ## Kinds of characters -/

theorem not_small_of_isCapital {c : Char} (h : isCapital c = true) :
    isSmall c = false ∧ isAsciiDigit c = false := by
  grind [isCapital, isSmall, isAsciiDigit, Char.le_def]

theorem not_letter_of_isAsciiDigit {c : Char} (h : isAsciiDigit c = true) :
    isAsciiLetter c = false ∧ isSmall c = false ∧ isCapital c = false := by
  grind [isAsciiDigit, isAsciiLetter, isSmall, isCapital, Char.le_def]

theorem not_capital_of_isPlain {c : Char} (h : isPlain c = true) :
    isCapital c = false ∧ (isAsciiLetter c = true → isSmall c = true) := by
  grind [isPlain, isSmall, isAsciiDigit, isAsciiLetter, isCapital, Char.le_def]

/-! ## A capitalised word and what follows -/

theorem length_extend (c : Char) {words : List Text} (h : words ≠ []) :
    (extend c words).length = words.length := by
  cases words with
  | nil => exact absurd rfl h
  | cons word rest => rfl

theorem extend_ne_nil (c : Char) (words : List Text) : extend c words ≠ [] := by
  cases words <;> simp [extend]

theorem length_foldr_extend (row : Text) {words : List Text} (h : words ≠ []) :
    (row.foldr extend words).length = words.length := by
  have hall : row.foldr extend words ≠ [] ∧ (row.foldr extend words).length = words.length := by
    induction row with
    | nil => exact ⟨h, rfl⟩
    | cons c rest ih =>
        rw [List.foldr_cons, length_extend c ih.1]
        exact ⟨extend_ne_nil c _, ih.2⟩
  exact hall.2

theorem split_ne_nil {c : Char} (hc : isAlphanumeric c = true) (rest : Text) :
    split (c :: rest) ≠ [] := by
  intro hnil
  have hflatten := flatten_split (c :: rest)
  rw [hnil, List.filter_cons_of_pos hc] at hflatten
  exact absurd hflatten (by simp)

/-- A row whose capital can only be at its head ends where the next word begins, if there is a
boundary, and runs into it otherwise. -/
theorem split_row {c : Char} (hc : isAlphanumeric c = true) {row : Text}
    (hrow : ∀ e ∈ row, isPlain e = true) {d : Char} (hd : isAlphanumeric d = true)
    (after : Text) : split (c :: row ++ d :: after) =
      if boundary ((c :: row).getLast (List.cons_ne_nil c row)) d after then
        (c :: row) :: split (d :: after)
      else (c :: row).foldr extend (split (d :: after)) := by
  induction row generalizing c with
  | nil =>
      rw [List.singleton_append, split_cons_cons hc, hd, List.getLast_singleton]
      cases boundary c d after <;> rfl
  | cons e row ih =>
      obtain ⟨he, hrest⟩ := List.forall_mem_cons.mp hrow
      have heWord : isAlphanumeric e = true :=
        Text.isAlphanumeric_of_letter_or_digit (letter_or_digit_of_isPlain he)
      have hcut : boundary c e (row ++ d :: after) = false := by
        simp [boundary, (not_capital_of_isPlain he).1]
      have hlater := ih heWord hrest
      rw [List.cons_append] at hlater
      rw [List.cons_append, List.cons_append, split_cons_cons hc, heWord, hcut, hlater,
        List.getLast_cons_cons, Bool.not_false, Bool.and_true, if_pos rfl]
      split
      · rfl
      · rfl

/-- Alone, such a row is one word. -/
theorem split_row_alone {c : Char} (hc : isAlphanumeric c = true) {row : Text}
    (hrow : ∀ e ∈ row, isPlain e = true) : split (c :: row) = [c :: row] := by
  have hword : IsWord (c :: row) := by
    refine ⟨List.cons_ne_nil c row, List.forall_mem_cons.mpr ⟨hc, fun e he => ?_⟩⟩
    exact Text.isAlphanumeric_of_letter_or_digit (letter_or_digit_of_isPlain (hrow e he))
  refine split_of_uncut hword fun i _ hcut => ?_
  -- a boundary has a capital behind it
  have hcapital : row[i]?.any isCapital = true := by
    rcases hcut with ⟨-, hcapital⟩ | ⟨-, hcapital, -⟩
    · exact hcapital
    · exact hcapital
  rw [Option.any_eq_true] at hcapital
  obtain ⟨e, he, hcapital⟩ := hcapital
  have hplain := hrow e (List.mem_of_getElem? he)
  rw [(not_capital_of_isPlain hplain).1] at hcapital
  exact absurd hcapital (by decide)

/-! ## Neighbours -/

/-- Two words in lower case of which the capitalised forms can be told apart. -/
structure Apart (word next : Text) : Prop where
  /-- The second word begins with a letter. -/
  letter : next[0]?.any isAsciiLetter = true
  /-- The first word has two characters, or the second one has a letter at its second place. -/
  shown : 2 ≤ word.length ∨ next[1]?.any isAsciiLetter = true

instance (word next : Text) : Decidable (Apart word next) :=
  decidable_of_iff (next[0]?.any isAsciiLetter = true ∧
    (2 ≤ word.length ∨ next[1]?.any isAsciiLetter = true))
    ⟨fun h => ⟨h.1, h.2⟩, fun h => ⟨h.letter, h.shown⟩⟩

section Neighbours

variable {word next tail tail' : Text} {low up low' up' : Char}

theorem alphanumeric_up (h : TwoForms word low up tail) : isAlphanumeric up = true :=
  Text.isAlphanumeric_of_letter_or_digit (h.letter_or_digit up List.mem_cons_self)

theorem not_small_up (h : TwoForms word low up tail) : isSmall up = false := by
  rcases h.first with ⟨-, hcapital⟩ | ⟨hdigit, rfl⟩
  · exact (not_small_of_isCapital hcapital).1
  · exact (not_letter_of_isAsciiDigit hdigit).2.1

/-- The last character of a capitalised word is a small letter or a digit, or the word has one
character only. -/
theorem getLast_spec (h : TwoForms word low up tail) :
    isPlain ((up :: tail).getLast (List.cons_ne_nil up tail)) = true ∧ tail ≠ [] ∨
      (up :: tail).getLast (List.cons_ne_nil up tail) = up ∧ tail = [] := by
  cases tail with
  | nil => exact .inr ⟨rfl, rfl⟩
  | cons d more =>
      rw [List.getLast_cons_cons]
      exact .inl ⟨h.plain _ (List.getLast_mem _), List.cons_ne_nil d more⟩

theorem boundary_of_apart (h : TwoForms word low up tail) (h' : TwoForms next low' up' tail')
    (hapart : Apart (low :: tail) (low' :: tail')) (rest : Text) :
    boundary ((up :: tail).getLast (List.cons_ne_nil up tail)) up' (tail' ++ rest) = true := by
  have hcapital : isCapital up' = true := by
    have hletter : isAsciiLetter low' = true := by simpa using hapart.letter
    rcases h'.first with ⟨-, hcapital⟩ | ⟨hdigit, -⟩
    · exact hcapital
    · rw [(not_letter_of_isAsciiDigit hdigit).1] at hletter
      exact absurd hletter (by decide)
  rw [boundary, hcapital, Bool.and_true, Bool.and_true, Bool.or_eq_true]
  rcases getLast_spec h with ⟨hplain, -⟩ | ⟨hlast, rfl⟩
  · exact .inl hplain
  · rw [hlast]
    rcases h.first with ⟨-, hup⟩ | ⟨hdigit, rfl⟩
    · -- behind a single capital it is the second letter that makes the boundary
      have hshown : tail'[0]?.any isAsciiLetter = true := by
        rcases hapart.shown with hlong | hshown
        · exact absurd hlong (by simp)
        · exact hshown
      cases tail' with
      | nil => exact absurd hshown (by simp)
      | cons e more =>
          have hsmall : isSmall e = true :=
            (not_capital_of_isPlain (h'.plain e List.mem_cons_self)).2 (by simpa using hshown)
          refine .inr ?_
          simp [hup, hsmall]
    · rw [hdigit, Bool.or_true]
      exact .inl rfl

theorem apart_of_boundary (h : TwoForms word low up tail) (h' : TwoForms next low' up' tail')
    (hletter : isAsciiLetter low = true) {rest : Text}
    (hrest : ∀ e ∈ rest.head?, isSmall e = false)
    (hcut : boundary ((up :: tail).getLast (List.cons_ne_nil up tail)) up' (tail' ++ rest) =
      true) : Apart (low :: tail) (low' :: tail') := by
  rw [boundary, Bool.or_eq_true, Bool.and_eq_true, Bool.and_eq_true, Bool.and_eq_true] at hcut
  have hcapital : isCapital up' = true := by
    rcases hcut with ⟨-, hcapital⟩ | ⟨⟨-, hcapital⟩, -⟩
    · exact hcapital
    · exact hcapital
  refine ⟨?_, ?_⟩
  · rcases h'.first with ⟨hsmall, -⟩ | ⟨hdigit, rfl⟩
    · simpa using isAsciiLetter_of_isSmall hsmall
    · rw [(not_letter_of_isAsciiDigit hdigit).2.2] at hcapital
      exact absurd hcapital (by decide)
  · rcases getLast_spec h with ⟨-, hne⟩ | ⟨hlast, rfl⟩
    · have hpos := List.length_pos_of_ne_nil hne
      exact .inl (Nat.succ_le_succ hpos)
    · have hup : isCapital up = true := by
        rcases h.first with ⟨-, hup⟩ | ⟨hdigit, -⟩
        · exact hup
        · rw [(not_letter_of_isAsciiDigit hdigit).1] at hletter
          exact absurd hletter (by decide)
      obtain ⟨hnotSmall, hnotDigit⟩ := not_small_of_isCapital hup
      rw [hlast, hnotSmall, hnotDigit] at hcut
      have hshown : ((tail' ++ rest).head?.map isSmall).getD false = true := by
        rcases hcut with ⟨hfalse, -⟩ | ⟨-, hshown⟩
        · exact absurd hfalse (by decide)
        · exact hshown
      cases tail' with
      | nil =>
          rw [List.nil_append] at hshown
          cases hhead : rest.head? with
          | none => simp [hhead] at hshown
          | some e => simp [hhead, hrest e hhead] at hshown
      | cons e more =>
          have hsmall : isSmall e = true := by simpa using hshown
          exact .inr (by simpa using isAsciiLetter_of_isSmall hsmall)

end Neighbours

/-! ## Words run together -/

/-- Every word has two forms that differ in the first character alone. -/
def HaveTwoForms (words : List Text) : Prop :=
  ∀ word ∈ words, ∃ low up tail, TwoForms word low up tail

theorem HaveTwoForms.tail {word : Text} {later : List Text} (h : HaveTwoForms (word :: later)) :
    HaveTwoForms later :=
  fun other hother => h other (List.mem_cons_of_mem word hother)

/-- Words run together do not begin with a small letter. -/
theorem not_small_head {words : List Text} (h : HaveTwoForms words) :
    ∀ e ∈ (words.flatMap capitalize).head?, isSmall e = false := by
  cases words with
  | nil => simp
  | cons word later =>
      obtain ⟨low, up, tail, hforms⟩ := h word List.mem_cons_self
      intro e he
      rw [List.flatMap_cons, hforms.capitalized] at he
      obtain rfl : up = e := by simpa using he
      exact not_small_up hforms

/-- The first of several words run together ends where there is a boundary, and runs into the
next one otherwise. -/
theorem split_capitalized {word next tail tail' : Text} {low up low' up' : Char}
    (h : TwoForms word low up tail) (h' : TwoForms next low' up' tail') (more : List Text) :
    split ((word :: next :: more).flatMap capitalize) =
      if boundary ((up :: tail).getLast (List.cons_ne_nil up tail)) up'
          (tail' ++ more.flatMap capitalize) then
        capitalize word :: split ((next :: more).flatMap capitalize)
      else (capitalize word).foldr extend (split ((next :: more).flatMap capitalize)) := by
  have hnext : (next :: more).flatMap capitalize = up' :: (tail' ++ more.flatMap capitalize) := by
    rw [List.flatMap_cons, h'.capitalized, List.cons_append]
  rw [List.flatMap_cons, hnext, h.capitalized]
  exact split_row (alphanumeric_up h) h.plain (alphanumeric_up h') _

theorem split_flatMap_ne_nil {word : Text} {later : List Text}
    (h : HaveTwoForms (word :: later)) :
    split ((word :: later).flatMap capitalize) ≠ [] := by
  obtain ⟨low, up, tail, hforms⟩ := h word List.mem_cons_self
  rw [List.flatMap_cons, hforms.capitalized, List.cons_append]
  exact split_ne_nil (alphanumeric_up hforms) _

theorem split_single {word : Text} (h : HaveTwoForms [word]) :
    split ([word].flatMap capitalize) = [capitalize word] := by
  obtain ⟨low, up, tail, hforms⟩ := h word List.mem_cons_self
  rw [List.flatMap_cons, List.flatMap_nil, List.append_nil, hforms.capitalized]
  exact split_row_alone (alphanumeric_up hforms) hforms.plain

/-- There are at most as many words as have been run together. -/
theorem length_split_le {words : List Text} (h : HaveTwoForms words) :
    (split (words.flatMap capitalize)).length ≤ words.length := by
  induction words with
  | nil => exact Nat.le_refl 0
  | cons word later ih =>
      have hlater := ih h.tail
      cases later with
      | nil =>
          rw [split_single h]
          exact Nat.le_refl 1
      | cons next more =>
          obtain ⟨low, up, tail, hword⟩ := h word List.mem_cons_self
          obtain ⟨low', up', tail', hnext⟩ := h.tail next List.mem_cons_self
          rw [split_capitalized hword hnext]
          split
          · exact Nat.succ_le_succ hlater
          · rw [length_foldr_extend _ (split_flatMap_ne_nil h.tail)]
            exact Nat.le_succ_of_le hlater

/-- If neighbours are apart, the words are found again. -/
theorem split_of_isChain {words : List Text} (h : HaveTwoForms words)
    (hchain : (words.map Text.lower).IsChain Apart) :
    split (words.flatMap capitalize) = words.map capitalize := by
  induction words with
  | nil => rfl
  | cons word later ih =>
      cases later with
      | nil => exact split_single h
      | cons next more =>
          obtain ⟨low, up, tail, hword⟩ := h word List.mem_cons_self
          obtain ⟨low', up', tail', hnext⟩ := h.tail next List.mem_cons_self
          rw [List.map_cons, List.map_cons, List.isChain_cons_cons] at hchain
          have hapart := hchain.1
          rw [hword.lower, hnext.lower] at hapart
          rw [split_capitalized hword hnext, if_pos (boundary_of_apart hword hnext hapart _),
            ih h.tail hchain.2]
          rfl

/-- If the first word begins with a letter, and not all neighbours are apart, then there are
fewer words. -/
theorem length_split_lt {words : List Text} (h : HaveTwoForms words)
    (hfirst : ∀ word ∈ words.head?, (Text.lower word)[0]?.any isAsciiLetter = true)
    (hchain : ¬ (words.map Text.lower).IsChain Apart) :
    (split (words.flatMap capitalize)).length < words.length := by
  induction words with
  | nil => exact absurd .nil hchain
  | cons word later ih =>
      cases later with
      | nil => exact absurd (.singleton _) hchain
      | cons next more =>
          obtain ⟨low, up, tail, hword⟩ := h word List.mem_cons_self
          obtain ⟨low', up', tail', hnext⟩ := h.tail next List.mem_cons_self
          rw [split_capitalized hword hnext]
          by_cases hapart : Apart (low :: tail) (low' :: tail')
          · -- the second word begins with a letter too, and the fault is further on
            rw [if_pos (boundary_of_apart hword hnext hapart _)]
            refine Nat.succ_lt_succ (ih h.tail ?_ fun hlater => hchain ?_)
            · intro other hother
              obtain rfl : next = other := by simpa using hother
              rw [hnext.lower]
              exact hapart.letter
            · rw [List.map_cons, List.map_cons, List.isChain_cons_cons, hword.lower, hnext.lower]
              rw [List.map_cons, hnext.lower] at hlater
              exact ⟨hapart, hlater⟩
          · have hletter : isAsciiLetter low = true := by
              have hhead := hfirst word rfl
              rw [hword.lower] at hhead
              simpa using hhead
            rw [if_neg fun hcut => hapart
              (apart_of_boundary hword hnext hletter (not_small_head h.tail.tail) hcut),
              length_foldr_extend _ (split_flatMap_ne_nil h.tail)]
            exact Nat.lt_succ_of_le (length_split_le h.tail)

end Words

/-! ## Accepted names -/

namespace RuleName

open Words (HasAsciiWords Apart HaveTwoForms split capitalize)

theorem capitalize_map {words : List Text} (h : HaveTwoForms words) :
    (words.map capitalize).flatMap capitalize = words.flatMap capitalize ∧
      (words.map capitalize).map Text.lower = words.map Text.lower := by
  rw [List.flatMap_map, List.map_map]
  refine ⟨List.flatMap_congr fun word hword => ?_, List.map_congr_left fun word hword => ?_⟩
  · obtain ⟨low, up, tail, hforms⟩ := h word hword
    rw [hforms.capitalized, hforms.capitalized_again]
  · obtain ⟨low, up, tail, hforms⟩ := h word hword
    rw [Function.comp_apply, hforms.capitalized, hforms.lower_again, hforms.lower]

/-- The first word of an accepted name begins with a letter. -/
theorem letter_of_isTypeName {given : Text} (h : HaveTwoForms (split given))
    (htype : isTypeName (Words.pascal given) = true) :
    ∀ word ∈ (split given).head?, (Text.lower word)[0]?.any Text.isAsciiLetter = true := by
  intro word hword
  obtain ⟨later, hsplit⟩ : ∃ later, split given = word :: later :=
    ⟨_, List.eq_cons_of_mem_head? hword⟩
  obtain ⟨low, up, tail, hforms⟩ := h word (List.mem_of_mem_head? hword)
  rw [Words.pascal, hsplit, List.flatMap_cons, hforms.capitalized, List.cons_append, isTypeName,
    Bool.and_eq_true] at htype
  rw [hforms.lower]
  rcases hforms.first with ⟨hsmall, -⟩ | ⟨hdigit, rfl⟩
  · simpa using Words.isAsciiLetter_of_isSmall hsmall
  · exact htype.1

theorem lowerWords_of_snake {given other : Text} {name again : RuleName}
    (h : parse given = .ok name) (hother : parse other = .ok again)
    (hsnake : again.snake = name.snake) : lowerWords other = lowerWords given := by
  have hpieces : ∀ {text : Text} {form : RuleName}, parse text = .ok form →
      Text.splitAt '_' form.snake = lowerWords text := by
    intro text form hform
    obtain ⟨htype, -, -⟩ := parse_eq_ok.mp hform
    rw [snake_eq hform]
    exact Text.splitAt_join (lowerWords_ne_nil htype) (mark_not_mem htype underscore_joins)
  rw [← hpieces h, ← hpieces hother, hsnake]

/-- The capitalised form of a name in ASCII letters and digits is a name with the same forms
exactly if all neighbours among its words are apart.  Otherwise it has fewer words than the name,
whether it is accepted or not. -/
theorem parse_pascal_iff {given : Text} {name : RuleName} (hascii : HasAsciiWords given)
    (h : parse given = .ok name) :
    ((∃ again, parse name.pascal = .ok again ∧
      again.pascal = name.pascal ∧ again.snake = name.snake ∧ again.kebab = name.kebab) ↔
        ((split given).map Text.lower).IsChain Apart) ∧
    (¬ ((split given).map Text.lower).IsChain Apart →
      (split name.pascal).length < (split given).length) := by
  have hforms : HaveTwoForms (split given) := fun word hword => hascii.exists_twoForms hword
  obtain ⟨htype, hreserved, hname⟩ := parse_eq_ok.mp h
  have hpascal : name.pascal = (split given).flatMap capitalize := by rw [hname, Words.pascal]
  have hfewer : ¬ ((split given).map Text.lower).IsChain Apart →
      (split name.pascal).length < (split given).length := by
    rw [hpascal]
    exact Words.length_split_lt hforms (letter_of_isTypeName hforms htype)
  refine ⟨⟨?_, ?_⟩, hfewer⟩
  · rintro ⟨again, hagain, -, hsnake, -⟩
    by_contra hchain
    have hlength := congrArg List.length (lowerWords_of_snake h hagain hsnake)
    rw [lowerWords, lowerWords, List.length_map, List.length_map] at hlength
    exact absurd (hfewer hchain) (by omega)
  · intro hchain
    have hsplit : split name.pascal = (split given).map capitalize := by
      rw [hpascal]
      exact Words.split_of_isChain hforms hchain
    obtain ⟨hcapitalized, hlower⟩ := capitalize_map hforms
    have hsame : Words.pascal name.pascal = Words.pascal given := by
      rw [Words.pascal, hsplit, hcapitalized, Words.pascal]
    refine ⟨_, parse_eq_ok.mpr ⟨hsame.symm ▸ htype, hsame.symm ▸ hreserved, rfl⟩, ?_, ?_, ?_⟩
    · rw [hsame, hname]
    · rw [Words.snake, hsplit, hlower, hname, Words.snake]
    · rw [Words.kebab, hsplit, hlower, hname, Words.kebab]

/-- A name with a word of a single letter, which a capital and a small letter follow. -/
def rayGiven : Text := "x-ray_b2Plan".toList

/-- The forms of that name. -/
def ray : RuleName :=
  ⟨rayGiven, "XRayB2Plan".toList, "x_ray_b2_plan".toList, "x-ray-b2-plan".toList⟩

/-- A name of two letters and a digit. -/
def lettersGiven : Text := "a-b-1".toList

/-- The forms of that name. -/
def letters : RuleName := ⟨lettersGiven, "AB1".toList, "a_b_1".toList, "a-b-1".toList⟩

/-- The one is read from its capitalised form again, and the other becomes a single word. -/
theorem ray_is_respelled :
    (HasAsciiWords rayGiven ∧ parse rayGiven = .ok ray ∧
      ∃ again, parse ray.pascal = .ok again ∧
        again.pascal = ray.pascal ∧ again.snake = ray.snake ∧ again.kebab = ray.kebab) ∧
    HasAsciiWords lettersGiven ∧ parse lettersGiven = .ok letters ∧
      (split letters.pascal).length < (split lettersGiven).length := by
  have hray : HasAsciiWords rayGiven ∧ parse rayGiven = .ok ray ∧
      ((split rayGiven).map Text.lower).IsChain Apart := by
    decide +kernel
  have hletters : HasAsciiWords lettersGiven ∧ parse lettersGiven = .ok letters ∧
      ¬ ((split lettersGiven).map Text.lower).IsChain Apart := by
    decide +kernel
  obtain ⟨hascii, hparsed, hchain⟩ := hray
  obtain ⟨hascii', hparsed', hchain'⟩ := hletters
  exact ⟨⟨hascii, hparsed, (parse_pascal_iff hascii hparsed).1.mpr hchain⟩, hascii', hparsed',
    (parse_pascal_iff hascii' hparsed').2 hchain'⟩

end RuleName
end LintScaffold
