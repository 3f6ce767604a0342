import LintScaffold.Proofs.Text.Case
import LintScaffold.Text.Blank
import Mathlib.Data.List.TakeWhile

/-!
# The words of a name

Where a name is cut depends on three neighbours at most, and a cut at a camel boundary needs a
capital behind it.  So a row of letters and digits without capitals is one word, whatever follows
it, and words of this kind that are joined by a mark are found again: `split_join`.  Characters
that belong to no word, such as the blanks around a name, change nothing (`split_strip`).

A word whose capitalised form is ASCII has a lower case of this kind.  Both are made character
by character, the first one by its upper case and the others by their lower case, and
`Proofs.Text.Case` has what is needed to see that lowering such a word neither moves its
boundaries nor changes its capitalised form.
-/

namespace LintScaffold

namespace Text

theorem CharTable.exists_range {table : CharTable} {n : Nat} (h : table.holdsCode n = true) :
    ∃ range ∈ table, range.1 ≤ n ∧ n ≤ range.2 := by
  induction table with
  | nil => simp [holdsCode] at h
  | cons range rest ih =>
      unfold holdsCode at h
      split at h
      · simp at h
      · rename_i hfirst
        split at h
        · rename_i hlast
          exact ⟨range, List.mem_cons_self, Nat.le_of_not_lt hfirst, hlast⟩
        · obtain ⟨found, hmem, hfound⟩ := ih h
          exact ⟨found, List.mem_cons_of_mem range hmem, hfound⟩

/-- Blanks belong to no word. -/
theorem isAlphanumeric_of_isBlank {c : Char} (h : isBlank c = true) :
    isAlphanumeric c = false := by
  obtain ⟨range, hrange, hfirst, hlast⟩ := CharTable.exists_range h
  have hall : ∀ range ∈ blankTable, ∀ i < range.2 - range.1 + 1,
      alphanumericTable.holdsCode (range.1 + i) = false := by decide +kernel
  have hcode := hall range hrange (c.toNat - range.1) (by omega)
  rwa [Nat.add_sub_cancel' hfirst] at hcode

/-- ASCII letters and digits belong to words. -/
theorem isAlphanumeric_of_letter_or_digit {c : Char}
    (h : (isAsciiLetter c || isAsciiDigit c) = true) : isAlphanumeric c = true :=
  forall_char_lt (P := fun c => (isAsciiLetter c || isAsciiDigit c) = true →
    isAlphanumeric c = true) (by decide +kernel) (toNat_lt_of_letter_or_digit h) h

theorem dropEndWhile_append (p : Char → Bool) (text : Text) :
    ∃ rest, text = dropEndWhile p text ++ rest ∧ ∀ c ∈ rest, p c = true := by
  refine ⟨(text.reverse.takeWhile p).reverse, ?_, ?_⟩
  · have hsplit := congrArg List.reverse
      (List.takeWhile_append_dropWhile (p := p) (l := text.reverse))
    rw [List.reverse_append, List.reverse_reverse] at hsplit
    exact hsplit.symm
  · intro c hc
    exact List.mem_takeWhile_imp (List.mem_reverse.mp hc)

theorem join_cons_cons (mark : Char) (word next : Text) (later : List Text) :
    join [mark] (word :: next :: later) = word ++ mark :: join [mark] (next :: later) := by
  simp [join]

/-- The pieces of words that are joined by a mark are the words, unless one of them holds the
mark. -/
theorem splitAt_join {mark : Char} {words : List Text} (hne : words ≠ [])
    (hmark : ∀ word ∈ words, mark ∉ word) : splitAt mark (join [mark] words) = words := by
  have hword : ∀ word : Text, mark ∉ word → ∀ rest, ∀ piece pieces,
      splitAt mark rest = piece :: pieces →
      splitAt mark (word ++ rest) = (word ++ piece) :: pieces := by
    intro word hfree rest piece pieces hrest
    induction word with
    | nil => exact hrest
    | cons c word ih =>
        rw [List.mem_cons, not_or] at hfree
        rw [List.cons_append, splitAt, if_neg (Ne.symm hfree.1), ih hfree.2]
        rfl
  induction words with
  | nil => exact absurd rfl hne
  | cons word rest ih =>
      have hfree := hmark word List.mem_cons_self
      cases rest with
      | nil =>
          have hlast := hword word hfree [] [] [] rfl
          rwa [List.append_nil] at hlast
      | cons next later =>
          have hlater := ih (by simp) fun other hother =>
            hmark other (List.mem_cons_of_mem word hother)
          have hbegin : splitAt mark (mark :: join [mark] (next :: later)) =
              [] :: next :: later := by
            rw [splitAt, if_pos rfl, hlater]
          have hwhole := hword word hfree _ _ _ hbegin
          rw [List.append_nil] at hwhole
          rw [join_cons_cons]
          exact hwhole

end Text

namespace Words

open Text

/-! ## Cutting -/

theorem split_cons_of_not {c : Char} (hc : isAlphanumeric c = false) (rest : Text) :
    split (c :: rest) = split rest := by
  rw [split.eq_def]
  simp [hc]

theorem split_singleton {c : Char} (hc : isAlphanumeric c = true) : split [c] = [[c]] := by
  rw [split.eq_def]
  simp [hc]

theorem split_cons_cons {c : Char} (hc : isAlphanumeric c = true) (d : Char) (after : Text) :
    split (c :: d :: after) =
      if isAlphanumeric d && !boundary c d after then extend c (split (d :: after))
      else [c] :: split (d :: after) := by
  rw [split.eq_def]
  dsimp only
  rw [if_pos hc]

/-- A character of a word is the whole of it, where no word goes on behind it. -/
theorem split_cons_of_head {c : Char} (hc : isAlphanumeric c = true) {rest : Text}
    (hrest : ∀ d ∈ rest.head?, isAlphanumeric d = false) :
    split (c :: rest) = [c] :: split rest := by
  cases rest with
  | nil => exact split_singleton hc
  | cons d after =>
      have hd : isAlphanumeric d = false := hrest d rfl
      rw [split_cons_cons hc, hd]
      rfl

theorem isAsciiLetter_of_isSmall {c : Char} (h : isSmall c = true) : isAsciiLetter c = true := by
  rw [isSmall] at h
  rw [isAsciiLetter, h, Bool.true_or]

theorem boundary_append {rest : Text} (hrest : ∀ c ∈ rest, isAlphanumeric c = false)
    (c d : Char) (after : Text) : boundary c d (after ++ rest) = boundary c d after := by
  cases after with
  | cons e more => rfl
  | nil =>
      cases rest with
      | nil => rfl
      | cons e more =>
          have hsmall : isSmall e = false := by
            by_contra hsmall
            have hletter := isAsciiLetter_of_isSmall (by simpa using hsmall)
            have halnum := isAlphanumeric_of_letter_or_digit (by rw [hletter, Bool.true_or])
            rw [hrest e List.mem_cons_self] at halnum
            exact absurd halnum (by decide)
          simp [boundary, hsmall]

/-- What belongs to no word can be left out at the end. -/
theorem split_append {rest : Text} (hrest : ∀ c ∈ rest, isAlphanumeric c = false) (text : Text) :
    split (text ++ rest) = split text := by
  induction text with
  | nil =>
      rw [List.nil_append]
      induction rest with
      | nil => rfl
      | cons c rest ih =>
          rw [split_cons_of_not (hrest c List.mem_cons_self)]
          exact ih fun d hd => hrest d (List.mem_cons_of_mem c hd)
  | cons c text ih =>
      by_cases hc : isAlphanumeric c = true
      · cases text with
        | nil =>
            rw [List.nil_append] at ih
            have hhead : ∀ d ∈ rest.head?, isAlphanumeric d = false := fun d hd =>
              hrest d (List.mem_of_mem_head? hd)
            rw [List.cons_append, List.nil_append, split_cons_of_head hc hhead, ih,
              split_cons_of_head hc (by simp)]
        | cons d after =>
            rw [List.cons_append] at ih
            rw [List.cons_append, List.cons_append, split_cons_cons hc, split_cons_cons hc,
              boundary_append hrest, ih]
      · rw [List.cons_append, split_cons_of_not (by simpa using hc),
          split_cons_of_not (by simpa using hc), ih]

/-- The blanks around a text do not change its words. -/
theorem split_strip (text : Text) : split (strip text) = split text := by
  have hstart : ∀ text : Text, split (stripStart text) = split text := by
    intro text
    unfold stripStart
    induction text with
    | nil => rfl
    | cons c rest ih =>
        by_cases hc : isBlank c = true
        · rw [List.dropWhile_cons_of_pos hc, ih,
            split_cons_of_not (isAlphanumeric_of_isBlank hc)]
        · rw [List.dropWhile_cons_of_neg hc]
  obtain ⟨rest, hrest, hblank⟩ := dropEndWhile_append isBlank (stripStart text)
  calc split (strip text) = split (strip text ++ rest) :=
        (split_append (fun c hc => isAlphanumeric_of_isBlank (hblank c hc)) _).symm
    _ = split (stripStart text) := congrArg split hrest.symm
    _ = split text := hstart text

/-- A row of letters and digits. -/
structure IsWord (word : Text) : Prop where
  ne_nil : word ≠ []
  alphanumeric : ∀ c ∈ word, isAlphanumeric c = true

theorem isWord_of_mem_split {text word : Text} (h : word ∈ split text) : IsWord word := by
  induction text generalizing word with
  | nil => simp [split] at h
  | cons c rest ih =>
      by_cases hc : isAlphanumeric c = true
      · have hsingle : IsWord [c] := ⟨by simp, by simpa using hc⟩
        cases rest with
        | nil =>
            rw [split_singleton hc] at h
            rwa [List.mem_singleton.mp h]
        | cons d after =>
            rw [split_cons_cons hc] at h
            split at h
            · -- the first word of the rest gets longer, and the others stay
              cases hsplit : split (d :: after) with
              | nil =>
                  rw [hsplit, extend] at h
                  rwa [List.mem_singleton.mp h]
              | cons first others =>
                  rw [hsplit] at h ih
                  rcases List.mem_cons.mp h with rfl | hother
                  · have hfirst := ih List.mem_cons_self
                    exact ⟨by simp, List.forall_mem_cons.mpr ⟨hc, hfirst.alphanumeric⟩⟩
                  · exact ih (List.mem_cons_of_mem first hother)
            · rcases List.mem_cons.mp h with rfl | hother
              · exact hsingle
              · exact ih hother
      · rw [split_cons_of_not (by simpa using hc)] at h
        exact ih h

/-- A word without capitals is not cut. -/
theorem split_word_append {word rest : Text} (hword : IsWord word)
    (hsmall : ∀ c ∈ word, isCapital c = false)
    (hrest : ∀ d ∈ rest.head?, isAlphanumeric d = false) :
    split (word ++ rest) = word :: split rest := by
  obtain ⟨hne, halnum⟩ := hword
  induction word with
  | nil => exact absurd rfl hne
  | cons c word ih =>
      have hc := halnum c List.mem_cons_self
      cases word with
      | nil => exact split_cons_of_head hc hrest
      | cons d after =>
          have hd : isAlphanumeric d = true := halnum d (by simp)
          have hlater := ih (fun e he => hsmall e (List.mem_cons_of_mem c he)) (by simp)
            fun e he => halnum e (List.mem_cons_of_mem c he)
          have hcut : boundary c d (after ++ rest) = false := by
            simp [boundary, hsmall d (by simp)]
          rw [List.cons_append] at hlater
          rw [List.cons_append, List.cons_append, split_cons_cons hc, hd, hcut, hlater]
          rfl

/-- Words without capitals that are joined by a mark are the words of the whole. -/
theorem split_join {mark : Char} (hmark : isAlphanumeric mark = false) {words : List Text}
    (hwords : ∀ word ∈ words, IsWord word)
    (hsmall : ∀ word ∈ words, ∀ c ∈ word, isCapital c = false) :
    split (join [mark] words) = words := by
  induction words with
  | nil => rfl
  | cons word rest ih =>
      have hfirst := hwords word List.mem_cons_self
      have hlow := hsmall word List.mem_cons_self
      have hlater := ih (fun other h => hwords other (List.mem_cons_of_mem word h))
        fun other h => hsmall other (List.mem_cons_of_mem word h)
      cases rest with
      | nil =>
          have halone : split (word ++ []) = word :: split [] :=
            split_word_append hfirst hlow (by simp)
          rwa [List.append_nil] at halone
      | cons next more =>
          rw [join_cons_cons, split_word_append hfirst hlow (by simpa using hmark),
            split_cons_of_not hmark, hlater]

/-! ## Lower case -/

/-- A word whose capitalised form is ASCII has a lower case that begins with the lower case of
its first character and goes on as its capitalised form does. -/
theorem exists_lower {c : Char} {rest : Text} (hc : isAlphanumeric c = true)
    (h : IsAscii (capitalize (c :: rest))) :
    ∃ d, LowersTo c d ∧ isAlphanumeric d = true ∧ upperChar d = upperChar c ∧
      (c ∉ outsiders ∧ d.toNat < 128 ∨ c ∈ outsiders ∧ d = c) ∧
      lower (c :: rest) = d :: lower rest := by
  rw [capitalize, isAscii_append] at h
  obtain ⟨d, hd, halnum, hupper, hascii⟩ := exists_lowersTo_of_upper hc h.1
  refine ⟨d, hd, halnum, hupper, hascii, ?_⟩
  have hsigma : c ≠ 'Σ' := by
    rintro rfl
    exact isAscii_sigma.2.2 h.1
  obtain ⟨next, hnext⟩ := lowerAfter_cons hsigma false rest
  rw [lower, hnext, hd.lower, (lowerAfter_of_isAscii h.2 next).1]
  rfl

/-- The lower case of a word is a word without capitals, which is its own lower case and has the
same capitalised form, provided that this form is in ASCII letters and digits. -/
theorem lower_spec {word : Text} (hword : IsWord word) (h : IsAscii (capitalize word))
    (halnum : ∀ c ∈ capitalize word, isAlphanumeric c = true) :
    IsWord (lower word) ∧ (∀ c ∈ lower word, isCapital c = false) ∧
      lower (lower word) = lower word ∧ capitalize (lower word) = capitalize word := by
  cases word with
  | nil => exact absurd rfl hword.ne_nil
  | cons c rest =>
      obtain ⟨d, hd, hword', hupper, -, hlower⟩ :=
        exists_lower (hword.alphanumeric c List.mem_cons_self) h
      rw [capitalize, isAscii_append] at h
      rw [capitalize, List.forall_mem_append] at halnum
      obtain ⟨-, hagain, hsmall⟩ := lowerAfter_of_isAscii h.2 false
      obtain ⟨next, hnext⟩ := lowerAfter_cons hd.ne_sigma false (lower rest)
      rw [hlower]
      refine ⟨⟨by simp, List.forall_mem_cons.mpr ⟨hword', halnum.2⟩⟩,
        List.forall_mem_cons.mpr ⟨hd.small, hsmall⟩, ?_, ?_⟩
      · rw [lower, hnext, hd.stays]
        exact congrArg (d :: ·) (lowerAfter_of_isAscii h.2 next).2.1
      · rw [capitalize, capitalize, hupper]
        exact congrArg (upperChar c ++ ·) hagain

end Words
end LintScaffold
