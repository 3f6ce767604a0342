import LintScaffold.Proofs.Rust.Literal
import Mathlib.Data.List.Infix

/-!
# The shortest fence

The fence of a raw literal is one sign longer than the longest run of number signs behind a
quotation mark of the text.  It can also be found by trying one length after the other, from one
sign on, as long as the text has a quotation mark with so many signs behind it.  This comes to an
end, since the text would have to be longer than the mark and its signs, and it finds the same
fence: `search_eq_fence`.

With this fence the literal ends where it should.  A quotation mark of the text has too few signs
behind it in the text; and the literal's own quotation mark cannot help it to more, since it is no
number sign itself (`signs_append_quote`).  With a shorter fence the first place with enough signs
lies in the text, and there the literal is read as over: `exists_first_closing`.  Fences are taken
as the reader of lexemes takes them, of any length.
-/

namespace LintScaffold

/-! ## Parts of texts -/

namespace Text

theorem startsWith_iff_isPrefix {start text : Text} :
    startsWith text start = true ↔ start <+: text := by
  rw [startsWith]
  induction start generalizing text with
  | nil => simp [dropStart?]
  | cons c start ih =>
      cases text with
      | nil => simp [dropStart?]
      | cons d rest =>
          rw [dropStart?, List.cons_prefix_cons]
          by_cases hc : c = d
          · rw [if_pos hc, ih]
            simp [hc]
          · rw [if_neg hc]
            simp [hc]

theorem contains_iff_isInfix {text part : Text} :
    Text.contains text part = true ↔ part <:+: text := by
  induction text with
  | nil =>
      rw [Text.contains, Bool.or_false, startsWith_iff_isPrefix, List.prefix_nil,
        List.infix_nil]
  | cons c rest ih =>
      rw [Text.contains, Bool.or_eq_true, startsWith_iff_isPrefix, ih, List.infix_cons_iff]

end Text

namespace RawString

open Rust

/-! ## Looking for a fence -/

/-- What ends a raw literal with a fence of so many number signs. -/
def closing (count : Nat) : Text := '"' :: List.replicate count '#'

theorem lt_length_of_contains {text : Text} {count : Nat}
    (h : Text.contains text (closing count) = true) : count < text.length := by
  have hle := (Text.contains_iff_isInfix.mp h).length_le
  rw [closing, List.length_cons, List.length_replicate] at hle
  exact hle

/-- The first number of signs, from `count` on, that follows no quotation mark of the text: they
are tried one after the other. -/
def search (text : Text) (count : Nat) : Nat :=
  if Text.contains text (closing count) = true then search text (count + 1) else count
termination_by text.length - count
decreasing_by
  rename_i h
  have := lt_length_of_contains h
  omega

theorem replicate_isPrefix_iff {count : Nat} {rest : Text} :
    List.replicate count '#' <+: rest ↔ count ≤ signs rest := by
  induction count generalizing rest with
  | zero => simp
  | succ count ih =>
      cases rest with
      | nil => simp [signs]
      | cons c rest =>
          rw [List.replicate_succ, List.cons_prefix_cons, ih]
          by_cases hc : c = '#'
          · subst hc
            rw [signs_cons]
            simp
          · have hnone : signs (c :: rest) = 0 := by simp [signs, hc]
            rw [hnone]
            simp [Ne.symm hc]

theorem closing_isPrefix_cons {count : Nat} {c : Char} {rest : Text} :
    closing count <+: c :: rest ↔ c = '"' ∧ count ≤ signs rest := by
  rw [closing, List.cons_prefix_cons, replicate_isPrefix_iff, eq_comm]

theorem le_longestRun_cons {count : Nat} (hpos : 1 ≤ count) {c : Char} {rest : Text} :
    count ≤ longestRun (c :: rest) ↔ closing count <+: c :: rest ∨ count ≤ longestRun rest := by
  rw [closing_isPrefix_cons, longestRun, ← signs]
  by_cases hc : c = '"'
  · simp only [hc, if_true, true_and]
    split_ifs <;> omega
  · simp only [hc, if_false, false_and, false_or]
    split_ifs <;> omega

/-- The text has a quotation mark with so many signs behind it if its longest run is as long. -/
theorem closing_isInfix_iff {count : Nat} (hpos : 1 ≤ count) {text : Text} :
    closing count <:+: text ↔ count ≤ longestRun text := by
  induction text with
  | nil =>
      rw [List.infix_nil, closing, longestRun]
      simp only [reduceCtorEq, false_iff]
      omega
  | cons c rest ih => rw [List.infix_cons_iff, ih, le_longestRun_cons hpos]

theorem one_le_fence (text : Text) : 1 ≤ fence text := Nat.le_add_left 1 _

theorem contains_closing_iff {count : Nat} (hpos : 1 ≤ count) {text : Text} :
    Text.contains text (closing count) = true ↔ count < fence text := by
  rw [Text.contains_iff_isInfix, closing_isInfix_iff hpos, fence, Nat.lt_succ_iff]

/-- Trying goes on up to the fence and stops there. -/
theorem search_eq_fence {text : Text} {count : Nat} (hpos : 1 ≤ count) (hle : count ≤ fence text) :
    search text count = fence text := by
  induction hleft : fence text - count generalizing count with
  | zero =>
      have hend : count = fence text := by omega
      have hstop : ¬ Text.contains text (closing count) = true := by
        rw [contains_closing_iff hpos]
        omega
      rw [search, if_neg hstop, hend]
  | succ left ih =>
      rw [search, if_pos ((contains_closing_iff hpos).mpr (by omega))]
      exact ih (by omega) (by omega) (by omega)

/-! ## Where a literal ends -/

/-- The raw literal of a text with a fence of so many number signs. -/
def writeWith (count : Nat) (text : Text) : Text :=
  'r' :: List.replicate count '#' ++ '"' :: (text ++ closing count)

theorem write_eq (text : Text) : write text = writeWith (fence text) text := by
  simp [write, writeWith, closing]

/-- At the place `i` behind what opens the literal, there is a quotation mark with as many number
signs behind it as the fence has. -/
def ClosesAt (count : Nat) (text : Text) (i : Nat) : Prop :=
  closing count <+: (text ++ closing count).drop i

theorem signs_append_quote (rest after : Text) : signs (rest ++ '"' :: after) = signs rest := by
  induction rest with
  | nil => simp [signs]
  | cons c rest ih =>
      by_cases hc : c = '#'
      · subst hc
        rw [List.cons_append, signs_cons, signs_cons, ih]
      · simp [signs, hc]

/-- A place in the text that looks like the end of the literal looks so without the end. -/
theorem closesAt_iff {count i : Nat} {text : Text} (hi : i < text.length) :
    ClosesAt count text i ↔ closing count <+: text.drop i := by
  rw [ClosesAt, List.drop_append_of_le_length hi.le]
  cases hdrop : text.drop i with
  | nil =>
      rw [List.drop_eq_nil_iff] at hdrop
      omega
  | cons c rest =>
      rw [List.cons_append, closing_isPrefix_cons, closing_isPrefix_cons]
      rw [closing, signs_append_quote]

theorem le_of_closesAt {count i : Nat} {text : Text} (h : ClosesAt count text i) :
    i ≤ text.length := by
  have hle := h.length_le
  simp only [closing, List.length_drop, List.length_append, List.length_cons,
    List.length_replicate] at hle
  omega

theorem closesAt_length (count : Nat) (text : Text) : ClosesAt count text text.length := by
  rw [ClosesAt, List.drop_left]

/-- With the fence of the text, its literal looks like ending at its end only. -/
theorem closesAt_fence_iff {text : Text} {i : Nat} :
    ClosesAt (fence text) text i ↔ i = text.length := by
  constructor
  · intro h
    by_contra hne
    have hi : i < text.length := by
      have hle := le_of_closesAt h
      omega
    have hinfix : closing (fence text) <:+: text :=
      ((closesAt_iff hi).mp h).isInfix.trans (List.drop_suffix i text).isInfix
    rw [closing_isInfix_iff (one_le_fence text), fence] at hinfix
    omega
  · rintro rfl
    exact closesAt_length _ text

/-! ## Shorter fences -/

theorem signs_le_append (rest after : Text) : signs rest ≤ signs (rest ++ after) := by
  have hsigns : List.replicate (signs rest) '#' <+: rest :=
    replicate_isPrefix_iff.mpr (Nat.le_refl _)
  exact replicate_isPrefix_iff.mp (hsigns.trans (List.prefix_append rest after))

/-- A fence that is too short closes the literal at a place in the text, before which nothing
does. -/
theorem exists_first_closing {count : Nat} (hpos : 1 ≤ count) {text : Text}
    (h : count < fence text) : ∃ before after, text = before ++ closing count ++ after ∧
      longestRun before < count := by
  rw [fence, Nat.lt_succ_iff] at h
  induction text with
  | nil =>
      rw [longestRun] at h
      omega
  | cons c rest ih =>
      by_cases hhere : closing count <+: c :: rest
      · obtain ⟨after, hafter⟩ := hhere
        exact ⟨[], after, hafter.symm, hpos⟩
      · have hlater : count ≤ longestRun rest :=
          ((le_longestRun_cons hpos).mp h).resolve_left hhere
        obtain ⟨before, after, rfl, hbefore⟩ := ih hlater
        refine ⟨c :: before, after, rfl, ?_⟩
        by_contra hlong
        rcases (le_longestRun_cons hpos).mp (Nat.le_of_not_lt hlong) with hclose | hinside
        · -- then it would have closed here
          rw [closing_isPrefix_cons] at hclose hhere
          refine hhere ⟨hclose.1, hclose.2.trans ?_⟩
          rw [List.append_assoc]
          exact signs_le_append before _
        · omega

/-- The first lexeme of a text is found whatever comes behind it. -/
theorem head?_of_lex? {text : Text} {mode : Mode} {first : Lexeme} {more lexemes : List Lexeme}
    (hfeed : feed .between text = (mode, first :: more)) (h : lex? text = some lexemes) :
    lexemes.head? = some first := by
  rw [lex?, hfeed] at h
  cases mode <;> simp only [reduceCtorEq, Option.some.injEq] at h <;> subst h <;> rfl

/-- With a fence of at least one sign, the literal is read as its text and no more if the fence is
long enough, and as something else otherwise. -/
theorem lex?_writeWith_iff {text : Text} (hreturn : '\r' ∉ text) {count : Nat}
    (hpos : 1 ≤ count) :
    lex? (writeWith count text) = some [.literal text] ↔ fence text ≤ count := by
  obtain ⟨less, rfl⟩ : ∃ less, count = less + 1 := ⟨count - 1, by omega⟩
  constructor
  · intro hlex
    by_contra hshort
    obtain ⟨before, after, htext, hbefore⟩ := exists_first_closing hpos (Nat.lt_of_not_le hshort)
    have hfree : '\r' ∉ before := by
      intro hmem
      exact hreturn (by simp [htext, hmem])
    have hfeed : feed .between (writeWith (less + 1) text) =
        ((feed .between (after ++ closing (less + 1))).1,
          .literal before :: (feed .between (after ++ closing (less + 1))).2) := by
      have hsplit : text ++ closing (less + 1) =
          (before ++ closing (less + 1)) ++ (after ++ closing (less + 1)) := by
        rw [htext]
        simp only [List.append_assoc]
      rw [writeWith, feed_opening, hsplit, feed_append, closing,
        (feed_rest before hfree hbefore []).1]
      rfl
    have hhead := head?_of_lex? hfeed hlex
    have hsame : text = before := by simpa using hhead
    have hlength := congrArg List.length htext
    simp only [List.length_append, closing, List.length_cons, ← hsame] at hlength
    omega
  · intro hlong
    have hrun : longestRun text < less + 1 := hlong
    refine Closed.lex?_eq ?_
    rw [Closed, writeWith, feed_opening, closing, (feed_rest text hreturn hrun []).1]
    rfl

/-- The fence of a text is found by trying, whatever the text, and a literal with this fence looks
like ending at its end only.  A shorter fence of at least one sign would close it inside the text.
So of the literals of a text without carriage returns, the one that is written is the first to be
read as the text, with nothing left over. -/
theorem fence_is_shortest (text : Text) :
    (search text 1 = fence text ∧ 1 ≤ fence text ∧
      write text = writeWith (fence text) text) ∧
    (∀ i, ClosesAt (fence text) text i ↔ i = text.length) ∧
    (∀ count, 1 ≤ count → count < fence text →
      ∃ i < text.length, closing count <+: text.drop i) ∧
    ('\r' ∉ text → ∀ count, 1 ≤ count →
      (lex? (writeWith count text) = some [.literal text] ↔ fence text ≤ count)) := by
  have hone := one_le_fence text
  refine ⟨⟨search_eq_fence (Nat.le_refl 1) hone, hone, write_eq text⟩,
    fun i => closesAt_fence_iff, fun count hpos hshort => ?_,
    fun hreturn count hpos => lex?_writeWith_iff hreturn hpos⟩
  obtain ⟨before, after, htext, -⟩ := exists_first_closing hpos hshort
  refine ⟨before.length, ?_, ?_⟩
  · have hlength := congrArg List.length htext
    simp only [List.length_append, closing, List.length_cons] at hlength
    omega
  · rw [htext, List.append_assoc, List.drop_left]
    exact List.prefix_append _ _

/-- A text that ends in quotation marks and number signs. -/
def quoteRuns : Text := ['s', 'a', 'y', '"', '#', '"', '#', '#']

/-- Three signs are needed for it, and with two the literal would be read as over too early. -/
theorem quoteRuns_needs_three : '\r' ∉ quoteRuns ∧ search quoteRuns 1 = 3 ∧
    lex? (write quoteRuns) = some [.literal quoteRuns] ∧
    lex? (writeWith 2 quoteRuns) ≠ some [.literal quoteRuns] := by
  have hfree : '\r' ∉ quoteRuns := by decide
  have hfence : fence quoteRuns = 3 := by decide
  obtain ⟨⟨hsearch, -, hwrite⟩, -, -, hlex⟩ := fence_is_shortest quoteRuns
  rw [hfence] at hsearch hwrite hlex
  refine ⟨hfree, hsearch, ?_, fun htwo => ?_⟩
  · rw [hwrite]
    exact (hlex hfree 3 (by decide)).mpr (Nat.le_refl 3)
  · exact absurd ((hlex hfree 2 (by decide)).mp htwo) (by decide)

end RawString
end LintScaffold
