import LintScaffold.Proofs.Rule.Factors
import LintScaffold.Proofs.Rule.ModuleName

/-!
# Words in ASCII

In a name whose letters and digits are ASCII, every character has one small and one capital form.
So a word is a first character and a tail: in lower case and capitalised it has the same tail, of
small letters and digits, and the first character is small in the one and a capital in the other,
unless it is a digit (`TwoForms`).  The capitalised word has the same two forms again.

What stands between the words does not matter, and can be anything (`HasAsciiWords`).
-/

namespace LintScaffold

/-! ## Letters and digits -/

namespace Text

/-- The letter or digit `c` is `low` in lower case and `up` in upper case, and so are these two
forms themselves. -/
structure HasCases (c low up : Char) : Prop where
  lower : lowerChar c = [low]
  upper : upperChar c = [up]
  lower_up : lowerChar up = [low]
  upper_up : upperChar up = [up]
  lower_low : lowerChar low = [low]
  ascii : c.toNat < 128 ∧ up.toNat < 128
  kind : isAsciiLetter c = true ∧ Words.isSmall low = true ∧ Words.isCapital up = true ∨
    isAsciiDigit c = true ∧ low = c ∧ up = c

theorem exists_hasCases {c : Char} (hc : c.toNat < 128) (hword : isAlphanumeric c = true) :
    ∃ low up, HasCases c low up := by
  obtain ⟨hlow, hup, hsame, hkind⟩ := forall_char_lt (P := fun c => isAlphanumeric c = true →
    (c.toLower.toNat < 128 ∧ c.toLower.toLower = c.toLower) ∧
      (c.toUpper.toNat < 128 ∧ c.toUpper.toUpper = c.toUpper) ∧ c.toUpper.toLower = c.toLower ∧
      (isAsciiLetter c = true ∧ Words.isSmall c.toLower = true ∧
          Words.isCapital c.toUpper = true ∨
        isAsciiDigit c = true ∧ c.toLower = c ∧ c.toUpper = c)) (by decide +kernel) hc hword
  have hcaseLow := case_of_ascii hlow.1
  have hcaseUp := case_of_ascii hup.1
  rw [hlow.2] at hcaseLow
  rw [hup.2, hsame] at hcaseUp
  exact ⟨c.toLower, c.toUpper, (case_of_ascii hc).2, (case_of_ascii hc).1, hcaseUp.2, hcaseUp.1,
    hcaseLow.2, ⟨hc, hup.1⟩, hkind⟩

theorem ne_sigma_of_ascii {c : Char} (hc : c.toNat < 128) : c ≠ 'Σ' := by
  rintro rfl
  exact absurd hc (by decide)

end Text

namespace Words

open Text (isAlphanumeric isAsciiLetter isAsciiDigit IsAscii HasCases)
open RuleName (isPlain)

/-! ## The two forms of a word -/

/-- The word is `low` and the tail in lower case, and `up` and the tail if it is capitalised.  The
capitalised form has the same two forms. -/
structure TwoForms (word : Text) (low up : Char) (tail : Text) : Prop where
  lower : Text.lower word = low :: tail
  capitalized : capitalize word = up :: tail
  lower_again : Text.lower (up :: tail) = low :: tail
  capitalized_again : capitalize (up :: tail) = up :: tail
  first : isSmall low = true ∧ isCapital up = true ∨ isAsciiDigit low = true ∧ up = low
  plain : ∀ d ∈ tail, isPlain d = true

theorem isAsciiLetter_of_isCapital {c : Char} (h : isCapital c = true) :
    isAsciiLetter c = true := by
  rw [isCapital] at h
  rw [isAsciiLetter, h, Bool.or_true]

theorem letter_or_digit_of_isPlain {d : Char} (h : isPlain d = true) :
    (isAsciiLetter d || isAsciiDigit d) = true := by
  rw [isPlain, Bool.or_eq_true] at h
  rw [Bool.or_eq_true]
  exact h.imp isAsciiLetter_of_isSmall id

/-- The capitalised form of a word is in letters and digits. -/
theorem TwoForms.letter_or_digit {word : Text} {low up : Char} {tail : Text}
    (h : TwoForms word low up tail) :
    ∀ d ∈ up :: tail, (isAsciiLetter d || isAsciiDigit d) = true := by
  refine List.forall_mem_cons.mpr ⟨?_, fun d hd => letter_or_digit_of_isPlain (h.plain d hd)⟩
  rcases h.first with ⟨-, hcapital⟩ | ⟨hdigit, rfl⟩
  · rw [isAsciiLetter_of_isCapital hcapital, Bool.true_or]
  · rw [hdigit, Bool.or_true]

theorem isPlain_of_hasCases {c low up : Char} (h : HasCases c low up) : isPlain low = true := by
  rcases h.kind with ⟨-, hsmall, -⟩ | ⟨hdigit, rfl, -⟩
  · rw [isPlain, hsmall, Bool.true_or]
  · rw [isPlain, hdigit, Bool.or_true]

/-- Letters and digits in ASCII become small letters and digits, which stay as they are. -/
theorem lowerAfter_spec {text : Text} (hascii : IsAscii text)
    (hword : ∀ c ∈ text, isAlphanumeric c = true) : ∃ tail, (∀ d ∈ tail, isPlain d = true) ∧
      ∀ cased, Text.lowerAfter cased text = tail ∧ Text.lowerAfter cased tail = tail := by
  induction text with
  | nil => exact ⟨[], by simp, fun cased => ⟨rfl, rfl⟩⟩
  | cons c rest ih =>
      obtain ⟨hc, hrest⟩ := List.forall_mem_cons.mp hascii
      obtain ⟨hcWord, hrestWord⟩ := List.forall_mem_cons.mp hword
      obtain ⟨tail, hplain, hlower⟩ := ih hrest hrestWord
      obtain ⟨low, up, hcases⟩ := Text.exists_hasCases hc hcWord
      have hlow := isPlain_of_hasCases hcases
      have hlowAscii := RuleName.toNat_lt_of_isPlain hlow
      refine ⟨low :: tail, List.forall_mem_cons.mpr ⟨hlow, hplain⟩, fun cased => ⟨?_, ?_⟩⟩
      · obtain ⟨next, hnext⟩ := Text.lowerAfter_cons (Text.ne_sigma_of_ascii hc) cased rest
        rw [hnext, hcases.lower, (hlower next).1, List.singleton_append]
      · obtain ⟨next, hnext⟩ := Text.lowerAfter_cons (Text.ne_sigma_of_ascii hlowAscii) cased tail
        rw [hnext, hcases.lower_low, (hlower next).2, List.singleton_append]

theorem exists_twoForms {word : Text} (hword : IsWord word) (hascii : IsAscii word) :
    ∃ low up tail, TwoForms word low up tail := by
  cases word with
  | nil => exact absurd rfl hword.ne_nil
  | cons c rest =>
      obtain ⟨hc, hrest⟩ := List.forall_mem_cons.mp hascii
      obtain ⟨hcWord, hrestWord⟩ := List.forall_mem_cons.mp hword.alphanumeric
      obtain ⟨tail, hplain, hlower⟩ := lowerAfter_spec hrest hrestWord
      obtain ⟨low, up, hcases⟩ := Text.exists_hasCases hc hcWord
      refine ⟨low, up, tail, ?_, ?_, ?_, ?_, ?_, hplain⟩
      · obtain ⟨next, hnext⟩ := Text.lowerAfter_cons (Text.ne_sigma_of_ascii hc) false rest
        rw [Text.lower, hnext, hcases.lower, (hlower next).1, List.singleton_append]
      · rw [capitalize, hcases.upper, Text.lower, (hlower false).1, List.singleton_append]
      · have hup := Text.ne_sigma_of_ascii hcases.ascii.2
        obtain ⟨next, hnext⟩ := Text.lowerAfter_cons hup false tail
        rw [Text.lower, hnext, hcases.lower_up, (hlower next).2, List.singleton_append]
      · rw [capitalize, hcases.upper_up, Text.lower, (hlower false).2, List.singleton_append]
      · rcases hcases.kind with ⟨-, hsmall, hcapital⟩ | ⟨hdigit, rfl, rfl⟩
        · exact .inl ⟨hsmall, hcapital⟩
        · exact .inr ⟨hdigit, rfl⟩

/-! ## The words of a name -/

/-- The letters and digits of the text are ASCII.  What stands between its words can be
anything. -/
def HasAsciiWords (text : Text) : Prop :=
  ∀ c ∈ text, isAlphanumeric c = true → c.toNat < 128

instance (text : Text) : Decidable (HasAsciiWords text) :=
  -- not by going through all characters that there are
  List.decidableBAll (fun c => isAlphanumeric c = true → c.toNat < 128) text

theorem isAscii_of_mem_split {text word : Text} (h : HasAsciiWords text)
    (hword : word ∈ split text) : IsAscii word := by
  intro c hc
  have hmem : c ∈ (split text).flatten := List.mem_flatten.mpr ⟨word, hword, hc⟩
  rw [flatten_split, List.mem_filter] at hmem
  exact h c hmem.1 hmem.2

theorem HasAsciiWords.exists_twoForms {text word : Text} (h : HasAsciiWords text)
    (hword : word ∈ split text) : ∃ low up tail, TwoForms word low up tail :=
  Words.exists_twoForms (isWord_of_mem_split hword) (isAscii_of_mem_split h hword)

end Words
end LintScaffold
