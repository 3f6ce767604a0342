import LintScaffold.Json
import LintScaffold.Proofs.Number.Nearest
import LintScaffold.Proofs.Rust.Lexer

/-!
# Numerals are read back

A numeral is written as a sign, a whole part, and perhaps a fraction and an exponent.  Read
as a scalar of JSON, the text gives the numeral again, and hence the number that it stands for.
Its characters are those of a word.
-/

namespace LintScaffold.Json

open Text (isAsciiDigit)

namespace Numeral

/-- The fraction as it is written. -/
def fractionText : Option Text → Text
  | none => []
  | some digits => '.' :: digits

/-- The exponent as it is written. -/
def exponentText : Option (Bool × Text) → Text
  | none => []
  | some (negative, digits) => 'e' :: (if negative then '-' else '+') :: digits

/-- The numeral as it is written. -/
def text (numeral : Numeral) : Text :=
  (if numeral.negative then ['-'] else []) ++ numeral.whole ++ fractionText numeral.fraction ++
    exponentText numeral.exponent

/-- The parts of the numeral are digits.  None of them is empty, and the whole part has no
superfluous zero. -/
structure IsProper (numeral : Numeral) : Prop where
  whole : numeral.whole = ['0'] ∨ ∃ d rest, numeral.whole = d :: rest ∧ d ≠ '0'
  wholeDigits : ∀ c ∈ numeral.whole, isAsciiDigit c = true
  fraction : ∀ digits ∈ numeral.fraction, digits ≠ [] ∧ ∀ c ∈ digits, isAsciiDigit c = true
  exponent : ∀ power ∈ numeral.exponent, power.2 ≠ [] ∧ ∀ c ∈ power.2, isAsciiDigit c = true

end Numeral

/-! ## Part by part -/

theorem takeExponent_exponentText {exponent : Option (Bool × Text)}
    (h : ∀ power ∈ exponent, power.2 ≠ [] ∧ ∀ c ∈ power.2, isAsciiDigit c = true) :
    takeExponent (Numeral.exponentText exponent) = (exponent, []) := by
  cases exponent with
  | none => rfl
  | some power =>
      obtain ⟨negative, digits⟩ := power
      obtain ⟨hne, hdigits⟩ := h (negative, digits) rfl
      have htaken : takeDigits (digits ++ []) = (digits, []) :=
        takeDigits_append hdigits (by simp)
      rw [List.append_nil] at htaken
      cases digits with
      | nil => exact absurd rfl hne
      | cons d rest =>
          cases negative with
          | false => simp [Numeral.exponentText, takeExponent, htaken]
          | true => simp [Numeral.exponentText, takeExponent, htaken]

theorem isAsciiDigit_head_exponentText (exponent : Option (Bool × Text)) :
    ∀ c ∈ (Numeral.exponentText exponent).head?, isAsciiDigit c = false := by
  cases exponent with
  | none => simp [Numeral.exponentText]
  | some power =>
      intro c hc
      obtain rfl : 'e' = c := by simpa [Numeral.exponentText] using hc
      decide

theorem takeFraction_fractionText {fraction : Option Text}
    (h : ∀ digits ∈ fraction, digits ≠ [] ∧ ∀ c ∈ digits, isAsciiDigit c = true)
    (exponent : Option (Bool × Text)) :
    takeFraction (Numeral.fractionText fraction ++ Numeral.exponentText exponent) =
      (fraction, Numeral.exponentText exponent) := by
  cases fraction with
  | none =>
      cases exponent with
      | none => rfl
      | some power => rfl
  | some digits =>
      obtain ⟨hne, hdigits⟩ := h digits rfl
      have htaken := takeDigits_append hdigits (isAsciiDigit_head_exponentText exponent)
      rw [Numeral.fractionText, List.cons_append, takeFraction, htaken]
      cases digits with
      | nil => exact absurd rfl hne
      | cons d rest => rfl

theorem takeWhole?_append {whole rest : Text}
    (hwhole : whole = ['0'] ∨ ∃ d later, whole = d :: later ∧ d ≠ '0')
    (hdigits : ∀ c ∈ whole, isAsciiDigit c = true)
    (hrest : ∀ c ∈ rest.head?, isAsciiDigit c = false) :
    takeWhole? (whole ++ rest) = some (whole, rest) := by
  rcases hwhole with rfl | ⟨d, later, rfl, hd⟩
  · rfl
  · have htaken := takeDigits_append hdigits hrest
    unfold takeWhole?
    split
    · rename_i hzero
      rw [List.cons_append, List.cons.injEq] at hzero
      exact absurd hzero.1 hd
    · rename_i hother
      rw [List.cons_append, List.cons.injEq] at hother
      rw [← hother.1, if_pos (hdigits d (by simp)), htaken]
    · rename_i hnil
      simp at hnil

/-! ## The whole numeral -/

/-- A numeral is read as it was written. -/
theorem takeNumeral?_text {numeral : Numeral} (h : numeral.IsProper) :
    takeNumeral? numeral.text = some (numeral, []) := by
  obtain ⟨negative, whole, fraction, exponent⟩ := numeral
  obtain ⟨hwhole, hdigits, hfraction, hexponent⟩ := h
  dsimp only at hwhole hdigits hfraction hexponent
  have hhead : ∀ c ∈ (Numeral.fractionText fraction ++ Numeral.exponentText exponent).head?,
      isAsciiDigit c = false := by
    cases fraction with
    | none => exact isAsciiDigit_head_exponentText exponent
    | some digits =>
        intro c hc
        obtain rfl : '.' = c := by simpa [Numeral.fractionText] using hc
        decide
  have htaken := takeWhole?_append hwhole hdigits hhead
  cases whole with
  | nil => simp at hwhole
  | cons d later =>
      have hd : d ≠ '-' := by
        rintro rfl
        exact absurd (hdigits '-' (by simp)) (by decide)
      rw [List.cons_append] at htaken
      unfold takeNumeral? Numeral.text
      cases negative with
      | true =>
          simp [htaken, takeFraction_fractionText hfraction, takeExponent_exponentText hexponent]
      | false =>
          simp [hd, htaken, takeFraction_fractionText hfraction,
            takeExponent_exponentText hexponent]

/-- The text begins with a digit, perhaps behind a sign. -/
theorem text_eq_cons {numeral : Numeral} (h : numeral.IsProper) :
    ∃ d rest, isAsciiDigit d = true ∧
      numeral.text = (if numeral.negative then ['-'] else []) ++ d :: rest := by
  obtain ⟨d, later, hwhole⟩ : ∃ d later, numeral.whole = d :: later := by
    rcases h.whole with hzero | ⟨d, later, hwhole, -⟩
    · exact ⟨'0', [], hzero⟩
    · exact ⟨d, later, hwhole⟩
  refine ⟨d, later ++ Numeral.fractionText numeral.fraction ++
    Numeral.exponentText numeral.exponent, h.wholeDigits d (by simp [hwhole]), ?_⟩
  rw [Numeral.text, hwhole]
  simp

/-- A numeral is no word, and so it is read as a number. -/
theorem readScalar_text {numeral : Numeral} (h : numeral.IsProper) (lenient : Bool) :
    readScalar lenient numeral.text = numeral.value.map fun d => (d, []) := by
  have htaken := takeNumeral?_text h
  obtain ⟨d, rest, hd, htext⟩ := text_eq_cons h
  have hother : d ≠ 'n' ∧ d ≠ 't' ∧ d ≠ 'f' ∧ d ≠ 'N' ∧ d ≠ 'I' ∧ d ≠ '-' := by
    refine ⟨?_, ?_, ?_, ?_, ?_, ?_⟩ <;>
      · rintro rfl
        exact absurd hd (by decide)
  obtain ⟨hn, ht, hf, hN, hI, hminus⟩ := hother
  -- none of the words is at the start of the text
  have hwords : ∀ entry ∈ words, Text.dropStart? entry.1.toList numeral.text = none := by
    rw [htext]
    cases numeral.negative <;>
      simp [words, Text.dropStart?, hn.symm, ht.symm, hf.symm]
  have hspecial : ∀ entry ∈ notFiniteWords,
      Text.dropStart? entry.1.toList numeral.text = none := by
    rw [htext]
    cases numeral.negative <;>
      simp [notFiniteWords, Text.dropStart?, hN.symm, hI.symm, hminus.symm]
  unfold readScalar
  rw [List.findSome?_eq_none_iff.mpr fun entry hentry =>
    Option.map_eq_none_iff.mpr (hwords entry hentry)]
  dsimp only
  rw [List.findSome?_eq_none_iff.mpr fun entry hentry =>
    Option.map_eq_none_iff.mpr (hspecial entry hentry)]
  dsimp only
  rw [htaken]
  dsimp only
  cases numeral.value <;> rfl

theorem isWordChar_of_isAsciiDigit {c : Char} (h : isAsciiDigit c = true) :
    Rust.isWordChar c = true := by
  simp [Rust.isWordChar, h]

/-- A numeral has the characters of a word. -/
theorem isWordChar_text {numeral : Numeral} (h : numeral.IsProper) :
    ∀ c ∈ numeral.text, Rust.isWordChar c = true := by
  intro c hc
  simp only [Numeral.text, List.mem_append] at hc
  rcases hc with ((hc | hc) | hc) | hc
  · split at hc
    · obtain rfl : c = '-' := by simpa using hc
      decide
    · simp at hc
  · exact isWordChar_of_isAsciiDigit (h.wholeDigits c hc)
  · cases hfraction : numeral.fraction with
    | none => simp [hfraction, Numeral.fractionText] at hc
    | some digits =>
        rw [hfraction, Numeral.fractionText, List.mem_cons] at hc
        rcases hc with rfl | hc
        · decide
        · exact isWordChar_of_isAsciiDigit ((h.fraction digits hfraction).2 c hc)
  · cases hexponent : numeral.exponent with
    | none => simp [hexponent, Numeral.exponentText] at hc
    | some power =>
        rw [hexponent, Numeral.exponentText, List.mem_cons, List.mem_cons] at hc
        rcases hc with rfl | rfl | hc
        · decide
        · cases power.1 <;> decide
        · exact isWordChar_of_isAsciiDigit ((h.exponent power hexponent).2 c hc)

/-! ## Whole numbers -/

/-- The numeral of a whole number. -/
def Numeral.ofInt (n : Int) : Numeral := ⟨decide (n < 0), Text.ofNat n.natAbs, none, none⟩

theorem isProper_ofInt (n : Int) : (Numeral.ofInt n).IsProper where
  whole := by
    by_cases hn : n.natAbs = 0
    · exact .inl (by rw [Numeral.ofInt, hn]; rfl)
    · exact .inr (Text.head_ofNat hn)
  wholeDigits := fun _ => Text.isAsciiDigit_of_mem_ofNat
  fraction := by simp [Numeral.ofInt]
  exponent := by simp [Numeral.ofInt]

theorem text_ofInt (n : Int) : (Numeral.ofInt n).text = Text.ofInt n := by
  cases n with
  | ofNat n => simp [Numeral.ofInt, Numeral.text, Numeral.fractionText, Numeral.exponentText,
      Text.ofInt]
  | negSucc n => simp [Numeral.ofInt, Numeral.text, Numeral.fractionText, Numeral.exponentText,
      Text.ofInt]

theorem value_ofInt {n : Int} (hlong : isTooLong n = false) :
    (Numeral.ofInt n).value = .ok (.int n) := by
  have hshort : ¬ maxDigits < (Text.ofNat n.natAbs).length := by simpa [isTooLong] using hlong
  unfold Numeral.value Numeral.ofInt
  dsimp only
  rw [if_neg hshort, natOfDigits_ofNat]
  congr 2
  by_cases hn : n < 0
  · simp only [hn, decide_true, if_true, Int.ofNat_eq_natCast]
    omega
  · simp only [hn, decide_false, Bool.false_eq_true, if_false, Int.ofNat_eq_natCast]
    omega

/-! ## Doubles -/

/-- The power of ten that an exponent stands for. -/
def Numeral.powerOf : Option (Bool × Text) → Int
  | none => 0
  | some (true, digits) => -(Int.ofNat (natOfDigits digits))
  | some (false, digits) => Int.ofNat (natOfDigits digits)

/-- The numeral is a double, and its magnitude has the given rank. -/
structure Numeral.HasRank (numeral : Numeral) (rank : Nat) : Prop where
  isDouble : numeral.fraction ≠ none ∨ numeral.exponent ≠ none
  rank_eq : Binary64.decimalRank (natOfDigits (numeral.whole ++ numeral.fraction.getD []))
    (powerOf numeral.exponent - Int.ofNat (numeral.fraction.getD []).length) = rank

theorem value_of_hasRank {numeral : Numeral} {rank : Nat} (h : numeral.HasRank rank) :
    numeral.value = .ok (.float (Binary64.ofRank numeral.negative rank)) := by
  obtain ⟨negative, whole, fraction, exponent⟩ := numeral
  obtain ⟨hdouble, hrank⟩ := h
  rw [← hrank, ← Binary64.ofDecimal_eq]
  unfold Numeral.value
  split
  · rename_i hfraction hexponent
    simp_all
  · cases exponent with
    | none => rfl
    | some power =>
        obtain ⟨isNegative, digits⟩ := power
        cases isNegative <;> rfl

end LintScaffold.Json
