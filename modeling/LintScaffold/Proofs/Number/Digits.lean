import LintScaffold.Json.Numeral
import Mathlib.Tactic.Ring

/-!
# Digits of numbers

The decimal digits of a natural number are digits, the first of them is no zero unless it is
the only one, and they write the number.  Zeros in front of digits change nothing, and zeros
behind them multiply by powers of ten.
-/

namespace LintScaffold

namespace Json

theorem natOfDigits_eq (digits : Text) : natOfDigits digits = Nat.ofDigitChars 10 digits 0 := by
  rw [natOfDigits, Text.ofDigits, List.foldl_map, Nat.ofDigitChars]
  congr 1
  funext total c
  rw [Nat.mul_comm]
  rfl

theorem natOfDigits_ofNat (n : Nat) : natOfDigits (Text.ofNat n) = n := by
  rw [natOfDigits_eq, Text.ofNat, Nat.toList_repr, Nat.ofDigitChars_ten_toDigits]

theorem natOfDigits_append_zeros (digits : Text) (count : Nat) :
    natOfDigits (digits ++ List.replicate count '0') = natOfDigits digits * 10 ^ count := by
  rw [natOfDigits_eq, natOfDigits_eq, Nat.ofDigitChars_append, Nat.ofDigitChars_replicate_zero,
    Nat.mul_comm]

theorem natOfDigits_zeros_append (count : Nat) (digits : Text) :
    natOfDigits (List.replicate count '0' ++ digits) = natOfDigits digits := by
  rw [natOfDigits_eq, natOfDigits_eq, Nat.ofDigitChars_append, Nat.ofDigitChars_replicate_zero,
    Nat.mul_zero]

/-- Digits are taken up to what is no digit. -/
theorem takeDigits_append {digits rest : Text}
    (hdigits : ∀ c ∈ digits, Text.isAsciiDigit c = true)
    (hrest : ∀ c ∈ rest.head?, Text.isAsciiDigit c = false) :
    takeDigits (digits ++ rest) = (digits, rest) := by
  have htake : rest.takeWhile Text.isAsciiDigit = [] := by
    cases rest with
    | nil => rfl
    | cons c later => rw [List.takeWhile_cons, hrest c rfl, if_neg Bool.false_ne_true]
  have hdrop : rest.dropWhile Text.isAsciiDigit = rest := by
    cases rest with
    | nil => rfl
    | cons c later => rw [List.dropWhile_cons, hrest c rfl, if_neg Bool.false_ne_true]
  rw [takeDigits, List.takeWhile_append_of_pos hdigits, List.dropWhile_append_of_pos hdigits,
    htake, hdrop, List.append_nil]

end Json

namespace Text

theorem isAsciiDigit_of_mem_ofNat {n : Nat} {c : Char} (h : c ∈ ofNat n) :
    isAsciiDigit c = true := by
  rw [ofNat, Nat.toList_repr] at h
  have hdigit := Nat.isDigit_of_mem_toDigits (by decide) (by decide) h
  simp only [Char.isDigit, Bool.and_eq_true, decide_eq_true_eq] at hdigit
  simp only [isAsciiDigit, Bool.and_eq_true, decide_eq_true_eq]
  exact hdigit

theorem isAsciiDigit_zeros (count : Nat) :
    ∀ c ∈ List.replicate count '0', isAsciiDigit c = true := by
  intro c hc
  obtain rfl := List.eq_of_mem_replicate hc
  decide

theorem ofNat_ne_nil (n : Nat) : ofNat n ≠ [] := by
  rw [ofNat, Nat.toList_repr]
  exact Nat.toDigits_ne_nil

/-- The first digit of a number is no zero. -/
theorem head_ofNat {n : Nat} (hn : n ≠ 0) : ∃ d rest, ofNat n = d :: rest ∧ d ≠ '0' := by
  rw [ofNat, Nat.toList_repr]
  induction n using Nat.strongRecOn with
  | ind n ih =>
      rw [Nat.toDigits_eq_if (by decide)]
      split
      · rename_i hsmall
        have hdigit : ∀ m < 10, m ≠ 0 → Nat.digitChar m ≠ '0' := by decide
        exact ⟨_, [], rfl, hdigit n hsmall hn⟩
      · obtain ⟨d, rest, hdigits, hd⟩ := ih (n / 10) (by omega) (by omega)
        exact ⟨d, rest ++ [Nat.digitChar (n % 10)], by rw [hdigits, List.cons_append], hd⟩

theorem lt_pow_length_ofNat (n : Nat) : n < 10 ^ (ofNat n).length := by
  have hpos : 0 < (ofNat n).length := List.length_pos_iff.mpr (ofNat_ne_nil n)
  rw [ofNat, Nat.toList_repr] at hpos ⊢
  exact (Nat.length_toDigits_le_iff (by decide) hpos).mp (Nat.le_refl _)

theorem pow_length_ofNat_le {n : Nat} (hn : n ≠ 0) : 10 ^ ((ofNat n).length - 1) ≤ n := by
  rw [ofNat, Nat.toList_repr]
  by_cases hone : (Nat.toDigits 10 n).length - 1 = 0
  · rw [hone]
    omega
  · by_contra hless
    have hlength := (Nat.length_toDigits_le_iff (by decide) (by omega)).mpr (Nat.not_le.mp hless)
    omega

end Text
end LintScaffold
