import LintScaffold.Number.Binary64
import LintScaffold.Proofs.Number.Digits
import Mathlib.Data.Nat.Log
import Mathlib.Tactic.Ring

/-!
# The nearest double

Rounding depends on the value of a quotient only, so that a power of ten can be moved between
the digits and the exponent of a decimal number.  The value of a double is rounded to the
double itself.  And the shortcut for exponents far outside the range of doubles makes no
difference: numbers so large are rounded to infinity, and numbers so small to zero.
-/

namespace LintScaffold.Binary64

/-! ## Quotients -/

theorem roundHalfEven_mul (num den : Nat) {k : Nat} (hk : 0 < k) :
    roundHalfEven (num * k) (den * k) = roundHalfEven num den := by
  have hless : 2 * (num % den * k) < den * k ↔ 2 * (num % den) < den := by
    rw [← Nat.mul_assoc, Nat.mul_lt_mul_right hk]
  have hgreater : den * k < 2 * (num % den * k) ↔ den < 2 * (num % den) := by
    rw [← Nat.mul_assoc, Nat.mul_lt_mul_right hk]
  simp only [roundHalfEven, Nat.mul_div_mul_right _ _ hk, Nat.mul_mod_mul_right, hless, hgreater]

theorem roundHalfEven_of_dvd (n : Nat) {den : Nat} (hden : 0 < den) :
    roundHalfEven (n * den) den = n := by
  rw [roundHalfEven, Nat.mul_mod_left, Nat.mul_div_left n hden, if_pos (by omega)]

/-- Rounding goes to one of the two neighbours. -/
theorem roundHalfEven_eq_or (num den : Nat) :
    roundHalfEven num den = num / den ∨ roundHalfEven num den = num / den + 1 := by
  unfold roundHalfEven
  dsimp only
  split_ifs
  · exact .inl rfl
  · exact .inr rfl
  · omega

theorem nearestRank_mul (num den : Nat) {k : Nat} (hk : 0 < k) :
    nearestRank (num * k) (den * k) = nearestRank num den := by
  simp only [nearestRank, Nat.mul_div_mul_right _ _ hk, Nat.mul_right_comm den k,
    roundHalfEven_mul _ _ hk]

/-! ## Values of doubles -/

theorem log2_binade_mul {n : Nat} (hlow : binade ≤ n) (hhigh : n < 2 * binade) (shift : Nat) :
    Nat.log2 (n * 2 ^ shift) = 52 + shift := by
  have hbinade : binade = 2 ^ 52 := by decide
  have hn : 0 < n := Nat.lt_of_lt_of_le (by decide) hlow
  have hpos : n * 2 ^ shift ≠ 0 := Nat.ne_of_gt (Nat.mul_pos hn (Nat.two_pow_pos _))
  rw [Nat.log2_eq_iff hpos]
  refine ⟨?_, ?_⟩
  · rw [Nat.pow_add, ← hbinade]
    exact Nat.mul_le_mul_right _ hlow
  · rw [Nat.pow_succ, Nat.pow_add, ← hbinade]
    calc n * 2 ^ shift < 2 * binade * 2 ^ shift :=
          Nat.mul_lt_mul_of_pos_right hhigh (Nat.two_pow_pos _)
      _ = binade * 2 ^ shift * 2 := by ring

/-- The value of a double is rounded to the double itself. -/
theorem nearestRank_unitsOf (rank : Nat) : nearestRank (unitsOf rank) 1 = rank := by
  have hbinade : 0 < binade := by decide
  unfold nearestRank unitsOf
  dsimp only
  rw [Nat.div_one, Nat.one_mul]
  split
  · rename_i hsmall
    have hshift : Nat.log2 rank - 52 = 0 := by
      by_cases hzero : rank = 0
      · subst hzero
        decide
      · have hlog : Nat.log2 rank < 53 := (Nat.log2_lt hzero).mpr hsmall
        omega
    rw [hshift, Nat.zero_mul, Nat.zero_add]
    simpa using roundHalfEven_of_dvd rank Nat.one_pos
  · -- a normal double: its units are a number of 53 bits and then zeros
    rename_i hlarge
    have hmod := Nat.mod_lt rank hbinade
    have hdiv : 2 ≤ rank / binade := (Nat.le_div_iff_mul_le hbinade).mpr (by omega)
    have hlog : Nat.log2 ((rank % binade + binade) * 2 ^ (rank / binade - 1)) =
        52 + (rank / binade - 1) := log2_binade_mul (by omega) (by omega) _
    have hshift : Nat.log2 ((rank % binade + binade) * 2 ^ (rank / binade - 1)) - 52 =
        rank / binade - 1 := by omega
    rw [Nat.pow_eq, hshift, Nat.pow_eq, roundHalfEven_of_dvd _ (Nat.two_pow_pos _)]
    have hparts := Nat.div_add_mod rank binade
    obtain ⟨count, hcount⟩ : ∃ count, rank / binade = count + 1 := ⟨rank / binade - 1, by omega⟩
    rw [hcount] at hparts ⊢
    rw [Nat.add_sub_cancel]
    calc count * binade + (rank % binade + binade) = binade * (count + 1) + rank % binade := by
          ring
      _ = rank := hparts

/-! ## Decimal numbers -/

/-- A power of ten can be moved from the digits to the exponent. -/
theorem decimalRank_mul_pow (digits k : Nat) (exponent : Int) :
    decimalRank (digits * 10 ^ k) exponent = decimalRank digits (exponent + k) := by
  have hten : ∀ n, 0 < 10 ^ n := fun n => Nat.pow_pos (by decide)
  unfold decimalRank
  -- the unit is a number of many digits, and what it is does not matter here
  generalize scale = unit
  cases exponent with
  | ofNat n =>
      have hsum : Int.ofNat n + k = Int.ofNat (n + k) := rfl
      rw [hsum]
      simp only [Nat.pow_eq]
      rw [Nat.mul_assoc digits, ← Nat.pow_add, Nat.add_comm k]
  | negSucc n =>
      -- the power of ten either cancels the whole denominator or only a part of it
      by_cases hk : n + 1 ≤ k
      · obtain ⟨more, rfl⟩ := Nat.exists_eq_add_of_le hk
        have hsum : Int.negSucc n + ((n + 1 + more : Nat) : Int) = Int.ofNat more := by
          rw [Int.negSucc_eq]
          simp only [Int.ofNat_eq_natCast]
          omega
        have hdigits : digits * 10 ^ (n + 1 + more) * unit =
            digits * 10 ^ more * unit * 10 ^ (n + 1) := by
          rw [Nat.pow_add]
          ring
        have hscaled := nearestRank_mul (digits * 10 ^ more * unit) 1 (hten (n + 1))
        rw [Nat.one_mul] at hscaled
        rw [hsum]
        simp only [Nat.pow_eq]
        rw [hdigits, hscaled]
      · obtain ⟨more, rfl⟩ : ∃ more, n = more + k := ⟨n - k, by omega⟩
        have hsum : Int.negSucc (more + k) + (k : Int) = Int.negSucc more := by
          rw [Int.negSucc_eq, Int.negSucc_eq]
          omega
        have hdigits : digits * 10 ^ k * unit = digits * unit * 10 ^ k := by ring
        have hpower : 10 ^ (more + k + 1) = 10 ^ (more + 1) * 10 ^ k := by ring
        rw [hsum]
        simp only [Nat.pow_eq]
        rw [hdigits, hpower, nearestRank_mul _ _ (hten k)]

/-! ## Exponents far outside the range -/

theorem ofRank_eq_infinite (negative : Bool) {rank : Nat} (h : ranks ≤ rank) :
    ofRank negative rank = .infinite negative := by
  rw [ofRank, if_neg (Nat.not_lt.mpr h)]

/-- A quotient beyond all doubles has a rank beyond their ranks. -/
theorem ranks_le_nearestRank {num den power : Nat} (hden : 0 < den) (hpower : 2098 ≤ power)
    (h : den * 2 ^ power ≤ num) : ranks ≤ nearestRank num den := by
  have hwhole : 2 ^ power ≤ num / den :=
    (Nat.le_div_iff_mul_le hden).mpr (by rwa [Nat.mul_comm] at h)
  generalize hshift : Nat.log2 (num / den) - 52 = shift
  have hne : num / den ≠ 0 := by
    have : 0 < 2 ^ power := Nat.two_pow_pos _
    omega
  have hlog : power ≤ Nat.log2 (num / den) := (Nat.le_log2 hne).mpr hwhole
  have hlow : 2 ^ (shift + 52) ≤ num / den := by
    have hself := Nat.log2_self_le hne
    rwa [show Nat.log2 (num / den) = shift + 52 by omega] at hself
  have hquotient : binade ≤ num / (den * 2 ^ shift) := by
    rw [← Nat.div_div_eq_div_mul, Nat.le_div_iff_mul_le (Nat.two_pow_pos _)]
    rwa [Nat.pow_add, Nat.mul_comm] at hlow
  have hround : num / (den * 2 ^ shift) ≤ roundHalfEven num (den * 2 ^ shift) := by
    rcases roundHalfEven_eq_or num (den * 2 ^ shift) with h | h <;> omega
  have hcount : 2046 * binade ≤ shift * binade := Nat.mul_le_mul_right _ (by omega)
  unfold nearestRank
  dsimp only
  rw [hshift, Nat.pow_eq, ranks]
  omega

/-- A quotient below half of the least double has the rank of zero. -/
theorem nearestRank_eq_zero {num den : Nat} (h : 2 * num < den) : nearestRank num den = 0 := by
  have hless : num < den := by omega
  unfold nearestRank roundHalfEven
  dsimp only
  rw [Nat.div_eq_of_lt hless]
  simp [Nat.mod_eq_of_lt hless, Nat.div_eq_of_lt hless, h]

theorem ranks_le_decimalRank {digits : Nat} (hdigits : digits ≠ 0) {exponent : Int}
    (hlarge : 400 < exponent + Int.ofNat (Text.ofNat digits).length) :
    ranks ≤ decimalRank digits exponent := by
  obtain ⟨power, hpower, hscale⟩ : ∃ power, 2098 ≤ power ∧ 2 ^ power ≤ 10 ^ 400 * scale := by
    have hten : 2 ^ 1024 ≤ 10 ^ 400 := by decide +kernel
    refine ⟨1024 + 1074, by decide, ?_⟩
    rw [Nat.pow_add]
    exact Nat.mul_le_mul hten (Nat.le_of_eq (Nat.pow_eq ..).symm)
  have hleast := Text.pow_length_ofNat_le hdigits
  unfold decimalRank
  generalize (Text.ofNat digits).length = count at hlarge hleast
  generalize scale = unit at hscale ⊢
  cases exponent with
  | ofNat n =>
      simp only [Nat.pow_eq, Int.ofNat_eq_natCast] at hlarge ⊢
      refine ranks_le_nearestRank Nat.one_pos hpower ?_
      have hdecimal : 10 ^ 400 ≤ digits * 10 ^ n :=
        calc 10 ^ 400 ≤ 10 ^ (count - 1 + n) := Nat.pow_le_pow_right (by decide) (by omega)
          _ = 10 ^ (count - 1) * 10 ^ n := Nat.pow_add ..
          _ ≤ digits * 10 ^ n := Nat.mul_le_mul_right _ hleast
      rw [Nat.one_mul]
      exact hscale.trans (Nat.mul_le_mul_right unit hdecimal)
  | negSucc n =>
      simp only [Nat.pow_eq, Int.negSucc_eq, Int.ofNat_eq_natCast] at hlarge ⊢
      refine ranks_le_nearestRank (Nat.pow_pos (by decide)) hpower ?_
      have hdecimal : 10 ^ (n + 1) * 10 ^ 400 ≤ digits :=
        calc 10 ^ (n + 1) * 10 ^ 400 = 10 ^ (n + 1 + 400) := (Nat.pow_add ..).symm
          _ ≤ 10 ^ (count - 1) := Nat.pow_le_pow_right (by decide) (by omega)
          _ ≤ digits := hleast
      calc 10 ^ (n + 1) * 2 ^ power ≤ 10 ^ (n + 1) * (10 ^ 400 * unit) :=
            Nat.mul_le_mul_left _ hscale
        _ = 10 ^ (n + 1) * 10 ^ 400 * unit := (Nat.mul_assoc ..).symm
        _ ≤ digits * unit := Nat.mul_le_mul_right unit hdecimal

theorem decimalRank_eq_zero {digits : Nat} {exponent : Int}
    (hsmall : exponent + Int.ofNat (Text.ofNat digits).length < Int.negSucc 399) :
    decimalRank digits exponent = 0 := by
  obtain ⟨places, hplaces, hscale⟩ : ∃ places, places ≤ 400 ∧ 2 * scale ≤ 10 ^ places :=
    ⟨400, by decide, by decide +kernel⟩
  have hless := Text.lt_pow_length_ofNat digits
  unfold decimalRank
  generalize (Text.ofNat digits).length = count at hsmall hless
  generalize scale = unit at hscale ⊢
  cases exponent with
  | ofNat n =>
      simp only [Int.negSucc_eq, Int.ofNat_eq_natCast] at hsmall
      omega
  | negSucc n =>
      simp only [Int.negSucc_eq, Int.ofNat_eq_natCast] at hsmall
      refine nearestRank_eq_zero ?_
      calc 2 * (digits * unit) = digits * (2 * unit) := by ring
        _ ≤ digits * 10 ^ places := Nat.mul_le_mul_left _ hscale
        _ < 10 ^ count * 10 ^ places :=
            Nat.mul_lt_mul_of_pos_right hless (Nat.pow_pos (by decide))
        _ = 10 ^ (count + places) := (Nat.pow_add ..).symm
        _ ≤ 10 ^ (n + 1) := Nat.pow_le_pow_right (by decide) (by omega)

theorem decimalRank_zero (exponent : Int) : decimalRank 0 exponent = 0 := by
  unfold decimalRank
  split
  · exact nearestRank_eq_zero (by simp)
  · exact nearestRank_eq_zero (by simp)

/-- The shortcut for large and small numbers makes no difference. -/
theorem ofDecimal_eq (negative : Bool) (digits : Nat) (exponent : Int) :
    ofDecimal negative digits exponent = ofRank negative (decimalRank digits exponent) := by
  unfold ofDecimal
  dsimp only
  split_ifs with hzero hlarge hsmall
  · subst hzero
    rw [decimalRank_zero]
    rfl
  · rw [ofRank_eq_infinite negative (ranks_le_decimalRank hzero hlarge)]
  · rw [decimalRank_eq_zero hsmall]
    rfl
  · rfl

end LintScaffold.Binary64
