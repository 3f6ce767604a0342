import LintScaffold.Number.Arithmetic
import LintScaffold.Proofs.Number.Nearest

/-!
# Rounding and order

Rounding never changes the order of two quotients (`nearestRank_mono`).  Together with the fact
that the value of a double is rounded to itself, this is all that is needed in order to compare a
rounded quotient with a double: it is on the same side of it as the quotient itself
(`rounded_le`, `le_rounded`).  Doubles are at hand in great numbers, since every number of 53 bits
times a power of two is one (`isUnits_mul_pow`).
-/

namespace LintScaffold.Binary64

/-! ## Order of ranks -/

theorem roundHalfEven_mono_left {num num' : Nat} (den : Nat) (h : num ≤ num') :
    roundHalfEven num den ≤ roundHalfEven num' den := by
  have hwhole := Nat.div_le_div_right (c := den) h
  rcases Nat.lt_or_eq_of_le hwhole with hless | hsame
  · -- the greater quotient is at least the upper neighbour of the other one
    rcases roundHalfEven_eq_or num den with hlow | hlow <;>
      rcases roundHalfEven_eq_or num' den with hhigh | hhigh <;> omega
  · have hnum := Nat.div_add_mod num den
    have hnum' := Nat.div_add_mod num' den
    rw [← hsame] at hnum'
    unfold roundHalfEven
    dsimp only
    rw [← hsame]
    split_ifs <;> omega

/-- The ranks of a binade begin where its shift says. -/
theorem nearestRank_bounds (num den : Nat) :
    nearestRank num den ≤ (Nat.log2 (num / den) - 52) * binade + 2 * binade ∧
      (52 < Nat.log2 (num / den) →
        (Nat.log2 (num / den) - 52) * binade + binade ≤ nearestRank num den) := by
  generalize hshift : Nat.log2 (num / den) - 52 = shift
  have hbinade : binade = 2 ^ 52 := by decide
  have hquotient : num / (den * 2 ^ shift) = num / den / 2 ^ shift := by
    rw [Nat.div_div_eq_div_mul]
  have hround := roundHalfEven_eq_or num (den * 2 ^ shift)
  unfold nearestRank
  dsimp only
  rw [hshift, Nat.pow_eq]
  constructor
  · have hless : num / den / 2 ^ shift < 2 * binade := by
      rw [Nat.div_lt_iff_lt_mul (Nat.two_pow_pos _)]
      calc num / den < 2 ^ (Nat.log2 (num / den) + 1) := Nat.lt_log2_self
        _ ≤ 2 ^ (53 + shift) := Nat.pow_le_pow_right (by decide) (by omega)
        _ = 2 * binade * 2 ^ shift := by rw [hbinade, ← Nat.pow_succ', ← Nat.pow_add]
    omega
  · intro hlarge
    have hne : num / den ≠ 0 := by
      intro hzero
      rw [hzero] at hlarge
      exact absurd hlarge (by decide)
    have hle : binade ≤ num / den / 2 ^ shift := by
      rw [Nat.le_div_iff_mul_le (Nat.two_pow_pos _), hbinade, ← Nat.pow_add]
      exact (Nat.le_log2 hne).mp (by omega)
    omega

theorem nearestRank_mono_left {num num' : Nat} (den : Nat) (h : num ≤ num') :
    nearestRank num den ≤ nearestRank num' den := by
  have hlog : Nat.log2 (num / den) ≤ Nat.log2 (num' / den) := by
    rw [Nat.log2_eq_log_two, Nat.log2_eq_log_two]
    exact Nat.log_mono_right (Nat.div_le_div_right h)
  rcases Nat.lt_or_ge (Nat.log2 (num / den) - 52) (Nat.log2 (num' / den) - 52) with hless | hge
  · -- all ranks of the lower binade stand before those of the higher one
    have hhigh := (nearestRank_bounds num' den).2 (by omega)
    have hlow := (nearestRank_bounds num den).1
    have hcount := Nat.mul_le_mul_right binade hless
    rw [Nat.succ_mul] at hcount
    omega
  · have hsame : Nat.log2 (num / den) - 52 = Nat.log2 (num' / den) - 52 := by omega
    unfold nearestRank
    dsimp only
    rw [hsame]
    exact Nat.add_le_add_left (roundHalfEven_mono_left _ h) _

/-- Rounding does not change the order of two quotients. -/
theorem nearestRank_mono {num den num' den' : Nat} (hden : 0 < den) (hden' : 0 < den')
    (h : num * den' ≤ num' * den) : nearestRank num den ≤ nearestRank num' den' := by
  rw [← nearestRank_mul num den hden', ← nearestRank_mul num' den' hden, Nat.mul_comm den' den]
  exact nearestRank_mono_left _ h

/-! ## Values -/

theorem unitsOf_le_iff {rank other : Nat} : unitsOf rank ≤ unitsOf other ↔ rank ≤ other := by
  have hle : ∀ {rank other}, unitsOf rank ≤ unitsOf other → rank ≤ other := by
    intro rank other h
    have hmono := nearestRank_mono_left 1 h
    rwa [nearestRank_unitsOf, nearestRank_unitsOf] at hmono
  refine ⟨hle, fun h => ?_⟩
  rcases Nat.le_total (unitsOf rank) (unitsOf other) with hrank | hother
  · exact hrank
  · rw [Nat.le_antisymm h (hle hother)]

theorem unitsOf_lt_iff {rank other : Nat} : unitsOf rank < unitsOf other ↔ rank < other := by
  rw [← Nat.not_le, ← Nat.not_le, unitsOf_le_iff]

/-- The number of units is the value of a double. -/
def IsUnits (units : Nat) : Prop := ∃ rank, unitsOf rank = units

/-- A number of 53 bits times a power of two is the value of a double. -/
theorem isUnits_mul_pow {n : Nat} (hn : n < 2 * binade) (power : Nat) :
    IsUnits (n * 2 ^ power) := by
  induction power generalizing n with
  | zero => exact ⟨n, by rw [unitsOf, if_pos hn, Nat.pow_zero, Nat.mul_one]⟩
  | succ power ih =>
      by_cases hsmall : 2 * n < 2 * binade
      · obtain ⟨rank, hrank⟩ := ih hsmall
        exact ⟨rank, by rw [hrank, Nat.pow_succ]; ring⟩
      · -- the number has 53 bits, so that its binade is known
        have hbinade : 0 < binade := by decide
        obtain ⟨rest, rfl⟩ : ∃ rest, n = binade + rest := ⟨n - binade, by omega⟩
        have hrest : rest < binade := by omega
        refine ⟨binade * (power + 2) + rest, ?_⟩
        have hlarge : ¬ binade * (power + 2) + rest < 2 * binade := by
          have hfactor : binade * 2 ≤ binade * (power + 2) := Nat.mul_le_mul_left _ (by omega)
          omega
        rw [unitsOf, if_neg hlarge, Nat.mul_add_mod, Nat.mod_eq_of_lt hrest,
          Nat.mul_add_div hbinade, Nat.div_eq_of_lt hrest, Nat.pow_eq, Nat.add_comm rest]
        rfl

/-- The value of a quotient after rounding, in units. -/
def rounded (num den : Nat) : Nat := unitsOf (nearestRank num den)

theorem rounded_mono {num den num' den' : Nat} (hden : 0 < den) (hden' : 0 < den')
    (h : num * den' ≤ num' * den) : rounded num den ≤ rounded num' den' :=
  unitsOf_le_iff.mpr (nearestRank_mono hden hden' h)

theorem IsUnits.rounded_eq {units : Nat} (h : IsUnits units) : rounded units 1 = units := by
  obtain ⟨rank, rfl⟩ := h
  rw [rounded, nearestRank_unitsOf]

/-- A quotient that is no greater than a double is not rounded beyond it. -/
theorem rounded_le {num den units : Nat} (hden : 0 < den) (hunits : IsUnits units)
    (h : num ≤ units * den) : rounded num den ≤ units := by
  have hle := rounded_mono hden Nat.one_pos (by rwa [Nat.mul_one] : num * 1 ≤ units * den)
  rwa [hunits.rounded_eq] at hle

/-- A quotient that is no less than a double is not rounded below it. -/
theorem le_rounded {num den units : Nat} (hden : 0 < den) (hunits : IsUnits units)
    (h : units * den ≤ num) : units ≤ rounded num den := by
  have hle := rounded_mono Nat.one_pos hden (by rwa [Nat.mul_one] : units * den ≤ num * 1)
  rwa [hunits.rounded_eq] at hle

/-! ## Arithmetic -/

/-- The double has so many units, and is not below zero. -/
def HasUnits (x : Binary64) (units : Nat) : Prop :=
  ∃ negative rank, x = .finite negative rank ∧ unitsOf rank = units ∧ (negative = true → rank = 0)

theorem HasUnits.isUnits {x : Binary64} {units : Nat} (h : HasUnits x units) : IsUnits units := by
  obtain ⟨-, rank, -, hunits, -⟩ := h
  exact ⟨rank, hunits⟩

theorem HasUnits.signedUnits_eq {negative : Bool} {rank units : Nat} (hunits : unitsOf rank = units)
    (hsign : negative = true → rank = 0) : signedUnits negative rank = units := by
  cases negative with
  | false => exact congrArg Int.ofNat hunits
  | true =>
      obtain rfl := hsign rfl
      rw [← hunits]
      rfl

/-- Doubles are compared by their units. -/
theorem HasUnits.lt_iff {x y : Binary64} {units other : Nat} (hx : HasUnits x units)
    (hy : HasUnits y other) : x.lt y = true ↔ units < other := by
  obtain ⟨a, r, rfl, hr, ha⟩ := hx
  obtain ⟨b, s, rfl, hs, hb⟩ := hy
  rw [lt, decide_eq_true_eq, signedUnits_eq hr ha, signedUnits_eq hs hb, Int.ofNat_lt]

theorem HasUnits.eq_iff {x y : Binary64} {units other : Nat} (hx : HasUnits x units)
    (hy : HasUnits y other) : x.eq y = true ↔ units = other := by
  obtain ⟨a, r, rfl, hr, ha⟩ := hx
  obtain ⟨b, s, rfl, hs, hb⟩ := hy
  rw [eq, decide_eq_true_eq, signedUnits_eq hr ha, signedUnits_eq hs hb, Int.natCast_inj]

/-- The doubles up to one hundred are finite. -/
theorem ofRank_of_le {rank : Nat} (h : unitsOf rank ≤ 100 * scale) (negative : Bool) :
    ofRank negative rank = .finite negative rank := by
  have hlast : 100 * scale < unitsOf ranks := by decide +kernel
  rw [ofRank, if_pos (unitsOf_lt_iff.mp (Nat.lt_of_le_of_lt h hlast))]

theorem exists_scale_eq : ∃ power, 52 ≤ power ∧ scale = 2 ^ power :=
  ⟨1074, by decide, @Nat.pow_eq 2 1074⟩

theorem scale_pos : 0 < scale := by
  obtain ⟨power, -, hpower⟩ := exists_scale_eq
  rw [hpower]
  exact Nat.two_pow_pos _

theorem isUnits_mul_scale {n : Nat} (hn : n < 2 * binade) : IsUnits (n * scale) := by
  obtain ⟨power, -, hpower⟩ := exists_scale_eq
  rw [hpower]
  exact isUnits_mul_pow hn _

theorem nearestRank_zero : nearestRank 0 1 = 0 := nearestRank_eq_zero (by decide)

theorem hasUnits_zero (negative : Bool) : HasUnits (zero negative) 0 :=
  ⟨negative, 0, rfl, rfl, fun _ => rfl⟩

/-- A quotient up to one hundred is rounded. -/
theorem exists_ofRatio_eq {num den : Nat} (hden : 0 < den) (h : num ≤ 100 * den) :
    ∃ rank, ofRatio false num den = .finite false rank ∧
      unitsOf rank = rounded (num * scale) den := by
  refine ⟨_, ofRank_of_le (rounded_le hden (isUnits_mul_scale (by decide)) ?_) false, rfl⟩
  calc num * scale ≤ 100 * den * scale := Nat.mul_le_mul_right scale h
    _ = 100 * scale * den := by ring

/-- Whole numbers up to one hundred are doubles. -/
theorem exists_whole_eq {n : Nat} (hn : n ≤ 100) :
    ∃ rank, ofRatio false n 1 = .finite false rank ∧ unitsOf rank = n * scale := by
  obtain ⟨rank, hrank, hunits⟩ := exists_ofRatio_eq Nat.one_pos (by omega : n ≤ 100 * 1)
  have hsmall : n < 2 * binade := Nat.lt_of_le_of_lt hn (by decide)
  exact ⟨rank, hrank, by rw [hunits, (isUnits_mul_scale hsmall).rounded_eq]⟩

theorem hasUnits_whole {n : Nat} (hn : n ≤ 100) : HasUnits (ofRatio false n 1) (n * scale) := by
  obtain ⟨rank, hrank, hunits⟩ := exists_whole_eq hn
  exact ⟨false, rank, hrank, hunits, by simp⟩

theorem hasUnits_one : HasUnits one scale := Nat.one_mul scale ▸ hasUnits_whole (by decide)

/-- A difference that is not below zero is rounded. -/
theorem HasUnits.sub {x y : Binary64} {units other : Nat} (hx : HasUnits x units)
    (hy : HasUnits y other) (hle : other ≤ units) (hlarge : units ≤ 100 * scale) :
    HasUnits (x.sub y) (rounded (units - other) 1) := by
  have hbound : rounded (units - other) 1 ≤ 100 * scale :=
    rounded_le Nat.one_pos (isUnits_mul_scale (by decide)) (by omega)
  obtain ⟨a, r, rfl, hr, ha⟩ := hx
  obtain ⟨b, s, rfl, hs, hb⟩ := hy
  have hright : signedUnits (!b) s = -(other : Int) := by
    cases b with
    | false => exact congrArg (fun n => -(Int.ofNat n)) hs
    | true =>
        obtain rfl := hb rfl
        rw [← hs]
        rfl
  have hsum : signedUnits a r + signedUnits (!b) s = (units - other : Nat) := by
    rw [signedUnits_eq hr ha, hright]
    omega
  rw [Binary64.sub, neg, add, hsum]
  split
  · rename_i hzero
    rw [Int.natCast_eq_zero.mp hzero, rounded, nearestRank_zero]
    exact hasUnits_zero _
  · rw [ofUnits, decide_eq_false (by omega), Int.natAbs_natCast, ofRank_of_le hbound]
    exact ⟨false, _, rfl, rfl, by simp⟩

/-- A product with one hundred is rounded. -/
theorem HasUnits.mul_hundred {x : Binary64} {units : Nat} (hx : HasUnits x units)
    (hsmall : units ≤ scale) :
    HasUnits (x.mul (ofRatio false 100 1)) (rounded (units * 100) 1) := by
  have hrank : nearestRank (units * (100 * scale)) scale = nearestRank (units * 100) 1 := by
    have hcancel := nearestRank_mul (units * 100) 1 scale_pos
    rwa [Nat.one_mul, Nat.mul_assoc] at hcancel
  have hbound : rounded (units * 100) 1 ≤ 100 * scale :=
    rounded_le Nat.one_pos (isUnits_mul_scale (by decide)) (by omega)
  obtain ⟨a, r, rfl, hr, ha⟩ := hx
  obtain ⟨s, hhundred, hs⟩ := exists_whole_eq (Nat.le_refl 100)
  rw [hhundred, mul, hr, hs, hrank, ofRank_of_le hbound, Bool.bne_false]
  refine ⟨a, _, rfl, rfl, fun hsign => ?_⟩
  obtain rfl := ha hsign
  rw [← hr]
  exact nearestRank_zero

/-- A quotient by one hundred is rounded. -/
theorem HasUnits.div_hundred {x : Binary64} {units : Nat} (hx : HasUnits x units)
    (hsmall : units ≤ 100 * scale) :
    HasUnits (x.div (ofRatio false 100 1)) (rounded units 100) := by
  have hrank : nearestRank (units * scale) (100 * scale) = nearestRank units 100 :=
    nearestRank_mul units 100 scale_pos
  have hbound : rounded units 100 ≤ 100 * scale :=
    rounded_le (by decide) (isUnits_mul_scale (by decide)) (by omega)
  obtain ⟨a, r, rfl, hr, ha⟩ := hx
  obtain ⟨s, hhundred, hs⟩ := exists_whole_eq (Nat.le_refl 100)
  rw [hhundred, div, hr, hs, ofRatio, hrank, ofRank_of_le hbound, Bool.bne_false]
  refine ⟨a, _, rfl, rfl, fun hsign => ?_⟩
  obtain rfl := ha hsign
  rw [← hr]
  exact nearestRank_eq_zero (by decide)

end LintScaffold.Binary64
