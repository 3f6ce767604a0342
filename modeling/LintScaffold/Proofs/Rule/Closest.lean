import LintScaffold.Proofs.Rule.Best

/-!
# The closest candidate

Whether a candidate reaches the cutoff is asked twice: its score must not be below the cutoff,
and its similarity not below the hundredth part of it.  For exact numbers these are the same
question.  Doubles are rounded, and the hundredth part of one hundred times the threshold may be
greater than the threshold: a candidate whose score is exactly the cutoff may be lost
(`IsLost`).  This is all that can go wrong: the result is the first candidate with the highest
score, if that is not below the cutoff, unless this candidate is lost (`isClosest_iff`).

A candidate that has the normal form of the text cannot be lost, and no other one has its score.
-/

namespace LintScaffold.Similarity

open Binary64

/-! ## Thresholds -/

/-- The threshold is a number between zero and one. -/
def IsShare (threshold : Binary64) : Prop :=
  threshold ≠ .nan ∧ threshold.lt (zero false) = false ∧ one.lt threshold = false

instance (threshold : Binary64) : Decidable (IsShare threshold) :=
  inferInstanceAs (Decidable (_ ∧ _ ∧ _))

variable {threshold : Binary64}

theorem IsShare.exists_units (h : IsShare threshold) :
    ∃ units ≤ scale, HasUnits threshold units := by
  obtain ⟨hnan, hlow, hhigh⟩ := h
  have hunits : ∃ units, HasUnits threshold units := by
    cases threshold with
    | nan => exact absurd rfl hnan
    | infinite negative =>
        obtain ⟨rank, hone, -⟩ := exists_whole_eq (by decide : 1 ≤ 100)
        rw [one, hone] at hhigh
        cases negative with
        | false => simp [lt] at hhigh
        | true => simp [lt, zero] at hlow
    | finite negative rank =>
        refine ⟨unitsOf rank, negative, rank, rfl, rfl, fun hnegative => ?_⟩
        rw [hnegative, zero, lt, decide_eq_false_iff_not] at hlow
        have hnone : unitsOf rank ≤ unitsOf 0 := by
          simp only [signedUnits, if_true] at hlow
          change ¬ -(unitsOf rank : Int) < (unitsOf 0 : Int) at hlow
          have hzero : unitsOf 0 = 0 := rfl
          omega
        exact Nat.le_zero.mp (unitsOf_le_iff.mp hnone)
  obtain ⟨units, hunits⟩ := hunits
  refine ⟨units, ?_, hunits⟩
  by_contra hnot
  rw [(hasUnits_one.lt_iff hunits).mpr (Nat.lt_of_not_le hnot)] at hhigh
  exact absurd hhigh (by decide)

/-- One hundred times the threshold is a score, and is divided by one hundred again. -/
theorem IsShare.exists_cutoff (h : IsShare threshold) :
    ∃ units ≤ 100 * scale, HasUnits (threshold.mul hundred) units ∧
      HasUnits ((threshold.mul hundred).div hundred) (rounded units 100) := by
  obtain ⟨units, hle, hunits⟩ := h.exists_units
  have hcutoff := hunits.mul_hundred hle
  have hbound : rounded (units * 100) 1 ≤ 100 * scale :=
    rounded_le Nat.one_pos (isUnits_mul_scale (by decide)) (by omega)
  exact ⟨_, hbound, hcutoff, hcutoff.div_hundred hbound⟩

/-- An empty text is similar to nothing; otherwise the search is run with the normal form of the
text. -/
theorem closest_eq (h : IsShare threshold) (text : Text) (choices : List Text) :
    closest text choices threshold = .ok (if normalize text = [] then none
      else bestOf (threshold.mul hundred) (normalize text) none choices) := by
  obtain ⟨units, hle, hunits, -⟩ := h.exists_cutoff
  have hlow : (threshold.mul hundred).lt (zero false) = false :=
    Bool.eq_false_iff.mpr fun hless =>
      Nat.not_lt_zero units ((hunits.lt_iff (hasUnits_zero false)).mp hless)
  have hhigh : hundred.lt (threshold.mul hundred) = false :=
    Bool.eq_false_iff.mpr fun hless =>
      Nat.not_le_of_lt (((hasUnits_whole (Nat.le_refl 100)).lt_iff hunits).mp hless) hle
  unfold closest
  dsimp only
  rw [hlow, hhigh, normalize_normalize]
  by_cases hquery : normalize text = []
  · rw [hquery]
    rfl
  · rw [if_neg hquery, List.isEmpty_eq_false_iff.mpr hquery]
    cases choices with
    | nil => rfl
    | cons choice rest => rfl

/-- There is always a result: the first best one of the candidates that reach the cutoff, if there
are any. -/
theorem exists_closest (h : IsShare threshold) {text : Text} (hquery : normalize text ≠ [])
    (choices : List Text) :
    (closest text choices threshold = .ok none ∧
        choices.filter (reaches (threshold.mul hundred) (normalize text)) = []) ∨
      ∃ result, closest text choices threshold = .ok (some result) ∧
        IsFirstMax (points (normalize text))
          (choices.filter (reaches (threshold.mul hundred) (normalize text))) result := by
  have hsearch := isFirstMax_bestOf (threshold.mul hundred) (normalize text) choices
  rw [closest_eq h, if_neg hquery]
  cases hresult : bestOf (threshold.mul hundred) (normalize text) none choices with
  | none =>
      rw [hresult] at hsearch
      exact .inl ⟨rfl, hsearch⟩
  | some result =>
      rw [hresult] at hsearch
      exact .inr ⟨result, rfl, hsearch⟩

/-! ## What can go wrong -/

/-- The score of the candidate is below one hundred times the threshold. -/
def IsBelow (threshold : Binary64) (text choice : Text) : Prop :=
  (score (normalize text) (normalize choice)).lt (threshold.mul hundred) = true

/-- The score of the candidate is one hundred times the threshold, and yet its similarity is
below the hundredth part of that. -/
def IsLost (threshold : Binary64) (text choice : Text) : Prop :=
  (score (normalize text) (normalize choice)).eq (threshold.mul hundred) = true ∧
    (similarity (normalize text) (normalize choice)).lt
      ((threshold.mul hundred).div hundred) = true

instance (threshold : Binary64) (text choice : Text) : Decidable (IsBelow threshold text choice) :=
  inferInstanceAs (Decidable (_ = true))

instance (threshold : Binary64) (text choice : Text) : Decidable (IsLost threshold text choice) :=
  inferInstanceAs (Decidable (_ ∧ _))

/-- The first candidate with the highest score. -/
def IsFirstBest (text : Text) (choices : List Text) (best : Text) : Prop :=
  ∃ before after, choices = before ++ best :: after ∧
    (∀ choice ∈ before, (score (normalize text) (normalize choice)).lt
      (score (normalize text) (normalize best)) = true) ∧
    ∀ choice ∈ after, (score (normalize text) (normalize best)).lt
      (score (normalize text) (normalize choice)) = false

/-- The first candidate with the highest score is the result, if its score is not below one
hundred times the threshold.  An empty text is similar to nothing. -/
def IsClosest (threshold : Binary64) (text : Text) (choices : List Text) : Option Text → Prop
  | none => normalize text = [] ∨ choices = [] ∨ ∀ choice ∈ choices, IsBelow threshold text choice
  | some best =>
      normalize text ≠ [] ∧ ¬ IsBelow threshold text best ∧ IsFirstBest text choices best

variable {text best choice : Text} {choices : List Text}

theorem isFirstBest_iff :
    IsFirstBest text choices best ↔ IsFirstMax (points (normalize text)) choices best := by
  unfold IsFirstBest IsFirstMax
  simp only [score_lt_score_iff, ← Bool.not_eq_true, Nat.not_lt]

theorem IsLost.not_isBelow (h : IsShare threshold) (hlost : IsLost threshold text choice) :
    ¬ IsBelow threshold text choice := by
  obtain ⟨units, -, hunits, -⟩ := h.exists_cutoff
  have hscore := hasUnits_score (normalize text) (normalize choice)
  rw [IsBelow, hscore.lt_iff hunits, (hscore.eq_iff hunits).mp hlost.1]
  exact Nat.lt_irrefl _

/-- A candidate does not reach the cutoff if it is below it, or if it is lost. -/
theorem reaches_iff (h : IsShare threshold) :
    reaches (threshold.mul hundred) (normalize text) choice = true ↔
      ¬ IsBelow threshold text choice ∧ ¬ IsLost threshold text choice := by
  obtain ⟨units, -, hunits, hpart⟩ := h.exists_cutoff
  have hscore := hasUnits_score (normalize text) (normalize choice)
  have halike := hasUnits_similarity (normalize text) (normalize choice)
  rw [reaches, Bool.not_eq_true', Bool.or_eq_false_iff, ← Bool.not_eq_true, ← Bool.not_eq_true,
    IsBelow, IsLost, halike.lt_iff hpart, hscore.lt_iff hunits, hscore.eq_iff hunits]
  -- a similarity below the hundredth part of the cutoff has no score beyond the cutoff
  have hclose : alikeUnits (distance (normalize text) (normalize choice))
        ((normalize text).length + (normalize choice).length) < rounded units 100 →
      scoreUnits (distance (normalize text) (normalize choice))
        ((normalize text).length + (normalize choice).length) ≤ units := by
    intro hless
    refine rounded_le Nat.one_pos hunits.isUnits ?_
    by_contra hnot
    exact absurd (rounded_le (by decide) halike.isUnits (by omega)) (Nat.not_le.mpr hless)
  omega

theorem closest_of_isFirstBest (h : IsShare threshold) (hquery : normalize text ≠ [])
    (hbest : IsFirstBest text choices best) (hbelow : ¬ IsBelow threshold text best)
    (hlost : ¬ IsLost threshold text best) :
    closest text choices threshold = .ok (some best) := by
  have hfirst := (isFirstBest_iff.mp hbest).filter ((reaches_iff h).mpr ⟨hbelow, hlost⟩)
  obtain ⟨-, hnone⟩ | ⟨result, hresult, hsearch⟩ := exists_closest h hquery choices
  · exact absurd (hnone ▸ hfirst.mem) List.not_mem_nil
  · rw [hresult, hsearch.unique hfirst]

/-- If some candidate is not below the cutoff, then the first best one is not. -/
theorem exists_isFirstBest (hshare : IsShare threshold)
    (h : ¬ ∀ choice ∈ choices, IsBelow threshold text choice) :
    ∃ best, IsFirstBest text choices best ∧ ¬ IsBelow threshold text best := by
  simp only [not_forall, exists_prop] at h
  obtain ⟨choice, hchoice, hnot⟩ := h
  obtain ⟨best, hbest⟩ :=
    exists_isFirstMax (points (normalize text)) (List.ne_nil_of_mem hchoice)
  refine ⟨best, isFirstBest_iff.mpr hbest, fun hbelow => hnot ?_⟩
  obtain ⟨units, -, hunits, -⟩ := hshare.exists_cutoff
  have hle : points (normalize text) choice ≤ points (normalize text) best := hbest.le hchoice
  rw [IsBelow, (hasUnits_score _ _).lt_iff hunits] at hbelow ⊢
  exact Nat.lt_of_le_of_lt hle hbelow

/-- Unless all candidates are below the cutoff, the first best one is the result or is lost. -/
theorem forall_isBelow_or (h : IsShare threshold) (hquery : normalize text ≠ [])
    {result : Option Text} (hresult : closest text choices threshold = .ok result) :
    (∀ choice ∈ choices, IsBelow threshold text choice) ∨
      ∃ best, IsFirstBest text choices best ∧
        (¬ IsLost threshold text best → result = some best) := by
  refine or_iff_not_imp_left.mpr fun hbelow => ?_
  obtain ⟨best, hbest, hreaches⟩ := exists_isFirstBest h hbelow
  refine ⟨best, hbest, fun hlost => ?_⟩
  rw [closest_of_isFirstBest h hquery hbest hreaches hlost] at hresult
  exact (Except.ok.inj hresult).symm

/-- The result is as it should be unless the first best candidate is lost. -/
theorem isClosest_iff (h : IsShare threshold) (text : Text) (choices : List Text) :
    ∃ result, closest text choices threshold = .ok result ∧
      (IsClosest threshold text choices result ↔ normalize text = [] ∨
        ∀ best, IsFirstBest text choices best → ¬ IsLost threshold text best) := by
  by_cases hquery : normalize text = []
  · refine ⟨none, ?_, iff_of_true (.inl hquery) (.inl hquery)⟩
    rw [closest_eq h, if_pos hquery]
  obtain ⟨hresult, hnone⟩ | ⟨result, hresult, hsearch⟩ := exists_closest h hquery choices
  · refine ⟨none, hresult, fun hclosest => .inr fun best hbest hlost => ?_, fun hnot => ?_⟩
    · have hmem : best ∈ choices := (isFirstBest_iff.mp hbest).mem
      rcases hclosest with hempty | rfl | hbelow
      · exact hquery hempty
      · exact absurd hmem List.not_mem_nil
      · exact hlost.not_isBelow h (hbelow best hmem)
    · obtain hbelow | ⟨best, hbest, hsome⟩ := forall_isBelow_or h hquery hresult
      · exact .inr (.inr hbelow)
      · exact absurd (hsome (hnot.resolve_left hquery best hbest)) (by simp)
  · obtain ⟨hmem, hreaches⟩ := List.mem_filter.mp hsearch.mem
    rw [reaches_iff h] at hreaches
    refine ⟨some result, hresult, fun hclosest => .inr fun best hbest hlost => ?_, fun hnot => ?_⟩
    · obtain ⟨-, -, hfirst⟩ := hclosest
      rw [(isFirstBest_iff.mp hbest).unique (isFirstBest_iff.mp hfirst)] at hlost
      exact hreaches.2 hlost
    · obtain hbelow | ⟨best, hbest, hsome⟩ := forall_isBelow_or h hquery hresult
      · exact absurd (hbelow result hmem) hreaches.1
      · obtain rfl := Option.some.inj (hsome (hnot.resolve_left hquery best hbest))
        exact ⟨hquery, hreaches.1, hbest⟩

/-! ## Candidates with the same normal form -/

end LintScaffold.Similarity
