import LintScaffold.Proofs.Rule.Score
import LintScaffold.Proofs.Text.Fold

/-!
# The search for the best candidate

Candidates are compared in their normal forms, and a normal form is its own normal form, so that
it does not matter how often it is taken (`normalize_normalize`).

The search keeps the first candidate with the highest score so far among those that reach the
cutoff.  A candidate that is no better than the one that is kept may be put behind it, and a
better one makes the kept one irrelevant; so the search ends with the first one with the highest
score among all that reach the cutoff (`isFirstMax_bestOf`).
-/

namespace LintScaffold.Similarity

open Binary64

/-! ## Normal forms -/

theorem mark_evaluated : Text.foldChar '_' = ['_'] ∧ Text.foldChar '-' = ['-'] ∧
    Text.isBlank '-' = false := by
  decide +kernel

theorem isTrim_replaceChar {text : Text} (h : text.IsTrim) :
    (Text.replaceChar '_' '-' text).IsTrim := by
  have hchar : ∀ c : Char, Text.isBlank c = false →
      Text.isBlank (if c = '_' then '-' else c) = false := by
    intro c hc
    split
    · exact mark_evaluated.2.2
    · exact hc
  unfold Text.replaceChar
  refine ⟨fun x hx => ?_, fun x hx => ?_⟩
  · rw [List.head?_map] at hx
    obtain ⟨c, hc, rfl⟩ := Option.map_eq_some_iff.mp hx
    exact hchar c (h.1 c hc)
  · rw [List.getLast?_map] at hx
    obtain ⟨c, hc, rfl⟩ := Option.map_eq_some_iff.mp hx
    exact hchar c (h.2 c hc)

theorem replaceChar_fold (text : Text) :
    Text.replaceChar '_' '-' (Text.fold (Text.replaceChar '_' '-' text)) =
      Text.replaceChar '_' '-' (Text.fold text) := by
  induction text with
  | nil => rfl
  | cons c rest ih =>
      have hcons : ∀ (c : Char) (rest : Text), Text.replaceChar '_' '-' (Text.fold (c :: rest)) =
          Text.replaceChar '_' '-' (Text.foldChar c) ++
            Text.replaceChar '_' '-' (Text.fold rest) := by
        intro c rest
        simp only [Text.replaceChar, Text.fold, List.flatMap_cons, List.map_append]
      have hmark : Text.replaceChar '_' '-' (c :: rest) =
          (if c = '_' then '-' else c) :: Text.replaceChar '_' '-' rest := rfl
      rw [hmark, hcons, hcons, ih]
      split
      · rename_i hc
        rw [hc, mark_evaluated.1, mark_evaluated.2.1]
        rfl
      · rfl

theorem normalize_replaceChar {text : Text} (h : text.IsTrim) :
    normalize (Text.replaceChar '_' '-' text) = Text.replaceChar '_' '-' (Text.fold text) := by
  rw [normalize, Text.strip_of_isTrim (isTrim_replaceChar h), replaceChar_fold]

/-- A normal form is its own normal form. -/
theorem normalize_normalize (text : Text) : normalize (normalize text) = normalize text := by
  have htrim := (Text.isTrim_strip text).fold
  calc normalize (normalize text)
      = Text.replaceChar '_' '-' (Text.fold (Text.fold (Text.strip text))) :=
        normalize_replaceChar htrim
    _ = normalize text := by rw [Text.fold_fold, normalize]

/-! ## First greatest elements -/

section FirstMax

variable {key : Text → Nat} {xs : List Text} {best x c : Text}

/-- The first element with the greatest key. -/
def IsFirstMax (key : Text → Nat) (xs : List Text) (best : Text) : Prop :=
  ∃ before after, xs = before ++ best :: after ∧
    (∀ x ∈ before, key x < key best) ∧ ∀ x ∈ after, key x ≤ key best

theorem IsFirstMax.mem (h : IsFirstMax key xs best) : best ∈ xs := by
  obtain ⟨before, after, rfl, -, -⟩ := h
  simp

theorem IsFirstMax.le (h : IsFirstMax key xs best) (hx : x ∈ xs) : key x ≤ key best := by
  obtain ⟨before, after, rfl, hbefore, hafter⟩ := h
  rcases List.mem_append.mp hx with hx | hx
  · exact Nat.le_of_lt (hbefore x hx)
  · rcases List.mem_cons.mp hx with rfl | hx
    · exact Nat.le_refl _
    · exact hafter x hx

/-- A better element in front of the others is replaced. -/
theorem IsFirstMax.cons (h : IsFirstMax key xs best) (hless : key x < key best) :
    IsFirstMax key (x :: xs) best := by
  obtain ⟨before, after, rfl, hbefore, hafter⟩ := h
  exact ⟨x :: before, after, rfl, List.forall_mem_cons.mpr ⟨hless, hbefore⟩, hafter⟩

/-- An element that is no better than the first one may stand behind it. -/
theorem IsFirstMax.insert (h : IsFirstMax key (c :: xs) best) (hle : key x ≤ key c) :
    IsFirstMax key (c :: x :: xs) best := by
  obtain ⟨before, after, hxs, hbefore, hafter⟩ := h
  cases before with
  | nil =>
      obtain ⟨rfl, rfl⟩ := List.cons.inj hxs
      exact ⟨[], x :: xs, rfl, hbefore, List.forall_mem_cons.mpr ⟨hle, hafter⟩⟩
  | cons d before =>
      obtain ⟨rfl, rfl⟩ := List.cons.inj hxs
      obtain ⟨hfirst, hbefore⟩ := List.forall_mem_cons.mp hbefore
      refine ⟨c :: x :: before, after, rfl, ?_, hafter⟩
      exact List.forall_mem_cons.mpr
        ⟨hfirst, List.forall_mem_cons.mpr ⟨Nat.lt_of_le_of_lt hle hfirst, hbefore⟩⟩

theorem IsFirstMax.unique {other : Text} (h : IsFirstMax key xs best)
    (hother : IsFirstMax key xs other) : best = other := by
  -- of two different places one would be behind the other
  have hbehind : ∀ {best other : Text} {before between after : List Text},
      (∀ x ∈ before ++ best :: between, key x < key other) →
      (∀ x ∈ between ++ other :: after, key x ≤ key best) → False := by
    intro best other before between after hless hle
    have hbest := hless best (by simp)
    have hother := hle other (by simp)
    omega
  obtain ⟨before, after, rfl, hbefore, hafter⟩ := h
  obtain ⟨before', after', hxs, hbefore', hafter'⟩ := hother
  rcases List.append_eq_append_iff.mp hxs with ⟨between, rfl, hsame⟩ | ⟨between, rfl, hsame⟩
  · cases between with
    | nil => exact (List.cons.inj hsame).1
    | cons d between =>
        obtain ⟨rfl, rfl⟩ := List.cons.inj hsame
        exact (hbehind hbefore' hafter).elim
  · cases between with
    | nil => exact (List.cons.inj hsame).1.symm
    | cons d between =>
        obtain ⟨rfl, rfl⟩ := List.cons.inj hsame
        exact (hbehind hbefore hafter').elim

theorem IsFirstMax.filter {p : Text → Bool} (h : IsFirstMax key xs best) (hp : p best = true) :
    IsFirstMax key (xs.filter p) best := by
  obtain ⟨before, after, rfl, hbefore, hafter⟩ := h
  refine ⟨before.filter p, after.filter p, ?_, fun x hx => ?_, fun x hx => ?_⟩
  · rw [List.filter_append, List.filter_cons_of_pos hp]
  · exact hbefore x (List.mem_of_mem_filter hx)
  · exact hafter x (List.mem_of_mem_filter hx)

theorem exists_isFirstMax (key : Text → Nat) (hne : xs ≠ []) :
    ∃ best, IsFirstMax key xs best := by
  induction xs with
  | nil => exact absurd rfl hne
  | cons x rest ih =>
      by_cases hrest : rest = []
      · subst hrest
        exact ⟨x, [], [], rfl, by simp, by simp⟩
      · obtain ⟨best, hbest⟩ := ih hrest
        rcases Nat.lt_or_ge (key x) (key best) with hless | hge
        · exact ⟨best, hbest.cons hless⟩
        · exact ⟨x, [], rest, rfl, by simp, fun y hy => (hbest.le hy).trans hge⟩

end FirstMax

/-! ## The search -/

/-- The points of a candidate: its score, in units. -/
def points (query choice : Text) : Nat :=
  scoreUnits (distance query (normalize choice)) (query.length + (normalize choice).length)

theorem score_lt_score_iff (query choice other : Text) :
    (score query (normalize choice)).lt (score query (normalize other)) = true ↔
      points query choice < points query other :=
  (hasUnits_score _ _).lt_iff (hasUnits_score _ _)

/-- The candidate reaches the cutoff. -/
def reaches (cutoff : Binary64) (query choice : Text) : Bool :=
  !((similarity query (normalize choice)).lt (cutoff.div hundred) ||
    (score query (normalize choice)).lt cutoff)

theorem score?_eq (cutoff : Binary64) (query choice : Text) :
    score? cutoff query (normalize choice) =
      if reaches cutoff query choice then some (score query (normalize choice)) else none := by
  unfold score? reaches score
  dsimp only
  split
  · rename_i h
    rw [h]
    rfl
  · rename_i h
    rw [Bool.not_eq_true] at h
    rw [h]
    rfl

section Search

-- otherwise the arithmetic of doubles would be run in order to see which case of the search applies
attribute [local irreducible] score?

variable {cutoff : Binary64} {query best choice : Text}

theorem bestOf_cons (so : Option (Text × Binary64)) (choice : Text) (rest : List Text) :
    bestOf cutoff query so (choice :: rest) =
      match score? cutoff query (normalize choice), so with
      | none, best => bestOf cutoff query best rest
      | some score, none => bestOf cutoff query (some (choice, score)) rest
      | some score, some (other, highest) =>
          if highest.lt score then bestOf cutoff query (some (choice, score)) rest
          else bestOf cutoff query (some (other, highest)) rest := rfl

theorem bestOf_of_lost (h : reaches cutoff query choice = false) (so : Option (Text × Binary64))
    (rest : List Text) :
    bestOf cutoff query so (choice :: rest) = bestOf cutoff query so rest := by
  rw [bestOf_cons, score?_eq, h, if_neg (by simp)]

/-- A candidate that reaches the cutoff stands against the best one so far. -/
theorem bestOf_of_reaches (h : reaches cutoff query choice = true) (rest : List Text) :
    bestOf cutoff query none (choice :: rest) =
        bestOf cutoff query (some (choice, score query (normalize choice))) rest ∧
      ∀ best, bestOf cutoff query (some (best, score query (normalize best))) (choice :: rest) =
        if points query best < points query choice then
          bestOf cutoff query (some (choice, score query (normalize choice))) rest
        else bestOf cutoff query (some (best, score query (normalize best))) rest := by
  have hscore := score?_eq cutoff query choice
  rw [if_pos h] at hscore
  refine ⟨by rw [bestOf_cons, hscore], fun best => ?_⟩
  rw [bestOf_cons, hscore]
  dsimp only
  simp only [score_lt_score_iff]

theorem isFirstMax_bestOf_some (choices : List Text) :
    ∃ result, bestOf cutoff query (some (best, score query (normalize best))) choices =
        some result ∧
      IsFirstMax (points query) (best :: choices.filter (reaches cutoff query)) result := by
  induction choices generalizing best with
  | nil => exact ⟨best, rfl, [], [], rfl, by simp, by simp⟩
  | cons choice rest ih =>
      by_cases hreaches : reaches cutoff query choice = true
      · rw [(bestOf_of_reaches hreaches rest).2, List.filter_cons_of_pos hreaches]
        split
        · rename_i hless
          obtain ⟨result, hresult, hbest⟩ := @ih choice
          have hle : points query choice ≤ points query result := hbest.le List.mem_cons_self
          exact ⟨result, hresult, hbest.cons (Nat.lt_of_lt_of_le hless hle)⟩
        · rename_i hnot
          obtain ⟨result, hresult, hbest⟩ := @ih best
          exact ⟨result, hresult, hbest.insert (Nat.le_of_not_lt hnot)⟩
      · rw [bestOf_of_lost (Bool.not_eq_true _ ▸ hreaches), List.filter_cons_of_neg hreaches]
        exact ih

/-- The search finds the first best one of the candidates that reach the cutoff. -/
theorem isFirstMax_bestOf (cutoff : Binary64) (query : Text) (choices : List Text) :
    match bestOf cutoff query none choices with
    | none => choices.filter (reaches cutoff query) = []
    | some result =>
        IsFirstMax (points query) (choices.filter (reaches cutoff query)) result := by
  induction choices with
  | nil => rfl
  | cons choice rest ih =>
      by_cases hreaches : reaches cutoff query choice = true
      · obtain ⟨result, hresult, hbest⟩ := @isFirstMax_bestOf_some cutoff query choice rest
        rw [(bestOf_of_reaches hreaches rest).1, List.filter_cons_of_pos hreaches, hresult]
        exact hbest
      · rw [bestOf_of_lost (Bool.not_eq_true _ ▸ hreaches), List.filter_cons_of_neg hreaches]
        exact ih

end Search

end LintScaffold.Similarity
