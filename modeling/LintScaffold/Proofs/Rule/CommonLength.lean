import LintScaffold.Rule.Similarity
import Mathlib.Order.Bounds.Basic

/-!
# Longest common subsequences

The table of lengths is right: `commonLength` is the length of a longest text that is a
subsequence of both texts (`isLongest_commonLength`).  The table is filled row by row, and a row
from left to right; what stands at a place is the length for the parts of the two texts before
it.  The parts grow at their ends, so that it is easier to keep them in reverse, where a
subsequence grows at its head.
-/

namespace LintScaffold.Similarity

/-- The lengths of the common subsequences of two texts. -/
def commonLengths (xs ys : Text) : Set Nat :=
  { n | ∃ zs : Text, zs.Sublist xs ∧ zs.Sublist ys ∧ zs.length = n }

/-- A longest common subsequence of the two texts has this length. -/
def IsLongest (xs ys : Text) (n : Nat) : Prop := IsGreatest (commonLengths xs ys) n

theorem IsLongest.unique {xs ys : Text} {m n : Nat} (hm : IsLongest xs ys m)
    (hn : IsLongest xs ys n) : m = n := IsGreatest.unique hm hn

theorem commonLengths_reverse (xs ys : Text) :
    commonLengths xs.reverse ys.reverse = commonLengths xs ys := by
  have hsubset : ∀ xs ys : Text, commonLengths xs ys ⊆ commonLengths xs.reverse ys.reverse := by
    rintro xs ys n ⟨zs, hxs, hys, rfl⟩
    exact ⟨zs.reverse, hxs.reverse, hys.reverse, List.length_reverse⟩
  refine Set.Subset.antisymm ?_ (hsubset xs ys)
  have hback := hsubset xs.reverse ys.reverse
  rwa [List.reverse_reverse, List.reverse_reverse] at hback

/-! ## One more character -/

theorem isLongest_nil_left (ys : Text) : IsLongest [] ys 0 := by
  refine ⟨⟨[], .slnil, List.nil_sublist _, rfl⟩, ?_⟩
  rintro n ⟨zs, hzs, -, rfl⟩
  rw [List.sublist_nil.mp hzs]
  exact Nat.le_refl 0

theorem isLongest_nil_right (xs : Text) : IsLongest xs [] 0 := by
  refine ⟨⟨[], List.nil_sublist _, .slnil, rfl⟩, ?_⟩
  rintro n ⟨zs, -, hzs, rfl⟩
  rw [List.sublist_nil.mp hzs]
  exact Nat.le_refl 0

/-- A character at the head of both texts lengthens a longest common subsequence. -/
theorem IsLongest.cons {xs ys : Text} {n : Nat} (h : IsLongest xs ys n) (c : Char) :
    IsLongest (c :: xs) (c :: ys) (n + 1) := by
  obtain ⟨⟨zs, hxs, hys, rfl⟩, hgreatest⟩ := h
  refine ⟨⟨c :: zs, hxs.cons_cons c, hys.cons_cons c, rfl⟩, ?_⟩
  rintro n ⟨ws, hwxs, hwys, rfl⟩
  have htail := hgreatest ⟨ws.tail, hwxs.tail, hwys.tail, rfl⟩
  rw [List.length_tail] at htail
  omega

/-- Of two different heads at most one belongs to a common subsequence. -/
theorem IsLongest.cons_of_ne {xs ys : Text} {c y : Char} {left up : Nat} (hne : c ≠ y)
    (hleft : IsLongest (c :: xs) ys left) (hup : IsLongest xs (y :: ys) up) :
    IsLongest (c :: xs) (y :: ys) (max left up) := by
  constructor
  · obtain ⟨ws, hwxs, hwys, hws⟩ := hleft.1
    obtain ⟨zs, hzxs, hzys, hzs⟩ := hup.1
    rcases Nat.le_total up left with hle | hle
    · exact ⟨ws, hwxs, hwys.cons y, by rw [hws, Nat.max_eq_left hle]⟩
    · exact ⟨zs, hzxs.cons c, hzys, by rw [hzs, Nat.max_eq_right hle]⟩
  · rintro n ⟨zs, hxs, hys, rfl⟩
    cases hys with
    | cons _ hys => exact Nat.le_trans (hleft.2 ⟨zs, hxs, hys, rfl⟩) (Nat.le_max_left _ _)
    | cons_cons _ hys =>
        cases hxs with
        | cons _ hxs =>
            exact Nat.le_trans (hup.2 ⟨_, hxs, hys.cons_cons y, rfl⟩) (Nat.le_max_right _ _)
        | cons_cons => exact absurd rfl hne

/-! ## Rows -/

/-- The row holds, for every non-empty initial part of `ys`, the length for `xs` and this part
behind `done`.  The text `xs` and the part before `ys` are in reverse. -/
inductive IsRow (xs : Text) : (done ys : Text) → List Nat → Prop
  | nil {done : Text} : IsRow xs done [] []
  | cons {done ys : Text} {y : Char} {n : Nat} {row : List Nat}
      (hfirst : IsLongest xs (y :: done) n) (hrest : IsRow xs (y :: done) ys row) :
      IsRow xs done (y :: ys) (n :: row)

theorem isRow_replicate (done ys : Text) : IsRow [] done ys (List.replicate ys.length 0) := by
  induction ys generalizing done with
  | nil => exact .nil
  | cons y ys ih => exact .cons (isLongest_nil_left _) (ih _)

/-- One more character of `xs` makes the next row. -/
theorem IsRow.nextRow {xs done ys : Text} {above : List Nat} (h : IsRow xs done ys above) (c : Char)
    {left corner : Nat} (hleft : IsLongest (c :: xs) done left)
    (hcorner : IsLongest xs done corner) :
    IsRow (c :: xs) done ys (Similarity.nextRow c ys above left corner) := by
  induction h generalizing left corner with
  | nil => exact .nil
  | @cons done ys y up above hfirst hrest ih =>
      have hlongest : IsLongest (c :: xs) (y :: done)
          (if c = y then corner + 1 else if left < up then up else left) := by
        split
        · rename_i hsame
          subst hsame
          exact hcorner.cons c
        · rename_i hne
          have hmax := hleft.cons_of_ne hne hfirst
          split
          · rwa [Nat.max_eq_right (by omega)] at hmax
          · rwa [Nat.max_eq_left (by omega)] at hmax
      exact .cons hlongest (ih hlongest hfirst)

/-- At the end of a row stands the length for the whole of `ys`. -/
theorem IsRow.getLastD {xs done ys : Text} {row : List Nat} (h : IsRow xs done ys row) {n : Nat}
    (hn : IsLongest xs done n) : IsLongest xs (ys.reverse ++ done) (row.getLastD n) := by
  induction h generalizing n with
  | nil => exact hn
  | @cons done ys y m row hfirst hrest ih =>
      rw [List.reverse_cons, List.append_assoc, List.getLastD_cons]
      exact ih hfirst

/-- The common length is that of a longest common subsequence. -/
theorem isLongest_commonLength (xs ys : Text) : IsLongest xs ys (commonLength xs ys) := by
  have hrows : ∀ (xs before : Text) {row : List Nat}, IsRow before [] ys row →
      IsRow (xs.reverse ++ before) [] ys
        (xs.foldl (fun row c => Similarity.nextRow c ys row 0 0) row) := by
    intro xs
    induction xs with
    | nil => exact fun before row hrow => hrow
    | cons c xs ih =>
        intro before row hrow
        rw [List.reverse_cons, List.append_assoc, List.foldl_cons]
        exact ih (c :: before) (hrow.nextRow c (isLongest_nil_right _) (isLongest_nil_right _))
  have hlast := (hrows xs [] (isRow_replicate [] ys)).getLastD (isLongest_nil_right _)
  rw [List.append_nil, List.append_nil] at hlast
  rw [IsLongest, ← commonLengths_reverse]
  exact hlast

/-! ## Distances -/

variable {xs ys : Text}

theorem commonLength_le (xs ys : Text) :
    commonLength xs ys ≤ xs.length ∧ commonLength xs ys ≤ ys.length := by
  obtain ⟨zs, hxs, hys, hzs⟩ := (isLongest_commonLength xs ys).1
  rw [← hzs]
  exact ⟨hxs.length_le, hys.length_le⟩

theorem length_le_commonLength {zs : Text} (hxs : zs.Sublist xs) (hys : zs.Sublist ys) :
    zs.length ≤ commonLength xs ys :=
  (isLongest_commonLength xs ys).2 ⟨zs, hxs, hys, rfl⟩

theorem distance_le (xs ys : Text) : distance xs ys ≤ xs.length + ys.length := Nat.sub_le _ _

end LintScaffold.Similarity
