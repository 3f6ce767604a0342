import LintScaffold.Datum.Sorting
import Mathlib.Data.List.Pairwise
import Mathlib.Data.List.Sort

/-!
# Sorting items with different keys

The question which of two items comes before the other may have no answer.  If the items have
different keys, and it is the keys that decide, then there is always an answer, and sorting
puts the items in the order of their keys.

The start of the list is taken over as it is or reversed, and bisection finds the place of
every further item: all items before it have smaller keys, and all behind it greater ones.
-/

namespace LintScaffold.Sorting

variable {α ε κ : Type} [LinearOrder κ] {before : α → α → Except ε Bool} {key : α → κ}

/-- Items with different keys are put in order by their keys. -/
def DecidesBy (before : α → α → Except ε Bool) (key : α → κ) : Prop :=
  ∀ x y, key x ≠ key y → before x y = .ok (decide (key x < key y))

/-- The items are in the order of their keys, which are different. -/
abbrev Ordered (key : α → κ) (items : List α) : Prop :=
  items.Pairwise fun x y => key x < key y

/-- The items have different keys. -/
abbrev Distinct (key : α → κ) (items : List α) : Prop :=
  items.Pairwise fun x y => key x ≠ key y

instance isTrans_less (key : α → κ) : IsTrans α fun x y => key x < key y :=
  ⟨fun _ _ _ => lt_trans⟩

instance isTrans_greater (key : α → κ) : IsTrans α fun x y => key y < key x :=
  ⟨fun _ _ _ hxy hyz => hyz.trans hxy⟩

/-! ## The start of the list -/

theorem ascending_spec (hbefore : DecidesBy before key) (last : α) (items : List α)
    (hdistinct : Distinct key (last :: items)) :
    ∃ run rest, ascending before last items = .ok (run, rest) ∧ items = run ++ rest ∧
      Ordered key (last :: run) := by
  induction items generalizing last with
  | nil => exact ⟨[], [], rfl, rfl, by simp⟩
  | cons item later ih =>
      obtain ⟨hlast, hlater⟩ := List.pairwise_cons.mp hdistinct
      have hne : key last ≠ key item := hlast item (by simp)
      rw [ascending, hbefore item last hne.symm]
      by_cases hless : key item < key last
      · refine ⟨[], item :: later, ?_, rfl, by simp⟩
        simp [hless, bind, Except.bind, pure, Except.pure]
      · obtain ⟨run, rest, hrun, rfl, hordered⟩ := ih item hlater
        refine ⟨item :: run, rest, ?_, rfl, ?_⟩
        · simp [hless, hrun, bind, Except.bind, pure, Except.pure]
        · have hitem : key last < key item := lt_of_le_of_ne (not_lt.mp hless) hne
          exact hordered.cons_cons_of_trans hitem

theorem descending_spec (hbefore : DecidesBy before key) (last : α) (items : List α)
    (hdistinct : Distinct key (last :: items)) :
    ∃ run rest, descending before last items = .ok (run, rest) ∧ items = run ++ rest ∧
      (last :: run).Pairwise fun x y => key y < key x := by
  induction items generalizing last with
  | nil => exact ⟨[], [], rfl, rfl, by simp⟩
  | cons item later ih =>
      obtain ⟨hlast, hlater⟩ := List.pairwise_cons.mp hdistinct
      have hne : key last ≠ key item := hlast item (by simp)
      rw [descending, hbefore item last hne.symm]
      by_cases hless : key item < key last
      · obtain ⟨run, rest, hrun, rfl, hordered⟩ := ih item hlater
        refine ⟨item :: run, rest, ?_, rfl, ?_⟩
        · simp [hless, hrun, bind, Except.bind, pure, Except.pure]
        · exact hordered.cons_cons_of_trans hless
      · refine ⟨[], item :: later, ?_, rfl, by simp⟩
        simp [hless, bind, Except.bind, pure, Except.pure]

theorem start_spec (hbefore : DecidesBy before key) (items : List α)
    (hdistinct : Distinct key items) :
    ∃ sorted rest, start before items = .ok (sorted, rest) ∧ (sorted ++ rest).Perm items ∧
      Ordered key sorted := by
  match items, hdistinct with
  | [], _ => exact ⟨[], [], rfl, .nil, .nil⟩
  | [item], _ => exact ⟨[item], [], rfl, .refl _, by simp⟩
  | first :: second :: later, hdistinct =>
      obtain ⟨hfirst, hlater⟩ := List.pairwise_cons.mp hdistinct
      have hne : key first ≠ key second := hfirst second (by simp)
      rw [start, hbefore second first hne.symm]
      by_cases hless : key second < key first
      · obtain ⟨run, rest, hrun, rfl, hordered⟩ := descending_spec hbefore second later hlater
        refine ⟨run.reverse ++ [second, first], rest, ?_, ?_, ?_⟩
        · simp [hless, hrun, bind, Except.bind, pure, Except.pure]
        · -- the list begins downwards, and is taken over in reverse
          have hreverse : (run.reverse ++ [second, first]).Perm (first :: second :: run) := by
            have := (first :: second :: run).reverse_perm
            simpa using this
          simpa using hreverse.append_right rest
        · have hdown : (first :: second :: run).Pairwise fun x y => key y < key x :=
            hordered.cons_cons_of_trans hless
          have hup := List.pairwise_reverse.mpr hdown
          simpa using hup
      · obtain ⟨run, rest, hrun, rfl, hordered⟩ := ascending_spec hbefore second later hlater
        refine ⟨first :: second :: run, rest, ?_, .refl _, ?_⟩
        · simp [hless, hrun, bind, Except.bind, pure, Except.pure]
        · have hsecond : key first < key second := lt_of_le_of_ne (not_lt.mp hless) hne
          exact hordered.cons_cons_of_trans hsecond

/-! ## The place of an item -/

/-- The items before a place have smaller keys than the item, and those behind it greater
ones. -/
structure Parts (key : α → κ) (item : α) (sorted : List α) (low high : Nat) : Prop where
  less : ∀ x ∈ sorted.take low, key x < key item
  greater : ∀ x ∈ sorted.drop high, key item < key x

theorem place_spec (hbefore : DecidesBy before key) {item : α} {sorted : List α}
    (hsorted : Ordered key sorted) (hnew : ∀ x ∈ sorted, key item ≠ key x) (fuel : Nat)
    {low high : Nat} (hlow : low ≤ high) (hhigh : high ≤ sorted.length)
    (hfuel : high - low < fuel) (hparts : Parts key item sorted low high) :
    ∃ n, place before item sorted fuel low high = .ok n ∧ Parts key item sorted n n := by
  induction fuel generalizing low high with
  | zero => exact absurd hfuel (Nat.not_lt_zero _)
  | succ fuel ih =>
      rw [place]
      set middle := low + (high - low) / 2 with hmiddle
      by_cases hempty : high ≤ low
      · obtain rfl : low = high := Nat.le_antisymm hlow hempty
        refine ⟨low, ?_, hparts⟩
        split
        · rfl
        · rw [if_pos (Nat.le_refl low)]
          rfl
      · have hinside : middle < sorted.length := by omega
        rw [List.getElem?_eq_getElem hinside]
        dsimp only
        rw [if_neg hempty, hbefore item _ (hnew _ (List.getElem_mem hinside))]
        -- compared with the item in the middle, all others are on the side where they stand
        have hbelow : ∀ x ∈ sorted.take middle, key x < key sorted[middle] := by
          intro x hx
          have hsplit := List.take_append_drop middle sorted
          rw [← hsplit, Ordered, List.pairwise_append] at hsorted
          refine hsorted.2.2 x hx _ ?_
          rw [List.drop_eq_getElem_cons hinside]
          exact List.mem_cons_self
        have habove : ∀ x ∈ sorted.drop (middle + 1), key sorted[middle] < key x := by
          have hdrop : Ordered key (sorted.drop middle) := hsorted.drop
          rw [List.drop_eq_getElem_cons hinside] at hdrop
          exact fun x hx => List.rel_of_pairwise_cons hdrop hx
        by_cases hless : key item < key sorted[middle]
        · -- the place is in the lower half
          have hlower : Parts key item sorted low middle := by
            refine ⟨hparts.less, fun x hx => ?_⟩
            rw [List.drop_eq_getElem_cons hinside] at hx
            rcases List.mem_cons.mp hx with rfl | hx
            · exact hless
            · exact hless.trans (habove x hx)
          obtain ⟨n, hn, hfound⟩ := ih (by omega) (by omega) (by omega) hlower
          refine ⟨n, ?_, hfound⟩
          simpa [hless, bind, Except.bind] using hn
        · -- the place is in the upper half
          have hgreater : key sorted[middle] < key item :=
            lt_of_le_of_ne (not_lt.mp hless) (hnew _ (List.getElem_mem hinside)).symm
          have hupper : Parts key item sorted (middle + 1) high := by
            refine ⟨fun x hx => ?_, hparts.greater⟩
            rw [← List.take_append_getElem hinside, List.mem_append, List.mem_singleton] at hx
            rcases hx with hx | rfl
            · exact (hbelow x hx).trans hgreater
            · exact hgreater
          obtain ⟨n, hn, hfound⟩ := ih (by omega) hhigh (by omega) hupper
          refine ⟨n, ?_, hfound⟩
          simpa [hless, bind, Except.bind] using hn

theorem insert_spec (hbefore : DecidesBy before key) {item : α} {sorted : List α}
    (hsorted : Ordered key sorted) (hnew : ∀ x ∈ sorted, key item ≠ key x) :
    ∃ longer, insert before sorted item = .ok longer ∧ longer.Perm (item :: sorted) ∧
      Ordered key longer := by
  have hall : Parts key item sorted 0 sorted.length := by
    refine ⟨fun x hx => ?_, fun x hx => ?_⟩
    · simp at hx
    · simp at hx
  obtain ⟨n, hn, hparts⟩ := place_spec hbefore hsorted hnew (sorted.length + 1)
    (Nat.zero_le _) (Nat.le_refl _) (by omega) hall
  refine ⟨sorted.take n ++ item :: sorted.drop n, ?_, ?_, ?_⟩
  · rw [insert, hn]
    rfl
  · have hmiddle : (sorted.take n ++ item :: sorted.drop n).Perm
        (item :: (sorted.take n ++ sorted.drop n)) := List.perm_middle
    rwa [List.take_append_drop] at hmiddle
  · refine List.pairwise_append.mpr ⟨hsorted.take, ?_, ?_⟩
    · exact List.pairwise_cons.mpr ⟨hparts.greater, hsorted.drop⟩
    · intro x hx y hy
      rcases List.mem_cons.mp hy with rfl | hy
      · exact hparts.less x hx
      · exact (hparts.less x hx).trans (hparts.greater y hy)

/-! ## The whole list -/

theorem foldlM_insert_spec (hbefore : DecidesBy before key) (rest : List α) {sorted : List α}
    (hsorted : Ordered key sorted) (hdistinct : Distinct key (sorted ++ rest)) :
    ∃ longer, rest.foldlM (insert before) sorted = .ok longer ∧
      longer.Perm (sorted ++ rest) ∧ Ordered key longer := by
  induction rest generalizing sorted with
  | nil => exact ⟨sorted, rfl, by simp, hsorted⟩
  | cons item later ih =>
      have hnew : ∀ x ∈ sorted, key item ≠ key x := fun x hx =>
        ((List.pairwise_append.mp hdistinct).2.2 x hx item (by simp)).symm
      obtain ⟨longer, hlonger, hperm, hordered⟩ := insert_spec hbefore hsorted hnew
      have hall : (longer ++ later).Perm (sorted ++ item :: later) :=
        (hperm.append_right later).trans List.perm_middle.symm
      obtain ⟨whole, hwhole, hsame, hinorder⟩ := ih hordered
        ((hall.pairwise_iff fun h => Ne.symm h).mpr hdistinct)
      refine ⟨whole, ?_, hsame.trans hall, hinorder⟩
      rw [List.foldlM_cons, hlonger]
      exact hwhole

/-- Items with different keys can be sorted, and are then in the order of their keys. -/
theorem sort_spec (hbefore : DecidesBy before key) {items : List α}
    (hdistinct : Distinct key items) :
    ∃ sorted, sort before items = .ok sorted ∧ sorted.Perm items ∧ Ordered key sorted := by
  obtain ⟨first, rest, hstart, hperm, hordered⟩ := start_spec hbefore items hdistinct
  obtain ⟨sorted, hsorted, hsame, hinorder⟩ := foldlM_insert_spec hbefore rest hordered
    ((hperm.pairwise_iff fun h => Ne.symm h).mpr hdistinct)
  refine ⟨sorted, ?_, hsame.trans hperm, hinorder⟩
  rw [sort, hstart]
  exact hsorted

/-- There is only one order of items with different keys. -/
theorem Ordered.eq_of_perm {items others : List α} (hperm : items.Perm others)
    (hitems : Ordered key items) (hothers : Ordered key others) : items = others :=
  hperm.eq_of_pairwise (fun _ _ _ _ hless hgreater => absurd hgreater (lt_asymm hless)) hitems
    hothers

end LintScaffold.Sorting
