import LintScaffold.Datum.Order
import LintScaffold.Proofs.Datum.Sorting
import Mathlib.Data.Char
import Mathlib.Data.List.Lex

/-!
# Data up to the order of their entries

The data of JSON are null, truth values, whole numbers that are not too long, finite doubles,
texts, lists, and tables with different texts as keys.  The order of the entries of a table
says nothing, and `Datum.ordered` takes it out of a datum: it sorts the entries of all tables
by their keys.

Entries are compared by their keys and then by their values.  In a table of JSON it never
comes to the values, so that the entries can always be sorted, and are in the order of their
keys.
-/

namespace LintScaffold

/-! ## Texts in order -/

theorem Text.before_eq (s t : Text) : Text.before s t = decide (s < t) := by
  induction s generalizing t with
  | nil => cases t <;> simp [Text.before]
  | cons c rest ih =>
      cases t with
      | nil => simp [Text.before]
      | cons d other =>
          rw [Text.before, ih]
          have hless : c < d ↔ c.toNat < d.toNat := Iff.rfl
          have hequal : c = d ↔ c.toNat = d.toNat := Char.toNat_inj.symm
          simp only [List.cons_lt_cons_iff, hless, hequal]
          split
          · rename_i hlt
            simp [hlt]
          · rename_i hnot
            split
            · rename_i hgt
              rw [eq_comm, decide_eq_false_iff_not]
              rintro (hlt | ⟨hsame, -⟩) <;> omega
            · rename_i hnot'
              have hsame : c.toNat = d.toNat := by omega
              simp [hsame]

namespace Datum

/-! ## Data of JSON -/

/-- The datum can be written in JSON. -/
inductive IsJson : Datum → Prop
  | null : IsJson .null
  | bool (b : Bool) : IsJson (.bool b)
  | int {n : Int} (hlong : isTooLong n = false) : IsJson (.int n)
  | float (negative : Bool) {rank : Nat} (hrank : rank < Binary64.ranks) :
      IsJson (.float (.finite negative rank))
  | text (t : Text) : IsJson (.text t)
  | list {items : List Datum} (hitems : ∀ item ∈ items, IsJson item) : IsJson (.list items)
  | table {entries : List (Text × Datum)} (hkeys : (entries.map Prod.fst).Nodup)
      (hitems : ∀ entry ∈ entries, IsJson entry.2) : IsJson (.ofTable entries)

mutual
/-- The datum with the entries of all tables in the order of their keys. -/
def ordered : Datum → Datum
  | .list items => .list (orderedItems items)
  | .table entries =>
      .table ((orderedEntries entries).insertionSort fun x y => x.1.display ≤ y.1.display)
  | d => d

/-- The items of a list, each with the entries of all tables in order. -/
def orderedItems : List Datum → List Datum
  | [] => []
  | item :: rest => item.ordered :: orderedItems rest

/-- Entries, each with the entries of all tables in its value in order. -/
def orderedEntries : List (Key × Datum) → List (Key × Datum)
  | [] => []
  | (key, item) :: rest => (key, item.ordered) :: orderedEntries rest
end

theorem orderedItems_eq (items : List Datum) : orderedItems items = items.map ordered := by
  induction items with
  | nil => rfl
  | cons item rest ih => rw [orderedItems, ih, List.map_cons]

theorem orderedEntries_eq (entries : List (Key × Datum)) :
    orderedEntries entries = entries.map fun entry => (entry.1, entry.2.ordered) := by
  induction entries with
  | nil => rfl
  | cons entry rest ih => rw [orderedEntries, ih, List.map_cons]

/-! ## Sorting entries -/

theorem entryLess_decidesBy {α : Type} :
    Sorting.DecidesBy (fun x y : (Text × Datum) × α => entryLess x.1 y.1) fun x => x.1.1 := by
  intro x y hne
  dsimp only at hne ⊢
  rw [entryLess, if_neg hne, Text.before_eq]
  exact congrArg Except.ok (decide_eq_decide.mpr Iff.rfl)

/-- Entries with different keys can be sorted. -/
theorem sortEntries_spec {α : Type} {entries : List ((Text × Datum) × α)}
    (hkeys : (entries.map fun x => x.1.1).Nodup) :
    ∃ sorted, sortEntries entries = .ok sorted ∧ sorted.Perm entries ∧
      Sorting.Ordered (fun x => x.1.1) sorted :=
  Sorting.sort_spec entryLess_decidesBy (List.pairwise_map.mp hkeys)

/-- Entries in the order of their keys are those of the table in order, whatever order the
table has them in. -/
theorem ordered_ofTable {entries sorted : List (Text × Datum)}
    (hperm : sorted.Perm (entries.map fun entry => (entry.1, entry.2.ordered)))
    (hsorted : Sorting.Ordered Prod.fst sorted) :
    (ofTable entries).ordered = ofTable sorted := by
  set byKey : Key × Datum → Key × Datum → Prop := fun x y => x.1.display ≤ y.1.display
    with hbyKey
  have htotal : Std.Total byKey := ⟨fun x y => le_total x.1.display y.1.display⟩
  have htrans : IsTrans (Key × Datum) byKey := ⟨fun _ _ _ hxy hyz => le_trans hxy hyz⟩
  set result := (orderedEntries
    (entries.map fun entry => (Key.text entry.1, entry.2))).insertionSort byKey with hresult
  have hsame : result.Perm (sorted.map fun entry => (.text entry.1, entry.2)) := by
    refine (List.perm_insertionSort _ _).trans ?_
    rw [orderedEntries_eq, List.map_map]
    have hmapped := (hperm.map fun entry : Text × Datum => (Key.text entry.1, entry.2)).symm
    rwa [List.map_map] at hmapped
  -- both are in strict order and have the same entries
  have hstrict : Sorting.Ordered (fun x : Key × Datum => x.1.display)
      (sorted.map fun entry => (.text entry.1, entry.2)) := List.pairwise_map.mpr hsorted
  have hdistinct : Sorting.Distinct (fun x : Key × Datum => x.1.display) result :=
    (hsame.pairwise_iff fun h => Ne.symm h).mpr (hstrict.imp ne_of_lt)
  have hinorder : Sorting.Ordered (fun x : Key × Datum => x.1.display) result :=
    ((List.pairwise_insertionSort byKey _).and hdistinct).imp fun h => lt_of_le_of_ne h.1 h.2
  rw [ofTable, ordered, ofTable, ← Sorting.Ordered.eq_of_perm hsame hinorder hstrict]

/-- The entries of a table with different keys can be sorted, whatever is attached to them, and
give the table in order. -/
theorem exists_sorted {α : Type} (attached : Text × Datum → α) {entries : List (Text × Datum)}
    (hkeys : (entries.map Prod.fst).Nodup) :
    ∃ sorted : List (Text × Datum), sorted.Perm entries ∧
      sortEntries (entries.map fun entry => (entry, attached entry)) =
        .ok (sorted.map fun entry => (entry, attached entry)) ∧
      (ofTable entries).ordered = ofTable (sorted.map fun entry => (entry.1, entry.2.ordered)) := by
  set attach : Text × Datum → (Text × Datum) × α := fun entry => (entry, attached entry)
  have hdistinct : ((entries.map attach).map fun x => x.1.1).Nodup := by
    rwa [List.map_map]
  obtain ⟨sorted, hsort, hperm, hordered⟩ := sortEntries_spec hdistinct
  have hsame : (sorted.map Prod.fst).Perm entries := by
    have hmapped := hperm.map Prod.fst
    rw [List.map_map] at hmapped
    simpa [attach, Function.comp_def] using hmapped
  refine ⟨sorted.map Prod.fst, hsame, ?_, ?_⟩
  · -- after sorting, what is attached to an entry still is its own
    have hback : ∀ x ∈ sorted, attach x.1 = x := by
      intro x hx
      obtain ⟨entry, -, rfl⟩ := List.mem_map.mp (hperm.mem_iff.mp hx)
      rfl
    rw [hsort, List.map_map]
    exact congrArg Except.ok ((List.map_congr_left hback).trans (List.map_id' sorted)).symm
  · refine ordered_ofTable (hsame.map _) ?_
    rw [List.map_map]
    exact List.pairwise_map.mpr hordered

/-- In order, a datum of JSON is one still. -/
theorem IsJson.ordered {d : Datum} (h : d.IsJson) : d.ordered.IsJson := by
  induction h with
  | null => exact .null
  | bool b => exact .bool b
  | int hlong => exact .int hlong
  | float negative hrank => exact .float negative hrank
  | text t => exact .text t
  | list hitems ih =>
      rw [Datum.ordered, orderedItems_eq]
      exact .list (List.forall_mem_map.mpr ih)
  | table hkeys hitems ih =>
      obtain ⟨sorted, hperm, -, hordered⟩ := exists_sorted (fun _ => ()) hkeys
      rw [hordered]
      refine .table ?_ ?_
      · rw [List.map_map]
        exact (hperm.map Prod.fst).nodup_iff.mpr hkeys
      · exact List.forall_mem_map.mpr fun entry hentry => ih entry (hperm.mem_iff.mp hentry)

end Datum
end LintScaffold
