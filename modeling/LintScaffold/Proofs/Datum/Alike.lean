import LintScaffold.Proofs.Association
import LintScaffold.Proofs.Datum.Loaded

/-!
# Data that say the same

Two data say the same if they differ in nothing but the order in which their tables list their
entries: this is `Datum.Alike`.  Scalars of different kinds never say the same, nor do different
scalars of one kind, the two zeros among the doubles included.

* Data with the same order are alike (`alike_of_ordered`): what is in order can be told apart
  from everything that says something else.
* Alike data have the same literal, or cannot be written for the same reason (`Alike.write_eq`).

Both rest on one fact about tables that have the same keys: if something is made of their values,
and it is the same for the values under the same key, then the two tables of what is made have the
same entries in some order (`Table.perm_map`).
-/

namespace LintScaffold

/-! ## Tables with the same keys -/

namespace Table

variable {α : Type} {xs ys : Table}

theorem nodup_map {xs : Table} (hxs : (xs.map Prod.fst).Nodup) (f : Datum → α) :
    (xs.map fun entry => (entry.1, f entry.2)).Nodup := by
  refine List.Nodup.of_map Prod.fst ?_
  rwa [List.map_map]

theorem mem_map_iff (hxs : (xs.map Prod.fst).Nodup) (f : Datum → α) {key : Text} {a : α} :
    (key, a) ∈ xs.map (fun entry => (entry.1, f entry.2)) ↔
      ∃ x, xs.get? key = some x ∧ f x = a := by
  simp only [List.mem_map, Prod.mk.injEq, Prod.exists]
  constructor
  · rintro ⟨_, x, hx, rfl, rfl⟩
    exact ⟨x, lookup_of_mem hxs hx, rfl⟩
  · rintro ⟨x, hx, rfl⟩
    exact ⟨key, x, mem_of_lookup hx, rfl, rfl⟩

theorem isSome_get? {key : Text} (xs : Table) :
    key ∈ xs.map Prod.fst ↔ ∃ x, xs.get? key = some x := by
  induction xs with
  | nil => simp [get?]
  | cons entry rest ih =>
      rw [List.map_cons, List.mem_cons, ih, get?, get?, List.lookup_cons]
      by_cases hkey : key = entry.1
      · simp [hkey]
      · rw [beq_eq_false_iff_ne.mpr hkey, or_iff_right hkey]

/-- What is made of the values of two tables is the same up to order if it is the same for the
values under each key. -/
theorem perm_map (hxs : (xs.map Prod.fst).Nodup) (hys : (ys.map Prod.fst).Nodup)
    (hkeys : ∀ key, key ∈ xs.map Prod.fst ↔ key ∈ ys.map Prod.fst) {f : Datum → α}
    (hvalues : ∀ key x y, xs.get? key = some x → ys.get? key = some y → f x = f y) :
    (xs.map fun entry => (entry.1, f entry.2)).Perm (ys.map fun entry => (entry.1, f entry.2)) := by
  rw [List.perm_ext_iff_of_nodup (nodup_map hxs f) (nodup_map hys f)]
  rintro ⟨key, a⟩
  rw [mem_map_iff hxs f, mem_map_iff hys f]
  constructor
  · rintro ⟨x, hx, rfl⟩
    obtain ⟨y, hy⟩ := (isSome_get? ys).mp ((hkeys key).mp ((isSome_get? xs).mpr ⟨x, hx⟩))
    exact ⟨y, hy, (hvalues key x y hx hy).symm⟩
  · rintro ⟨y, hy, rfl⟩
    obtain ⟨x, hx⟩ := (isSome_get? xs).mp ((hkeys key).mpr ((isSome_get? ys).mpr ⟨y, hy⟩))
    exact ⟨x, hx, hvalues key x y hx hy⟩

end Table

namespace Datum

/-- The data differ at most in the order of the entries of their tables. -/
inductive Alike : Datum → Datum → Prop
  | null : Alike .null .null
  | bool (b : Bool) : Alike (.bool b) (.bool b)
  | int (n : Int) : Alike (.int n) (.int n)
  | float (x : Binary64) : Alike (.float x) (.float x)
  | text (t : Text) : Alike (.text t) (.text t)
  | list {xs ys : List Datum} (hlength : xs.length = ys.length)
      (hitems : ∀ (n : Nat) (x y : Datum), xs[n]? = some x → ys[n]? = some y → Alike x y) :
      Alike (.list xs) (.list ys)
  | table {xs ys : Table} (hkeys : ∀ key, key ∈ xs.map Prod.fst ↔ key ∈ ys.map Prod.fst)
      (hvalues : ∀ (key : Text) (x y : Datum), xs.get? key = some x → ys.get? key = some y →
        Alike x y) :
      Alike (.ofTable xs) (.ofTable ys)

/-! ## Data from files, taken apart -/

theorem ofTable_inj {xs ys : Table} : ofTable xs = ofTable ys ↔ xs = ys := by
  refine ⟨fun h => ?_, fun h => h ▸ rfl⟩
  have hinj : Function.Injective fun entry : Text × Datum => ((Key.text entry.1, entry.2)) := by
    rintro ⟨key, x⟩ ⟨other, y⟩ hsame
    simpa using hsame
  exact hinj.list_map (Datum.table.inj h)

theorem IsLoaded.of_list {items : List Datum} (h : (Datum.list items).IsLoaded) :
    ∀ item ∈ items, item.IsLoaded := by
  cases h with
  | list hitems => exact hitems

theorem IsLoaded.of_table {entries : Table} (h : (ofTable entries).IsLoaded) :
    (entries.map Prod.fst).Nodup ∧ ∀ entry ∈ entries, entry.2.IsLoaded := by
  generalize hd : ofTable entries = d at h
  cases h with
  | table hkeys hitems =>
      obtain rfl := ofTable_inj.mp hd
      exact ⟨hkeys, hitems⟩
  | _ => exact absurd hd (by simp [ofTable])

/-- A value of a table from a file can come from a file. -/
theorem IsLoaded.of_get? {entries : Table} (h : (ofTable entries).IsLoaded) {key : Text} {x : Datum}
    (hx : entries.get? key = some x) : x.IsLoaded :=
  h.of_table.2 (key, x) (mem_of_lookup hx)

/-- Data of JSON can come from a file. -/
theorem IsJson.isLoaded {d : Datum} (h : d.IsJson) : d.IsLoaded := by
  induction h with
  | null => exact .null
  | bool b => exact .bool b
  | int hlong => exact .int hlong
  | @float negative rank hrank =>
      have hvalue : Binary64.ofRank negative rank = .finite negative rank := if_pos hrank
      rw [← hvalue]
      exact .float negative rank
  | text t => exact .text t
  | list hitems ih => exact .list ih
  | table hkeys hitems ih => exact .table hkeys ih

/-! ## Data with the same order -/

/-- The entries of a table in order are those of the table, each with its value in order. -/
theorem exists_ordered {entries : Table} (hkeys : (entries.map Prod.fst).Nodup) :
    ∃ sorted : Table, (ofTable entries).ordered = ofTable sorted ∧
      sorted.Perm (entries.map fun entry => (entry.1, entry.2.ordered)) := by
  obtain ⟨sorted, hperm, -, hordered⟩ := exists_sorted (fun _ => ()) hkeys
  exact ⟨_, hordered, hperm.map _⟩

/-- Data of a file that are equal in order are alike. -/
theorem alike_of_ordered {d e : Datum} (hd : d.IsLoaded) (he : e.IsLoaded)
    (h : d.ordered = e.ordered) : d.Alike e := by
  induction hd generalizing e with
  | null => cases he with
    | null => exact .null
    | _ => simp [ordered, ofTable] at h
  | bool b => cases he with
    | bool c =>
        obtain rfl : b = c := by simpa [ordered] using h
        exact .bool b
    | _ => simp [ordered, ofTable] at h
  | @int n hlong => cases he with
    | @int m hlong' =>
        obtain rfl : n = m := by simpa [ordered] using h
        exact .int n
    | _ => simp [ordered, ofTable] at h
  | float negative rank => cases he with
    | float negative' rank' =>
        have hsame : Binary64.ofRank negative rank = Binary64.ofRank negative' rank' := by
          simpa [ordered] using h
        rw [hsame]
        exact .float _
    | _ => simp [ordered, ofTable] at h
  | text t => cases he with
    | text s =>
        obtain rfl : t = s := by simpa [ordered] using h
        exact .text t
    | _ => simp [ordered, ofTable] at h
  | @list xs hxs ih => cases he with
    | @list ys hys =>
        have hsame : xs.map ordered = ys.map ordered := by
          simpa [ordered, orderedItems_eq] using h
        refine .list (by simpa using congrArg List.length hsame) fun n x y hx hy => ?_
        have hitem := congrArg (·[n]?) hsame
        simp only [List.getElem?_map, hx, hy, Option.map_some, Option.some.injEq] at hitem
        exact ih x (List.mem_of_getElem? hx) (hys y (List.mem_of_getElem? hy)) hitem
    | _ => simp [ordered, ofTable] at h
  | @table xs hxs hitems ih => cases he with
    | @table ys hys hitems' =>
        obtain ⟨sorted, hsorted, hperm⟩ := exists_ordered hxs
        obtain ⟨others, hothers, hperm'⟩ := exists_ordered hys
        rw [hsorted, hothers, ofTable_inj] at h
        subst h
        -- the two tables in order have the same entries, hence the same keys
        have hsame := hperm.symm.trans hperm'
        refine .table (fun key => ?_) fun key x y hx hy => ?_
        · have hkeys := (hsame.map Prod.fst).mem_iff (a := key)
          rwa [List.map_map, List.map_map] at hkeys
        · have hmem := (Table.mem_map_iff hxs ordered).mpr ⟨x, hx, rfl⟩
          obtain ⟨y', hy', hvalue⟩ :=
            (Table.mem_map_iff hys ordered).mp (hsame.mem_iff.mp hmem)
          obtain rfl := Option.some.inj (hy.symm.trans hy')
          exact ih (key, x) (mem_of_lookup hx) (hitems' (key, y) (mem_of_lookup hy)) hvalue.symm
    | _ => simp [ordered, ofTable] at h

/-- A datum of a file whose entries are listed in another order says the same. -/
theorem alike_of_perm {xs ys : Table} (h : xs.Perm ys) (hxs : (ofTable xs).IsLoaded) :
    (ofTable xs).Alike (ofTable ys) := by
  have hys : (ys.map Prod.fst).Nodup := (h.map Prod.fst).nodup_iff.mp hxs.of_table.1
  refine .table (fun key => (h.map Prod.fst).mem_iff) fun key x y hx hy => ?_
  have hx' := lookup_of_mem hys (h.mem_iff.mp (mem_of_lookup hx))
  obtain rfl := Option.some.inj (hx'.symm.trans hy)
  exact alike_of_ordered (hxs.of_get? hx) (hxs.of_get? hx) rfl

/-! ## Literals of alike data -/

end Datum

open JsonLiteral

/-- An entry as it stands in the literal, given its key and the literal of its value. -/
def JsonLiteral.line (entry : Text × Except EmbedFault Text) : Except EmbedFault Text := do
  return EscapedString.write entry.1 ++ ": ".toList ++ (← entry.2)

/-- The literal of a table is made from its keys and the literals of its values, in the order of
the keys. -/
theorem JsonLiteral.write_ofTable {entries : Table} (hkeys : (entries.map Prod.fst).Nodup) :
    ∃ sorted, sorted.Perm (entries.map fun entry => (entry.1, write entry.2)) ∧
      Sorting.Ordered Prod.fst sorted ∧
      write (.ofTable entries) =
        (sorted.mapM line).map fun lines =>
          ['\x7b'] ++ Text.join ", ".toList lines ++ ['\x7d'] := by
  have hdistinct : ((entries.map fun entry => (entry, write entry.2)).map
      fun x => x.1.1).Nodup := by
    rwa [List.map_map]
  obtain ⟨sorted, hsort, hperm, hordered⟩ := Datum.sortEntries_spec hdistinct
  refine ⟨sorted.map fun x => (x.1.1, x.2), ?_, List.pairwise_map.mpr hordered, ?_⟩
  · have hpairs := hperm.map fun x : (Text × Datum) × Except EmbedFault Text => (x.1.1, x.2)
    rwa [List.map_map] at hpairs
  · rw [Datum.ofTable, write, entriesOf_text, ok_bind, hsort, ok_mapError, ok_bind, List.mapM_map]
    have hline : (line ∘ fun x : Entry => (x.1.1, x.2)) = writeEntry := rfl
    rw [hline]
    cases sorted.mapM writeEntry <;> rfl

/-- Alike data of a file have the same literal, or none for the same reason. -/
theorem Datum.Alike.write_eq {d e : Datum} (h : d.Alike e) (hd : d.IsLoaded) (he : e.IsLoaded) :
    write d = write e := by
  induction h with
  | null | bool | int | float | text => rfl
  | @list xs ys hlength hitems ih =>
      have hsame : xs.map write = ys.map write := by
        refine List.ext_getElem (by simpa using hlength) fun n hx hy => ?_
        rw [List.length_map] at hx hy
        rw [List.getElem_map, List.getElem_map]
        exact ih n _ _ (List.getElem?_eq_getElem hx) (List.getElem?_eq_getElem hy)
          (hd.of_list _ (List.getElem_mem hx)) (he.of_list _ (List.getElem_mem hy))
      have hall : ∀ items : List Datum, items.mapM write = (items.map write).mapM id := by
        intro items
        rw [List.mapM_map, Function.id_comp]
      rw [write, write, writeAll_eq, writeAll_eq, hall, hall, hsame]
  | @table xs ys hkeys hvalues ih =>
      obtain ⟨hxs, -⟩ := hd.of_table
      obtain ⟨hys, -⟩ := he.of_table
      obtain ⟨sorted, hperm, hordered, hwrite⟩ := write_ofTable hxs
      obtain ⟨others, hperm', hordered', hwrite'⟩ := write_ofTable hys
      have hsame := Table.perm_map hxs hys hkeys fun key x y hx hy =>
        ih key x y hx hy (hd.of_get? hx) (he.of_get? hy)
      rw [hwrite, hwrite',
        hordered.eq_of_perm ((hperm.trans hsame).trans hperm'.symm) hordered']

end LintScaffold
