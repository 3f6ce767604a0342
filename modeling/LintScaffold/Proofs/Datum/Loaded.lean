import LintScaffold.Proofs.Rust.Value

/-!
# Data that come from files

A JSON text cannot say infinity, but it can write a number that is too great for a double, and
such a number is read as infinity.  Apart from that the data of a file are data of JSON:
`Datum.IsLoaded` admits what they can be.  Hence there is one thing only that can keep such a
datum from being written, and `IsLoaded.write` says so: it has no literal exactly if there is an
infinite number somewhere in it.
-/

namespace LintScaffold.Datum

/-- The datum can come from a file. -/
inductive IsLoaded : Datum → Prop
  | null : IsLoaded .null
  | bool (b : Bool) : IsLoaded (.bool b)
  | int {n : Int} (hlong : isTooLong n = false) : IsLoaded (.int n)
  | float (negative : Bool) (rank : Nat) : IsLoaded (.float (.ofRank negative rank))
  | text (t : Text) : IsLoaded (.text t)
  | list {items : List Datum} (hitems : ∀ item ∈ items, IsLoaded item) : IsLoaded (.list items)
  | table {entries : Table} (hkeys : (entries.map Prod.fst).Nodup)
      (hitems : ∀ entry ∈ entries, IsLoaded entry.2) : IsLoaded (.ofTable entries)

mutual
/-- Some number in the datum is infinite. -/
def hasInfinite : Datum → Bool
  | .float (.infinite _) => true
  | .list items => anyInfinite items
  | .table entries => anyInfiniteEntry entries
  | _ => false

/-- Some datum of a list has an infinite number in it. -/
def anyInfinite : List Datum → Bool
  | [] => false
  | item :: rest => item.hasInfinite || anyInfinite rest

/-- Some value of a table has an infinite number in it. -/
def anyInfiniteEntry : List (Key × Datum) → Bool
  | [] => false
  | (_, item) :: rest => item.hasInfinite || anyInfiniteEntry rest
end

theorem anyInfinite_eq (items : List Datum) : anyInfinite items = items.any hasInfinite := by
  induction items with
  | nil => rfl
  | cons item rest ih => rw [anyInfinite, ih, List.any_cons]

theorem anyInfiniteEntry_eq (entries : List (Key × Datum)) :
    anyInfiniteEntry entries = entries.any fun entry => entry.2.hasInfinite := by
  induction entries with
  | nil => rfl
  | cons entry rest ih => rw [anyInfiniteEntry, ih, List.any_cons]

theorem hasInfinite_ofTable (entries : Table) :
    (ofTable entries).hasInfinite = entries.any fun entry => entry.2.hasInfinite := by
  rw [ofTable, hasInfinite, anyInfiniteEntry_eq, List.any_map]
  rfl

/-- A datum from a file is one of JSON unless there is an infinite number in it. -/
theorem IsLoaded.isJson {d : Datum} (h : d.IsLoaded) (hfinite : d.hasInfinite = false) :
    d.IsJson := by
  induction h with
  | null => exact .null
  | bool b => exact .bool b
  | int hlong => exact .int hlong
  | float negative rank =>
      unfold Binary64.ofRank at hfinite ⊢
      split at hfinite
      · rename_i hrank
        rw [if_pos hrank]
        exact .float negative hrank
      · exact absurd hfinite.symm Bool.false_ne_true
  | text t => exact .text t
  | list hitems ih =>
      rw [hasInfinite, anyInfinite_eq, List.any_eq_false] at hfinite
      exact .list fun item hitem => ih item hitem (Bool.eq_false_iff.mpr (hfinite item hitem))
  | table hkeys hitems ih =>
      rw [hasInfinite_ofTable, List.any_eq_false] at hfinite
      exact .table hkeys fun entry hentry =>
        ih entry hentry (Bool.eq_false_iff.mpr (hfinite entry hentry))

/-! ## Writing -/

/-- An infinite number is to be embedded. -/
def IsInfinite (fault : EmbedFault) : Prop :=
  ∃ negative, fault = .notFinite (.infinite negative)

open JsonLiteral in
/-- A datum from a file has a literal unless there is an infinite number in it. -/
theorem IsLoaded.write {d : Datum} (h : d.IsLoaded) :
    FailsIf IsInfinite d.hasInfinite (write d) := by
  induction h with
  | null => exact rfl
  | bool b => exact rfl
  | int hlong =>
      rw [JsonLiteral.write, hlong]
      exact rfl
  | float negative rank =>
      unfold Binary64.ofRank
      split
      · exact rfl
      · exact ⟨rfl, negative, rfl⟩
  | text t => exact rfl
  | @list items hitems ih =>
      rw [hasInfinite, anyInfinite_eq, JsonLiteral.write, writeAll_eq]
      exact (failsIf_mapM ih).bind_pure fun texts => ['['] ++ Text.join ", ".toList texts ++ [']']
  | @table entries hkeys hitems ih =>
      -- the entries are sorted before they are written, but there are infinite numbers in the
      -- same ones
      obtain ⟨sorted, hperm, hsort, -⟩ :=
        exists_sorted (fun entry => JsonLiteral.write entry.2) hkeys
      have hlines : ∀ entry ∈ sorted, FailsIf IsInfinite entry.2.hasInfinite
          (writeEntry (entry, JsonLiteral.write entry.2)) := fun entry hentry =>
        (ih entry (hperm.mem_iff.mp hentry)).bind_pure
          fun text => EscapedString.write entry.1 ++ ": ".toList ++ text
      have hbody := (failsIf_mapM hlines).bind_pure
        fun lines => ['\x7b'] ++ Text.join ", ".toList lines ++ ['\x7d']
      rw [hasInfinite_ofTable, ← hperm.any_eq, ofTable, JsonLiteral.write, entriesOf_text]
      dsimp only [bind, Except.bind]
      rw [hsort]
      dsimp only [ok_mapError]
      rw [List.mapM_map]
      exact hbody

end LintScaffold.Datum
