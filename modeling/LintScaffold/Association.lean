/-!
# Association lists

Lists of keys with values, in which a key that is set again keeps its place.
-/

namespace LintScaffold

/-- The entries with `key` set to `value`: in place if the key is there, else at the
end. -/
def setEntry {α β : Type} (same : α → α → Bool) (key : α) (value : β) :
    List (α × β) → List (α × β)
  | [] => [(key, value)]
  | (other, old) :: rest =>
      if same other key then (other, value) :: rest
      else (other, old) :: setEntry same key value rest

/-- The table with the given entries, the last value of a repeated key counting. -/
def tableOf {α β : Type} (same : α → α → Bool) (entries : List (α × β)) : List (α × β) :=
  entries.foldl (fun table (key, value) => setEntry same key value table) []

/-- Setting an entry changes what is found under its key, and nothing else. -/
theorem lookup_setEntry {α β : Type} [BEq α] [LawfulBEq α] (key other : α) (value : β)
    (entries : List (α × β)) :
    (setEntry (· == ·) key value entries).lookup other =
      if other == key then some value else entries.lookup other := by
  induction entries with
  | nil => simp only [setEntry, List.lookup_cons, List.lookup_nil]; grind
  | cons entry rest ih => grind [setEntry]

end LintScaffold
