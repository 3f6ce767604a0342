/-!
# Sorting by comparisons that may fail

Puts items in order by asking a question about two of them at a time: does the one come
before the other?  The question may have no answer, and then there is no order.

The longest start of the list that is in ascending order, or in strictly descending order,
is taken over as a whole.  Every further item is put in its place among the items before
it, which is found by bisection, behind those that it does not precede.
-/

namespace LintScaffold.Sorting

variable {α ε : Type} (before : α → α → Except ε Bool)

/-- The items that go on in ascending order after `last`, and the rest. -/
def ascending (last : α) : List α → Except ε (List α × List α)
  | [] => .ok ([], [])
  | item :: rest => do
      if ← before item last then return ([], item :: rest)
      else
        let (run, rest) ← ascending item rest
        return (item :: run, rest)

/-- The items that go on in strictly descending order after `last`, and the rest. -/
def descending (last : α) : List α → Except ε (List α × List α)
  | [] => .ok ([], [])
  | item :: rest => do
      if ← before item last then
        let (run, rest) ← descending item rest
        return (item :: run, rest)
      else return ([], item :: rest)

/-- The start of a list that is in order, put in ascending order, and the rest. -/
def start : List α → Except ε (List α × List α)
  | [] => .ok ([], [])
  | [item] => .ok ([item], [])
  | first :: second :: rest => do
      if ← before second first then
        let (run, rest) ← descending before second rest
        return (run.reverse ++ [second, first], rest)
      else
        let (run, rest) ← ascending before second rest
        return (first :: second :: run, rest)

/-- The place of an item among sorted ones, known to lie between `low` and `high`; `fuel`
bounds the number of questions. -/
def place (item : α) (sorted : List α) : (fuel low high : Nat) → Except ε Nat
  | 0, low, _ => .ok low
  | fuel + 1, low, high =>
      let middle := low + (high - low) / 2
      match sorted[middle]? with
      | none => .ok low
      | some other => do
          if high ≤ low then return low
          else if ← before item other then place item sorted fuel low middle
          else place item sorted fuel (middle + 1) high

/-- Puts an item in its place among sorted ones. -/
def insert (sorted : List α) (item : α) : Except ε (List α) := do
  let n ← place before item sorted (sorted.length + 1) 0 sorted.length
  return sorted.take n ++ item :: sorted.drop n

/-- The items in ascending order. -/
def sort (items : List α) : Except ε (List α) := do
  let (sorted, rest) ← start before items
  rest.foldlM (insert before) sorted

end LintScaffold.Sorting
