import LintScaffold.Text.Basic

/-!
# Tables of characters

Two shapes of table for properties of characters: sorted ranges of code points
for a yes-or-no property, and sorted runs for a mapping that moves neighbouring
characters by the same distance.
-/

namespace LintScaffold.Text

/-- Ranges of code points `(first, last)`, ascending and without overlap. -/
abbrev CharTable := List (Nat × Nat)

/-- Some range holds the code point.  The search ends at the first range that begins
beyond it. -/
def CharTable.holdsCode : CharTable → Nat → Bool
  | [], _ => false
  | (first, last) :: rest, n =>
      if n < first then false else if n ≤ last then true else holdsCode rest n

/-- Some range of the table holds the character. -/
def CharTable.holds (table : CharTable) (c : Char) : Bool := table.holdsCode c.toNat

/-- The code points `first`, `first + stride`, … up to `last`, which map in order to
`target`, `target + stride`, … -/
structure CaseRun where
  first : Nat
  last : Nat
  stride : Nat
  target : Nat

/-- The code point to which the runs map `n`, if they do. -/
def CaseRun.find? : List CaseRun → Nat → Option Nat
  | [], _ => none
  | run :: rest, n =>
      if n < run.first then none
      else if n ≤ run.last then
        if (n - run.first) % run.stride = 0 then some (run.target + (n - run.first))
        else find? rest n
      else find? rest n

end LintScaffold.Text
