import LintScaffold.Text.Basic
import LintScaffold.Text.Compatible.Table

/-!
# Compatible forms of names

Two spellings of a name may look different and still name the same variable: a ligature and
the letters it is made of, a letter with an accent and the two written one after the other,
a letter of double width and a plain one.  The compatible form of a name is the same for all
of them.  The name is taken apart into basic characters, marks behind a character are put
into the order of their classes, and then characters are put together again.

A name of seven-bit characters is its own compatible form.
-/

namespace LintScaffold.Text.Compatible

/-! ## Reading the tables -/

/-- The number that hexadecimal digits write. -/
def hexNumber (digits : Text) : Nat := ofDigits 16 (digits.filterMap hexValue?)

/-- The rows of a table. -/
def rowsOf (lines : List String) : List (List Nat) :=
  lines.flatMap fun line =>
    (splitAt ',' line.toList).map fun row => (splitAt ' ' row).map hexNumber

/-- The rows of characters that stand for others. -/
def moved : List (List Nat) := rowsOf movedRows

/-- The rows of characters that are made of several. -/
def spread : List (List Nat) := rowsOf spreadRows

/-- The rows of pairs that make up a character. -/
def joined : List (List Nat) := rowsOf joinedRows

/-- The rows of the classes of marks. -/
def classes : List (List Nat) := rowsOf classRows

/-- The third number of the row whose first two numbers enclose a code point, and that row's
first number. -/
def enclosing? (rows : List (List Nat)) (n : Nat) : Option (Nat × Nat) :=
  rows.findSome? fun row =>
    match row with
    | [first, last, target] => if first ≤ n ∧ n ≤ last then some (first, target) else none
    | _ => none

/-! ## Syllables

Syllables of the Korean script are numbered by their first, second and third parts. -/

/-- The code point of the first syllable. -/
def syllableBase : Nat := 0xac00

/-- The code points of the first parts, and before the first of the second and third parts. -/
def partBases : Nat × Nat × Nat := (0x1100, 0x1161, 0x11a7)

/-- The numbers of second and third parts. -/
def partCounts : Nat × Nat := (21, 28)

/-- The number of syllables. -/
def syllableCount : Nat := 11172

/-- The parts of a syllable. -/
def syllableParts? (n : Nat) : Option (List Nat) :=
  if syllableBase ≤ n ∧ n < syllableBase + syllableCount then
    let i := n - syllableBase
    let third := i % partCounts.2
    let rest := i / partCounts.2
    let parts := [partBases.1 + rest / partCounts.1, partBases.2.1 + rest % partCounts.1]
    some (if third = 0 then parts else parts ++ [partBases.2.2 + third])
  else none

/-- The syllable that two parts, or a syllable and a third part, make up. -/
def syllable? (a b : Nat) : Option Nat :=
  let (first, second, third) := partBases
  let (seconds, thirds) := partCounts
  if first ≤ a ∧ a < first + 19 ∧ second ≤ b ∧ b < second + seconds then
    some (syllableBase + ((a - first) * seconds + (b - second)) * thirds)
  else if syllableBase ≤ a ∧ a < syllableBase + syllableCount ∧
      (a - syllableBase) % thirds = 0 ∧ third < b ∧ b < third + thirds then
    some (a + (b - third))
  else none

/-! ## Taking apart and putting together -/

/-- The basic characters of which a character is made. -/
def parts (n : Nat) : List Nat :=
  match syllableParts? n with
  | some parts => parts
  | none =>
      match enclosing? moved n with
      | some (first, target) => [target + (n - first)]
      | none => (spread.findSome? fun row => if row.head? = some n then row.tail? else none).getD [n]

/-- The class of a mark; other characters have the class zero. -/
def markClass (n : Nat) : Nat := ((enclosing? classes n).map Prod.snd).getD 0

/-- Puts a mark, given with its class, in front of those that may not stand before it. -/
def insertMark (mark : Nat × Nat) : List (Nat × Nat) → List (Nat × Nat)
  | [] => [mark]
  | other :: rest =>
      if other.1 ≠ 0 ∧ other.1 < mark.1 then other :: insertMark mark rest
      else mark :: other :: rest

/-- Characters with their classes, the marks behind each character in the order of their
classes. -/
def ordered (codes : List Nat) : List (Nat × Nat) :=
  codes.foldr (fun n sorted =>
    let mark := (markClass n, n)
    if mark.1 = 0 then mark :: sorted else insertMark mark sorted) []

/-- The character that two characters make up. -/
def join? (a b : Nat) : Option Nat :=
  match syllable? a b with
  | some n => some n
  | none =>
      joined.findSome? fun row =>
        match row with
        | [first, second, whole] => if first = a ∧ second = b then some whole else none
        | _ => none

/-- Puts characters together, behind a character `base` and the marks that stay behind it, the
last one first. -/
def compose (base : Nat) (marks : List (Nat × Nat)) : List (Nat × Nat) → List Nat
  | [] => base :: (marks.reverse.map Prod.snd)
  | (rank, n) :: rest =>
      let isBlocked :=
        match marks with
        | [] => false
        | (last, _) :: _ => decide (rank ≤ last) || rank = 0
      match if isBlocked then none else join? base n with
      | some whole => compose whole marks rest
      | none =>
          if rank = 0 then base :: (marks.reverse.map Prod.snd) ++ compose n [] rest
          else compose base ((rank, n) :: marks) rest

/-- Puts characters together. -/
def composed : List (Nat × Nat) → List Nat
  | [] => []
  | (rank, n) :: rest => if rank = 0 then compose n [] rest else n :: composed rest

end Compatible

/-- All characters are seven-bit characters. -/
def isSevenBit (text : Text) : Bool := text.all fun c => c.toNat < 0x80

/-- The compatible form of a name. -/
def compatible (name : Text) : Text :=
  if isSevenBit name then name
  else
    (Compatible.composed (Compatible.ordered
      (name.flatMap fun c => Compatible.parts c.toNat))).map Char.ofNat

end LintScaffold.Text
