import LintScaffold.Number.Arithmetic
import LintScaffold.Number.Binary64
import LintScaffold.Text.Blank
import LintScaffold.Text.Case

/-!
# Similar texts

How alike two texts are, and the most similar one among several candidates.

Two texts are compared in their normal forms.  Their distance is the number of
characters to delete and insert in order to turn one into the other, which is their
total length less twice the length of a longest common subsequence.  The similarity
is one minus the quotient of distance and total length, a double; the score is one
hundred times that.
-/

namespace LintScaffold.Similarity

/-- The form in which texts are compared: without blanks around it, without regard to
case, and with hyphens for underscores. -/
def normalize (text : Text) : Text :=
  Text.replaceChar '_' '-' (Text.fold (Text.strip text))

/-! ## Longest common subsequence -/

/-- The next row of the table of lengths: for every non-empty initial part of `ys`, the
length of a longest common subsequence with the text read so far, now with `c` at its
end.  `above` is the previous row; `left` and `corner` stand before the current place in
the new and the previous row. -/
def nextRow (c : Char) : (ys : Text) → (above : List Nat) → (left corner : Nat) → List Nat
  | y :: ys, up :: above, left, corner =>
      let longest := if c = y then corner + 1 else if left < up then up else left
      longest :: nextRow c ys above longest up
  | _, _, _, _ => []

/-- The length of a longest common subsequence. -/
def commonLength (xs ys : Text) : Nat :=
  let last := xs.foldl (fun row c => nextRow c ys row 0 0) (List.replicate ys.length 0)
  last.getLastD 0

/-- The number of deletions and insertions between two texts. -/
def distance (xs ys : Text) : Nat := xs.length + ys.length - 2 * commonLength xs ys

/-! ## Scores -/

/-- The number one hundred. -/
def hundred : Binary64 := Binary64.ofRatio false 100 1

/-- The similarity of two texts, between zero and one. -/
def similarity (xs ys : Text) : Binary64 :=
  let total := xs.length + ys.length
  let apart :=
    if total = 0 then Binary64.zero false else Binary64.ofRatio false (distance xs ys) total
  Binary64.sub Binary64.one apart

/-- The score of two texts, if it reaches the cutoff. -/
def score? (cutoff : Binary64) (xs ys : Text) : Option Binary64 :=
  let alike := similarity xs ys
  let score := Binary64.mul alike hundred
  if alike.lt (Binary64.div cutoff hundred) || score.lt cutoff then none else some score

/-- The first candidate with the highest score that reaches the cutoff.  `best` is the
best one so far. -/
def bestOf (cutoff : Binary64) (query : Text) :
    (best : Option (Text × Binary64)) → List Text → Option Text
  | best, [] => best.map Prod.fst
  | best, choice :: rest =>
      match score? cutoff query (normalize choice), best with
      | none, best => bestOf cutoff query best rest
      | some score, none => bestOf cutoff query (some (choice, score)) rest
      | some score, some (other, highest) =>
          if highest.lt score then bestOf cutoff query (some (choice, score)) rest
          else bestOf cutoff query (some (other, highest)) rest

/-- The cutoff is no score. -/
structure CutoffOutOfRange where
  deriving DecidableEq

/-- The wording for a cutoff that is no score. -/
def CutoffOutOfRange.message : CutoffOutOfRange → Text
  | ⟨⟩ => "score_cutoff has to be in the range of 0.0 - 100.0".toList

/-- The candidate that is most similar to `text`, if its similarity reaches `threshold`.
An empty text is similar to nothing. -/
def closest (text : Text) (choices : List Text) (threshold : Binary64) :
    Except CutoffOutOfRange (Option Text) :=
  let query := normalize text
  if query.isEmpty || choices.isEmpty then .ok none
  else
    let cutoff := Binary64.mul threshold hundred
    if cutoff.lt (Binary64.zero false) || hundred.lt cutoff then .error ⟨⟩
    else .ok (bestOf cutoff (normalize query) none choices)

/-- The threshold below which texts do not count as similar, unless told otherwise. -/
def defaultThreshold : Binary64 := Binary64.ofRatio false 6 10

end LintScaffold.Similarity
