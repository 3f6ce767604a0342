import LintScaffold.Datum
import LintScaffold.Datum.Sorting

/-!
# Order of data

Comparison of data, as far as it goes: numbers with numbers, texts with texts, lists
with lists item by item.  Other pairs have no order.  It is needed where two entries
of a table have keys with the same text and are put in order by their values.
-/

namespace LintScaffold

/-- Two data that have no order. -/
structure Unordered where
  left : String
  right : String
  deriving DecidableEq

/-- The wording of a comparison that is not possible. -/
def Unordered.message (fault : Unordered) : Text :=
  Text.join [] ["'<' not supported between instances of '".toList, fault.left.toList,
    "' and '".toList, fault.right.toList, ['\'']]

namespace Datum

/-- The number that a datum stands for; truth values are zero and one. -/
def number? : Datum → Option (Int ⊕ Binary64)
  | .bool b => some (.inl (if b then 1 else 0))
  | .int n => some (.inl n)
  | .float x => some (.inr x)
  | _ => none

/-- Two numbers are equal. -/
def numbersEqual : Int ⊕ Binary64 → Int ⊕ Binary64 → Bool
  | .inl m, .inl n => m = n
  | .inl m, .inr x => x.isEqualTo m
  | .inr x, .inl n => x.isEqualTo n
  | .inr x, .inr y => x.eq y

/-- The first number is less. -/
def numberLess : Int ⊕ Binary64 → Int ⊕ Binary64 → Bool
  | .inl m, .inl n => m < n
  | .inl m, .inr x => x.compareInt? m = some .gt
  | .inr x, .inl n => x.compareInt? n = some .lt
  | .inr x, .inr y => x.lt y

mutual
/-- Two data are equal.  The order of the entries of a table does not matter. -/
def same : Datum → Datum → Bool
  | .null, .null => true
  | .text s, .text t => s = t
  | .bytes s, .bytes t => s = t
  | .moment s, .moment t => s = t
  | .list xs, .list ys => sameItems xs ys
  | .tuple xs, .tuple ys => sameItems xs ys
  | .set xs, .set ys => xs.length = ys.length && allAmong xs ys
  | .table xs, .table ys => xs.length = ys.length && entriesAmong xs ys
  | x, y =>
      match number? x, number? y with
      | some m, some n => numbersEqual m n
      | _, _ => false

/-- Two lists of data are equal item by item. -/
def sameItems : List Datum → List Datum → Bool
  | [], [] => true
  | x :: xs, y :: ys => same x y && sameItems xs ys
  | _, _ => false

/-- Every item of the first list is equal to some item of the second. -/
def allAmong : List Datum → List Datum → Bool
  | [], _ => true
  | x :: xs, ys => ys.any (same x) && allAmong xs ys

/-- Every entry of the first table is an entry of the second. -/
def entriesAmong : List (Key × Datum) → List (Key × Datum) → Bool
  | [], _ => true
  | (key, x) :: xs, ys =>
      (ys.any fun (other, y) => key.same other && same x y) && entriesAmong xs ys
end

mutual
/-- The first datum is less than the second. -/
def less : Datum → Datum → Except Unordered Bool
  | .text s, .text t => .ok (Text.before s t)
  | .bytes _, .bytes _ => .ok false
  | .set _, .set _ => .ok false
  | .list xs, .list ys => lessItems xs ys
  | .tuple xs, .tuple ys => lessItems xs ys
  | x, y =>
      match number? x, number? y with
      | some m, some n => .ok (numberLess m n)
      | _, _ => .error ⟨x.kindName, y.kindName⟩

/-- The first list is less than the second: decided where they first differ, or by
length. -/
def lessItems : List Datum → List Datum → Except Unordered Bool
  | [], [] => .ok false
  | [], _ :: _ => .ok true
  | _ :: _, [] => .ok false
  | x :: xs, y :: ys => if same x y then lessItems xs ys else less x y
end

/-- The first entry comes before the second: by the text of the key, then by value. -/
def entryLess (x y : Text × Datum) : Except Unordered Bool :=
  if x.1 = y.1 then (if same x.2 y.2 then .ok false else less x.2 y.2)
  else .ok (Text.before x.1 y.1)

/-- The entries in ascending order.  Whatever is attached to an entry goes along with it. -/
def sortEntries {α : Type} (entries : List ((Text × Datum) × α)) :
    Except Unordered (List ((Text × Datum) × α)) :=
  Sorting.sort (fun x y => entryLess x.1 y.1) entries

end Datum
end LintScaffold
