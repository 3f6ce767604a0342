import LintScaffold.Association
import LintScaffold.Calendar
import LintScaffold.Number.Limit
import LintScaffold.Number.Binary64
import LintScaffold.Number.Shortest
import LintScaffold.Text.Encoding.Fault
import LintScaffold.Text.Quoted

/-!
# Data

The values that case files, configuration files and callers supply: the scalars,
lists and tables of data formats, dates and times, and the few further containers
that a caller may put into the options of a test case.  A table keeps its entries in
the order in which their keys first came up.
-/

namespace LintScaffold

/-- A key of a table. -/
inductive Key
  | null
  | bool (b : Bool)
  | int (n : Int)
  | float (x : Binary64)
  | text (t : Text)
  deriving DecidableEq

/-- A piece of data. -/
inductive Datum
  | null
  | bool (b : Bool)
  | int (n : Int)
  | float (x : Binary64)
  | text (t : Text)
  | bytes (content : Bytes)
  | moment (m : Moment)
  | list (items : List Datum)
  | tuple (items : List Datum)
  | set (items : List Datum)
  | table (entries : List (Key × Datum))

/-- A table with texts as keys. -/
abbrev Table := List (Text × Datum)

/-! ## Kinds of data -/

/-- The word for the kind of a datum. -/
def Datum.kindName : Datum → String
  | .null => "NoneType"
  | .bool _ => "bool"
  | .int _ => "int"
  | .float _ => "float"
  | .text _ => "str"
  | .bytes _ => "bytes"
  | .moment m => m.kindName
  | .list _ => "list"
  | .tuple _ => "tuple"
  | .set _ => "set"
  | .table _ => "dict"

/-- The full word for the kind of a datum. -/
def Datum.kindPath : Datum → String
  | .moment m => "datetime." ++ m.kindName
  | d => d.kindName

/-- The datum counts as a yes: it is neither null nor false, zero or empty. -/
def Datum.isTruthy : Datum → Bool
  | .null => false
  | .bool b => b
  | .int n => n != 0
  | .float x => !x.isZero
  | .text t => !t.isEmpty
  | .bytes content => !content.isEmpty
  | .moment _ => true
  | .list items => !items.isEmpty
  | .tuple items => !items.isEmpty
  | .set items => !items.isEmpty
  | .table entries => !entries.isEmpty

/-! ## Numbers that are too long to write -/

mutual
/-- Some whole number in the datum has more digits than may be written. -/
def Datum.hasLongNumber : Datum → Bool
  | .int n => isTooLong n
  | .list items => Datum.anyLongNumber items
  | .tuple items => Datum.anyLongNumber items
  | .set items => Datum.anyLongNumber items
  | .table entries => Datum.anyLongEntry entries
  | _ => false

/-- Some datum of a list has a number with too many digits. -/
def Datum.anyLongNumber : List Datum → Bool
  | [] => false
  | item :: rest => item.hasLongNumber || Datum.anyLongNumber rest

/-- Some value of a table has a number with too many digits. -/
def Datum.anyLongEntry : List (Key × Datum) → Bool
  | [] => false
  | (_, item) :: rest => item.hasLongNumber || Datum.anyLongEntry rest
end

/-! ## Display -/

/-- The words for the two truth values. -/
def boolText (b : Bool) : Text := if b then "True".toList else "False".toList

/-- The plain text of a key. -/
def Key.display : Key → Text
  | .null => "None".toList
  | .bool b => boolText b
  | .int n => Text.ofInt n
  | .float x => x.text
  | .text t => t

/-- The text of a key inside a table. -/
def Key.shown : Key → Text
  | .text t => Text.quoted t
  | key => key.display

/-- Bytes between quotation marks, as `b'…'`. -/
def bytesShown (bytes : Bytes) : Text :=
  let text := bytes.map fun b => Char.ofNat b.toNat
  let mark := Text.quoteMark text
  let byteShown (c : Char) : Text :=
    if c.toNat < 0x80 then Text.quoteChar mark c else '\\' :: 'x' :: Text.hexPadded 2 c.toNat
  'b' :: mark :: text.flatMap byteShown ++ [mark]

mutual
/-- The text of a datum inside a list or a table. -/
def Datum.shown : Datum → Text
  | .null => "None".toList
  | .bool b => boolText b
  | .int n => Text.ofInt n
  | .float x => x.text
  | .text t => Text.quoted t
  | .bytes content => bytesShown content
  | .moment m => m.constructorText
  | .list items => ['['] ++ Text.join ", ".toList (Datum.allShown items) ++ [']']
  | .tuple [item] => ['('] ++ item.shown ++ ",)".toList
  | .tuple items => ['('] ++ Text.join ", ".toList (Datum.allShown items) ++ [')']
  | .set [] => "set()".toList
  | .set items => ['\x7b'] ++ Text.join ", ".toList (Datum.allShown items) ++ ['\x7d']
  | .table entries => ['\x7b'] ++ Text.join ", ".toList (Datum.entriesShown entries) ++ ['\x7d']

/-- The texts of the items of a list. -/
def Datum.allShown : List Datum → List Text
  | [] => []
  | item :: rest => item.shown :: Datum.allShown rest

/-- The texts of the entries of a table. -/
def Datum.entriesShown : List (Key × Datum) → List Text
  | [] => []
  | (key, item) :: rest =>
      (key.shown ++ ": ".toList ++ item.shown) :: Datum.entriesShown rest
end

/-- The plain text of a datum: a text is itself, and anything else is shown as inside a
list, save that moments take their plain form. -/
def Datum.display : Datum → Text
  | .text t => t
  | .moment m => m.text
  | d => d.shown

/-! ## Tables -/

/-- Two keys denote the same entry.  Truth values and numbers are compared by value,
whatever their kind. -/
def Key.same (a b : Key) : Bool :=
  let number? : Key → Option (Int ⊕ Binary64)
    | .bool b => some (.inl (if b then 1 else 0))
    | .int n => some (.inl n)
    | .float x => some (.inr x)
    | _ => none
  match number? a, number? b with
  | some (.inl m), some (.inl n) => m = n
  | some (.inl m), some (.inr x) => x.isEqualTo m
  | some (.inr x), some (.inl n) => x.isEqualTo n
  | some (.inr x), some (.inr y) => x.eq y
  | none, none => a = b
  | _, _ => false

/-- The datum under a text key. -/
def Table.get? (table : Table) (key : Text) : Option Datum := table.lookup key

/-- The entries that stand under texts. -/
def Table.ofEntries (entries : List (Key × Datum)) : Table :=
  entries.filterMap fun (key, d) =>
    match key with
    | .text t => some (t, d)
    | _ => none

/-- A table as a datum. -/
def Datum.ofTable (table : Table) : Datum := .table (table.map fun (key, d) => (.text key, d))

end LintScaffold
