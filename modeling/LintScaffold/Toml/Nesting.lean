import LintScaffold.Toml.Fault

/-!
# Tables within tables

A route leads through tables that may come into being on the way.  Where an array of tables
stands on the way, the route goes on through the last of them.  This module changes the
table that a route leads to, and keeps track of which routes have been opened and which
lead to something complete.
-/

namespace LintScaffold.Toml

/-! ## Changing a table -/

/-- The entries of a table, in the order in which they came up. -/
abbrev Entries := List (Key × Datum)

/-- The entry of a name. -/
def Entries.get? (entries : Entries) (name : Text) : Option Datum := entries.lookup (.text name)

/-- The entries with `name` set. -/
def Entries.set (entries : Entries) (name : Text) (d : Datum) : Entries :=
  setEntry (· == ·) (.text name) d entries

/-- Changes the table that a datum is or, if `throughArrays` holds, the last table of the
array that it is. -/
def changeNested (throughArrays : Bool) (change : Entries → Except Mistake Entries) :
    Datum → Except Mistake Datum
  | .table entries => .table <$> change entries
  | .list items =>
      match throughArrays, items.getLast? with
      | true, some (.table entries) => do
          return .list (items.dropLast ++ [.table (← change entries)])
      | _, _ => .error .occupied
  | _ => .error .occupied

/-- Changes the table that a route leads to.  Tables that are missing on the way come into
being; anything else on the way is in the way. -/
def changeAt (throughArrays : Bool) (change : Entries → Except Mistake Entries) :
    Route → Entries → Except Mistake Entries
  | [], entries => change entries
  | name :: route, entries => do
      let nested ← changeNested throughArrays (changeAt throughArrays change route)
        ((entries.get? name).getD (.table []))
      return entries.set name nested

/-- Adds an entry, which must not be there; if it is, that is the mistake `taken`. -/
def addEntry (name : Text) (d : Datum) (taken : Mistake) (entries : Entries) :
    Except Mistake Entries :=
  match entries.get? name with
  | some _ => .error taken
  | none => .ok (entries.set name d)

/-- Adds an empty table to the array of tables under a name. -/
def addTable (name : Text) (entries : Entries) : Except Mistake Entries :=
  match entries.get? name with
  | none => .ok (entries.set name (.list [.table []]))
  | some (.list items) => .ok (entries.set name (.list (items ++ [.table []])))
  | some _ => .error .occupied

/-! ## Keeping track -/

/-- What has been written about routes: those that have been opened, those that will count
as opened once the current section ends, and those that lead to something complete. -/
structure Marks where
  opened : List Route
  opening : List Route
  complete : List Route

namespace Marks

/-- Nothing has been written. -/
def empty : Marks := ⟨[], [], []⟩

/-- The route has been opened. -/
def isOpened (marks : Marks) (route : Route) : Bool := marks.opened.contains route

/-- The route leads into something complete. -/
def isComplete (marks : Marks) (route : Route) : Bool :=
  marks.complete.any fun inner => inner.isPrefixOf route

/-- Opens a route. -/
def declare (marks : Marks) (route : Route) : Marks :=
  { marks with opened := route :: marks.opened }

/-- Opens a route once the current section ends. -/
def openLater (marks : Marks) (route : Route) : Marks :=
  { marks with opening := route :: marks.opening }

/-- Ends a section. -/
def endSection (marks : Marks) : Marks :=
  { marks with opened := marks.opening ++ marks.opened, opening := [] }

/-- Notes that a route leads to a datum; tables and arrays that are written out are
complete. -/
def note (marks : Marks) (route : Route) : Datum → Marks
  | .table _ => { marks with complete := route :: marks.complete }
  | .list _ => { marks with complete := route :: marks.complete }
  | _ => marks

/-- Forgets what has been written about a route and all that it leads to. -/
def forget (marks : Marks) (route : Route) : Marks :=
  let stays (other : Route) : Bool := !route.isPrefixOf other
  { marks with opened := marks.opened.filter stays, complete := marks.complete.filter stays }

end Marks
end LintScaffold.Toml
