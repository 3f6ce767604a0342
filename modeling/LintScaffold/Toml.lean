import LintScaffold.Text.Lines
import LintScaffold.Toml.Value

/-!
# TOML documents

A document is a sequence of lines.  A line assigns a value to a name, opens a table, or
adds a table to an array of tables; assignments belong to the table that was opened last.
It is a mistake to open a table twice, to assign to a name twice, and to add to what is
complete.
-/

namespace LintScaffold.Toml

/-- What has been read of a document: the table at the top, what has been written about
routes, and the route of the table that assignments belong to. -/
structure Progress where
  entries : Entries
  marks : Marks
  header : Route

namespace Progress

/-- The start of a document. -/
def start : Progress := ⟨[], .empty, []⟩

/-! ## Assignments -/

/-- Notes the tables that a name with dots goes through: none of them may have been opened
elsewhere. -/
def passThrough (marks : Marks) (header : Route) : Route → Except Mistake Marks
  | [] => .ok marks
  | name :: route =>
      let here := header ++ [name]
      if marks.isOpened here then .error (.redefined here)
      else passThrough (marks.openLater here) here route

/-- Assigns a value to a name. -/
def assign (progress : Progress) (route : Route) (d : Datum) : Except Mistake Progress := do
  let marks ← passThrough progress.marks progress.header route.dropLast
  let table := progress.header ++ route.dropLast
  if marks.isComplete table then .error (.complete table)
  else
    let entries ← changeAt true (addEntry (route.getLast?.getD []) d .occupied) table
      progress.entries
    return ⟨entries, marks.note (progress.header ++ route) d, progress.header⟩

/-! ## Headers -/

/-- Opens a table. -/
def openTable (progress : Progress) (route : Route) : Except Mistake Progress :=
  if progress.marks.isOpened route || progress.marks.isComplete route then
    .error (.declaredTwice route)
  else do
    let entries ← changeAt true .ok route progress.entries
    return ⟨entries, progress.marks.declare route, route⟩

/-- Adds a table to an array of tables and opens it. -/
def openNewTable (progress : Progress) (route : Route) : Except Mistake Progress :=
  if progress.marks.isComplete route then .error (.complete route)
  else do
    let entries ← changeAt true (addTable (route.getLast?.getD [])) route.dropLast
      progress.entries
    return ⟨entries, (progress.marks.forget route).declare route, route⟩

/-- Ends the section of the table that was opened last. -/
def endSection (progress : Progress) : Progress :=
  { progress with marks := progress.marks.endSection }

end Progress

/-! ## Reading -/

/-- Reads an assignment. -/
def readAssignment (progress : Progress) (text : Text) : Except Fault (Progress × Text) := do
  let (route, rest) ← readAssigned text
  let (d, rest) ← readValue (2 * rest.length + 2) rest
  let progress ← (progress.assign route d).mapError (.mistaken · rest.length)
  return (progress, rest)

/-- Reads a header that ends with `mark`; without that the mistake is `unended`. -/
def readHeader (take : Route → Except Mistake Progress) (mark : Text) (unended : Mistake)
    (text : Text) : Except Fault (Progress × Text) := do
  let text := skipBlanks text
  let (route, rest) ← readRoute (text.length + 1) text
  let progress ← (take route).mapError (.mistaken · rest.length)
  match Text.dropStart? mark rest with
  | some rest => return (progress, rest)
  | none => .error (.mistaken unended rest.length)

/-- The character begins a name. -/
def beginsName (c : Char) : Bool := isBare c || c = '"' || c = '\''

/-- Reads a statement, if the line has one. -/
def readStatement (progress : Progress) (text : Text) : Except Fault (Progress × Text) :=
  match text with
  | [] => .ok (progress, [])
  | '[' :: '[' :: rest =>
      readHeader progress.endSection.openNewTable [']', ']'] .noTableArrayEnd rest
  | '[' :: rest => readHeader progress.endSection.openTable [']'] .noTableEnd rest
  | c :: rest =>
      if beginsName c then readAssignment progress (c :: rest)
      else if c = '\n' || c = '#' then .ok (progress, c :: rest)
      else .error (.mistaken .noStatement (rest.length + 1))

/-- Reads the lines that are left, of which there are fewer than `fuel`. -/
def readLines : (fuel : Nat) → Progress → Text → Except Fault Progress
  | 0, progress, _ => .ok progress
  | fuel + 1, progress, text => do
      let (progress, rest) ← readStatement progress (skipBlanks text)
      match ← skipComment (skipBlanks rest) with
      | [] => return progress
      | '\n' :: rest => readLines fuel progress rest
      | rest => .error (.mistaken .noLineEnd rest.length)

/-- The table that a document holds; a carriage return before a line feed belongs to the
line break. -/
def read (text : Text) : Except Fault Table := do
  let text := Text.dropReturns text
  let progress ← readLines (Text.lineFeeds text + 2) .start text
  return Table.ofEntries progress.entries

/-- The wording of a fault of a document. -/
def Fault.message (text : Text) : Fault → Text
  | .mistaken mistake left => mistake.report (Text.dropReturns text) left
  | .tooManyDigits count => tooManyDigitsMessage count

end LintScaffold.Toml
