import LintScaffold.Toml.Moment
import LintScaffold.Toml.Nesting
import LintScaffold.Toml.Numeral
import LintScaffold.Toml.Quoted

/-!
# TOML values

Reading names, values, arrays and inline tables.  An array may go over several lines and
hold comments; an inline table may not.  What is written out in one place is complete: an
inline table is not added to from elsewhere, and within an inline table a table or an array
is complete once another entry follows it.

The reader consumes at least one character between two calls of the same function, so that
a bound on the depth of calls which is twice the length of the text is never reached.
-/

namespace LintScaffold.Toml

/-! ## Comments -/

/-- The text behind a comment, if one begins here. -/
def skipComment (text : Text) : Except Fault Text :=
  match text with
  | '#' :: rest => do
      checkControls false rest.length (rest.takeWhile (· ≠ '\n'))
      return rest.dropWhile (· ≠ '\n')
  | _ => .ok text

/-- The text behind blanks, line breaks and comments; `fuel` bounds the number of
comments. -/
def skipGaps : (fuel : Nat) → Text → Except Fault Text
  | 0, text => .ok text
  | fuel + 1, text =>
      match text.dropWhile fun c => isBlank c || c = '\n' with
      | '#' :: rest => do skipGaps fuel (← skipComment ('#' :: rest))
      | rest => .ok rest

/-! ## Names -/

/-- A character of a name without quotation marks. -/
def isBare (c : Char) : Bool :=
  Text.isAsciiLetter c || Text.isAsciiDigit c || c = '-' || c = '_'

/-- Reads one part of a name with dots. -/
def readName (text : Text) : Except Fault (Text × Text) :=
  match text.takeWhile isBare with
  | [] => (readLineString? text).getD (.error (.mistaken .noKey text.length))
  | name => .ok (name, text.dropWhile isBare)

/-- Reads a name with dots, of which there are fewer than `fuel`, and the blanks behind
it. -/
def readRoute : (fuel : Nat) → Text → Except Fault (Route × Text)
  | 0, text => .error (.mistaken .noKey text.length)
  | fuel + 1, text => do
      let (name, rest) ← readName text
      match skipBlanks rest with
      | '.' :: rest =>
          let (route, rest) ← readRoute fuel (skipBlanks rest)
          return (name :: route, rest)
      | rest => return ([name], rest)

/-- Reads a name with dots and the equals sign behind it, with the blanks around. -/
def readAssigned (text : Text) : Except Fault (Route × Text) := do
  let (route, rest) ← readRoute text.length text
  match rest with
  | '=' :: rest => return (route, skipBlanks rest)
  | rest => .error (.mistaken .noEquals rest.length)

/-! ## Values -/

/-- The words for truth values. -/
def words : List (String × Datum) := [("true", .bool true), ("false", .bool false)]

/-- Reads a value that is neither an array nor a table. -/
def readScalar (text : Text) : Except Fault (Datum × Text) :=
  match readString? text with
  | some outcome => do
      let (t, rest) ← outcome
      return (.text t, rest)
  | none =>
      match words.findSome? fun (word, d) => (Text.dropStart? word.toList text).map (d, ·) with
      | some result => .ok result
      | none =>
          match readMoment? text with
          | some outcome => outcome
          | none => (readNumber? text).getD (.error (.mistaken .noValue text.length))

/-- Puts an entry of an inline table where its route leads. -/
def addInline (route : Route) (d : Datum) (entries : Entries) : Except Mistake Entries :=
  match route.getLast? with
  | none => .error .occupied
  | some name => changeAt false (addEntry name d (.repeated name)) route.dropLast entries

mutual
/-- Reads one value. -/
def readValue : (depth : Nat) → Text → Except Fault (Datum × Text)
  | 0, text => .error (.mistaken .noValue text.length)
  | depth + 1, text =>
      match text with
      | '[' :: rest => do
          let (items, rest) ← readItems depth rest
          return (.list items, rest)
      | '\x7b' :: rest =>
          match skipBlanks rest with
          | '\x7d' :: rest => .ok (.table [], rest)
          | rest => do
              let (entries, rest) ← readEntries depth .empty [] rest
              return (.table entries, rest)
      | text => readScalar text

/-- Reads the items of an array that are left, up to its end. -/
def readItems : (depth : Nat) → Text → Except Fault (List Datum × Text)
  | 0, text => .error (.mistaken .noValue text.length)
  | depth + 1, text => do
      match ← skipGaps (text.length + 1) text with
      | ']' :: rest => return ([], rest)
      | rest =>
          let (item, rest) ← readValue depth rest
          match ← skipGaps (rest.length + 1) rest with
          | ']' :: rest => return ([item], rest)
          | ',' :: rest =>
              let (items, rest) ← readItems depth rest
              return (item :: items, rest)
          | rest => .error (.mistaken .openArray rest.length)

/-- Reads the entries of an inline table that are left, up to its end; `marks` and
`entries` tell what has been read. -/
def readEntries : (depth : Nat) → Marks → Entries → Text → Except Fault (Entries × Text)
  | 0, _, _, text => .error (.mistaken .noKey text.length)
  | depth + 1, marks, entries, text => do
      let (route, rest) ← readAssigned text
      let (d, rest) ← readValue depth rest
      if marks.isComplete route then .error (.mistaken (.complete route) rest.length)
      else
        let entries ← (addInline route d entries).mapError (.mistaken · rest.length)
        match skipBlanks rest with
        | '\x7d' :: rest => return (entries, rest)
        | ',' :: rest => readEntries depth (marks.note route d) entries (skipBlanks rest)
        | rest => .error (.mistaken .openInlineTable rest.length)
end

end LintScaffold.Toml
