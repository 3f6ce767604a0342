import LintScaffold.Datum
import LintScaffold.Text.Lines

/-!
# Faults of TOML documents

What can be wrong with a TOML document, and where.  A place is kept as the number of
characters from there to the end of the document.
-/

namespace LintScaffold.Toml

/-- The names that lead from the top of a document to an entry. -/
abbrev Route := List Text

/-- A mistake in a document. -/
inductive Mistake
  | noStatement
  | noLineEnd
  | noKey
  | noEquals
  | noValue
  | noTableEnd
  | noTableArrayEnd
  | openArray
  | openInlineTable
  | openString
  /-- What has to come up to the end of a string or of a line never does. -/
  | missing (mark : Text)
  /-- A control character stands in a literal string or in a comment. -/
  | foundControl (c : Char)
  /-- A control character stands in a string with escapes. -/
  | illegalControl (c : Char)
  | loneBackslash
  | badHex
  | noScalar
  | badDate
  /-- A table is opened for a second time. -/
  | declaredTwice (route : Route)
  /-- An entry is added to a table or an array that is complete. -/
  | complete (route : Route)
  /-- A name with dots goes through a table that has been opened elsewhere. -/
  | redefined (route : Route)
  /-- An entry is there already, or a name goes through what is no table. -/
  | occupied
  /-- An inline table has two entries of one name. -/
  | repeated (name : Text)
  deriving DecidableEq

/-- How messages show a route. -/
def Route.shown (route : Route) : Text := (Datum.tuple (route.map .text)).shown

/-- The wording of a mistake. -/
def Mistake.message : Mistake → Text
  | .noStatement => "Invalid statement".toList
  | .noLineEnd => "Expected newline or end of document after a statement".toList
  | .noKey => "Invalid initial character for a key part".toList
  | .noEquals => "Expected '=' after a key in a key/value pair".toList
  | .noValue => "Invalid value".toList
  | .noTableEnd => "Expected ']' at the end of a table declaration".toList
  | .noTableArrayEnd => "Expected ']]' at the end of an array declaration".toList
  | .openArray => "Unclosed array".toList
  | .openInlineTable => "Unclosed inline table".toList
  | .openString => "Unterminated string".toList
  | .missing mark => "Expected ".toList ++ Text.quoted mark
  | .foundControl c => "Found invalid character ".toList ++ Text.quoted [c]
  | .illegalControl c => "Illegal character ".toList ++ Text.quoted [c]
  | .loneBackslash => "Unescaped '\\' in a string".toList
  | .badHex => "Invalid hex value".toList
  | .noScalar => "Escaped character is not a Unicode scalar value".toList
  | .badDate => "Invalid date or datetime".toList
  | .declaredTwice route => Text.join [] ["Cannot declare ".toList, route.shown, " twice".toList]
  | .complete route => "Cannot mutate immutable namespace ".toList ++ route.shown
  | .redefined route => "Cannot redefine namespace ".toList ++ route.shown
  | .occupied => "Cannot overwrite a value".toList
  | .repeated name => "Duplicate inline table key ".toList ++ Text.quoted name

/-- Why a document cannot be read. -/
inductive Fault
  /-- The document has a mistake, `left` characters before its end. -/
  | mistaken (mistake : Mistake) (left : Nat)
  /-- A whole number has more digits than are read. -/
  | tooManyDigits (count : Nat)
  deriving DecidableEq

/-- The wording of a place, `left` characters before the end of a document. -/
def placeText (text : Text) (left : Nat) : Text :=
  if left = 0 then "end of document".toList
  else
    let position := Text.Position.of text left
    Text.join [] ["line ".toList, Text.ofNat position.line, ", column ".toList,
      Text.ofNat position.column]

/-- The wording of a mistake in a document. -/
def Mistake.report (mistake : Mistake) (text : Text) (left : Nat) : Text :=
  Text.join [] [mistake.message, " (at ".toList, placeText text left, [')']]

end LintScaffold.Toml
