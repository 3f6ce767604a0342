import LintScaffold.Datum
import LintScaffold.Text.Lines

/-!
# Faults of JSON texts

What can be wrong with a JSON text, and where.  Places are kept as the number of
characters from there to the end of the text, which is what a reader of the rest of
the text knows; they become line, column and offset when the fault is reported.
-/

namespace LintScaffold.Json

/-- A mistake in the grammar. -/
inductive Mistake
  | noValue
  | noName
  | noColon
  | noComma
  | openString
  | controlCharacter
  | badEscape
  | badUnicodeEscape
  | extraData
  | byteOrderMark
  deriving DecidableEq

/-- The wording of a mistake. -/
def Mistake.message : Mistake → String
  | .noValue => "Expecting value"
  | .noName => "Expecting property name enclosed in double quotes"
  | .noColon => "Expecting ':' delimiter"
  | .noComma => "Expecting ',' delimiter"
  | .openString => "Unterminated string starting at"
  | .controlCharacter => "Invalid control character at"
  | .badEscape => "Invalid \\escape"
  | .badUnicodeEscape => "Invalid \\uXXXX escape"
  | .extraData => "Extra data"
  | .byteOrderMark => "Unexpected UTF-8 BOM (decode using utf-8-sig)"

/-- Why a text could not be read. -/
inductive Fault
  /-- The grammar is violated, `left` characters before the end of the text. -/
  | syntactic (mistake : Mistake) (left : Nat)
  /-- A number that is not finite stands where only finite ones are allowed. -/
  | notFinite (name : String)
  /-- A whole number has more digits than are read. -/
  | tooManyDigits (count : Nat)
  deriving DecidableEq

/-- The wording of a mistake at a position. -/
def Mistake.report (mistake : Mistake) (place : Text.Position) : Text :=
  Text.join [] [mistake.message.toList, ": line ".toList, Text.ofNat place.line,
    " column ".toList, Text.ofNat place.column, " (char ".toList, Text.ofNat place.offset, [')']]

end LintScaffold.Json
