import LintScaffold.Datum.Order
import LintScaffold.Json.Fault
import LintScaffold.Literal.Rust

/-!
# JSON literals

The options and settings of a test case are embedded as the argument of the
`serde_json::json!` macro.  The argument is JSON, save that its strings are Rust
literals.  Tables come in the order of their keys, so that the literal does not
depend on the order in which a file lists them.
-/

namespace LintScaffold

/-- Why a datum cannot be embedded. -/
inductive EmbedFault
  /-- JSON has no such number. -/
  | notFinite (x : Binary64)
  /-- JSON has no such kind of value. -/
  | noJson (kind : String)
  /-- Two keys have the same text, and their values have no order. -/
  | unordered (fault : Unordered)
  /-- A whole number has too many digits. -/
  | tooLong
  deriving DecidableEq

/-- The wording of an embedding failure. -/
def EmbedFault.message : EmbedFault → Text
  | .notFinite x => "Cannot embed non-finite number ".toList ++ x.text ++ " in a test case".toList
  | .noJson kind => "Cannot embed ".toList ++ kind.toList ++ " in a test case".toList
  | .unordered fault => fault.message
  | .tooLong => tooLongMessage

namespace JsonLiteral

/-- The key of an entry as a text. -/
def keyText (key : Key) : Except EmbedFault Text :=
  match key with
  | .int n => if isTooLong n then .error .tooLong else .ok key.display
  | key => .ok key.display

/-- An entry on its way into a literal: the text of its key and its value, by which it
is sorted, and the literal of its value. -/
abbrev Entry := (Text × Datum) × Except EmbedFault Text

/-- An entry as it stands in the literal. -/
def writeEntry (entry : Entry) : Except EmbedFault Text := do
  return EscapedString.write entry.1.1 ++ ": ".toList ++ (← entry.2)

mutual
/-- The literal of a datum. -/
def write : Datum → Except EmbedFault Text
  | .null => .ok "null".toList
  | .bool b => .ok (if b then "true".toList else "false".toList)
  | .int n => if isTooLong n then .error .tooLong else .ok (Text.ofInt n)
  | .float x => if x.isFinite then .ok x.text else .error (.notFinite x)
  | .text t => .ok (EscapedString.write t)
  | .list items => do return ['['] ++ Text.join ", ".toList (← writeAll items) ++ [']']
  | .tuple items => do return ['['] ++ Text.join ", ".toList (← writeAll items) ++ [']']
  | .table entries => do
      let entries ← entriesOf entries
      let sorted ← (Datum.sortEntries entries).mapError .unordered
      return ['\x7b'] ++ Text.join ", ".toList (← sorted.mapM writeEntry) ++ ['\x7d']
  | d => .error (.noJson d.kindName)

/-- The literals of the items of a list. -/
def writeAll : List Datum → Except EmbedFault (List Text)
  | [] => .ok []
  | item :: rest => do
      let text ← write item
      return text :: (← writeAll rest)

/-- The entries of a table, each with the literal of its value. -/
def entriesOf : List (Key × Datum) → Except EmbedFault (List Entry)
  | [] => .ok []
  | (key, item) :: rest => do
      let text ← keyText key
      return ((text, item), write item) :: (← entriesOf rest)
end

/-- A datum as an invocation of the macro. -/
def writeMacro (d : Datum) : Except EmbedFault Text := do
  return "serde_json::json!(".toList ++ (← write d) ++ [')']

end JsonLiteral
end LintScaffold
