import LintScaffold.Text.Basic

/-!
# Lines and positions

Line ends are written in three ways.  Text read from a file or a template uses
the single line feed only.

A reader of the rest of a text knows how much is left; for a report on a place in the text
that becomes line, column and offset.
-/

namespace LintScaffold.Text

/-! ## Line ends -/

/-- The text with every line end written as a line feed. -/
def unifyLines : Text → Text
  | [] => []
  | '\r' :: '\n' :: rest => '\n' :: unifyLines rest
  | c :: rest => (if c = '\r' then '\n' else c) :: unifyLines rest

/-- The text with every carriage return before a line feed left out. -/
def dropReturns : Text → Text
  | [] => []
  | '\r' :: '\n' :: rest => '\n' :: dropReturns rest
  | c :: rest => c :: dropReturns rest

/-- The number of line feeds in a text. -/
def lineFeeds (text : Text) : Nat := text.countP (· = '\n')

/-! ## Positions -/

/-- A position in a text: line and column, from one on, and offset, from zero on. -/
structure Position where
  line : Nat
  column : Nat
  offset : Nat
  deriving DecidableEq

/-- The position that is `left` characters before the end of the text. -/
def Position.of (text : Text) (left : Nat) : Position :=
  let offset := text.length - left
  let before := text.take offset
  let line := before.countP (· = '\n') + 1
  let column := (before.reverse.takeWhile (· ≠ '\n')).length + 1
  ⟨line, column, offset⟩

end LintScaffold.Text
