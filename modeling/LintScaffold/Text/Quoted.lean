import LintScaffold.Text.Printable

/-!
# Quoted texts

How a text is shown inside a message or a list: between quotation marks, with
everything that has no visible form written as an escape.  The marks are single
ones, unless the text holds single marks and no double ones.
-/

namespace LintScaffold.Text

/-- A character between the quotation marks `mark`. -/
def quoteChar (mark c : Char) : Text :=
  if c = mark ∨ c = '\\' then ['\\', c]
  else if c = '\n' then ['\\', 'n']
  else if c = '\r' then ['\\', 'r']
  else if c = '\t' then ['\\', 't']
  else if isPrintable c then [c]
  else if c.toNat < 0x100 then '\\' :: 'x' :: hexPadded 2 c.toNat
  else if c.toNat < 0x10000 then '\\' :: 'u' :: hexPadded 4 c.toNat
  else '\\' :: 'U' :: hexPadded 8 c.toNat

/-- The quotation mark for a text. -/
def quoteMark (text : Text) : Char :=
  if text.contains ['\''] && !text.contains ['"'] then '"' else '\''

/-- The text between quotation marks, with escapes. -/
def quoted (text : Text) : Text :=
  let mark := quoteMark text
  mark :: text.flatMap (quoteChar mark) ++ [mark]

end LintScaffold.Text
