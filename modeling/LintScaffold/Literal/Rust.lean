import LintScaffold.Text.Basic

/-!
# Rust string literals

The two forms in which a text becomes a string literal of Rust.  An escaped literal has its
backslashes, quotation marks and control characters written as escapes, so that it stays on
one line.  A raw literal shows the text as it is, between quotation marks that are fenced by
number signs.
-/

namespace LintScaffold

/-! ## Escaped literals -/

namespace EscapedString

/-- The character is a control character. -/
def isControl (c : Char) : Bool :=
  decide (c.toNat < 0x20) || (decide (0x7f ≤ c.toNat) && decide (c.toNat < 0xa0))

/-- A character inside the literal. -/
def writeChar (c : Char) : Text :=
  if c = '\\' then ['\\', '\\']
  else if c = '"' then ['\\', '"']
  else if c = '\n' then ['\\', 'n']
  else if c = '\r' then ['\\', 'r']
  else if c = '\t' then ['\\', 't']
  else if isControl c then ['\\', 'u', '\x7b'] ++ Text.hex c.toNat ++ ['\x7d']
  else [c]

/-- The escaped string literal of a text. -/
def write (text : Text) : Text := '"' :: text.flatMap writeChar ++ ['"']

end EscapedString

/-! ## Raw literals

The text ends at the first quotation mark that is followed by as many number signs as the
fence has, so that the fence has to be longer than any run of number signs behind a quotation
mark of the text. -/

namespace RawString

/-- The length of the longest run of number signs that stands directly behind a
quotation mark. -/
def longestRun : Text → Nat
  | [] => 0
  | c :: rest =>
      let here := if c = '"' then (rest.takeWhile (· = '#')).length else 0
      let later := longestRun rest
      if here < later then later else here

/-- The number of signs in the fence of a text. -/
def fence (text : Text) : Nat := longestRun text + 1

/-- The raw string literal of a text. -/
def write (text : Text) : Text :=
  let signs := List.replicate (fence text) '#'
  'r' :: signs ++ ['"'] ++ text ++ ['"'] ++ signs

end RawString

end LintScaffold
