import LintScaffold.Text.CharTable

/-!
# Blanks

The characters that count as white space around a name, a category or a template
tag: the Unicode white space characters and the four separators U+001C to
U+001F.
-/

namespace LintScaffold.Text

/-- The code points of the blanks. -/
def blankTable : CharTable :=
  [(0x9, 0xd), (0x1c, 0x20), (0x85, 0x85), (0xa0, 0xa0), (0x1680, 0x1680), (0x2000, 0x200a),
    (0x2028, 0x2029), (0x202f, 0x202f), (0x205f, 0x205f), (0x3000, 0x3000)]

/-- The character is white space. -/
def isBlank (c : Char) : Bool := blankTable.holds c

/-- The text without the blanks at its start. -/
def stripStart (text : Text) : Text := text.dropWhile isBlank

/-- The text without the blanks at its end. -/
def stripEnd (text : Text) : Text := dropEndWhile isBlank text

/-- The text without the blanks at its two ends. -/
def strip (text : Text) : Text := stripEnd (stripStart text)

/-- Every white space character that the standard library knows is a blank. -/
theorem isBlank_of_isWhitespace {c : Char} (h : c.isWhitespace = true) : isBlank c = true := by
  simp only [Char.isWhitespace, Bool.or_eq_true, decide_eq_true_eq] at h
  rcases h with ((h | h) | h) | h <;> subst h <;> decide

end LintScaffold.Text
