import LintScaffold.Text.Case
import LintScaffold.Text.WordChar

/-!
# Words of a name

A name is cut into words at every character that is neither a letter nor a digit,
and at every camel boundary.  The words, joined in three ways, give the three forms
in which a rule is called.
-/

namespace LintScaffold.Words

/-- A small ASCII letter. -/
def isSmall (c : Char) : Bool := decide ('a' ≤ c) && decide (c ≤ 'z')

/-- A capital ASCII letter. -/
def isCapital (c : Char) : Bool := decide ('A' ≤ c) && decide (c ≤ 'Z')

/-- A word ends between the neighbours `c` and `d`, followed by `after`: a capital
stands behind a small letter or a digit, or it begins a capitalised word behind
another capital. -/
def boundary (c d : Char) (after : Text) : Bool :=
  ((isSmall c || Text.isAsciiDigit c) && isCapital d) ||
    (isCapital c && isCapital d && (after.head?.map isSmall).getD false)

/-- The list with `c` put in front of its first word. -/
def extend (c : Char) : List Text → List Text
  | [] => [[c]]
  | word :: rest => (c :: word) :: rest

/-- The words of a text, in order. -/
def split : Text → List Text
  | [] => []
  | c :: rest =>
      if Text.isAlphanumeric c then
        match rest with
        | [] => [[c]]
        | d :: after =>
            if Text.isAlphanumeric d && !boundary c d after then extend c (split (d :: after))
            else [c] :: split (d :: after)
      else split rest

/-- A word with its first character in upper case and the others in lower case. -/
def capitalize : Text → Text
  | [] => []
  | c :: rest => Text.upperChar c ++ Text.lower rest

/-- The words of a text, capitalised and run together. -/
def pascal (text : Text) : Text := (split text).flatMap capitalize

/-- The words of a text in lower case, joined by underscores. -/
def snake (text : Text) : Text := Text.join ['_'] ((split text).map Text.lower)

/-- The words of a text in lower case, joined by hyphens. -/
def kebab (text : Text) : Text := Text.join ['-'] ((split text).map Text.lower)

end LintScaffold.Words
