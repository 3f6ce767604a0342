import LintScaffold.Text.Blank

/-!
# Replacing and splitting

Replacing the places where a text stands inside another one, and cutting a text into
pieces, between separators or at blank space.  Both may be limited to the first few
places.
-/

namespace LintScaffold.Text

/-! ## Replacing -/

/-- The text with `new` put in front of the first `count` characters, its end counting as
a character too. -/
def intersperse (new : Text) : (count : Nat) → Text → Text
  | 0, text => text
  | _ + 1, [] => new
  | count + 1, c :: rest => new ++ c :: intersperse new count rest

/-- The text with the first `count` places where `old` stands replaced by `new`. -/
def replaceEach (old new : Text) : (count : Nat) → Text → Text
  | 0, text => text
  | count + 1, text =>
      match text.cut? old with
      | some (before, after) => before ++ new ++ replaceEach old new count after
      | none => text

/-- The text with the places where `old` stands replaced by `new`: the first `limit` of
them, or all. -/
def replace (old new : Text) (limit : Option Nat) (text : Text) : Text :=
  let count := limit.getD (text.length + 1)
  if old.isEmpty then intersperse new count text else replaceEach old new count text

/-! ## Splitting -/

/-- The pieces of a text between the places where `mark` stands, the last piece being all
that follows the first `count` places. -/
def splitOnEach (mark : Text) : (count : Nat) → Text → List Text
  | 0, text => [text]
  | count + 1, text =>
      match text.cut? mark with
      | some (before, after) => before :: splitOnEach mark count after
      | none => [text]

/-- The pieces of a text between the places where `mark` stands: the first `limit` of
them, or all. -/
def splitOn (mark : Text) (limit : Option Nat) (text : Text) : List Text :=
  splitOnEach mark (limit.getD (text.length + 1)) text

/-- The pieces of a text between blanks, the last piece being all that follows the first
`count` pieces. -/
def wordsEach : (count : Nat) → Text → List Text
  | 0, text =>
      let rest := text.dropWhile isBlank
      if rest.isEmpty then [] else [rest]
  | count + 1, text =>
      let rest := text.dropWhile isBlank
      if rest.isEmpty then []
      else
        rest.takeWhile (fun c => !isBlank c) ::
          wordsEach count (rest.dropWhile fun c => !isBlank c)

/-- The pieces of a text between blanks: the first `limit` of them and the rest, or all. -/
def words (limit : Option Nat) (text : Text) : List Text :=
  wordsEach (limit.getD (text.length + 1)) text

end LintScaffold.Text
