import LintScaffold.Text.Basic

/-!
# File paths

A path is where it starts and the names that it goes through.  Empty names and single
points say nothing and are dropped when a path is read, so that two spellings which
differ only in them are the same path.  A step up, written with two points, is kept:
it only disappears when a path is resolved.  Two slashes at the start, but not three,
are a start of their own.
-/

namespace LintScaffold

/-- The names that lead to a file or directory from the root. -/
abbrev Place := List Text

/-- Where a path starts: at a directory that is not said, at the root of all files, or at
what two slashes stand for. -/
inductive Anchor
  | relative
  | root
  | doubleRoot
  deriving DecidableEq

/-- A path. -/
structure FilePath where
  anchor : Anchor
  names : List Text
  deriving DecidableEq

/-- A path that has to be looked up holds a NUL. -/
structure NulInPath where
  deriving DecidableEq

/-- The wording for a NUL in a path. -/
def NulInPath.message (_ : NulInPath) : Text := "embedded null byte".toList

/-- The written form of a start. -/
def Anchor.text : Anchor → Text
  | .relative => []
  | .root => ['/']
  | .doubleRoot => ['/', '/']

namespace FilePath

/-- The name of a step up. -/
def up : Text := ['.', '.']

/-- The name says where to go. -/
def isStep (name : Text) : Bool := !name.isEmpty && name != ['.']

/-- The start of a written path. -/
def anchorOf : Text → Anchor
  | '/' :: '/' :: '/' :: _ => .root
  | '/' :: '/' :: _ => .doubleRoot
  | '/' :: _ => .root
  | _ => .relative

/-- Reads a path. -/
def parse (text : Text) : FilePath :=
  ⟨anchorOf text, (Text.splitAt '/' text).filter isStep⟩

/-- The written form of a path; a path that goes nowhere is a point. -/
def text (path : FilePath) : Text :=
  match path.anchor, path.names with
  | .relative, [] => ['.']
  | anchor, names => anchor.text ++ Text.join ['/'] names

/-- The path does not depend on where it is looked at. -/
def isAbsolute (path : FilePath) : Bool := path.anchor != .relative

/-- The path that leads on from this one; an absolute path starts anew. -/
def append (path next : FilePath) : FilePath :=
  if next.isAbsolute then next else ⟨path.anchor, path.names ++ next.names⟩

/-- The path that leads on by a name. -/
def child (path : FilePath) (name : Text) : FilePath :=
  if isStep name then ⟨path.anchor, path.names ++ [name]⟩ else path

/-- The path without its last name. -/
def parent (path : FilePath) : FilePath := ⟨path.anchor, path.names.dropLast⟩

/-! ## Resolving -/

/-- Goes from a place along one name. -/
def step (place : Place) (name : Text) : Place :=
  if name = up then place.dropLast else place ++ [name]

/-- The place that names lead to from a place, every step up undoing the step before. -/
def follow (place : Place) (names : List Text) : Place := names.foldl step place

/-- The absolute path without steps up that a path stands for, as seen from the directory
`cwd`. -/
def resolve (cwd : Place) (path : FilePath) : FilePath :=
  match path.anchor with
  | .relative => ⟨.root, follow cwd path.names⟩
  | _ => ⟨.root, follow [] path.names⟩

/-- Some name of the path holds a NUL, so that no file can have it. -/
def hasNul (path : FilePath) : Bool := path.names.any fun name => name.any (· = Char.ofNat 0)

/-- The path as seen from `base`: itself if it is absolute, else resolved, which a path with
a NUL cannot be. -/
def resolveFrom (cwd : Place) (base path : FilePath) : Except NulInPath FilePath :=
  if path.isAbsolute then .ok path
  else
    let whole := append base path
    if whole.hasNul then .error .mk else .ok (resolve cwd whole)

/-! ## Small facts -/

theorem append_of_isAbsolute {path next : FilePath} (h : next.isAbsolute = true) :
    path.append next = next := by
  simp [append, h]

theorem resolve_anchor (cwd : Place) (path : FilePath) :
    (resolve cwd path).anchor = .root := by
  unfold resolve
  split <;> rfl

end FilePath
end LintScaffold
