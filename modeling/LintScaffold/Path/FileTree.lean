import LintScaffold.Association
import LintScaffold.Path.FilePath
import LintScaffold.Text.Encoding
import LintScaffold.Text.Quoted

/-!
# File trees

The files and directories that a run finds and leaves behind.  A place is the list of
names that leads to it from the root.  A path is followed name by name: each name but
the last must be that of a directory, and a step up leads out of a directory that is
really there.  There are no links, so no two places are the same file.
-/

namespace LintScaffold

/-- What stands at a place. -/
inductive Node
  | file (content : Bytes)
  | directory
  deriving DecidableEq

/-- The files and directories below the root. -/
structure FileTree where
  entries : List (Place × Node)

/-! ## Faults -/

/-- Why an operation on files fails. -/
inductive FileFault
  | noEntry
  | exists
  | notDirectory
  | isDirectory
  | nameTooLong
  | nulInPath
  deriving DecidableEq

/-- The number of a fault, if it has one. -/
def FileFault.number? : FileFault → Option Nat
  | .noEntry => some 2
  | .exists => some 17
  | .notDirectory => some 20
  | .isDirectory => some 21
  | .nameTooLong => some 36
  | .nulInPath => none

/-- The words for a fault. -/
def FileFault.words : FileFault → Text
  | .noEntry => "No such file or directory".toList
  | .exists => "File exists".toList
  | .notDirectory => "Not a directory".toList
  | .isDirectory => "Is a directory".toList
  | .nameTooLong => "File name too long".toList
  | .nulInPath => NulInPath.message .mk

/-- A fault and the path at which it arose. -/
structure PathFault where
  fault : FileFault
  path : FilePath
  deriving DecidableEq

/-- The wording of a fault. -/
def PathFault.message (fault : PathFault) : Text :=
  match fault.fault.number? with
  | none => fault.fault.words
  | some number =>
      Text.join [] ["[Errno ".toList, Text.ofNat number, "] ".toList, fault.fault.words,
        ": ".toList, Text.quoted fault.path.text]

namespace FileTree

/-! ## Looking -/

/-- Nothing but the root. -/
def empty : FileTree := ⟨[]⟩

/-- What stands at a place.  The root is always there. -/
def node? (tree : FileTree) (place : Place) : Option Node :=
  match place with
  | [] => some .directory
  | place => tree.entries.lookup place

/-- The greatest number of bytes of a name. -/
def maxNameBytes : Nat := 255

/-- The greatest number of bytes of a path. -/
def maxPathBytes : Nat := 4095

/-- Goes from a place along one name.  The place must be a directory. -/
def enter (tree : FileTree) (place : Place) (name : Text) : Except FileFault Place :=
  match tree.node? place with
  | none => .error .noEntry
  | some (.file _) => .error .notDirectory
  | some .directory =>
      if name = FilePath.up then .ok place.dropLast
      else if maxNameBytes < (Utf8.encode name).length then .error .nameTooLong
      else .ok (place ++ [name])

/-- The place that a path leads to, as seen from the directory `cwd`.  Nothing need stand
at that place itself. -/
def locate (tree : FileTree) (cwd : Place) (path : FilePath) : Except FileFault Place :=
  if path.hasNul then .error .nulInPath
  else if maxPathBytes < (Utf8.encode path.text).length then .error .nameTooLong
  else
    let start := if path.isAbsolute then [] else cwd
    path.names.foldlM tree.enter start

/-- What a path leads to. -/
def find (tree : FileTree) (cwd : Place) (path : FilePath) : Except FileFault Node := do
  match tree.node? (← tree.locate cwd path) with
  | some node => return node
  | none => .error .noEntry

/-! ## Changing -/

/-- The tree with a node put at a place. -/
def put (tree : FileTree) (place : Place) (node : Node) : FileTree :=
  ⟨setEntry (· == ·) place node tree.entries⟩

/-- Writes a file. -/
def write (tree : FileTree) (cwd : Place) (path : FilePath) (content : Bytes) :
    Except PathFault FileTree :=
  match tree.locate cwd path with
  | .error fault => .error ⟨fault, path⟩
  | .ok place =>
      if tree.node? place = some .directory then .error ⟨.isDirectory, path⟩
      else .ok (tree.put place (.file content))

/-- Makes one directory, which must not be there. -/
def makeDirectory (tree : FileTree) (cwd : Place) (path : FilePath) :
    Except FileFault FileTree := do
  let place ← tree.locate cwd path
  match tree.node? place with
  | some _ => .error .exists
  | none => return tree.put place .directory

/-- The fault of a directory that could not be made; it is none if the directory is
there. -/
def unlessThere (tree : FileTree) (cwd : Place) (path : FilePath) (fault : FileFault) :
    Option PathFault :=
  match tree.find cwd path with
  | .ok .directory => none
  | _ => some ⟨fault, path⟩

/-- Makes the directory that the first `count` names of a path lead to, and those above it
that are missing.  What has been made stays, even if there is a fault later. -/
def makeDirectoriesUpTo (tree : FileTree) (cwd : Place) (path : FilePath) :
    (count : Nat) → FileTree × Option PathFault
  | 0 =>
      let here : FilePath := ⟨path.anchor, []⟩
      match tree.makeDirectory cwd here with
      | .ok made => (made, none)
      | .error fault => (tree, tree.unlessThere cwd here fault)
  | count + 1 =>
      let here : FilePath := ⟨path.anchor, path.names.take (count + 1)⟩
      match tree.makeDirectory cwd here with
      | .ok made => (made, none)
      | .error .noEntry =>
          match tree.makeDirectoriesUpTo cwd path count with
          | (above, some fault) => (above, some fault)
          | (above, none) =>
              match above.makeDirectory cwd here with
              | .ok made => (made, none)
              | .error .noEntry => (above, some ⟨.noEntry, here⟩)
              | .error fault => (above, above.unlessThere cwd here fault)
      | .error fault => (tree, tree.unlessThere cwd here fault)

/-- Makes the directory that a path leads to, and those above it that are missing. -/
def makeDirectories (tree : FileTree) (cwd : Place) (path : FilePath) :
    FileTree × Option PathFault :=
  tree.makeDirectoriesUpTo cwd path path.names.length

/-- Writes a file, for which the directories above it are made. -/
def save (tree : FileTree) (cwd : Place) (path : FilePath) (content : Bytes) :
    FileTree × Option PathFault :=
  match tree.makeDirectories cwd path.parent with
  | (made, some fault) => (made, some fault)
  | (made, none) =>
      match made.write cwd path content with
      | .ok written => (written, none)
      | .error fault => (made, some fault)

/-! ## Listing -/

/-- The places of all files. -/
def filePlaces (tree : FileTree) : List Place :=
  tree.entries.filterMap fun (place, node) =>
    match node with
    | .file _ => some place
    | .directory => none

/-! ## What an operation does to the view -/

/-- Putting a node somewhere below the root changes what stands at that place, and nothing
else. -/
theorem node?_put (tree : FileTree) {place : Place} (other : Place) (node : Node)
    (h : place ≠ []) :
    (tree.put place node).node? other =
      if other = place then some node else tree.node? other := by
  cases other with
  | nil => simp [node?, Ne.symm h]
  | cons name names => simp [node?, put, lookup_setEntry]

end FileTree
end LintScaffold
