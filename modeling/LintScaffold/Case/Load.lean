import LintScaffold.Case.File
import LintScaffold.Task

/-!
# Loading case files

Reading the case file that a path leads to.
-/

namespace LintScaffold

/-- A file that is required is not there. -/
structure MissingFile where
  description : Text
  path : FilePath
  deriving DecidableEq

/-- The wording for a file that is not there. -/
def MissingFile.message (fault : MissingFile) : Text :=
  Text.join [] ["Required ".toList, fault.description, " not found at ".toList, fault.path.text]

/-- Why a required file cannot be used. -/
inductive RequireFault
  | missing (fault : MissingFile)
  | file (fault : PathFault)
  deriving DecidableEq

/-- Makes sure that some file or directory is there; what it is called is `description`. -/
def requireFile (description : Text) (path : FilePath) : Task RequireFault Unit := do
  if !(← Task.tryAsk .file (Inquiry.isThere path)) then
    Task.stop (.missing ⟨if description.isEmpty then "file".toList else description, path⟩)

/-- Why cases cannot be loaded. -/
inductive LoadFault
  /-- There is no such file. -/
  | required (fault : RequireFault)
  /-- The name of the encoding is no text. -/
  | noEncoding (kind : String)
  /-- The file cannot be opened. -/
  | file (fault : PathFault)
  /-- The content of the file is at fault. -/
  | content (fault : LoadCasesFault)
  deriving DecidableEq

/-- The wording of a fault. -/
def LoadFault.message : LoadFault → Text
  | .required (.missing fault) => fault.message
  | .required (.file fault) => fault.message
  | .noEncoding kind => noEncodingMessage kind
  | .file fault => fault.message
  | .content fault => fault.message

namespace CaseFile

/-- Loads the cases of a case file. -/
def loadFrom (path : FilePath) (encoding : Datum) : Task LoadFault Groups := do
  Task.rephrase .required (requireFile "case file".toList path)
  match encoding with
  | .text name =>
      let bytes ← Task.tryAsk .file (Inquiry.read path)
      let groups ← Task.check .content (load path.text name bytes)
      Task.report .debug .cases
        (Text.join [] ["Loaded ".toList, Text.ofNat groups.pass.length, " pass and ".toList,
          Text.ofNat groups.fail.length, " fail cases from ".toList, path.text])
      return groups
  | d => Task.stop (.noEncoding d.kindPath)

end CaseFile
end LintScaffold
