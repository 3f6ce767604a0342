import LintScaffold.Case.TestCase
import LintScaffold.Json
import LintScaffold.Text.Encoding

/-!
# Case files

A case file is a JSON object with a list of cases that the rule accepts and a list of
cases that it reports, either of which may be missing.
-/

namespace LintScaffold

/-- Why a case file cannot be used. -/
inductive CaseFileFault
  /-- No text encoding has this name. -/
  | unknownEncoding (encoding : Text)
  /-- The bytes are not text in this encoding. -/
  | undecodable (path encoding : Text) (fault : DecodeFault)
  /-- The text is not JSON. -/
  | notJson (path : Text) (mistake : Json.Mistake) (place : Text.Position)
  /-- A number is not finite. -/
  | notFinite (name : String)
  /-- The text is not an object. -/
  | noObject
  /-- What should be a list of cases is none. -/
  | noList (group : String)
  /-- An item of a list is no case. -/
  | badCase (fault : CaseFault)
  deriving DecidableEq

/-- The wording of a case file fault. -/
def CaseFileFault.message : CaseFileFault → Text
  | .unknownEncoding encoding => "Unknown case file encoding ".toList ++ Text.quoted encoding
  | .undecodable path encoding fault =>
      Text.join [] ["Case file ".toList, path, " is not valid ".toList, encoding, ": ".toList,
        fault.message]
  | .notJson path mistake place =>
      Text.join [] ["Case file ".toList, path, " is not valid JSON: ".toList,
        mistake.report place]
  | .notFinite name => "Case file contains unsupported number ".toList ++ name.toList
  | .noObject => "Case file must contain an object with 'pass' and 'fail' lists".toList
  | .noList group => "Case file '".toList ++ group.toList ++ "' must be a list".toList
  | .badCase fault => fault.message

/-- Why reading a case file failed: the file is at fault, or a limit of reading. -/
inductive LoadCasesFault
  /-- The file is at fault. -/
  | file (fault : CaseFileFault)
  /-- The bytes could not be read in a way that is not put down to the file. -/
  | read (fault : ReadFault)
  /-- A whole number has too many digits. -/
  | tooManyDigits (count : Nat)
  deriving DecidableEq

/-- The wording of a failure to load cases. -/
def LoadCasesFault.message : LoadCasesFault → Text
  | .file fault => fault.message
  | .read fault => fault.message
  | .tooManyDigits count => tooManyDigitsMessage count

namespace CaseFile

/-- The cases that a rule accepts, and those that it reports. -/
structure Groups where
  pass : List TestCase
  fail : List TestCase

/-- The text of a case file. -/
def decode (path encoding : Text) (bytes : Bytes) : Except LoadCasesFault Text :=
  match Encoding.read encoding bytes with
  | .ok text => .ok text
  | .error (.unknownEncoding _) => .error (.file (.unknownEncoding encoding))
  | .error (.notText _) => .error (.file (.unknownEncoding encoding))
  | .error (.undecodable fault) => .error (.file (.undecodable path encoding fault))
  | .error fault => .error (.read fault)

/-- The datum that the text of a case file holds. -/
def readJson (path text : Text) : Except LoadCasesFault Datum :=
  match Json.read false text with
  | .ok d => .ok d
  | .error (.syntactic mistake left) =>
      .error (.file (.notJson path mistake (Text.Position.of text left)))
  | .error (.notFinite name) => .error (.file (.notFinite name))
  | .error (.tooManyDigits count) => .error (.tooManyDigits count)

/-- The cases of one group. -/
def group (table : Table) (name : String) : Except CaseFileFault (List TestCase) :=
  match table.get? name.toList with
  | none => .ok []
  | some .null => .ok []
  | some (.list items) => items.mapM fun item => (TestCase.ofDatum item).mapError .badCase
  | some _ => .error (.noList name)

/-- The cases of a case file. -/
def groups : Datum → Except CaseFileFault Groups
  | .table entries => do
      let table := Table.ofEntries entries
      let pass ← group table "pass"
      let fail ← group table "fail"
      return ⟨pass, fail⟩
  | _ => .error .noObject

/-- Reads a case file; `path` is how messages call it. -/
def load (path encoding : Text) (bytes : Bytes) : Except LoadCasesFault Groups := do
  let text ← decode path encoding bytes
  let d ← readJson path text
  (groups d).mapError .file

end CaseFile
end LintScaffold
