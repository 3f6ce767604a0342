import LintScaffold.Literal.Json
import LintScaffold.Literal.Rust

/-!
# Test cases

An example of code that a rule accepts or reports, perhaps with options for the rule,
settings of the linter and the name of the file that the code stands in.  In the
generated test a case is an element of a vector: the code alone, the code with its
options, or all four parts.
-/

namespace LintScaffold

/-- An example of code.  Null options or settings are none, and so is an empty file
name. -/
structure TestCase where
  code : Text
  options : Datum
  settings : Datum
  filename : Option Text

/-- Why a value is no test case. -/
inductive CaseFault
  /-- It is neither a text nor a table. -/
  | noCase (kind : String)
  /-- It has keys that mean nothing. -/
  | unknownKeys (keys : List Text)
  /-- Its code is missing or no text. -/
  | noCode
  /-- Its file name is no text. -/
  | badFilename
  deriving DecidableEq

/-- The wording of a case fault. -/
def CaseFault.message : CaseFault → Text
  | .noCase kind => "Test case must be a string or an object, got ".toList ++ kind.toList
  | .unknownKeys keys => "Test case has unknown keys: ".toList ++ Text.join ", ".toList keys
  | .noCode => "Test case object is missing a string 'code'".toList
  | .badFilename => "Test case 'filename' must be a string".toList

namespace TestCase

/-- A case with nothing but code. -/
def ofCode (code : Text) : TestCase := ⟨code, .null, .null, none⟩

/-! ## Reading -/

/-- The keys that a case may have. -/
def knownKeys : List Text :=
  ["code".toList, "options".toList, "settings".toList, "filename".toList]

/-- A file name that says something. -/
def filename? (name : Text) : Option Text := if name.isEmpty then none else some name

/-- Reads a case: a text is its code, a table has its parts under their names. -/
def ofDatum : Datum → Except CaseFault TestCase
  | .text code => .ok (ofCode code)
  | .table entries =>
      let table := Table.ofEntries entries
      let unknown := (table.map Prod.fst).filter fun key => !knownKeys.contains key
      if !unknown.isEmpty then .error (.unknownKeys (Text.sort unknown))
      else
        let options := (table.get? "options".toList).getD .null
        let settings := (table.get? "settings".toList).getD .null
        match table.get? "code".toList with
        | some (.text code) =>
            match (table.get? "filename".toList).getD .null with
            | .null => .ok ⟨code, options, settings, none⟩
            | .text name => .ok ⟨code, options, settings, filename? name⟩
            | _ => .error .badFilename
        | _ => .error .noCode
  | d => .error (.noCase d.kindName)

/-! ## Writing -/

/-- The case has a file name. -/
def hasFilename (case : TestCase) : Bool :=
  match case.filename with
  | some name => !name.isEmpty
  | none => false

/-- The literal of the code.  A raw literal cannot hold a carriage return. -/
def codeLiteral (code : Text) : Text :=
  if code.contains ['\r'] then EscapedString.write code else RawString.write code

/-- Options or settings as an optional value. -/
def optional : Datum → Except EmbedFault Text
  | .null => .ok "None".toList
  | d => do return "Some(".toList ++ (← JsonLiteral.writeMacro d) ++ [')']

/-- The file name as an optional path. -/
def pathLiteral (case : TestCase) : Text :=
  match case.filename with
  | some name =>
      if name.isEmpty then "None".toList
      else "Some(PathBuf::from(".toList ++ EscapedString.write name ++ "))".toList
  | none => "None".toList

/-- The datum is null. -/
def isNull : Datum → Bool
  | .null => true
  | _ => false

/-- The element of the vector for a case. -/
def snippet (case : TestCase) : Except EmbedFault Text := do
  let code := codeLiteral case.code
  if isNull case.settings && !case.hasFilename then
    if isNull case.options then return code
    else return ['('] ++ code ++ ", ".toList ++ (← optional case.options) ++ [')']
  else
    let options ← optional case.options
    let settings ← optional case.settings
    return ['('] ++ Text.join ", ".toList [code, options, settings, case.pathLiteral] ++ [')']

end TestCase

/-! ## Lists of cases -/

/-- What a caller may hand over as a case: a finished element of the vector, a test
case, or something else. -/
inductive CaseItem
  | verbatim (snippet : Text)
  | case (case : TestCase)
  | other (kind : String)

/-- Why a list of cases has no elements to show. -/
inductive SnippetFault
  | noCase (kind : String)
  | embed (fault : EmbedFault)
  deriving DecidableEq

/-- The wording of a snippet fault. -/
def SnippetFault.message : SnippetFault → Text
  | .noCase kind => "Expected a string or TestCase, got ".toList ++ kind.toList
  | .embed fault => fault.message

/-- The element of the vector for an item. -/
def CaseItem.snippet : CaseItem → Except SnippetFault Text
  | .verbatim text => .ok text
  | .case c => c.snippet.mapError .embed
  | .other kind => .error (.noCase kind)

/-- The elements of the vector for a list of items. -/
def snippets (items : List CaseItem) : Except SnippetFault (List Text) :=
  items.mapM CaseItem.snippet

/-- The item is a case with a file name. -/
def CaseItem.hasFilename : CaseItem → Bool
  | .case c => c.hasFilename
  | _ => false

/-- Some item of some group is a case with a file name. -/
def anyFilename (groups : List (List CaseItem)) : Bool :=
  groups.any fun group => group.any CaseItem.hasFilename

end LintScaffold
