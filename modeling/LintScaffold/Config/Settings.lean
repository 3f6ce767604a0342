import LintScaffold.Number.Limit
import LintScaffold.Path.FilePath
import LintScaffold.Rule.Kind
import LintScaffold.Rule.Name

/-!
# Settings

What can be configured: the kind and the category of rules, where the skeleton of a rule
comes from, and where rules are written.  Settings come as tables of data.  The kind and
the category are checked when they are read.  The other settings are taken as they are,
and only put to use when they are needed.
-/

namespace LintScaffold

/-- A group of settings. -/
inductive Section
  | rule
  | template
  | output
  deriving DecidableEq

/-- What messages call a group of settings. -/
def Section.title : Section → String
  | .rule => "RuleConfig"
  | .template => "TemplateConfig"
  | .output => "OutputConfig"

/-- The name of a group in a configuration. -/
def Section.name : Section → Text
  | .rule => "rule".toList
  | .template => "template".toList
  | .output => "output".toList

/-- The settings that a group has. -/
def Section.fields : Section → List Text
  | .rule => ["kind".toList, "category".toList]
  | .template =>
      ["path".toList, "text".toList, "encoding".toList, "_config_root".toList]
  | .output => ["rules_dir".toList, "overwrite".toList]

/-! ## Faults -/

/-- Why settings cannot be read. -/
inductive SettingsFault
  /-- A group has no such setting. -/
  | unknownField (group : Section) (name : Text)
  /-- A name stands for the settings as a whole, and not for one of them. -/
  | reservedField (group : Section) (name : Text)
  /-- The settings that a caller hands over are no table. -/
  | noSettings (label : Text) (group : Section)
  /-- A group of a configuration is no table. -/
  | noTable (group : Section) (kind : String)
  /-- The kind of rules is unknown. -/
  | unknownKind (fault : UnknownKind)
  /-- The category of rules is blank. -/
  | blankCategory
  /-- A number with too many digits stands for a text. -/
  | tooLong
  deriving DecidableEq

/-- The wording of a fault. -/
def SettingsFault.message : SettingsFault → Text
  | .unknownField group name =>
      Text.join [] [group.title.toList, ".__init__() got an unexpected keyword argument '".toList,
        name, ['\'']]
  | .reservedField group name =>
      Text.join [] [group.title.toList, ".__init__() got multiple values for argument '".toList,
        name, ['\'']]
  | .noSettings label group =>
      Text.join [] [label, " must be a ".toList, group.title.toList,
        " or a mapping of keyword arguments".toList]
  | .noTable group kind =>
      Text.join [] ["Expected a mapping for ".toList, group.title.toList, ", got <class '".toList,
        kind.toList, "'>".toList]
  | .unknownKind fault => fault.message
  | .blankCategory => "Rule 'category' must be a non-empty string".toList
  | .tooLong => tooLongMessage

/-- The name under which a group of settings knows itself. -/
def Section.reserved : Text := "self".toList

/-- The fields of a group, provided that it has all of them. -/
def Section.check (group : Section) (table : Table) : Except SettingsFault Table :=
  match table.find? fun entry => !group.fields.contains entry.1 with
  | some (name, _) =>
      if name = Section.reserved then .error (.reservedField group name)
      else .error (.unknownField group name)
  | none => .ok table

/-- The settings that a caller hands over under the name `label`: nothing for the standard
ones, or a table. -/
def Section.given {α : Type} (group : Section) (label : Text) (standard : α)
    (ofTable : Table → Except SettingsFault α) : Datum → Except SettingsFault α
  | .null => .ok standard
  | .table entries => ofTable (Table.ofEntries entries)
  | _ => .error (.noSettings label group)

/-! ## Rules -/

/-- The kind and the category of new rules. -/
structure RuleSettings where
  kind : RuleKind
  category : Text
  deriving DecidableEq

namespace RuleSettings

/-- The category that asks to be replaced. -/
def placeholderCategory : Text := "nursery".toList

/-- The settings that hold where nothing else is said. -/
def standard : RuleSettings := ⟨.eslint, placeholderCategory⟩

/-- The category asks to be replaced. -/
def isPlaceholder (settings : RuleSettings) : Bool := settings.category = placeholderCategory

/-- The kind that a datum names. -/
def kindOf (d : Datum) : Except SettingsFault RuleKind :=
  if d.hasLongNumber then .error .tooLong
  else (RuleKind.parse d.display).mapError .unknownKind

/-- The category that a datum names, without blanks around it. -/
def categoryOf (d : Datum) : Except SettingsFault Text :=
  if d.hasLongNumber then .error .tooLong
  else
    let category := Text.strip d.display
    if category.isEmpty then .error .blankCategory else .ok category

/-- Reads the settings of a table. -/
def ofTable (table : Table) : Except SettingsFault RuleSettings := do
  let table ← Section.rule.check table
  let kind ← kindOf ((table.get? "kind".toList).getD (.text standard.kind.name))
  let category ← categoryOf ((table.get? "category".toList).getD (.text standard.category))
  return ⟨kind, category⟩

/-- The settings that a caller hands over under the name `label`. -/
def given (label : Text) : Datum → Except SettingsFault RuleSettings :=
  Section.rule.given label standard ofTable

end RuleSettings

/-! ## Templates -/

/-- The directory that relative template paths start from: one that a configuration file
determines, or a datum that a caller hands over. -/
inductive ConfigRoot
  | folder (path : FilePath)
  | given (d : Datum)

/-- Where the skeleton of a rule comes from, and the encoding of files. -/
structure TemplateSettings where
  path : Datum
  text : Datum
  encoding : Datum
  root : ConfigRoot

/-- A datum where a path is required. -/
structure NoPath where
  kind : String
  deriving DecidableEq

/-- The wording for a datum that is no path. -/
def NoPath.message (fault : NoPath) : Text :=
  "expected str, bytes or os.PathLike object, not ".toList ++ fault.kind.toList

/-- The path that a datum is. -/
def Datum.path : Datum → Except NoPath FilePath
  | .text t => .ok (.parse t)
  | d => .error ⟨d.kindPath⟩

/-- Why a template path leads nowhere. -/
inductive RootFault
  /-- The path is none. -/
  | noPath (fault : NoPath)
  /-- The directory that it starts from is none. -/
  | noRoot (kind : String)
  /-- It cannot be resolved. -/
  | nul (fault : NulInPath)
  deriving DecidableEq

/-- The wording of a fault. -/
def RootFault.message : RootFault → Text
  | .noPath fault => fault.message
  | .noRoot kind =>
      Text.join [] ["unsupported operand type(s) for /: '".toList, kind.toList,
        "' and 'PosixPath'".toList]
  | .nul fault => fault.message

namespace TemplateSettings

/-- The settings that hold where nothing else is said. -/
def standard : TemplateSettings := ⟨.null, .null, .text "utf-8".toList, .given .null⟩

/-- Reads the settings of a table. -/
def ofTable (table : Table) : Except SettingsFault TemplateSettings := do
  let table ← Section.template.check table
  return ⟨(table.get? "path".toList).getD standard.path,
    (table.get? "text".toList).getD standard.text,
    (table.get? "encoding".toList).getD standard.encoding,
    match table.get? "_config_root".toList with
    | some d => .given d
    | none => standard.root⟩

/-- The settings that a caller hands over under the name `label`. -/
def given (label : Text) : Datum → Except SettingsFault TemplateSettings :=
  Section.template.given label standard ofTable

/-- The directory that relative paths start from, if there is one. -/
def folder? (settings : TemplateSettings) : Except RootFault (Option FilePath) :=
  match settings.root with
  | .folder path => .ok (some path)
  | .given (.text t) => .ok (if t.isEmpty then none else some (.parse t))
  | .given d => if d.isTruthy then .error (.noRoot d.kindPath) else .ok none

/-- The path of a template: itself if it is absolute, and else resolved from `base`, from
the directory of the settings, or from the current directory. -/
def resolvePath (settings : TemplateSettings) (cwd : Place) (base : Option FilePath)
    (d : Datum) : Except RootFault FilePath := do
  let path ← d.path.mapError .noPath
  if path.isAbsolute then return path
  else
    let folder ← (match base with
      | some base => .ok (some base)
      | none => settings.folder?)
    (FilePath.resolveFrom cwd (folder.getD ⟨.root, cwd⟩) path).mapError .nul

end TemplateSettings

/-! ## Output -/

/-- Where rules are written, and whether existing files are overwritten. -/
structure OutputSettings where
  rulesDir : Datum
  overwrite : Datum

/-- Why a rule has no file to be written to. -/
inductive RulePathFault
  /-- The directory of all rules is no path. -/
  | noPath (fault : NoPath)
  /-- The kind of the rule is unknown. -/
  | unknownKind (fault : UnknownKind)
  deriving DecidableEq

/-- The wording of a fault. -/
def RulePathFault.message : RulePathFault → Text
  | .noPath fault => fault.message
  | .unknownKind fault => fault.message

namespace OutputSettings

/-- The settings that hold where nothing else is said. -/
def standard : OutputSettings := ⟨.text "crates/oxc_linter/src/rules".toList, .bool false⟩

/-- Reads the settings of a table. -/
def ofTable (table : Table) : Except SettingsFault OutputSettings := do
  let table ← Section.output.check table
  return ⟨(table.get? "rules_dir".toList).getD standard.rulesDir,
    (table.get? "overwrite".toList).getD standard.overwrite⟩

/-- The settings that a caller hands over under the name `label`. -/
def given (label : Text) : Datum → Except SettingsFault OutputSettings :=
  Section.output.given label standard ofTable

/-- The directory of all rules. -/
def rulesRoot (settings : OutputSettings) (base : FilePath) : Except NoPath FilePath := do
  return base.append (← settings.rulesDir.path)

/-- The file of a rule below the directory of all rules. -/
def ruleFile (root : FilePath) (kind : RuleKind) (name : RuleName) : FilePath :=
  (root.child kind.directory).child (name.snake ++ ".rs".toList)

/-- The file that a rule is written to, given the name of its kind. -/
def rulePathNamed (settings : OutputSettings) (base : FilePath) (kind : Text)
    (name : RuleName) : Except RulePathFault FilePath := do
  let root ← (settings.rulesRoot base).mapError .noPath
  let kind ← (RuleKind.parse kind).mapError .unknownKind
  return ruleFile root kind name

/-- The file that a rule is written to. -/
def rulePath (settings : OutputSettings) (base : FilePath) (kind : RuleKind)
    (name : RuleName) : Except NoPath FilePath := do
  return ruleFile (← settings.rulesRoot base) kind name

end OutputSettings
end LintScaffold
