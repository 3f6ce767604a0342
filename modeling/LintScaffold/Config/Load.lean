import LintScaffold.Config.Settings
import LintScaffold.Task
import LintScaffold.Toml

/-!
# Configurations

A configuration holds all settings.  It is read from a TOML file with up to three tables of
settings; a table that is missing stands for the standard settings, and other entries of
the file mean nothing.  Templates are looked for from the directory of the file.
-/

namespace LintScaffold

/-- All settings. -/
structure Config where
  rule : RuleSettings
  template : TemplateSettings
  output : OutputSettings

/-- Why a configuration file cannot be used. -/
inductive ConfigFault
  /-- There is no such file. -/
  | missing (path : FilePath)
  /-- The file cannot be opened. -/
  | file (fault : PathFault)
  /-- The bytes of the file are no text. -/
  | undecodable (fault : DecodeFault)
  /-- The text of the file is not TOML. -/
  | notToml (text : Text) (fault : Toml.Fault)
  /-- The settings are at fault. -/
  | settings (fault : SettingsFault)
  deriving DecidableEq

/-- The wording of a fault. -/
def ConfigFault.message : ConfigFault → Text
  | .missing path => "Config file not found: ".toList ++ path.text
  | .file fault => fault.message
  | .undecodable fault => fault.message
  | .notToml text fault => fault.message text
  | .settings fault => fault.message

namespace Config

/-- The settings that hold where nothing else is said. -/
def standard : Config := ⟨.standard, .standard, .standard⟩

/-- The settings of one group of a configuration. -/
def group {α : Type} (table : Table) (group : Section) (standard : α)
    (ofTable : Table → Except SettingsFault α) : Except SettingsFault α :=
  match table.get? group.name with
  | none => .ok standard
  | some (.table entries) => ofTable (Table.ofEntries entries)
  | some d => .error (.noTable group d.kindPath)

/-- Reads the settings of a table, with `folder` as the directory of templates. -/
def ofTable (folder : FilePath) (table : Table) : Except SettingsFault Config := do
  let rule ← group table .rule RuleSettings.standard RuleSettings.ofTable
  let template ← group table .template TemplateSettings.standard TemplateSettings.ofTable
  let output ← group table .output OutputSettings.standard OutputSettings.ofTable
  return ⟨rule, { template with root := .folder folder }, output⟩

/-- Reads the content of a configuration file. -/
def ofBytes (folder : FilePath) (content : Bytes) : Except ConfigFault Config := do
  let text ← (Utf8.decode content).mapError .undecodable
  let table ← (Toml.read text).mapError (.notToml text)
  (ofTable folder table).mapError .settings

/-- Loads a configuration file. -/
def load (path : FilePath) : Task ConfigFault Config := do
  if !(← Task.tryAsk .file (Inquiry.isFile path)) then Task.stop (.missing path)
  let content ← Task.tryAsk .file (Inquiry.read path)
  Task.check id (ofBytes path.parent content)

end Config
end LintScaffold
