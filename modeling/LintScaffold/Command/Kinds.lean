import LintScaffold.Command.Step

/-!
# The command that lists kinds

There is a line for each kind, with its name and the directory of its rules.  A star marks
the kind of new rules.
-/

namespace LintScaffold

/-- The one option of the command. -/
inductive KindsOption
  | config
  deriving DecidableEq

/-- The option of the command. -/
def KindsOption.vocabulary : Vocabulary KindsOption := ⟨[.config], fun _ => Step.configForm⟩

/-- What the command is asked for. -/
structure KindsRequest where
  config : Option FilePath
  deriving DecidableEq

namespace KindsRequest

/-- Reads the arguments of the command. -/
def read (cwd : Place) (arguments : List Text) : Step KindsRequest := do
  let arguments ← Task.check .usage (Arguments.read KindsOption.vocabulary true arguments)
  let config ← (match arguments.value? .config with
    | none => return none
    | some value => some <$> Step.existingFile cwd Step.configForm value)
  if !arguments.operands.isEmpty then Task.stop (.usage .tooManyOperands)
  return ⟨config⟩

/-- The width of the names of kinds. -/
def nameWidth : Nat := 12

/-- The line for a kind. -/
def line (config : Config) (kind : RuleKind) : Text :=
  Text.join [] [if kind = config.rule.kind then ['*'] else [' '], [' '],
    Text.padEnd nameWidth kind.name, [' '], config.output.rulesDir.display, ['/'],
    kind.directory, ['\n']]

/-- The lines for all kinds. -/
def listing (config : Config) : Text := RuleKind.all.flatMap (line config)

/-- What the command does in the end. -/
def deed (request : KindsRequest) : Step Deed := do
  let config ← (match request.config with
    | none => return Config.standard
    | some path => Step.settle (fun _ => none) .config (Config.load path))
  if config.output.rulesDir.hasLongNumber then Task.stop (.fault .tooLong)
  return .print (listing config)

end KindsRequest
end LintScaffold
