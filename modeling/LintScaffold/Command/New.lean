import LintScaffold.Command.Step

/-!
# The command that makes a rule

Its operand is the name of the rule.  The cases of the test come from options and then from
a case file.  The source of the rule is printed, or saved where an option or the
configuration says; an existing file is only overwritten where that is asked for.
-/

namespace LintScaffold

/-! ## Options -/

/-- The options of the command. -/
inductive NewOption
  | config
  | kind
  | pass
  | fail
  | cases
  | hasFilename
  | output
  | write
  | force
  deriving DecidableEq

namespace NewOption

/-- How an option is written. -/
def form : NewOption → OptionForm
  | .config => Step.configForm
  | .kind => ⟨"--kind".toList, some 'k', true⟩
  | .pass => ⟨"--pass".toList, none, true⟩
  | .fail => ⟨"--fail".toList, none, true⟩
  | .cases => ⟨"--cases".toList, none, true⟩
  | .hasFilename => ⟨"--has-filename".toList, none, false⟩
  | .output => ⟨"--output".toList, some 'o', true⟩
  | .write => ⟨"--write".toList, none, false⟩
  | .force => ⟨"--force".toList, none, false⟩

/-- All options. -/
def vocabulary : Vocabulary NewOption :=
  ⟨[.config, .kind, .pass, .fail, .cases, .hasFilename, .output, .write, .force], form⟩

/-- Makes sure that the value of an option can be used. -/
def check (cwd : Place) (option : NewOption) (value : Text) : Step Unit := do
  match option with
  | .config => discard (Step.existingFile cwd option.form value)
  | .cases => discard (Step.existingFile cwd option.form value)
  | .output => if (FilePath.parse value).hasNul then Task.stop (.fault (.nul .mk))
  | .kind =>
      match RuleKind.parse value with
      | .ok _ => return
      | .error unknown => Task.stop (.usage (.badValue (some option.form.hint) unknown.message))
  | _ => return

end NewOption

/-! ## Requests -/

/-- What the command is asked for. -/
structure NewRequest where
  name : Text
  config : Option FilePath
  kind : Option RuleKind
  pass : List Text
  fail : List Text
  cases : Option FilePath
  hasFilename : Bool
  output : Option FilePath
  write : Bool
  force : Bool
  deriving DecidableEq

namespace NewRequest

/-- The request that arguments make for a rule of the given name, provided that the values
of all options can be used. -/
def ofArguments (cwd : Place) (arguments : Arguments NewOption) (name : Text) : NewRequest where
  name := name
  config := (arguments.value? .config).map fun value => (FilePath.parse value).resolve cwd
  kind := (arguments.value? .kind).bind fun value => (RuleKind.parse value).toOption
  pass := arguments.values .pass
  fail := arguments.values .fail
  cases := (arguments.value? .cases).map fun value => (FilePath.parse value).resolve cwd
  hasFilename := arguments.has .hasFilename
  output := (arguments.value? .output).map FilePath.parse
  write := arguments.has .write
  force := arguments.has .force

/-- Reads the arguments of the command.  The options come first, in their order, and then
the operands. -/
def read (cwd : Place) (arguments : List Text) : Step NewRequest := do
  let arguments ← Task.check .usage (Arguments.read NewOption.vocabulary true arguments)
  arguments.order.forM fun option =>
    NewOption.check cwd option ((arguments.value? option).getD [])
  let request ← (match arguments.operands with
    | [] => Task.stop (.usage .missingOperand)
    | [name] => return ofArguments cwd arguments name
    | _ => Task.stop (.usage .tooManyOperands))
  if request.output.isSome && request.write then
    Task.stop (.usage (.badValue none "Use either --output or --write, not both.".toList))
  return request

/-! ## Faults that are reported -/

/-- The report on a configuration that cannot be used; files that cannot be opened are not
dealt with. -/
def configReport? (fault : ConfigFault) : Option Text :=
  match fault with
  | .missing _ => none
  | .file _ => none
  | fault => some ("Invalid configuration: ".toList ++ fault.message)

/-- The report on a case file that is at fault; what is not put down to the file is not
dealt with. -/
def casesReport? (fault : LoadFault) : Option Text :=
  match fault with
  | .content (.file fault) => some fault.message
  | _ => none

/-- The report on a template that is missing or has a mistake; other faults are not dealt
with. -/
def rendererReport? (fault : RendererFault) : Option Text :=
  match fault with
  | .missing _ => some fault.message
  | .file ⟨.noEntry, _⟩ => some fault.message
  | .template cause => if cause.isTemplates then some fault.message else none
  | _ => none

/-- The report on a template that asks for what is not there; other faults are not dealt
with. -/
def renderReport? (fault : RenderFault) : Option Text :=
  match fault with
  | .template _ _ => some fault.message
  | _ => none

/-! ## Carrying out -/

/-- The directory of the configuration file, if there is one. -/
def folder? (request : NewRequest) : Option FilePath := request.config.map FilePath.parent

/-- Loads the configuration. -/
def loadConfig (request : NewRequest) : Step Config := do
  match request.config with
  | none => return .standard
  | some path =>
      let config ← Step.settle configReport? .config (Config.load path)
      Task.report .info .command ("Loaded configuration from ".toList ++ path.text)
      return config

/-- Loads the case file. -/
def loadCases (request : NewRequest) (config : Config) : Step CaseFile.Groups := do
  match request.cases with
  | none => return ⟨[], []⟩
  | some path =>
      Step.settle casesReport? .cases (CaseFile.loadFrom path config.template.encoding)

/-- The cases that the rule accepts: those of the options and then those of the case
file. -/
def passCases (request : NewRequest) (groups : CaseFile.Groups) : List CaseItem :=
  (request.pass.map TestCase.ofCode ++ groups.pass).map .case

/-- The cases that the rule reports: those of the options and then those of the case
file. -/
def failCases (request : NewRequest) (groups : CaseFile.Groups) : List CaseItem :=
  (request.fail.map TestCase.ofCode ++ groups.fail).map .case

/-- The test needs file names: that is asked for, or some case has one. -/
def needsFilename (request : NewRequest) (groups : CaseFile.Groups) : Bool :=
  request.hasFilename || anyFilename [request.passCases groups, request.failCases groups]

/-- The source of the rule. -/
def source (request : NewRequest) (cwd : Place) (config : Config) (name : RuleName) :
    Step Text := do
  let groups ← request.loadCases config
  let renderer ← Step.settle rendererReport? .renderer
    (Renderer.build config.template config.rule cwd request.folder?)
  Step.settle renderReport? .render
    (renderer.produce name (request.needsFilename groups) (request.passCases groups)
      (request.failCases groups))

/-- The path that the source is saved at, if it is not to be printed. -/
def target? (request : NewRequest) (cwd : Place) (config : Config) (kind : RuleKind)
    (name : RuleName) : Step (Option FilePath) := do
  let here : FilePath := ⟨.root, cwd⟩
  match request.output with
  | some path => some <$> Task.check (.fault ∘ .nul) (FilePath.resolveFrom cwd here path)
  | none =>
      if request.write then
        some <$> Task.check (.fault ∘ .noPath)
          (config.output.rulePath (request.folder?.getD here) kind name)
      else return none

/-- Makes sure that the path is free, or that overwriting is asked for. -/
def checkFree (request : NewRequest) (config : Config) (target : FilePath) : Step Unit := do
  if ← Task.tryAsk (.fault ∘ .file) (Inquiry.isThere target) then
    if !(request.force || config.output.overwrite.isTruthy) then
      Step.refuse (Text.join [] ["Refusing to overwrite existing file ".toList, target.text,
        " (use --force)".toList])

/-- What the command does in the end. -/
def deed (request : NewRequest) (cwd : Place) : Step Deed := do
  let config ← request.loadConfig
  let name ← Step.demand InvalidName.message (RuleName.parse request.name)
  let kind := request.kind.getD config.rule.kind
  let text ← request.source cwd config name
  match ← request.target? cwd config kind name with
  | none => return .print text
  | some target => do
      request.checkFree config target
      return .save target text (Text.join [] ["Wrote ".toList, kind.name, " rule ".toList,
        name.kebab, " to ".toList, target.text])

end NewRequest
end LintScaffold
