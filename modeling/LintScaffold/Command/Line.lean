import LintScaffold.Command.Kinds
import LintScaffold.Command.New
import LintScaffold.Text.ControlSequence

/-!
# Command lines

A command line has options for all commands, the name of a command, and the arguments of
that command.  Running it on a file tree yields how it ends, what it reports, and the files
that it leaves behind: it changes files only in its last step, and only if that saves a
rule.
-/

namespace LintScaffold

/-! ## Reading -/

/-- The option for all commands. -/
inductive SharedOption
  | logLevel
  deriving DecidableEq

/-- The option for all commands. -/
def SharedOption.vocabulary : Vocabulary SharedOption :=
  ⟨[.logLevel], fun _ => ⟨"--log-level".toList, none, true⟩⟩

/-- A command. -/
inductive Command
  | new
  | kinds
  deriving DecidableEq

/-- The command of a name. -/
def Command.named? (name : Text) : Option Command :=
  if name = "new".toList then some .new
  else if name = "kinds".toList then some .kinds
  else none

/-- A command with its arguments, and the threshold for what is shown of its reports. -/
structure Call where
  threshold : Int
  command : Command
  arguments : List Text
  deriving DecidableEq

namespace Call

/-- A text that says something. -/
def saying? (text : Option Text) : Option Text := text.filter fun t => !t.isEmpty

/-- The threshold that the options or else the environment name. -/
def thresholdOf (arguments : Arguments SharedOption) (environment : Option Text) :
    Except UsageFault Int :=
  match (saying? (arguments.value? .logLevel)).or (saying? environment) with
  | none => .ok Level.standard
  | some name =>
      (Level.parse name).mapError fun fault =>
        .badValue (some "--log-level".toList) fault.message

/-- Reads a command line.  `environment` is the level that the environment names.  What
looks like an option where a command should stand is taken for one. -/
def read (environment : Option Text) (line : List Text) : Except UsageFault Call := do
  if line.isEmpty then throw .noArguments
  let arguments ← Arguments.read SharedOption.vocabulary false line
  match arguments.operands with
  | [] => throw .noCommand
  | name :: rest =>
      match Command.named? name with
      | none => do
          let _ ← Arguments.read SharedOption.vocabulary false (name :: rest)
          throw .noSuchCommand
      | some command => return ⟨← thresholdOf arguments environment, command, rest⟩

/-- What the command does in the end. -/
def deed (call : Call) (cwd : Place) : Step Deed := do
  match call.command with
  | .new => (← NewRequest.read cwd call.arguments).deed cwd
  | .kinds => (← KindsRequest.read cwd call.arguments).deed

end Call

/-! ## Running -/

/-- How a run ends. -/
inductive Ending
  /-- It is done, and has printed something. -/
  | done (printed : Text)
  /-- It has stopped before it was done. -/
  | stopped (halt : Halt)
  deriving DecidableEq

/-- The code that a run ends with. -/
def Ending.exitCode : Ending → Nat
  | .done _ => 0
  | .stopped (.usage _) => 2
  | .stopped _ => 1

/-- What a run has printed, where the output is no terminal. -/
def Ending.output : Ending → Text
  | .done printed => Text.dropControlSequences printed
  | .stopped _ => []

/-- How a run ends, what it shows of its reports, and the files that it leaves behind. -/
structure Run where
  ending : Ending
  records : List Record
  files : FileTree

/-- Does what a command does in the end. -/
def Deed.perform (tree : FileTree) (cwd : Place) : Deed → Run
  | .print text => ⟨.done text, [], tree⟩
  | .save target text report =>
      match tree.save cwd target (Utf8.encode text) with
      | (files, some fault) => ⟨.stopped (.fault (.file fault)), [], files⟩
      | (files, none) => ⟨.done [], [⟨.info, .command, report⟩], files⟩

/-- Runs a call in the directory `cwd` of a file tree. -/
def Call.run (call : Call) (tree : FileTree) (cwd : Place) : Run :=
  match (call.deed cwd).answer tree cwd with
  | (.error halt, records) =>
      ⟨.stopped halt, records.filter (Record.isShown call.threshold), tree⟩
  | (.ok deed, records) =>
      let run := deed.perform tree cwd
      { run with records := (records ++ run.records).filter (Record.isShown call.threshold) }

/-- Runs a command line. -/
def runLine (tree : FileTree) (cwd : Place) (environment : Option Text) (line : List Text) :
    Run :=
  match Call.read environment line with
  | .error fault => ⟨.stopped (.usage fault), [], tree⟩
  | .ok call => call.run tree cwd

end LintScaffold
