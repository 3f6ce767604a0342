import LintScaffold.Case.Load
import LintScaffold.Command.Arguments
import LintScaffold.Config.Load
import LintScaffold.Renderer

/-!
# Steps of commands

A command goes on step by step until it knows what it will do.  It stops before that if it
has been called in a wrong way, if it has reported why it cannot go on, or if it meets a
fault that it does not deal with.
-/

namespace LintScaffold

/-- A fault that a command does not deal with. -/
inductive OpenFault
  | config (fault : ConfigFault)
  | cases (fault : LoadFault)
  | renderer (fault : RendererFault)
  | render (fault : RenderFault)
  | noPath (fault : NoPath)
  | file (fault : PathFault)
  | nul (fault : NulInPath)
  /-- A number has too many digits to be written. -/
  | tooLong
  deriving DecidableEq

/-- The wording of a fault. -/
def OpenFault.message : OpenFault → Text
  | .config fault => fault.message
  | .cases fault => fault.message
  | .renderer fault => fault.message
  | .render fault => fault.message
  | .noPath fault => fault.message
  | .file fault => fault.message
  | .nul fault => fault.message
  | .tooLong => tooLongMessage

/-- Why a command stops. -/
inductive Halt
  /-- It has been called in a wrong way. -/
  | usage (fault : UsageFault)
  /-- It has reported why. -/
  | reported
  /-- It does not deal with a fault. -/
  | fault (fault : OpenFault)
  deriving DecidableEq

/-- A part of a command. -/
abbrev Step := Task Halt

namespace Step

/-- Stops after a report. -/
def refuse {α : Type} (message : Text) : Step α := do
  Task.report .error .command message
  Task.stop .reported

/-- Goes on with a result; a fault is reported. -/
def demand {ε α : Type} (wording : ε → Text) (outcome : Except ε α) : Step α :=
  match outcome with
  | .ok a => pure a
  | .error fault => refuse (wording fault)

/-- Goes on with the outcome of a task.  A fault is reported if `wording` has words for it,
and is not dealt with otherwise. -/
def settle {ε α : Type} (wording : ε → Option Text) (leave : ε → OpenFault) (task : Task ε α) :
    Step α := do
  match ← Task.attempt task with
  | .ok a => return a
  | .error fault =>
      match wording fault with
      | some message => refuse message
      | none => Task.stop (.fault (leave fault))

/-- The file that the value of an option names, which must be there.  The value is seen
from the directory `cwd`. -/
def existingFile (cwd : Place) (form : OptionForm) (value : Text) : Step FilePath := do
  let path := FilePath.parse value
  if path.hasNul then Task.stop (.fault (.nul .mk))
  let bad (words : String) : Step FilePath :=
    Task.stop (.usage (.badValue (some form.hint)
      (Text.join [] ["file ".toList, Text.quoted value, words.toList])))
  let path := path.resolve cwd
  match ← Task.ask (Inquiry.look path) with
  | .ok (.file _) => return path
  | .ok .directory => bad " is a directory."
  | .error _ => bad " does not exist."

/-- The option that names a configuration file. -/
def configForm : OptionForm := ⟨"--config".toList, some 'c', true⟩

end Step

/-- What a command does in the end: it prints a text, or it saves a text at a path and then
reports that. -/
inductive Deed
  | print (text : Text)
  | save (target : FilePath) (text : Text) (report : Text)
  deriving DecidableEq

end LintScaffold
