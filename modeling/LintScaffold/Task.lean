import LintScaffold.Log
import LintScaffold.Path.Inquiry

/-!
# Tasks

A task looks at files, reports what it does, and has a result or fails.  What it has
reported before it fails stays reported.
-/

namespace LintScaffold

/-- A computation that looks at files, reports and may fail. -/
abbrev Task (ε α : Type) := ExceptT ε (StateT (List Record) Inquiry) α

namespace Task

variable {ε δ α β : Type}

/-- Fails. -/
def stop (fault : ε) : Task ε α := throw fault

/-- Reports something. -/
def report (severity : Severity) (reporter : Reporter) (message : Text) : Task ε Unit :=
  ExceptT.lift (modify fun records => records ++ [⟨severity, reporter, message⟩])

/-- Looks at files. -/
def ask (inquiry : Inquiry α) : Task ε α := ExceptT.lift (StateT.lift inquiry)

/-- Goes on with a result or fails with a fault. -/
def check (f : δ → ε) (outcome : Except δ α) : Task ε α :=
  match outcome with
  | .ok a => pure a
  | .error fault => stop (f fault)

/-- Looks at files, where that itself may fail. -/
def tryAsk (f : δ → ε) (inquiry : Inquiry (Except δ α)) : Task ε α := do
  check f (← ask inquiry)

/-- The task with other words for its faults. -/
def rephrase (f : δ → ε) (task : Task δ α) : Task ε α :=
  ExceptT.mk (do return (← task.run).mapError f)

/-- The outcome of a task, whether it fails or not. -/
def attempt (task : Task δ α) : Task ε (Except δ α) :=
  ExceptT.mk (do return .ok (← task.run))

/-- The outcome of a task and what it reports, given the files. -/
def answer (tree : FileTree) (cwd : Place) (task : Task ε α) : Except ε α × List Record :=
  (task.run.run []).answer tree cwd

end Task
end LintScaffold
