import LintScaffold.Text.Case

/-!
# Log records

What a run reports beside its output.  A record has a level, the part of the program that
it comes from, and a message; records below a threshold are not shown.
-/

namespace LintScaffold

/-- How serious a record is. -/
inductive Severity
  | debug
  | info
  | error
  deriving DecidableEq

/-- The name of a severity. -/
def Severity.name : Severity → String
  | .debug => "DEBUG"
  | .info => "INFO"
  | .error => "ERROR"

/-- The number of a severity. -/
def Severity.level : Severity → Int
  | .debug => 10
  | .info => 20
  | .error => 40

/-- The part of the program that a record comes from. -/
inductive Reporter
  | command
  | renderer
  | cases
  deriving DecidableEq

/-- The name of a part of the program. -/
def Reporter.name : Reporter → String
  | .command => "rulegen.cli"
  | .renderer => "rulegen.renderer"
  | .cases => "rulegen.cases"

/-- A record. -/
structure Record where
  severity : Severity
  reporter : Reporter
  message : Text
  deriving DecidableEq

/-- The record is shown at a threshold. -/
def Record.isShown (threshold : Int) (record : Record) : Bool :=
  decide (threshold ≤ record.severity.level)

/-! ## Thresholds -/

/-- A name that is none of a level. -/
structure UnknownLevel where
  name : Text
  deriving DecidableEq

/-- The wording for a name that is none of a level. -/
def UnknownLevel.message (fault : UnknownLevel) : Text :=
  "Invalid log level: ".toList ++ fault.name

namespace Level

/-- The levels by name. -/
def names : List (Text × Int) :=
  [("CRITICAL".toList, 50), ("FATAL".toList, 50), ("ERROR".toList, 40), ("WARN".toList, 30),
    ("WARNING".toList, 30), ("INFO".toList, 20), ("DEBUG".toList, 10), ("NOTSET".toList, 0)]

/-- The threshold where nothing is said. -/
def standard : Int := 20

/-- The level of a name, in whatever case it is written. -/
def parse (name : Text) : Except UnknownLevel Int :=
  match names.lookup (Text.upper name) with
  | some level => .ok level
  | none => .error ⟨name⟩

end Level
end LintScaffold
