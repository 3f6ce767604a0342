import LintScaffold.Template.Survey

/-!
# Plans

The form in which a template is rendered.  Every name is resolved to its variable, and it is
known how the variables of each scope start.
-/

namespace LintScaffold.Template

/-- A name in an expression, with the variable that it stands for.  A variable that is
supplied has a value whenever it is looked at. -/
structure Mention where
  place : Variable
  name : Text
  isSupplied : Bool

/-- An expression whose names are resolved. -/
abbrev Formula := Expr Mention

/-- How the variables of a scope start, in the order in which they are set. -/
abbrev Entrance := List (Variable × Start)

/-- The head of a loop: the variable of its state, if something looks at it; whether it can be
called again; the target and the source of its items; its condition and how the scope of the
condition begins; and how the scopes of its body and of the other case begin. -/
structure LoopHead where
  state : Option Variable
  isRecursive : Bool
  target : Target Variable
  source : Formula
  condition : Option (Entrance × Formula)
  entrance : Entrance
  otherEntrance : Entrance

/-- A step of rendering. -/
inductive Step
  | data (text : Text)
  | output (e : Formula)
  | choose (branches : List (Formula × List Step)) (otherwise : List Step)
  | loop (head : LoopHead) (body otherwise : List Step)
  /-- An assignment, which is barred if an attribute is among its targets. -/
  | assign (isBarred : Bool) (target : Target Variable) (value : Formula)
  /-- Assigns the text of the body, put through the filters of an expression. -/
  | capture (entrance : Entrance) (body : List Step) (target : Target Variable)
      (filtered : Formula)

/-- A plan: how the variables of the template start, whether the template itself is among
them, its steps, and the names of its filters and tests. -/
structure Plan where
  entrance : Entrance
  hasItself : Bool
  steps : List Step
  helpers : List Text

end LintScaffold.Template
