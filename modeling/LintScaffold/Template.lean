import LintScaffold.Template.Eval
import LintScaffold.Template.Planning
import LintScaffold.Template.Statement

/-!
# Templates

A template is read and planned once, and can then be rendered any number of times, each
time with other values for its variables.
-/

namespace LintScaffold

/-- A template that is fit for use. -/
structure Template where
  plan : Template.Plan

namespace Template

/-- Reads a template and plans how it is rendered. -/
def compile (text : Text) : Except CompileFault Template := do
  let plan ← Plan.of (← parse text)
  return ⟨plan⟩

/-- The scope in which a template begins. -/
def Plan.scope (plan : Plan) (bindings : List (Text × Value)) : Scope :=
  let scope : Scope := ⟨bindings, plan.helpers, []⟩
  let scope :=
    if plan.hasItself then scope.set ⟨0, Planning.selfName⟩ .template else scope
  scope.enter plan.entrance

/-- The text of a template for given values of its variables. -/
def render (template : Template) (bindings : List (Text × Value)) : Except EvalFault Text := do
  let written : Run (Text × Scope) := runSteps (template.plan.scope bindings) template.plan.steps
  return (← written Around.nothing Memory.empty).1.1

end Template
end LintScaffold
