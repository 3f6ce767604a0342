import LintScaffold.Template.Access
import LintScaffold.Template.Plan

/-!
# Scopes

The variables of a template while it is rendered, and how values are assigned to them.  A
variable that was never assigned holds a value that says so, and the same value stands for
what the caller does not supply.
-/

namespace LintScaffold.Template

/-- What a place in a template can refer to: the values that the caller supplies, the names
of the filters and tests of the template, and the values of the variables. -/
structure Scope where
  bindings : List (Text × Value)
  helpers : List Text
  values : List (Variable × Value)

namespace Scope

/-- The values that are there in every template. -/
def everywhere : List (Text × Value) :=
  [("range".toList, .builtin "range"), ("dict".toList, .builtin "dict"),
    ("lipsum".toList, .builtin "lipsum"), ("cycler".toList, .builtin "jinja2.utils.Cycler"),
    ("joiner".toList, .builtin "jinja2.utils.Joiner"),
    ("namespace".toList, .builtin "jinja2.utils.Namespace")]

/-- The value that is supplied under a name. -/
def ask (scope : Scope) (name : Text) : Value :=
  match scope.bindings.lookup name with
  | some v => v
  | none => (everywhere.lookup name).getD .unset

/-- The value of a variable. -/
def get (scope : Scope) (place : Variable) : Value := (scope.values.lookup place).getD .unset

/-- Sets a variable. -/
def set (scope : Scope) (place : Variable) (v : Value) : Scope :=
  { scope with values := setEntry (· == ·) place v scope.values }

/-- The first value of a variable. -/
def first (scope : Scope) (place : Variable) : Start → Value
  | .supplied => scope.get place
  | .asked name => scope.ask name
  | .copied outer => scope.get outer
  | .nothing => .unset

/-- Sets the variables of a scope that begins. -/
def enter (scope : Scope) (entrance : Entrance) : Scope :=
  entrance.foldl (fun scope (place, start) => scope.set place (scope.first place start)) scope

/-- The scope behind an inner one: the values that were changed are kept, and the variables
of the inner scope are forgotten. -/
def leave (scope inner : Scope) : Scope :=
  { scope with
    values := scope.values.map fun (place, v) => (place, (inner.values.lookup place).getD v) }

/-! ## Assignments -/

/-- The items of a value that is spread over so many targets.  No more items are drawn than are
needed to see that there are too many. -/
def spread (v : Value) (targets : Nat) : Run (List Value) := do
  match ← Run.check v.feed? with
  | none => Run.fail (.kind (.notSpreadable v.kindName))
  | some feed =>
      let vs ← Run.takeUpTo (targets + 1) feed
      if vs.length < targets then Run.fail (.value (.tooFew targets vs.length))
      else if targets < vs.length then Run.fail (.value (.tooMany targets))
      else return vs

mutual
/-- Assigns a value to a target. -/
def assign (scope : Scope) (v : Value) : Target Variable → Run Scope
  | .name place => return scope.set place v
  | .field place key => do
      return scope.set place (← Run.check ((scope.get place).withEntry key v))
  | .tuple targets => do assignAll scope (← spread v targets.length) targets

/-- Assigns values to targets, one to each. -/
def assignAll (scope : Scope) (vs : List Value) : List (Target Variable) → Run Scope
  | [] => return scope
  | target :: rest => do
      let scope ← assign scope (vs.headD .none) target
      assignAll scope vs.tail rest
end

mutual
/-- The value of a target to which something was assigned. -/
def assigned (scope : Scope) : Target Variable → Value
  | .name place => scope.get place
  | .field place _ => scope.get place
  | .tuple targets => .tuple (assignedAll scope targets)

/-- The values of targets to which something was assigned. -/
def assignedAll (scope : Scope) : List (Target Variable) → List Value
  | [] => []
  | target :: rest => assigned scope target :: assignedAll scope rest
end

end Scope
end LintScaffold.Template
