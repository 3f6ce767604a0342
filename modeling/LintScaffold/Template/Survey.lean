import LintScaffold.Template.Syntax
import LintScaffold.Text.Compatible

/-!
# Surveys of scopes

Where the variables of a template get their first values from.  The template as a whole, the
body of a loop, its condition, the statements for the case that it had no round, and the
body of an assigned block are scopes; what a scope assigns is forgotten at its end.

A name that a scope assigns before it looks at it is not there until then, whatever
the caller supplies under that name, unless an enclosing scope knows the name: then
the variable starts out with the value that it has outside.  So each scope is surveyed
before it is entered: the survey goes through its statements in order and notes for
each name whether looking or assigning comes first.

Names are kept apart as they are written, but those with the same compatible form share a
variable.
-/

namespace LintScaffold.Template

/-! ## Variables -/

/-- A variable: the number of scopes around its own, and the compatible form of its names. -/
structure Variable where
  depth : Nat
  name : Text
  deriving DecidableEq

/-- Where the first value of a variable comes from: it is there from the beginning, it is that
which the caller supplies under a name, or that of another variable, or there is none. -/
inductive Start
  | supplied
  | asked (name : Text)
  | copied (v : Variable)
  | nothing
  deriving DecidableEq

/-- What a scope does with its names: how each of those that it knows starts, in the order in
which they came up, and those that it assigns. -/
structure Survey where
  starts : List (Text × Start)
  assigned : List Text

/-- The scopes around a place, the innermost first. -/
abbrev Scopes := List Survey

namespace Scopes

/-- The variable of a name, and how it starts. -/
def find? : Scopes → Text → Option (Variable × Start)
  | [], _ => none
  | survey :: outer, name =>
      match survey.starts.lookup name with
      | some start => some (⟨outer.length, Text.compatible name⟩, start)
      | none => find? outer name

/-- The variable of a name. -/
def placeOf? (scopes : Scopes) (name : Text) : Option Variable := (scopes.find? name).map Prod.fst

end Scopes

namespace Survey

/-- Nothing is known yet. -/
def empty : Survey := ⟨[], []⟩

/-- The survey notes how a name starts. -/
def note (survey : Survey) (name : Text) (start : Start) : Survey :=
  { survey with starts := setEntry (· == ·) name start survey.starts }

/-- The scope itself knows the name. -/
def knows (survey : Survey) (name : Text) : Bool := (survey.starts.lookup name).isSome

/-- Looks at a name. -/
def load (outer : Scopes) (survey : Survey) (name : Text) : Survey :=
  if survey.knows name || (outer.find? name).isSome then survey else survey.note name (.asked name)

/-- Assigns a name. -/
def store (outer : Scopes) (survey : Survey) (name : Text) : Survey :=
  let survey := { survey with assigned := name :: survey.assigned }
  if survey.knows name then survey
  else
    match outer.placeOf? name with
    | some v => survey.note name (.copied v)
    | none => survey.note name .nothing

/-- Gives a name its value from the beginning. -/
def supply (survey : Survey) (name : Text) : Survey :=
  { survey.note name .supplied with assigned := name :: survey.assigned }

/-- Joins the surveys of the three parts of a choice into that of what comes before it.  A
name that one of the parts assigns for the first time starts out with what it has outside,
since another part may leave it alone. -/
def merge (outer : Scopes) (before first second third : Survey) : Survey :=
  let overlay (survey part : Survey) : Survey :=
    ⟨part.starts.foldl (fun starts (name, start) => setEntry (· == ·) name start starts)
        survey.starts, part.assigned ++ survey.assigned⟩
  let joined := overlay (overlay (overlay before first) second) third
  let fresh := (first.assigned ++ second.assigned ++ third.assigned).filter fun name =>
    !before.assigned.contains name
  let restart (survey : Survey) (name : Text) : Survey :=
    match outer.placeOf? name with
    | some v => survey.note name (.copied v)
    | none => survey.note name (.asked name)
  fresh.foldl restart joined

/-! ## Going through expressions -/

mutual
/-- Goes through an expression. -/
def visit (outer : Scopes) (survey : Survey) : Term → Survey
  | .name n => survey.load outer n
  | .const _ => survey
  | .lost _ => survey
  | .list items => visitAll outer survey items
  | .tuple items => visitAll outer survey items
  | .dict entries => visitEntries outer survey entries
  | .field e _ => visit outer survey e
  | .item e index => visit outer (visit outer survey e) index
  | .slice start stop stride =>
      visitOptional outer (visitOptional outer (visitOptional outer survey start) stop) stride
  | .call e args named spread spreadNamed =>
      let survey := visitNamed outer (visitAll outer (visit outer survey e) args) named
      visitOptional outer (visitOptional outer survey spread) spreadNamed
  | .filter e _ args named spread spreadNamed =>
      let survey := visitNamed outer (visitAll outer (visit outer survey e) args) named
      visitOptional outer (visitOptional outer survey spread) spreadNamed
  | .test e _ args named spread spreadNamed =>
      let survey := visitNamed outer (visitAll outer (visit outer survey e) args) named
      visitOptional outer (visitOptional outer survey spread) spreadNamed
  | .sided _ e => visit outer survey e
  | .arithmetic _ left right => visit outer (visit outer survey left) right
  | .compare e operands => visitOperands outer (visit outer survey e) operands
  | .concat parts => visitAll outer survey parts
  | .both left right => visit outer (visit outer survey left) right
  | .either left right => visit outer (visit outer survey left) right
  | .negate e => visit outer survey e
  | .choice condition yes no _ =>
      visitOptional outer (visit outer (visit outer survey condition) yes) no
  | .captured => survey

/-- Goes through expressions. -/
def visitAll (outer : Scopes) (survey : Survey) : List Term → Survey
  | [] => survey
  | e :: rest => visitAll outer (visit outer survey e) rest

/-- Goes through an expression, if there is one. -/
def visitOptional (outer : Scopes) (survey : Survey) : Option Term → Survey
  | none => survey
  | some e => visit outer survey e

/-- Goes through the keys and values of a dictionary. -/
def visitEntries (outer : Scopes) (survey : Survey) : List (Term × Term) → Survey
  | [] => survey
  | (key, e) :: rest => visitEntries outer (visit outer (visit outer survey key) e) rest

/-- Goes through arguments that are given by name. -/
def visitNamed (outer : Scopes) (survey : Survey) : List (Text × Term) → Survey
  | [] => survey
  | (_, e) :: rest => visitNamed outer (visit outer survey e) rest

/-- Goes through the operands of comparisons. -/
def visitOperands (outer : Scopes) (survey : Survey) : List (Comparison × Term) → Survey
  | [] => survey
  | (_, e) :: rest => visitOperands outer (visit outer survey e) rest
end

/-! ## Going through statements -/

mutual
/-- Goes through a target of an assignment. -/
def visitTarget (outer : Scopes) (survey : Survey) : Target Text → Survey
  | .name n => survey.store outer n
  | .field n _ => survey.load outer n
  | .tuple targets => visitTargets outer survey targets

/-- Goes through targets of an assignment. -/
def visitTargets (outer : Scopes) (survey : Survey) : List (Target Text) → Survey
  | [] => survey
  | target :: rest => visitTargets outer (visitTarget outer survey target) rest
end

mutual
/-- Goes through a statement.  Of a loop only the source belongs to the scope, and of an
assigned block only the target. -/
def visitStmt (outer : Scopes) (survey : Survey) : Stmt → Survey
  | .data _ => survey
  | .output e => visit outer survey e
  | .choose [] otherwise => visitBody outer survey otherwise
  | .choose ((condition, body) :: branches) otherwise =>
      let survey := visit outer survey condition
      merge outer survey (visitBody outer survey body) (visitBranches outer survey branches)
        (visitBody outer survey otherwise)
  | .loop _ _ source _ _ _ => visit outer survey source
  | .assign target value => visitTarget outer (visit outer survey value) target
  | .capture target _ _ => visitTarget outer survey target

/-- Goes through statements. -/
def visitBody (outer : Scopes) (survey : Survey) : List Stmt → Survey
  | [] => survey
  | statement :: rest => visitBody outer (visitStmt outer survey statement) rest

/-- Goes through the further branches of a choice.  Each counts as a choice of its own with
nothing for the other case. -/
def visitBranches (outer : Scopes) (survey : Survey) : List (Term × List Stmt) → Survey
  | [] => survey
  | (condition, body) :: rest =>
      let survey := visit outer survey condition
      let joined := merge outer survey (visitBody outer survey body) survey survey
      visitBranches outer joined rest
end

/-! ## Names of targets -/

mutual
/-- The names of a target that are assigned. -/
def namesOf : Target Text → List Text
  | .name n => [n]
  | .field _ _ => []
  | .tuple targets => namesOfAll targets

/-- The names of targets that are assigned. -/
def namesOfAll : List (Target Text) → List Text
  | [] => []
  | target :: rest => namesOf target ++ namesOfAll rest
end

mutual
/-- The names of a target of which attributes are assigned. -/
def ownersOf : Target Text → List Text
  | .name _ => []
  | .field n _ => [n]
  | .tuple targets => ownersOfAll targets

/-- The names of targets of which attributes are assigned. -/
def ownersOfAll : List (Target Text) → List Text
  | [] => []
  | target :: rest => ownersOf target ++ ownersOfAll rest
end

/-- The survey of a scope in which some names have their values from the beginning. -/
def supplying (names : List Text) : Survey := names.foldl supply empty

/-- How the variables of a scope start: first those with a value, in order, and then those
without one.  `depth` is the number of scopes around it. -/
def entrance (survey : Survey) (depth : Nat) : List (Variable × Start) :=
  let variableOf (entry : Text × Start) : Variable × Start :=
    (⟨depth, Text.compatible entry.1⟩, entry.2)
  let isEmpty (entry : Text × Start) : Bool := entry.2 = .nothing
  let isFilled (entry : Text × Start) : Bool := entry.2 ≠ .nothing && entry.2 ≠ .supplied
  (survey.starts.filter isFilled).map variableOf ++ (survey.starts.filter isEmpty).map variableOf

end Survey
end LintScaffold.Template
