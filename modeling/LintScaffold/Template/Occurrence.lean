import LintScaffold.Template.Syntax

/-!
# Occurrences

Which names, filters and tests occur in a template, in the order in which its statements are
gone through: of a loop first the target, the source, the body and the statements for the
case that it had no round, and then its condition; of an assignment first the target.
-/

namespace LintScaffold.Template

/-- A name that is looked at or assigned, a filter, or a test. -/
inductive Occurrence
  | looked (name : Text)
  | assigned (name : Text)
  | filter (name : Text)
  | test (name : Text)
  deriving DecidableEq

namespace Occurrence

mutual
/-- What occurs in an expression. -/
def inTerm : Term → List Occurrence
  | .name n => [.looked n]
  | .const _ => []
  | .lost _ => []
  | .list items => inTerms items
  | .tuple items => inTerms items
  | .dict entries => inEntries entries
  | .field e _ => inTerm e
  | .item e index => inTerm e ++ inTerm index
  | .slice start stop stride => inOptional start ++ inOptional stop ++ inOptional stride
  | .call e args named spread spreadNamed =>
      inTerm e ++ inTerms args ++ inNamed named ++ inOptional spread ++ inOptional spreadNamed
  | .filter e name args named spread spreadNamed =>
      .filter name :: (inTerm e ++ inTerms args ++ inNamed named ++ inOptional spread ++
        inOptional spreadNamed)
  | .test e name args named spread spreadNamed =>
      .test name :: (inTerm e ++ inTerms args ++ inNamed named ++ inOptional spread ++
        inOptional spreadNamed)
  | .sided _ e => inTerm e
  | .arithmetic _ left right => inTerm left ++ inTerm right
  | .compare e operands => inTerm e ++ inOperands operands
  | .concat parts => inTerms parts
  | .both left right => inTerm left ++ inTerm right
  | .either left right => inTerm left ++ inTerm right
  | .negate e => inTerm e
  | .choice condition yes no _ => inTerm condition ++ inTerm yes ++ inOptional no
  | .captured => []

/-- What occurs in expressions. -/
def inTerms : List Term → List Occurrence
  | [] => []
  | e :: rest => inTerm e ++ inTerms rest

/-- What occurs in an expression, if there is one. -/
def inOptional : Option Term → List Occurrence
  | none => []
  | some e => inTerm e

/-- What occurs in the keys and values of a dictionary. -/
def inEntries : List (Term × Term) → List Occurrence
  | [] => []
  | (key, e) :: rest => inTerm key ++ inTerm e ++ inEntries rest

/-- What occurs in arguments that are given by name. -/
def inNamed : List (Text × Term) → List Occurrence
  | [] => []
  | (_, e) :: rest => inTerm e ++ inNamed rest

/-- What occurs in the operands of comparisons. -/
def inOperands : List (Comparison × Term) → List Occurrence
  | [] => []
  | (_, e) :: rest => inTerm e ++ inOperands rest
end

mutual
/-- What occurs in a target. -/
def inTarget : Target Text → List Occurrence
  | .name n => [.assigned n]
  | .field _ _ => []
  | .tuple targets => inTargets targets

/-- What occurs in targets. -/
def inTargets : List (Target Text) → List Occurrence
  | [] => []
  | target :: rest => inTarget target ++ inTargets rest
end

mutual
/-- What occurs in a statement. -/
def inStmt : Stmt → List Occurrence
  | .data _ => []
  | .output e => inTerm e
  | .choose branches otherwise => inBranches branches ++ inBody otherwise
  | .loop _ target source condition body otherwise =>
      inTarget target ++ inTerm source ++ inBody body ++ inBody otherwise ++ inOptional condition
  | .assign target value => inTarget target ++ inTerm value
  | .capture target filtered body => inTarget target ++ inTerm filtered ++ inBody body

/-- What occurs in statements. -/
def inBody : List Stmt → List Occurrence
  | [] => []
  | statement :: rest => inStmt statement ++ inBody rest

/-- What occurs in the branches of a choice. -/
def inBranches : List (Term × List Stmt) → List Occurrence
  | [] => []
  | (condition, body) :: rest => inTerm condition ++ inBody body ++ inBranches rest
end

/-- The name is looked at before it is assigned. -/
def looksFirst (name : Text) (occurrences : List Occurrence) : Bool :=
  occurrences.find? (fun o => o = .looked name || o = .assigned name) = some (.looked name)

/-- The names of the filters and then those of the tests, each in order. -/
def helpers (occurrences : List Occurrence) : List Text :=
  let filters := occurrences.filterMap fun
    | .filter name => some name
    | _ => none
  let tests := occurrences.filterMap fun
    | .test name => some name
    | _ => none
  Text.sort filters.eraseDups ++ Text.sort tests.eraseDups

end Occurrence
end LintScaffold.Template
