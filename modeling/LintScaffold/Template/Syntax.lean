import LintScaffold.Template.Token
import LintScaffold.Template.Value

/-!
# Syntax of templates

The tree that a template denotes: statements, which write text or bind names, and
expressions, which have values.
-/

namespace LintScaffold.Template

/-- The operators with one operand. -/
inductive Sided
  | neg
  | pos
  deriving DecidableEq

/-- The operators with two operands that are computed from both. -/
inductive Arithmetic
  | add
  | sub
  | mul
  | div
  | floorDiv
  | mod
  | pow
  deriving DecidableEq

/-- The comparisons. -/
inductive Comparison
  | eq
  | ne
  | lt
  | le
  | gt
  | ge
  | isIn
  | notIn
  deriving DecidableEq

/-- An expression whose names are of type `ν`.  The arguments of a call, a filter or a test
come in four lists: by position, by name, and the expressions of which each supplies several
arguments by position or by name. -/
inductive Expr (ν : Type)
  | name (n : ν)
  | const (v : Value)
  /-- A number that is written by a word without a meaning. -/
  | lost (word : Text)
  | list (items : List (Expr ν))
  | tuple (items : List (Expr ν))
  | dict (entries : List (Expr ν × Expr ν))
  | field (e : Expr ν) (name : Text)
  | item (e : Expr ν) (index : Expr ν)
  | slice (start stop stride : Option (Expr ν))
  | call (e : Expr ν) (args : List (Expr ν)) (named : List (Text × Expr ν))
      (spread spreadNamed : Option (Expr ν))
  | filter (e : Expr ν) (name : Text) (args : List (Expr ν)) (named : List (Text × Expr ν))
      (spread spreadNamed : Option (Expr ν))
  | test (e : Expr ν) (name : Text) (args : List (Expr ν)) (named : List (Text × Expr ν))
      (spread spreadNamed : Option (Expr ν))
  | sided (op : Sided) (e : Expr ν)
  | arithmetic (op : Arithmetic) (left right : Expr ν)
  | compare (e : Expr ν) (operands : List (Comparison × Expr ν))
  | concat (parts : List (Expr ν))
  | both (left right : Expr ν)
  | either (left right : Expr ν)
  | negate (e : Expr ν)
  /-- One of two values; without a second one, a value that is not there.  The line is
  that of the expression. -/
  | choice (condition yes : Expr ν) (no : Option (Expr ν)) (line : Nat)
  /-- The text of the block that is being assigned. -/
  | captured

/-- An expression as it is written. -/
abbrev Term := Expr Text

/-- What values are assigned to, given by names of type `ν`. -/
inductive Target (ν : Type)
  | name (n : ν)
  /-- An attribute of a name. -/
  | field (n : ν) (key : Text)
  | tuple (targets : List (Target ν))

/-- A statement. -/
inductive Stmt
  | data (text : Text)
  | output (e : Term)
  | choose (branches : List (Term × List Stmt)) (otherwise : List Stmt)
  /-- A loop, which may be called again inside its body. -/
  | loop (isRecursive : Bool) (target : Target Text) (source : Term) (condition : Option Term)
      (body otherwise : List Stmt)
  | assign (target : Target Text) (value : Term)
  /-- Assigns the text of the body, put through the filters of an expression in which it
  is `Expr.captured`. -/
  | capture (target : Target Text) (filtered : Term) (body : List Stmt)

/-- What messages call an expression to which nothing can be assigned. -/
def Expr.kind {ν : Type} : Expr ν → ExprKind
  | .name _ => "name"
  | .const _ => "const"
  | .lost _ => "const"
  | .list _ => "list"
  | .tuple _ => "tuple"
  | .dict _ => "dict"
  | .field _ _ => "getattr"
  | .item _ _ => "getitem"
  | .slice _ _ _ => "slice"
  | .call _ _ _ _ _ => "call"
  | .filter _ _ _ _ _ _ => "filter"
  | .test _ _ _ _ _ _ => "test"
  | .sided .neg _ => "neg"
  | .sided .pos _ => "pos"
  | .arithmetic .add _ _ => "add"
  | .arithmetic .sub _ _ => "sub"
  | .arithmetic .mul _ _ => "mul"
  | .arithmetic .div _ _ => "div"
  | .arithmetic .floorDiv _ _ => "floordiv"
  | .arithmetic .mod _ _ => "mod"
  | .arithmetic .pow _ _ => "pow"
  | .compare _ _ => "compare"
  | .concat _ => "concat"
  | .both _ _ => "and"
  | .either _ _ => "or"
  | .negate _ => "not"
  | .choice _ _ _ _ => "condexpr"
  | .captured => "templatedata"

end LintScaffold.Template
