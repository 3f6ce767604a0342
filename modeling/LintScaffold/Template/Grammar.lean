import LintScaffold.Template.Reader

/-!
# Grammar of expressions

Reading an expression, one function for each level of binding strength, from the
loosest to the tightest.  Wherever an expression stands inside another one, between
brackets or as an argument, the functions call `inner`, which reads a whole
expression; the knot is tied at the end by a bound on the depth of nesting, for which
the number of tokens is enough.
-/

namespace LintScaffold.Template.Grammar

open Reader

/-! ## Several at once -/

/-- One thing, or several of them with commas. -/
inductive Tupled (α : Type)
  | single (a : α)
  | several (items : List α)

/-- Things with commas, as far as they are read: in reverse order, whether a comma was
seen, and whether more may come. -/
structure Listed (α : Type) where
  items : List α
  hasComma : Bool
  isOpen : Bool

/-- The token ends a row of things with commas. -/
def endsTuple (stops : List String) : Token → Bool
  | .variableEnd => true
  | .blockEnd => true
  | .mark .rightParen => true
  | .name n => stops.any fun word => word.toList = n
  | _ => false

/-- Reads one more thing of a row. -/
def listStep {α : Type} (element : Reader α) (stops : List String) (row : Listed α) :
    Reader (Option (Listed α)) := do
  if !row.isOpen then return none
  if !row.items.isEmpty then expectMark .comma
  if endsTuple stops (← peek) then return some { row with isOpen := false }
  let a ← element
  if ← markAhead .comma then return some ⟨a :: row.items, true, true⟩
  else return some ⟨a :: row.items, row.hasComma, false⟩

/-- Reads one thing, or several with commas.  Only between parentheses there may be none
at all. -/
def tupled {α : Type} (element : Reader α) (stops : List String) (inParens : Bool) :
    Reader (Tupled α) := do
  let row ← repeatWhile (listStep element stops) ⟨[], false, true⟩
  if row.hasComma then return .several row.items.reverse
  match row.items with
  | a :: _ => return .single a
  | [] =>
      if inParens then return .several []
      else fail (.noExpression (← peek).describe)

/-- Reads an expression, or a tuple without parentheses. -/
def tupleExpr (element : Reader Term) (stops : List String) (inParens : Bool) :
    Reader Term := do
  match ← tupled element stops inParens with
  | .single e => return e
  | .several items => return .tuple items

/-! ## Primary expressions -/

/-- The constants among the names. -/
def constantNames : List (String × Value) :=
  [("true", .bool true), ("True", .bool true), ("false", .bool false), ("False", .bool false),
    ("none", .none), ("None", .none)]

/-- What a name stands for. -/
def nameExpr (n : Text) : Term :=
  match constantNames.find? fun (word, _) => word.toList = n with
  | some (_, c) => .const c
  | none => .name n

/-- Reads one more of the texts that stand next to each other. -/
def textStep (text : Text) : Reader (Option Text) := do
  match ← peek with
  | .text more =>
      let _ ← next
      return some (text ++ more)
  | _ => return none

/-- Reads one more item of a list. -/
def itemStep (inner : Reader Term) (items : List Term) : Reader (Option (List Term)) := do
  if ← markAhead .rightBracket then return none
  if !items.isEmpty then
    expectMark .comma
    if ← markAhead .rightBracket then return none
  return some ((← inner) :: items)

/-- Reads one more entry of a dictionary. -/
def entryStep (inner : Reader Term) (entries : List (Term × Term)) :
    Reader (Option (List (Term × Term))) := do
  if ← markAhead .rightBrace then return none
  if !entries.isEmpty then
    expectMark .comma
    if ← markAhead .rightBrace then return none
  let key ← inner
  expectMark .colon
  let value ← inner
  return some ((key, value) :: entries)

/-- Reads a constant, a name, or an expression between brackets. -/
def primary (inner : Reader Term) : Reader Term := do
  match ← peek with
  | .name n =>
      let _ ← next
      return nameExpr n
  | .text t =>
      let _ ← next
      return .const (.text (← repeatWhile textStep t))
  | .integer n =>
      let _ ← next
      return .const (.ofNat n)
  | .float x =>
      let _ ← next
      return .const (.ofFloat x)
  | .mark .leftParen =>
      let _ ← next
      let e ← tupleExpr inner [] true
      expectMark .rightParen
      return e
  | .mark .leftBracket =>
      let _ ← next
      let items ← repeatWhile (itemStep inner) []
      expectMark .rightBracket
      return .list items.reverse
  | .mark .leftBrace =>
      let _ ← next
      let entries ← repeatWhile (entryStep inner) []
      expectMark .rightBrace
      return .dict entries.reverse
  | t => fail (.unexpectedToken t.describe)

/-! ## Arguments and subscripts -/

/-- The arguments of a call. -/
structure Args where
  args : List Term
  named : List (Text × Term)
  spread : Option Term
  spreadNamed : Option Term

/-- No arguments. -/
def Args.empty : Args := ⟨[], [], none, none⟩

/-- Arguments as far as they are read, the last one first, and whether there are any. -/
structure Reading where
  args : Args
  started : Bool

/-- Refuses arguments that are out of order. -/
def requireOrder (inOrder : Bool) : Reader Unit :=
  if inOrder then return () else fail .badArguments

/-- Reads one argument behind those read so far. -/
def oneArgument (inner : Reader Term) (args : Args) : Reader Args := do
  match ← peek with
  | .mark .mul =>
      requireOrder (args.spread.isNone && args.spreadNamed.isNone)
      let _ ← next
      return { args with spread := some (← inner) }
  | .mark .pow =>
      requireOrder args.spreadNamed.isNone
      let _ ← next
      return { args with spreadNamed := some (← inner) }
  | t =>
      let key? ←
        match t with
        | .name n => do
            if (← look) = .mark .assign then pure (some n) else pure none
        | _ => pure none
      match key? with
      | some key =>
          requireOrder args.spreadNamed.isNone
          let _ ← next
          let _ ← next
          return { args with named := (key, ← inner) :: args.named }
      | none =>
          requireOrder (args.spread.isNone && args.spreadNamed.isNone && args.named.isEmpty)
          return { args with args := (← inner) :: args.args }

/-- Reads one more argument, if there is one. -/
def argumentStep (inner : Reader Term) (reading : Reading) : Reader (Option Reading) := do
  if ← markAhead .rightParen then return none
  if reading.started then
    expectMark .comma
    if ← markAhead .rightParen then return none
  return some ⟨← oneArgument inner reading.args, true⟩

/-- Reads arguments between parentheses. -/
def arguments (inner : Reader Term) : Reader Args := do
  expectMark .leftParen
  let reading ← repeatWhile (argumentStep inner) ⟨.empty, false⟩
  expectMark .rightParen
  return { reading.args with
    args := reading.args.args.reverse, named := reading.args.named.reverse }

/-- The next token ends a part of a slice. -/
def sliceEnds : Reader Bool := do
  return (← markAhead .rightBracket) || (← markAhead .comma)

/-- Reads the last part of a slice, behind its second part. -/
def sliceStride (inner : Reader Term) : Reader (Option Term) := do
  if ← skipMark .colon then
    if ← sliceEnds then return none
    else return some (← inner)
  else return none

/-- Reads the rest of a slice behind its first colon. -/
def sliceRest (inner : Reader Term) (start : Option Term) : Reader Term := do
  if ← markAhead .colon then return .slice start none (← sliceStride inner)
  else if ← sliceEnds then return .slice start none (← sliceStride inner)
  else
    let stop ← inner
    return .slice start (some stop) (← sliceStride inner)

/-- Reads an index or a slice. -/
def subscribed (inner : Reader Term) : Reader Term := do
  if ← skipMark .colon then sliceRest inner none
  else
    let e ← inner
    if ← skipMark .colon then sliceRest inner (some e)
    else return e

/-- Reads one more index. -/
def indexStep (inner : Reader Term) (items : List Term) : Reader (Option (List Term)) := do
  if ← markAhead .rightBracket then return none
  if !items.isEmpty then expectMark .comma
  return some ((← subscribed inner) :: items)

/-- Reads an attribute behind a dot. -/
def dotted (e : Term) : Reader Term := do
  let _ ← next
  let t ← next
  match t.token with
  | .name n => return .field e n
  | .integer n => return .item e (.const (.ofNat n))
  | _ => fail .noAttribute

/-- Reads a subscript between brackets. -/
def bracketed (inner : Reader Term) (e : Term) : Reader Term := do
  let _ ← next
  let items ← repeatWhile (indexStep inner) []
  expectMark .rightBracket
  match items with
  | [index] => return .item e index
  | _ => return .item e (.tuple items.reverse)

/-- Reads a call of an expression. -/
def called (inner : Reader Term) (e : Term) : Reader Term := do
  let a ← arguments inner
  return .call e a.args a.named a.spread a.spreadNamed

/-- Reads one more attribute, subscript or call. -/
def postfixStep (inner : Reader Term) (e : Term) : Reader (Option Term) := do
  match ← peek with
  | .mark .dot => return some (← dotted e)
  | .mark .leftBracket => return some (← bracketed inner e)
  | .mark .leftParen => return some (← called inner e)
  | _ => return none

/-- Reads the attributes, subscripts and calls of an expression. -/
def withPostfixes (inner : Reader Term) (e : Term) : Reader Term :=
  repeatWhile (postfixStep inner) e

/-! ## Filters and tests -/

/-- Reads one more part of a dotted name. -/
def partStep (name : Text) : Reader (Option Text) := do
  if ← skipMark .dot then return some (name ++ ['.'] ++ (← expectName))
  else return none

/-- Reads a name that may have dots in it. -/
def dottedName : Reader Text := do
  repeatWhile partStep (← expectName)

/-- Reads arguments, if there are any. -/
def optionalArguments (inner : Reader Term) : Reader Args := do
  if ← markAhead .leftParen then arguments inner else return .empty

/-- Reads one more filter. -/
def filterStep (inner : Reader Term) (e : Term) : Reader (Option Term) := do
  if ← skipMark .pipe then
    let name ← dottedName
    let a ← optionalArguments inner
    return some (.filter e name a.args a.named a.spread a.spreadNamed)
  else return none

/-- Reads filters that are applied to an expression. -/
def filters (inner : Reader Term) (e : Term) : Reader Term :=
  repeatWhile (filterStep inner) e

/-- An argument of a test may follow without parentheses. -/
def beginsArgument : Token → Bool
  | .name n => n ≠ "else".toList && n ≠ "or".toList && n ≠ "and".toList
  | .text _ => true
  | .integer _ => true
  | .float _ => true
  | .mark .leftBracket => true
  | .mark .leftBrace => true
  | _ => false

/-- Reads the arguments of a test. -/
def testArguments (inner : Reader Term) : Reader Args := do
  if ← markAhead .leftParen then arguments inner
  else if beginsArgument (← peek) then
    if ← wordAhead "is" then fail .chainedTests
    let e ← withPostfixes inner (← primary inner)
    return { Args.empty with args := [e] }
  else return .empty

/-- Reads a test of an expression. -/
def tested (inner : Reader Term) (e : Term) : Reader Term := do
  let _ ← next
  let negated ← skipWord "not"
  let name ← dottedName
  let a ← testArguments inner
  let e := Expr.test e name a.args a.named a.spread a.spreadNamed
  return if negated then .negate e else e

/-- Reads one more filter, test or call. -/
def refineStep (inner : Reader Term) (e : Term) : Reader (Option Term) := do
  match ← peek with
  | .mark .pipe => return some (← filters inner e)
  | .mark .leftParen => return some (← called inner e)
  | t => if t = .name "is".toList then return some (← tested inner e) else return none

/-! ## Operators -/

/-- Reads an expression with signs in front of it.  Filters apply to the whole of it. -/
def signed (inner : Reader Term) : (fuel : Nat) → (refines : Bool) → Reader Term
  | 0, _ => primary inner
  | fuel + 1, refines => do
      let e ←
        match ← peek with
        | .mark .sub => do
            let _ ← next
            pure (Expr.sided .neg (← signed inner fuel false))
        | .mark .add => do
            let _ ← next
            pure (Expr.sided .pos (← signed inner fuel false))
        | _ => primary inner
      let e ← withPostfixes inner e
      if refines then repeatWhile (refineStep inner) e else return e

/-- Reads an operand of a power. -/
def unary (inner : Reader Term) : Reader Term := do
  signed inner (← get).length true

/-- Reads one more operand behind an operator, if one comes next. -/
def operandStep (operator? : Token → Option Arithmetic) (operand : Reader Term) (left : Term) :
    Reader (Option Term) := do
  match operator? (← peek) with
  | none => return none
  | some op =>
      let _ ← next
      return some (.arithmetic op left (← operand))

/-- Reads powers. -/
def powers (inner : Reader Term) : Reader Term := do
  let operator? : Token → Option Arithmetic
    | .mark .pow => some .pow
    | _ => none
  repeatWhile (operandStep operator? (unary inner)) (← unary inner)

/-- Reads products and quotients. -/
def products (inner : Reader Term) : Reader Term := do
  let operator? : Token → Option Arithmetic
    | .mark .mul => some .mul
    | .mark .div => some .div
    | .mark .floorDiv => some .floorDiv
    | .mark .mod => some .mod
    | _ => none
  repeatWhile (operandStep operator? (powers inner)) (← powers inner)

/-- Reads one more part of a concatenation. -/
def concatStep (inner : Reader Term) (parts : List Term) : Reader (Option (List Term)) := do
  if ← skipMark .tilde then return some ((← products inner) :: parts) else return none

/-- Reads concatenations. -/
def concats (inner : Reader Term) : Reader Term := do
  match ← repeatWhile (concatStep inner) [← products inner] with
  | [e] => return e
  | parts => return .concat parts.reverse

/-- Reads sums and differences. -/
def sums (inner : Reader Term) : Reader Term := do
  let operator? : Token → Option Arithmetic
    | .mark .add => some .add
    | .mark .sub => some .sub
    | _ => none
  repeatWhile (operandStep operator? (concats inner)) (← concats inner)

/-- The comparison that a mark writes. -/
def comparison? : Token → Option Comparison
  | .mark .eq => some .eq
  | .mark .ne => some .ne
  | .mark .lt => some .lt
  | .mark .lteq => some .le
  | .mark .gt => some .gt
  | .mark .gteq => some .ge
  | _ => none

/-- Reads one more comparison. -/
def compareStep (inner : Reader Term) (operands : List (Comparison × Term)) :
    Reader (Option (List (Comparison × Term))) := do
  match comparison? (← peek) with
  | some op =>
      let _ ← next
      return some ((op, ← sums inner) :: operands)
  | none =>
      if ← skipWord "in" then return some ((.isIn, ← sums inner) :: operands)
      else if ← wordAhead "not" then
        if (← look) = .name "in".toList then
          let _ ← next
          let _ ← next
          return some ((.notIn, ← sums inner) :: operands)
        else return none
      else return none

/-- Reads comparisons. -/
def comparisons (inner : Reader Term) : Reader Term := do
  let e ← sums inner
  match ← repeatWhile (compareStep inner) [] with
  | [] => return e
  | operands => return .compare e operands.reverse

/-- Reads negations. -/
def negations (inner : Reader Term) : (fuel : Nat) → Reader Term
  | 0 => comparisons inner
  | fuel + 1 => do
      if ← skipWord "not" then return .negate (← negations inner fuel)
      else comparisons inner

/-- Reads an operand of a conjunction. -/
def negation (inner : Reader Term) : Reader Term := do
  negations inner (← get).length

/-- Reads conjunctions. -/
def conjunctions (inner : Reader Term) : Reader Term := do
  let more (left : Term) : Reader (Option Term) := do
    if ← skipWord "and" then return some (.both left (← negation inner)) else return none
  repeatWhile more (← negation inner)

/-- Reads disjunctions. -/
def disjunctions (inner : Reader Term) : Reader Term := do
  let more (left : Term) : Reader (Option Term) := do
    if ← skipWord "or" then return some (.either left (← conjunctions inner)) else return none
  repeatWhile more (← conjunctions inner)

/-- Reads choices, and all that binds tighter. -/
def choices (inner : Reader Term) : (fuel : Nat) → Reader Term
  | 0 => disjunctions inner
  | fuel + 1 => do
      let line := (← current).line
      let more (state : Nat × Term) : Reader (Option (Nat × Term)) := do
        if ← skipWord "if" then
          let condition ← disjunctions inner
          let no ← (do
            if ← skipWord "else" then return some (← choices inner fuel) else return none)
          return some ((← current).line, .choice condition state.2 no state.1)
        else return none
      return (← repeatWhile more (line, ← disjunctions inner)).2

/-- Reads an expression that nests at most `depth` deep. -/
def expression : (depth : Nat) → Reader Term
  | 0 => fail (.unexpectedToken [])
  | depth + 1 => do choices (expression depth) (← get).length

/-- Reads an expression without a choice at its top. -/
def conditionless (depth : Nat) : Reader Term := disjunctions (expression depth)

end LintScaffold.Template.Grammar
