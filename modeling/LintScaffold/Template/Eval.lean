import LintScaffold.Template.Filter
import LintScaffold.Template.Operator
import LintScaffold.Template.Scope

/-!
# Evaluation

What the expressions of a plan evaluate to in a scope, and what its steps write.  Operands
and arguments are evaluated from left to right, and the first fault counts.  A step hands on
the scope with what it has assigned.

A loop over a list whose state nobody looks at simply goes through the list.  Any other loop
draws its items from memory when they are needed.  Its condition is asked when an item is
drawn, in the scope that the loop stands in.
-/

namespace LintScaffold.Template

/-! ## Arguments -/

/-- What messages call a call. -/
def callPath : String := "jinja2.runtime.Context.call"

/-- What messages call a filter or a test that does not exist: they are numbered. -/
def helperPath (scope : Scope) (name : Text) : String :=
  let number := (scope.helpers.findIdx? (· = name)).getD 0 + 1
  String.ofList ("root.<locals>.t_".toList ++ Text.ofNat number)

/-- What messages call a filter. -/
def filterPath (scope : Scope) (name : Text) : String :=
  ((Filter.named? name).map Filter.path).getD (helperPath scope name)

/-- What messages call a test. -/
def testPath (scope : Scope) (name : Text) : String :=
  ((Test.named? name).map Test.path).getD (helperPath scope name)

/-- The fault of applying a filter or a test that does not exist. -/
def unknownHelper (path : String) (arguments : Arguments) (fault : EvalFault) : EvalFault :=
  match arguments.named with
  | [] => fault
  | (name, _) :: _ => .ofArguments (.unexpected path name)

/-- Applies a filter by name. -/
def applyFilter (path : String) (name : Text) (v : Value) (arguments : Arguments) : Run Value :=
  match Filter.named? name with
  | some filter => filter.apply v arguments
  | none => Run.fail (unknownHelper path arguments (.noFilter name))

/-- Applies a test by name. -/
def applyTest (path : String) (name : Text) (v : Value) (arguments : Arguments) : Run Value :=
  match Test.named? name with
  | some test => do return .bool (← test.apply v arguments)
  | none => Run.fail (unknownHelper path arguments (.noTest name))

/-! ## Expressions -/

/-- The value of a name.  Where the variable has no value, the name is not there. -/
def Scope.look (scope : Scope) (mention : Mention) : Value :=
  match scope.get mention.place with
  | .unset => if mention.isSupplied then .unset else .missing (.name mention.name)
  | v => v

mutual
/-- The value of an expression; `captured` is the text of the block that is being
assigned. -/
def eval (scope : Scope) (captured : Text) : Formula → Run Value
  | .name mention => Run.settle (scope.look mention)
  | .const v => return v
  | .lost word => Run.fail (.unknownWord word)
  | .list items => do return .list (← evalAll scope captured items)
  | .tuple items => do return .tuple (← evalAll scope captured items)
  | .dict entries => do Run.check (Value.dictOf (← evalEntries scope captured entries))
  | .field e name => do
      let v ← eval scope captured e
      Run.settle (← v.field name)
  | .item e (.slice start stop stride) => do
      let v ← eval scope captured e
      let start ← evalOptional scope captured start
      let stop ← evalOptional scope captured stop
      let stride ← evalOptional scope captured stride
      Run.check (v.sliced start stop stride)
  | .item e index => do
      let v ← eval scope captured e
      let index ← eval scope captured index
      Run.settle (← v.item index)
  | .slice start stop stride => do
      let start ← evalOptional scope captured start
      let stop ← evalOptional scope captured stop
      return .slice start stop (← evalOptional scope captured stride)
  | .call e args named spread spreadNamed => do
      let v ← eval scope captured e
      let listed ← evalAll scope captured args
      let more ← evalSpread scope captured spread
      let names ← evalNamed scope captured named
      let extra ← evalExtra scope captured spreadNamed
      let names ← Run.check (Arguments.gatherNames callPath names extra)
      Run.settle (← v.call ⟨listed ++ more, names⟩)
  | .filter e name args named spread spreadNamed => do
      let path := filterPath scope name
      let v ← eval scope captured e
      let listed ← evalAll scope captured args
      let more ← evalSpread scope captured spread
      let names ← evalNamed scope captured named
      let extra ← evalExtra scope captured spreadNamed
      let names ← Run.check (Arguments.gatherNames path names extra)
      Run.settle (← applyFilter path name v ⟨listed ++ more, names⟩)
  | .test e name args named spread spreadNamed => do
      let path := testPath scope name
      let v ← eval scope captured e
      let listed ← evalAll scope captured args
      let more ← evalSpread scope captured spread
      let names ← evalNamed scope captured named
      let extra ← evalExtra scope captured spreadNamed
      let names ← Run.check (Arguments.gatherNames path names extra)
      applyTest path name v ⟨listed ++ more, names⟩
  | .sided op e => do
      let v ← eval scope captured e
      Run.settle (← Run.check (Operator.sided op v))
  | .arithmetic op left right => do
      let v ← eval scope captured left
      let w ← eval scope captured right
      Run.settle (← Operator.arithmetic op v w)
  | .compare e operands => do
      let v ← eval scope captured e
      return .bool (← evalCompare scope captured v operands)
  | .concat parts => do
      let vs ← evalAll scope captured parts
      return .text (← vs.mapM Value.display).flatten
  | .both left right => do
      let v ← eval scope captured left
      if ← v.isTruthy then eval scope captured right else return v
  | .either left right => do
      let v ← eval scope captured left
      if ← v.isTruthy then return v else eval scope captured right
  | .negate e => do return .bool !(← (← eval scope captured e).isTruthy)
  | .choice condition yes no line => do
      if ← (← eval scope captured condition).isTruthy then eval scope captured yes
      else evalAlternative scope captured line no
  | .captured => return .text captured

/-- The values of expressions. -/
def evalAll (scope : Scope) (captured : Text) : List Formula → Run (List Value)
  | [] => return []
  | e :: rest => do
      let v ← eval scope captured e
      return v :: (← evalAll scope captured rest)

/-- The value of an expression, and none if there is no expression. -/
def evalOptional (scope : Scope) (captured : Text) : Option Formula → Run Value
  | none => return .none
  | some e => eval scope captured e

/-- The second value of a choice. -/
def evalAlternative (scope : Scope) (captured : Text) (line : Nat) : Option Formula → Run Value
  | none => Run.settle (.missing (.alternative line))
  | some e => eval scope captured e

/-- The arguments that an expression supplies by position. -/
def evalSpread (scope : Scope) (captured : Text) : Option Formula → Run (List Value)
  | none => return []
  | some e => do Arguments.spread (← eval scope captured e)

/-- What supplies arguments by name, if there is anything. -/
def evalExtra (scope : Scope) (captured : Text) : Option Formula → Run (Option Value)
  | none => return none
  | some e => do return some (← eval scope captured e)

/-- The keys and values of a dictionary. -/
def evalEntries (scope : Scope) (captured : Text) :
    List (Formula × Formula) → Run (List (Value × Value))
  | [] => return []
  | (key, e) :: rest => do
      let key ← eval scope captured key
      let v ← eval scope captured e
      return (key, v) :: (← evalEntries scope captured rest)

/-- The arguments that are given by name. -/
def evalNamed (scope : Scope) (captured : Text) :
    List (Text × Formula) → Run (List (Text × Value))
  | [] => return []
  | (name, e) :: rest => do
      let v ← eval scope captured e
      return (name, v) :: (← evalNamed scope captured rest)

/-- The outcome of comparing a value with an operand, that one with the next, and so on,
up to the first that does not hold. -/
def evalCompare (scope : Scope) (captured : Text) (v : Value) :
    List (Comparison × Formula) → Run Bool
  | [] => return true
  | (op, e) :: rest => do
      let w ← eval scope captured e
      if ← Operator.compare op v w then evalCompare scope captured w rest else return false
end

/-! ## Loops -/

/-- What a step or several ones write, and the scope behind them. -/
abbrev Writer := Scope → Run (Text × Scope)

/-- A loop that is to be gone through: its head, and how its condition, its body and the
statements for the other case are carried out. -/
structure LoopWork where
  head : LoopHead
  condition : Option (Scope → Run Bool)
  body : Writer
  otherwise : Writer

namespace LoopWork

/-- Writes the body once, with a scope in which the target has its value. -/
def round (work : LoopWork) : Writer := fun scope => work.body (scope.enter work.head.entrance)

/-- Goes through a list.  Every round begins with the variables of the scope that the loop
stands in. -/
def overList (work : LoopWork) (scope : Scope) : List Value → Run (Text × Scope)
  | [] => return ([], scope)
  | v :: rest => do
      let (text, inner) ← work.round (← scope.assign v work.head.target)
      let (more, scope) ← overList work (scope.leave inner) rest
      return (text ++ more, scope)

/-- Goes through the items that a loop draws from memory, at most `fuel` of them. -/
def overDrawn (work : LoopWork) (place : Nat) : (fuel : Nat) → Scope → Run (Text × Scope)
  | 0, scope => return ([], scope)
  | fuel + 1, scope => do
      match ← Run.beginRound place with
      | none => return ([], scope)
      | some v =>
          let inner ← scope.assign v work.head.target
          let inner :=
            match work.head.state with
            | some state => inner.set state (.loop place)
            | none => inner
          let (text, inner) ← work.round inner
          let (more, scope) ← overDrawn work place fuel (scope.leave inner)
          return (text ++ more, scope)

/-- Writes the statements for the case that a loop had no round. -/
def other (work : LoopWork) (scope : Scope) : Run (Text × Scope) := do
  let (text, inner) ← work.otherwise (scope.enter work.head.otherEntrance)
  return (text, scope.leave inner)

/-- An item if it passes the condition of the loop. -/
def sift (work : LoopWork) (scope : Scope) (v : Value) : Run (Option Value) :=
  match work.condition, work.head.condition with
  | some holds, some (entrance, _) => do
      let inner ← (scope.enter entrance).assign v work.head.target
      if ← holds inner then return some (inner.assigned work.head.target) else return none
  | _, _ => return some v

/-- How the rounds of a loop over a value are counted. -/
def countOf (work : LoopWork) (v : Value) : Feed → RoundCount
  | .items vs => if work.condition.isSome then .unknown else .known vs.length
  | _ =>
      match v with
      | .loop place => if work.condition.isSome then .unknown else .ofLoop place
      | _ => .unknown

/-- Goes through the items of a value in memory.  `again` tells how the loop is called again
for another value, and `depth` is the number of calls around it. -/
def inMemory (work : LoopWork) (again : Option (Value → Remembering Text)) (depth : Nat)
    (scope : Scope) (v : Value) : Run (Text × Scope) := do
  let feed ← v.feed
  let place ← Run.openLoop
    ⟨feed, work.condition.isSome, work.countOf v feed, 0, none, none, none, none, depth⟩
  let outer ← read
  let around : Around :=
    ⟨fun other w => if other = place then work.sift scope w outer else outer.sift other w,
      fun other w =>
        if other = place then
          match again with
          | some call => call w
          | none => throw (.kind .notRecursive)
        else outer.again other w⟩
  let fuel := (← get).stock + 1
  let written : Run (Text × Scope) := work.overDrawn place fuel scope
  let (text, scope) ← (written around : Remembering (Text × Scope))
  if (← Run.rounds place).begun = 0 then work.other scope else return (text, scope)

/-- The greatest number of calls of a loop inside each other. -/
def maxCalls : Nat := 240

/-- Goes through the items of a value in a loop that can be called again, `fuel` more calls
inside each other being admitted. -/
def again (work : LoopWork) (scope : Scope) (outer : Around) :
    (fuel : Nat) → Value → Remembering Text
  | 0, _ => throw .tooDeep
  | fuel + 1, v => do
      let depth := maxCalls - fuel
      let (text, _) ← work.inMemory (some (again work scope outer fuel)) depth scope v outer
      return text

/-- Goes through the items of a value. -/
def run (work : LoopWork) (scope : Scope) (v : Value) : Run (Text × Scope) := do
  if work.head.isRecursive then
    let text ← (again work scope (← read) maxCalls v : Remembering Text)
    return (text, scope)
  else if work.head.state.isSome || work.condition.isSome then work.inMemory none 1 scope v
  else
    match ← v.feed with
    | .items [] => work.other scope
    | .items vs => work.overList scope vs
    | _ => work.inMemory none 1 scope v

end LoopWork

/-! ## Steps -/

mutual
/-- What a step writes, and the scope behind it. -/
def runStep (scope : Scope) : Step → Run (Text × Scope)
  | .data text => return (text, scope)
  | .output e => do
      let v ← eval scope [] e
      return (← v.display, scope)
  | .choose branches otherwise => do
      match ← runBranches scope branches with
      | some result => return result
      | none => runSteps scope otherwise
  | .loop head body otherwise => do
      let v ← eval scope [] head.source
      let holds (e : Formula) (scope : Scope) : Run Bool := do (← eval scope [] e).isTruthy
      let work : LoopWork :=
        ⟨head, head.condition.map fun (_, e) => holds e, fun inner => runSteps inner body,
          fun inner => runSteps inner otherwise⟩
      work.run scope v
  | .assign isBarred target value => do
      if isBarred then Run.fail .noNamespace
      else return ([], ← scope.assign (← eval scope [] value) target)
  | .capture entrance body target filtered => do
      let (text, inner) ← runSteps (scope.enter entrance) body
      let v ← eval inner text filtered
      return ([], ← (scope.leave inner).assign v target)

/-- What steps write, and the scope behind them. -/
def runSteps (scope : Scope) : List Step → Run (Text × Scope)
  | [] => return ([], scope)
  | step :: rest => do
      let (text, scope) ← runStep scope step
      let (more, scope) ← runSteps scope rest
      return (text ++ more, scope)

/-- What the first branch whose condition holds writes, and the scope behind it. -/
def runBranches (scope : Scope) :
    List (Formula × List Step) → Run (Option (Text × Scope))
  | [] => return none
  | (condition, body) :: rest => do
      if ← (← eval scope [] condition).isTruthy then return some (← runSteps scope body)
      else runBranches scope rest
end

end LintScaffold.Template
