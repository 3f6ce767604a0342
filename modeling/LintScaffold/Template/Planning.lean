import LintScaffold.Template.Constant
import LintScaffold.Template.Listing
import LintScaffold.Template.Occurrence
import LintScaffold.Template.Plan

/-!
# Planning

How a template becomes a plan.  The scopes are surveyed, the names are resolved, and constant
expressions are replaced by their values.

A plan stands for a listing that has one line for each step that it takes.  The listing
itself is never made, but its lines are counted, since the flaws that it would have are
reported with the line.  A flaw counts only if nothing else is wrong with the template; then
a flaw that makes the listing unreadable counts before one that makes it unfit.

Inside a choice an unknown filter is tolerated, since the choice may never come to it; a
loop or an assigned block inside a choice is strict again.
-/

namespace LintScaffold.Template

/-- What is known while a plan is made: the memory of constant expressions, the line of the
listing and the depth of its block, and the first flaws of both sorts. -/
structure Draft where
  memory : Memory
  line : Nat
  indent : Nat
  unreadable : Option CompileFault
  unfit : Option CompileFault

/-- A part of making a plan. -/
abbrev Planner := StateT Draft (Except CompileFault)

/-- The place that a part of a template has: the scopes around it; whether it belongs to the
template as a whole or to the body of a loop; whether an unknown filter is tolerated; whether
texts are put together instead of being written at once; and the number of loops around. -/
structure Site where
  scopes : Scopes
  isTop : Bool
  isLoop : Bool
  isLenient : Bool
  isBuffered : Bool
  loops : Nat

namespace Site

/-- The place inside a choice. -/
def inChoice (site : Site) : Site := { site with isLenient := true }

/-- The place inside a scope of its own. -/
def inScope (site : Site) (survey : Survey) : Site :=
  { site with scopes := survey :: site.scopes, isTop := false, isLoop := false, isLenient := false }

/-- The number of scopes. -/
def depth (site : Site) : Nat := site.scopes.length

end Site

namespace Planning

/-! ## Lines -/

/-- The greatest depth of a block. -/
def maxIndent : Nat := 99

/-- The greatest number of loops inside each other. -/
def maxLoops : Nat := 20

/-- Notes a flaw of the present line. -/
def note (fault : ListingFault) : Planner Unit :=
  modify fun draft =>
    let found : CompileFault := .listing fault (.line draft.line)
    if Listing.isUnreadable fault then
      { draft with unreadable := draft.unreadable <|> some found }
    else { draft with unfit := draft.unfit <|> some found }

/-- Begins a line. -/
def newLine : Planner Unit := do
  modify fun draft => { draft with line := draft.line + 1 }
  if maxIndent < (← get).indent then note .indentation

/-- Goes on by a number of lines. -/
def newLines : Nat → Planner Unit
  | 0 => return
  | n + 1 => do
      newLine
      newLines n

/-- Makes a part of the plan one block deeper. -/
def indented {α : Type} (part : Planner α) : Planner α := do
  modify fun draft => { draft with indent := draft.indent + 1 }
  let made ← part
  modify fun draft => { draft with indent := draft.indent - 1 }
  return made

/-- Carries out a computation on constants. -/
def compute {α : Type} (computation : Run α) : Planner α := do
  let draft ← get
  match computation Around.nothing draft.memory with
  | .ok (a, memory) =>
      set { draft with memory }
      return a
  | .error fault => throw (.operation fault)

/-! ## Constants -/

/-- The word for a double that has no digits. -/
def lostFloat (x : Binary64) : Option Text :=
  match x with
  | .nan => some "nan".toList
  | .infinite _ => some "inf".toList
  | _ => none

mutual
/-- The first word in a value for a number that has no digits. -/
def lostWord : Value → Option Text
  | .float x _ => lostFloat x
  | .complex z _ => lostFloat z.re <|> (lostFloat z.im).map (· ++ ['j'])
  | .list vs => lostWordOfAll vs
  | .tuple vs => lostWordOfAll vs
  | .dict entries => lostWordOfEntries entries
  | _ => none

/-- The first such word in the values of a list. -/
def lostWordOfAll : List Value → Option Text
  | [] => none
  | v :: rest => lostWord v <|> lostWordOfAll rest

/-- The first such word in the entries of a dictionary. -/
def lostWordOfEntries : List (Value × Value) → Option Text
  | [] => none
  | (key, v) :: rest => lostWord key <|> lostWord v <|> lostWordOfEntries rest
end

/-- The double is negative, or the negative zero. -/
def isBelow (x : Binary64) : Bool :=
  match x with
  | .finite isNegative _ => isNegative
  | .infinite isNegative => isNegative
  | .nan => false

/-- The complex number that is read where one is written out: as the sum of its parts, or,
where the real part is zero, as the imaginary part with its sign. -/
def reread (z : Complex) : Complex :=
  let zero := Binary64.zero false
  if z.re = zero then if isBelow z.im then ⟨zero.neg, z.im⟩ else z
  else ⟨if z.re.isZero then zero else z.re, if z.im.isZero then zero else z.im⟩

mutual
/-- The value that is read where one is written out. -/
def rereadValue : Value → Value
  | .complex z _ => .ofComplex (reread z)
  | .list vs => .list (rereadAll vs)
  | .tuple vs => .tuple (rereadAll vs)
  | .dict entries => .dict (rereadEntries entries)
  | v => v

/-- The values that are read where those of a list are written out. -/
def rereadAll : List Value → List Value
  | [] => []
  | v :: rest => rereadValue v :: rereadAll rest

/-- The entries that are read where those of a dictionary are written out. -/
def rereadEntries : List (Value × Value) → List (Value × Value)
  | [] => []
  | (key, v) :: rest => (rereadValue key, rereadValue v) :: rereadEntries rest
end

/-- A constant as part of a plan. -/
def constant (v : Value) : Planner Formula :=
  if v.hasLongNumber then throw (.operation (.value .tooLong))
  else
    match lostWord v with
    | some word => return .lost word
    | none => return .const (rereadValue v)

/-- A constant number without its sign, if it is written with one. -/
def unsigned? : Formula → Option Formula
  | .const (.int n) => if n < 0 then some (.const (.int (-n))) else none
  | .const (.float x _) => if isBelow x then some (.const (.ofFloat x.neg)) else none
  | .const (.complex z _) =>
      if z.re = (Binary64.zero false).neg && isBelow z.im then some (.const (.ofComplex z.neg))
      else none
  | _ => none

/-- A power.  A sign in front of its base is taken of the power as a whole. -/
def power (left right : Formula) : Formula :=
  match unsigned? left with
  | some base => .sided .neg (.arithmetic .pow base right)
  | none => .arithmetic .pow left right

/-! ## Expressions -/

/-- Makes the arguments by name and what supplies arguments by position.  Where a name is
reserved, the arguments by name come last. -/
def inArgumentOrder {α β : Type} (isReserved : Bool) (named : Planner α) (spread : Planner β) :
    Planner (α × β) := do
  if isReserved then
    let b ← spread
    return (← named, b)
  else
    let a ← named
    return (a, ← spread)

/-- One of the names of arguments is reserved. -/
def anyReserved {α : Type} (named : List (Text × α)) : Bool :=
  named.any fun (name, _) => Arguments.isReserved name

/-- The names of the arguments of a call: their compatible forms, unless one of them is
reserved. -/
def argumentNames {α : Type} (named : List (Text × α)) : List (Text × α) :=
  if anyReserved named then named
  else named.map fun (name, a) => (Text.compatible name, a)

/-- The name of the argument by which a call inside a loop gets the variables of the loop. -/
def loopVars : Text := "_loop_vars".toList

mutual
/-- A simplified expression as part of a plan. -/
def write (site : Site) : Term → Planner Formula
  | .name n =>
      match site.scopes.find? n with
      | some (place, start) => return .name ⟨place, n, start = .supplied⟩
      | none => throw (.unknownName n)
  | .const v => constant v
  | .lost word => return .lost word
  | .list items => do return .list (← writeAll site items)
  | .tuple items => do return .tuple (← writeAll site items)
  | .dict entries => do return .dict (← writeEntries site entries)
  | .field e name => do return .field (← write site e) name
  | .item e index => do
      let e ← write site e
      return .item e (← write site index)
  | .slice start stop stride => do
      let start ← writeOptional site start
      let stop ← writeOptional site stop
      return .slice start stop (← writeOptional site stride)
  | .call e args named spread spreadNamed => do
      let e ← write site e
      let args ← writeAll site args
      let (named, spread) ←
        inArgumentOrder (anyReserved named) (writeNamed site named) (writeOptional site spread)
      let spreadNamed ← writeOptional site spreadNamed
      let extra := if site.isLoop then [(loopVars, .const .none)] else []
      return .call e args (argumentNames named ++ extra) spread spreadNamed
  | .filter e name args named spread spreadNamed => do
      if !site.isLenient && (Filter.named? name).isNone then throw (.mistake (.noFilter name))
      let e ← write site e
      let args ← writeAll site args
      let (named, spread) ←
        inArgumentOrder (anyReserved named) (writeNamed site named) (writeOptional site spread)
      return .filter e name args (argumentNames named) spread (← writeOptional site spreadNamed)
  | .test e name args named spread spreadNamed => do
      if !site.isLenient && (Test.named? name).isNone then throw (.mistake (.noTest name))
      let e ← write site e
      let args ← writeAll site args
      let (named, spread) ←
        inArgumentOrder (anyReserved named) (writeNamed site named) (writeOptional site spread)
      return .test e name args (argumentNames named) spread (← writeOptional site spreadNamed)
  | .sided op e => do return .sided op (← write site e)
  | .arithmetic op left right => do
      let left ← write site left
      let right ← write site right
      return if op = .pow then power left right else .arithmetic op left right
  | .compare e operands => do
      let e ← write site e
      return .compare e (← writeOperands site operands)
  | .concat parts => do return .concat (← writeAll site parts)
  | .both left right => do
      let left ← write site left
      return .both left (← write site right)
  | .either left right => do
      let left ← write site left
      return .either left (← write site right)
  | .negate e => do return .negate (← write site e)
  | .choice condition yes no line => do
      let yes ← write site.inChoice yes
      let condition ← write site.inChoice condition
      return .choice condition yes (← writeOptional site.inChoice no) line
  | .captured => return .captured

/-- Simplified expressions as parts of a plan. -/
def writeAll (site : Site) : List Term → Planner (List Formula)
  | [] => return []
  | e :: rest => do
      let e ← write site e
      return e :: (← writeAll site rest)

/-- A simplified expression as part of a plan, if there is one. -/
def writeOptional (site : Site) : Option Term → Planner (Option Formula)
  | none => return none
  | some e => do return some (← write site e)

/-- The keys and values of a dictionary as parts of a plan. -/
def writeEntries (site : Site) : List (Term × Term) → Planner (List (Formula × Formula))
  | [] => return []
  | (key, e) :: rest => do
      let key ← write site key
      let e ← write site e
      return (key, e) :: (← writeEntries site rest)

/-- Arguments by name as parts of a plan. -/
def writeNamed (site : Site) : List (Text × Term) → Planner (List (Text × Formula))
  | [] => return []
  | (name, e) :: rest => do
      let e ← write site e
      return (name, e) :: (← writeNamed site rest)

/-- The operands of comparisons as parts of a plan. -/
def writeOperands (site : Site) :
    List (Comparison × Term) → Planner (List (Comparison × Formula))
  | [] => return []
  | (op, e) :: rest => do
      let e ← write site e
      return (op, e) :: (← writeOperands site rest)
end

mutual
/-- An expression as part of a plan.  It is simplified first; of a list that is written out
each item is simplified when its turn comes. -/
def unchecked (site : Site) : Term → Planner Formula
  | .list items => do return .list (← uncheckedAll site items)
  | .tuple items => do return .tuple (← uncheckedAll site items)
  | .dict entries => do return .dict (← uncheckedEntries site entries)
  | .const v => constant v
  | e => do write site (← compute (Constant.simplify e))

/-- Expressions as parts of a plan. -/
def uncheckedAll (site : Site) : List Term → Planner (List Formula)
  | [] => return []
  | e :: rest => do
      let e ← unchecked site e
      return e :: (← uncheckedAll site rest)

/-- The keys and values of a dictionary as parts of a plan. -/
def uncheckedEntries (site : Site) : List (Term × Term) → Planner (List (Formula × Formula))
  | [] => return []
  | (key, e) :: rest => do
      let key ← unchecked site key
      let e ← unchecked site e
      return (key, e) :: (← uncheckedEntries site rest)
end

/-- An expression as part of a plan, on the present line of the listing. -/
def formula (site : Site) (e : Term) : Planner Formula := do
  let made ← unchecked site e
  (Listing.flaws made).forM note
  return made

/-! ## Targets -/

/-- The variable of a name. -/
def variableOf (site : Site) (name : Text) : Planner Variable :=
  match site.scopes.placeOf? name with
  | some v => return v
  | none => throw (.unknownName name)

mutual
/-- A target as part of a plan. -/
def target (site : Site) : Target Text → Planner (Target Variable)
  | .name n => do return .name (← variableOf site n)
  | .field n key => do return .field (← variableOf site n) key
  | .tuple targets => do return .tuple (← targetAll site targets)

/-- Targets as parts of a plan. -/
def targetAll (site : Site) : List (Target Text) → Planner (List (Target Variable))
  | [] => return []
  | first :: rest => do
      let first ← target site first
      return first :: (← targetAll site rest)
end

/-- The number of lines that the attributes among several targets take. -/
def attributeLines : Target Text → Nat
  | .tuple targets => (Survey.ownersOfAll targets).length
  | _ => 0

/-- The number of lines that keep record of the names that are assigned. -/
def recordLines (site : Site) (names : List Text) : Nat :=
  if names.isEmpty then 0
  else if site.isLoop then 1
  else if site.isTop then if names.any fun name => name.head? ≠ some '_' then 2 else 1
  else 0

/-! ## Scopes -/

/-- The beginning of a scope, with a line for each variable that has a first value, and one
for all others. -/
def enter (survey : Survey) (depth : Nat) : Planner Entrance := do
  let starts := Survey.entrance survey depth
  let filled := starts.filter fun (_, start) => start ≠ .nothing
  newLines (filled.length + if filled.length < starts.length then 1 else 0)
  return starts

/-- The end of a scope. -/
def leave (survey : Survey) : Planner Unit := if survey.starts.isEmpty then return else newLine

/-- What was written last: nothing, a constant text or something else. -/
inductive Writing
  | nothing
  | constant
  | computed
  deriving DecidableEq

/-- The lines before something is written, which depend on what was written last. -/
def beginWriting (site : Site) (last : Writing) (isConstant : Bool) : Planner Unit := do
  if last = .nothing && site.isBuffered then newLine
  if !(last = .constant && isConstant) then newLine

/-- The line behind everything that is written. -/
def endWriting (site : Site) (last : Writing) : Planner Unit :=
  if last ≠ .nothing && site.isBuffered then newLine else return

/-- A body, which begins with a line of its own. -/
def startBody {α : Type} (inner : Planner α) : Planner α := do
  newLine
  inner

/-- The name of the state of a loop. -/
def loopName : Text := "loop".toList

/-- The name of the template itself. -/
def selfName : Text := "self".toList

/-! ## Loops -/

/-- A loop among other statements: its site, what it is and does, and what the scopes of its
body and of the other case do with their names. -/
structure LoopSite where
  site : Site
  isRecursive : Bool
  /-- Something looks at the state of the loop. -/
  isExtended : Bool
  /-- The name of the state of the loop is assigned inside the loop. -/
  isSpoilt : Bool
  /-- There are statements for the other case. -/
  hasOther : Bool
  survey : Survey
  otherSurvey : Survey

namespace LoopSite

/-- The site of a loop. -/
def of (site : Site) (isRecursive : Bool) (targets : Target Text) (inner otherwise : List Stmt) :
    LoopSite :=
  let isExtended := isRecursive || Occurrence.looksFirst loopName (Occurrence.inBody inner)
  let supplied := (if isExtended then [loopName] else []) ++ Survey.namesOf targets
  let occurrences :=
    Occurrence.inTarget targets ++ Occurrence.inBody inner ++ Occurrence.inBody otherwise
  ⟨site, isRecursive, isExtended, occurrences.contains (.assigned loopName), !otherwise.isEmpty,
    (Survey.supplying supplied).visitBody site.scopes inner,
    Survey.empty.visitBody site.scopes otherwise⟩

/-- The site around both bodies.  A loop that can be called again puts its text together, and
the loops around it do not count for those inside. -/
def around (loop : LoopSite) : Site :=
  if loop.isRecursive then { loop.site with isBuffered := true, loops := 0 } else loop.site

/-- The site of the body. -/
def inner (loop : LoopSite) : Site :=
  { loop.around.inScope loop.survey with isLoop := true, loops := loop.around.loops + 1 }

/-- The site of the statements for the other case. -/
def other (loop : LoopSite) : Site := loop.around.inScope loop.otherSurvey

/-- The variable of the state of the loop, if something looks at it. -/
def state (loop : LoopSite) : Option Variable :=
  if loop.isExtended then loop.inner.scopes.placeOf? loopName else none

end LoopSite

/-- The condition of a loop as part of a plan. -/
def loopCondition (loop : LoopSite) (targets : Target Text) :
    Option Term → Planner (Option (Entrance × Formula))
  | none => return none
  | some e => do
      newLine
      let site := loop.site
      let survey := (Survey.supplying (Survey.namesOf targets)).visit site.scopes e
      indented do
        let starts ← enter survey site.depth
        newLine
        let _ ← target loop.inner targets
        indented do
          newLine
          let e ← formula (site.inScope survey) e
          indented newLine
          return some (starts, e)

/-- The rounds of a loop as part of a plan, given how its source and both bodies are made. -/
def loopRounds (loop : LoopSite) (targets : Target Text)
    (condition : Option (Entrance × Formula)) (source : Planner Formula)
    (inner others : Planner (List Step)) : Planner (LoopHead × List Step × List Step) := do
  if loop.isExtended then newLine
  if loop.isSpoilt then throw (.mistake .loopAssigned)
  if loop.hasOther then newLine
  newLine
  if maxLoops < loop.inner.loops then note .nestedLoops
  let targets ← target loop.inner targets
  let source ← source
  let (starts, inside) ← indented do
    let starts ← enter loop.survey loop.site.depth
    newLine
    let inside ← startBody inner
    if loop.hasOther then newLine
    return (starts, inside)
  if loop.hasOther || !loop.isRecursive then leave loop.survey
  let head : LoopHead := ⟨loop.state, loop.isRecursive, targets, source, condition, starts, []⟩
  if !loop.hasOther then return (head, inside, [])
  newLine
  indented do
    let otherEntrance ← enter loop.otherSurvey loop.site.depth
    let outside ← startBody others
    leave loop.otherSurvey
    return ({ head with otherEntrance }, inside, outside)

/-- A loop as part of a plan, given how both bodies are made.  If it can be called again, its
source comes behind everything else. -/
def loopStep (loop : LoopSite) (targets : Target Text) (source : Term) (condition : Option Term)
    (inner others : Planner (List Step)) : Planner Step := do
  let condition ← loopCondition loop targets condition
  if loop.isRecursive then
    newLine
    let (head, inside, outside) ← indented do
      newLine
      let made ← loopRounds loop targets condition (return .captured) inner others
      newLine
      return made
    newLine
    let source ← formula loop.site source
    return .loop { head with source } inside outside
  else
    let (head, inside, outside) ←
      loopRounds loop targets condition (formula loop.site source) inner others
    return .loop head inside outside

/-! ## Statements -/

mutual
/-- A statement as part of a plan, and what was written last behind it. -/
def step (site : Site) (last : Writing) : Stmt → Planner (Step × Writing)
  | .data text => do
      beginWriting site last true
      return (.data text, .constant)
  | .output e => do
      match ← compute (Constant.text? e) with
      | some text =>
          beginWriting site last true
          return (.data text, .constant)
      | none =>
          beginWriting site last false
          return (.output (← formula site e), .computed)
  | .choose branches otherwise => do
      endWriting site last
      let branches ← branchesOf site.inChoice branches
      if otherwise.isEmpty then return (.choose branches [], .nothing)
      else
        newLine
        let otherwise ← indented (startBody (steps site.inChoice .nothing otherwise))
        return (.choose branches otherwise, .nothing)
  | .loop isRecursive targets source condition inner otherwise => do
      endWriting site last
      let loop := LoopSite.of site isRecursive targets inner otherwise
      let made ← loopStep loop targets source condition (steps loop.inner .nothing inner)
        (steps loop.other .nothing otherwise)
      return (made, .nothing)
  | .assign targets value => do
      endWriting site last
      let owners := (Survey.ownersOf targets).eraseDups
      newLines (2 * owners.length)
      newLine
      let made ← target site targets
      newLines (attributeLines targets)
      let value ← formula site value
      newLines (recordLines site (Survey.namesOf targets))
      return (.assign (!owners.isEmpty) made value, .nothing)
  | .capture targets filtered inner => do
      endWriting site last
      let survey := Survey.empty.visitBody site.scopes inner
      let innerSite := { site.inScope survey with isBuffered := true }
      let starts ← enter survey site.depth
      newLine
      let inside ← startBody (steps innerSite .nothing inner)
      newLine
      let made ← target site targets
      newLines (attributeLines targets)
      let filtered ← formula innerSite filtered
      newLines (recordLines site (Survey.namesOf targets))
      leave survey
      return (.capture starts inside made filtered, .nothing)

/-- Statements as parts of a plan, behind what was written last. -/
def steps (site : Site) (last : Writing) : List Stmt → Planner (List Step)
  | [] => do
      endWriting site last
      return []
  | statement :: rest => do
      let (made, last) ← step site last statement
      return made :: (← steps site last rest)

/-- The branches of a choice as parts of a plan. -/
def branchesOf (site : Site) :
    List (Term × List Stmt) → Planner (List (Formula × List Step))
  | [] => return []
  | (condition, inner) :: rest => do
      newLine
      let condition ← formula site condition
      let made ← indented (startBody (steps site .nothing inner))
      return (condition, made) :: (← branchesOf site rest)
end

/-! ## Templates -/

/-- The number of lines before the first scope of a listing. -/
def firstLines : Nat := 9

/-- The number of lines for each filter and each test. -/
def helperLines : Nat := 6

/-- The plan of a template. -/
def whole (statements : List Stmt) : Planner Plan := do
  let occurrences := Occurrence.inBody statements
  let hasItself := Occurrence.looksFirst selfName occurrences
  let start := Survey.supplying (if hasItself then [selfName] else [])
  let survey := start.visitBody [] statements
  if hasItself then newLine
  let starts ← enter survey 0
  let helpers := Occurrence.helpers occurrences
  newLines (helperLines * helpers.length)
  let made ← startBody (steps ⟨[survey], true, false, false, false, 0⟩ .nothing statements)
  return ⟨starts, hasItself, made, helpers⟩

end Planning

/-- The plan of a template, unless it cannot be used. -/
def Plan.of (statements : List Stmt) : Except CompileFault Plan := do
  let (plan, draft) ← Planning.whole statements ⟨Memory.empty, Planning.firstLines, 1, none, none⟩
  match draft.unreadable <|> draft.unfit with
  | some fault => .error fault
  | none => return plan

end LintScaffold.Template
