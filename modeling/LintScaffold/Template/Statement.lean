import LintScaffold.Template.Grammar

/-!
# Grammar of statements

Reading a whole template.  A block with a body goes on until one of the tags that end
it.  What is open around a place is kept for the message about a tag that is out of
place: the open blocks, and the tags that each of them waits for.
-/

namespace LintScaffold.Template

open Reader

/-- What is open around a place, the innermost first: the names of the blocks, and the
tags that end the bodies. -/
structure Enclosing where
  blocks : List Text
  awaited : List (List String)

namespace Enclosing

/-- The complaint about a tag, or about the end of the template. -/
def misplaced {α : Type} (around : Enclosing) (name : Option Text) : Reader α :=
  let awaited := (around.awaited.headD []).map String.toList
  let nested :=
    match name with
    | none => false
    | some name => around.awaited.any fun tags => tags.any fun tag => tag.toList = name
  fail (.misplacedTag name awaited nested around.blocks.head?)

end Enclosing

namespace Statement

/-! ## Targets of assignments -/

/-- The target that an expression is, if it is one. -/
def targetOf? : Term → Option (Target Text)
  | .name n => some (.name n)
  | .tuple items => (targetsOf? items).map .tuple
  | _ => none
where
  /-- The targets that expressions are, if all are. -/
  targetsOf? : List Term → Option (List (Target Text))
    | [] => some []
    | e :: rest => do
        let target ← targetOf? e
        return target :: (← targetsOf? rest)

/-- An expression as a target: what it is, if it is one, and what messages call it. -/
abbrev Candidate := Option (Target Text) × ExprKind

/-- Reads one target.  A field of a name is one, if `fields` says so. -/
def candidate (inner : Reader Term) (fields : Bool) : Reader Candidate := do
  let e ← Grammar.primary inner
  match e with
  | .name n =>
      if fields then
        if ← skipMark .dot then return (some (.field n (← expectName)), "nsref")
        else return (some (.name n), e.kind)
      else return (some (.name n), e.kind)
  | e => return (targetOf? e, e.kind)

/-- Reads a target, or several with commas. -/
def target (inner : Reader Term) (stops : List String) (fields : Bool) : Reader (Target Text) := do
  match ← Grammar.tupled (candidate inner fields) stops false with
  | .single (some target, _) => return target
  | .single (none, kind) => fail (.badTarget kind)
  | .several items =>
      match items.mapM Prod.fst with
      | some targets => return .tuple targets
      | none => fail (.badTarget "tuple")

/-! ## Blocks -/

/-- Reads a body up to one of the tags that end it, behind the head of its block.  The
tag is not read. -/
abbrev BodyReader := Enclosing → List String → Reader (List Stmt)

/-- Reads a body and the tag that ends it. -/
def closedBody (body : BodyReader) (around : Enclosing) (tag : String) : Reader (List Stmt) := do
  let statements ← body around [tag]
  let _ ← next
  return statements

/-- The branches of a choice as far as they are read, the last one first, and the
statements for the case that none applies, once they are known. -/
structure Branches where
  branches : List (Term × List Stmt)
  otherwise : Option (List Stmt)

/-- Reads one more branch of a choice, behind the word that begins it. -/
def branchStep (depth : Nat) (body : BodyReader) (around : Enclosing) (read : Branches) :
    Reader (Option Branches) := do
  if read.otherwise.isSome then return none
  let condition ← Grammar.tupleExpr (Grammar.conditionless depth) [] false
  let statements ← body around ["elif", "else", "endif"]
  let branches := (condition, statements) :: read.branches
  let t ← next
  if t.token = .name "elif".toList then return some ⟨branches, none⟩
  else if t.token = .name "else".toList then
    return some ⟨branches, some (← closedBody body around "endif")⟩
  else return some ⟨branches, some []⟩

/-- Reads a choice behind its first word. -/
def choose (depth : Nat) (body : BodyReader) (around : Enclosing) : Reader Stmt := do
  let read ← repeatWhile (branchStep depth body around) ⟨[], none⟩
  return .choose read.branches.reverse (read.otherwise.getD [])

/-- Reads a loop behind its first word. -/
def loop (depth : Nat) (body : BodyReader) (around : Enclosing) : Reader Stmt := do
  let target ← target (Grammar.expression depth) ["in"] false
  expectWord "in"
  let source ← Grammar.tupleExpr (Grammar.conditionless depth) ["recursive"] false
  let condition ← (do
    if ← skipWord "if" then return some (← Grammar.expression depth) else return none)
  let isRecursive ← skipWord "recursive"
  let statements ← body around ["endfor", "else"]
  let t ← next
  if t.token = .name "endfor".toList then return .loop isRecursive target source condition statements []
  else
    let otherwise ← closedBody body around "endfor"
    return .loop isRecursive target source condition statements otherwise

/-- Reads an assignment behind its first word. -/
def assign (depth : Nat) (body : BodyReader) (around : Enclosing) : Reader Stmt := do
  let target ← target (Grammar.expression depth) [] true
  if ← skipMark .assign then
    return .assign target (← Grammar.tupleExpr (Grammar.expression depth) [] false)
  else
    let filtered ← Grammar.filters (Grammar.expression depth) .captured
    return .capture target filtered (← closedBody body around "endset")

/-- Reads what stands in a block, up to its end. -/
def tag (depth : Nat) (body : BodyReader) (around : Enclosing) : Reader Stmt := do
  match ← peek with
  | .name n =>
      let inside := { around with blocks := n :: around.blocks }
      if n = "if".toList then
        let _ ← next
        choose depth body inside
      else if n = "for".toList then
        let _ ← next
        loop depth body inside
      else if n = "set".toList then
        let _ ← next
        assign depth body inside
      else around.misplaced (some n)
  | _ => fail .noTagName

/-! ## Bodies -/

/-- Statements as far as they are read, the last one first, and whether more may come. -/
structure Written where
  statements : List Stmt
  isOpen : Bool

/-- The next token is one of the tags that end a body. -/
def tagAhead (ends : List String) : Reader Bool := do
  match ← nameAhead? with
  | some n => return ends.any fun tag => tag.toList = n
  | none => return false

/-- Reads one more statement. -/
def statementStep (depth : Nat) (body : BodyReader) (around : Enclosing) (ends : List String)
    (written : Written) : Reader (Option Written) := do
  if !written.isOpen then return none
  match ← peek with
  | .data text =>
      let _ ← next
      return some ⟨.data text :: written.statements, true⟩
  | .variableBegin =>
      let _ ← next
      let e ← Grammar.tupleExpr (Grammar.expression depth) [] false
      expect .variableEnd
      return some ⟨.output e :: written.statements, true⟩
  | .blockBegin =>
      let _ ← next
      if ← tagAhead ends then return some ⟨written.statements, false⟩
      let statement ← tag depth body around
      expect .blockEnd
      return some ⟨statement :: written.statements, true⟩
  | _ => return none

/-- Reads statements up to one of the given tags, or to the end of the template. -/
def statements (depth : Nat) (body : BodyReader) (around : Enclosing) (ends : List String) :
    Reader (List Stmt) := do
  let written ← repeatWhile (statementStep depth body around ends) ⟨[], true⟩
  return written.statements.reverse

/-- Reads the bodies of blocks that nest at most `fuel` deep. -/
def bodies (depth : Nat) : (fuel : Nat) → BodyReader
  | 0 => fun around _ => around.misplaced none
  | fuel + 1 => fun around ends => do
      let _ ← skipMark .colon
      expect .blockEnd
      let inside := { around with awaited := ends :: around.awaited }
      let read ← statements depth (bodies depth fuel) inside ends
      if (← peek) = .eof then inside.misplaced none
      else return read

/-- Reads a whole template. -/
def template (depth : Nat) : Reader (List Stmt) :=
  statements depth (bodies depth depth) ⟨[], []⟩ []

end Statement

/-- The statements of a template. -/
def parse (text : Text) : Except CompileFault (List Stmt) :=
  let tokens := tokenize text
  match tokens with
  | ⟨_, .fault fault⟩ :: _ => .error fault
  | tokens => (Statement.template (tokens.length + 1) tokens).map Prod.fst

end LintScaffold.Template
