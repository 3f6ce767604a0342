import LintScaffold.Template.Lexer
import LintScaffold.Template.Syntax

/-!
# Reading tokens

The small steps of which the grammar is made: looking at the token that comes next,
going on to the following one, insisting on a certain one.  A fault among the tokens
stops the reading when it would come next, and not before.
-/

namespace LintScaffold.Template

/-- The tokens that are still to be read; the first one comes next. -/
abbrev Tokens := List Located

/-- A step of reading. -/
abbrev Reader (α : Type) := StateT Tokens (Except CompileFault) α

namespace Reader

/-- Gives up with a mistake. -/
def fail {α : Type} (fault : SyntaxFault) : Reader α := fun _ => .error (.mistake fault)

/-- The token that comes next, with its line. -/
def current : Reader Located := fun tokens =>
  match tokens with
  | [] => .ok (⟨1, .eof⟩, tokens)
  | t :: _ => .ok (t, tokens)

/-- The token that comes next. -/
def peek : Reader Token := do return (← current).token

/-- The tokens without the first one; the end stays where it is, and a fault cannot come
next. -/
def advance : Tokens → Except CompileFault Tokens
  | [] => .ok []
  | [last] => .ok [last]
  | _ :: t :: rest =>
      match t.token with
      | .fault fault => .error fault
      | _ => .ok (t :: rest)

/-- Goes on behind the token that comes next, and returns that token. -/
def next : Reader Located := do
  let t ← current
  let rest ← advance (← get)
  set rest
  return t

/-- The token after the one that comes next. -/
def look : Reader Token := do
  match ← advance (← get) with
  | t :: _ => return t.token
  | [] => return .eof

/-- The name that comes next, if one does. -/
def nameAhead? : Reader (Option Text) := do
  match ← peek with
  | .name n => return some n
  | _ => return none

/-- The next token is the given word. -/
def wordAhead (word : String) : Reader Bool := do
  return (← peek) = .name word.toList

/-- The next token is the given mark. -/
def markAhead (m : Mark) : Reader Bool := do
  return (← peek) = .mark m

/-- Goes on behind the given word, if it comes next. -/
def skipWord (word : String) : Reader Bool := do
  if ← wordAhead word then
    let _ ← next
    return true
  else return false

/-- Goes on behind the given mark, if it comes next. -/
def skipMark (m : Mark) : Reader Bool := do
  if ← markAhead m then
    let _ ← next
    return true
  else return false

/-- The complaint that something else than `what` comes next. -/
def complain {α : Type} (what : Text) : Reader α := do
  match ← peek with
  | .eof => fail (.expectedBeforeEnd what)
  | t => fail (.expected what t.describe)

/-- Insists on a token. -/
def expect (t : Token) : Reader Unit := do
  if (← peek) = t then
    let _ ← next
    return ()
  else complain t.describe

/-- Insists on a name, which is returned. -/
def expectName : Reader Text := do
  match ← peek with
  | .name n =>
      let _ ← next
      return n
  | _ => complain "name".toList

/-- Insists on a word. -/
def expectWord (word : String) : Reader Unit := expect (.name word.toList)

/-- Insists on a mark. -/
def expectMark (m : Mark) : Reader Unit := expect (.mark m)

/-- Repeats a step while it yields a new state, at most `fuel` times. -/
def repeatUpTo {σ : Type} (step : σ → Reader (Option σ)) : (fuel : Nat) → σ → Reader σ
  | 0, state => return state
  | fuel + 1, state => do
      match ← step state with
      | none => return state
      | some state => repeatUpTo step fuel state

/-- Repeats a step while it yields a new state.  Each such step takes at least one token,
so that there are no more steps than tokens. -/
def repeatWhile {σ : Type} (step : σ → Reader (Option σ)) (state : σ) : Reader σ := do
  repeatUpTo step (← get).length state

end Reader
end LintScaffold.Template
