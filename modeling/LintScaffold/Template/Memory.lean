import LintScaffold.Association
import LintScaffold.Template.Value

/-!
# Memory

What changes while a template is rendered, and what a computation needs to know about the
loops around it.

The items of a loop are found only when they are needed: the next one when a round begins,
and further ones when the state of the loop is asked about the rounds to come.  So the
state of a loop holds where its items come from, how far they are gone through, and the
item that was looked at ahead of its round.  A loop with a condition asks it about each
item that is drawn; how this is done is known to the loops around a computation.

Every item that is drawn was put into memory before, so that the number of all items and
loops that memory ever held bounds how long a search for the next item takes.
-/

namespace LintScaffold.Template

/-! ## States -/

/-- Where items come from: a list, a stream, or another loop. -/
inductive Feed
  | items (rest : List Value)
  | stream (place : Nat)
  | loop (place : Nat)

/-- How the number of the rounds of a loop is found: it is known, it is that of another
loop, or the items must be counted. -/
inductive RoundCount
  | known (n : Nat)
  | ofLoop (place : Nat)
  | unknown

/-- The state of a loop. -/
structure Rounds where
  feed : Feed
  /-- The items still have to pass the condition of the loop. -/
  isSifted : Bool
  count : RoundCount
  /-- The number of rounds that have begun. -/
  begun : Nat
  before : Option Value
  current : Option Value
  /-- The item of the next round, if it was looked at. -/
  ahead : Option Value
  /-- What was compared with last for a change. -/
  compared : Option Value
  /-- The number of loops around it that it was called from. -/
  depth : Nat

/-- What changes while a template is rendered. -/
structure Memory where
  marks : Nat
  streams : List (Nat × List Value)
  loops : List (Nat × Rounds)
  /-- The number of all items and loops that memory ever held. -/
  stock : Nat

/-- Nothing is kept. -/
def Memory.empty : Memory := ⟨0, [], [], 0⟩

/-- A computation with memory. -/
abbrev Remembering := StateT Memory (Except EvalFault)

/-- What is known about the loops around a computation, each given by its place: how an
item is put through the condition of the loop, and how the loop is called again for other
items. -/
structure Around where
  sift : Nat → Value → Remembering (Option Value)
  again : Nat → Value → Remembering Text

/-- No loop is around. -/
def Around.nothing : Around := ⟨fun _ v => return some v, fun _ _ => throw (.kind .notRecursive)⟩

/-- A computation inside a template. -/
abbrev Run := ReaderT Around Remembering

namespace Run

/-- Gives up with a fault. -/
def fail {α : Type} (fault : EvalFault) : Run α := fun _ _ => .error fault

/-- A computation that needs no memory. -/
def check {α : Type} (outcome : Except EvalFault α) : Run α := fun _ memory =>
  match outcome with
  | .ok a => .ok (a, memory)
  | .error fault => .error fault

/-! ## Marks -/

/-- The value with a mark of its own, if it waits for one. -/
def settle (v : Value) : Run Value := do
  if v.needsMark then
    let memory ← get
    set { memory with marks := memory.marks + 1 }
    return v.withMark (memory.marks + 1)
  else return v

/-! ## Streams and loops -/

/-- Keeps the items of a stream. -/
def openStream (kind : String) (items : List Value) : Run Value := do
  let memory ← get
  set { memory with
    streams := (memory.stock, items) :: memory.streams,
    stock := memory.stock + items.length + 1 }
  return .stream kind memory.stock

/-- The number of items of a feed that memory did not hold yet. -/
def newItems : Feed → Nat
  | .items rest => rest.length
  | _ => 0

/-- Keeps the state of a loop that begins. -/
def openLoop (rounds : Rounds) : Run Nat := do
  let memory ← get
  set { memory with
    loops := (memory.stock, rounds) :: memory.loops,
    stock := memory.stock + newItems rounds.feed + 1 }
  return memory.stock

/-- A loop of which nothing is known. -/
def noRounds : Rounds := ⟨.items [], false, .known 0, 0, none, none, none, none, 1⟩

/-- The state of a loop. -/
def rounds (place : Nat) : Run Rounds := do
  return ((← get).loops.lookup place).getD noRounds

/-- Changes the state of a loop. -/
def setRounds (place : Nat) (rounds : Rounds) : Run Unit :=
  modify fun memory => { memory with loops := setEntry (· == ·) place rounds memory.loops }

/-! ## Drawing items -/

/-- The next item of a stream. -/
def nextOfStream (place : Nat) : Run (Option Value) := do
  let memory ← get
  match (memory.streams.lookup place).getD [] with
  | [] => return none
  | v :: rest =>
      set { memory with streams := setEntry (· == ·) place rest memory.streams }
      return some v

/-- The next round of a loop begins, given how an item is drawn. -/
def beginRoundBy (draw : Nat → Run (Option Value)) (place : Nat) : Run (Option Value) := do
  let state ← rounds place
  let drawn ←
    match state.ahead with
    | some v => pure (some v)
    | none => draw place
  match drawn with
  | none => return none
  | some v =>
      let state ← rounds place
      setRounds place { state with
        ahead := none, begun := state.begun + 1, before := state.current, current := some v }
      return some v

/-- The next item of a feed, and what remains, given how an item of a loop is drawn.  An
item of a loop comes with the loop. -/
def nextBy (draw : Nat → Run (Option Value)) : Feed → Run (Option Value × Feed)
  | .items [] => return (none, .items [])
  | .items (v :: rest) => return (some v, .items rest)
  | .stream place => do return (← nextOfStream place, .stream place)
  | .loop place => do
      let drawn ← beginRoundBy draw place
      return (drawn.map fun v => .tuple [v, .loop place], .loop place)

/-- Draws an item of a loop that passes its condition, in at most `fuel` steps. -/
def drawUpTo : (fuel place : Nat) → Run (Option Value)
  | 0, _ => return none
  | fuel + 1, place => do
      let state ← rounds place
      let (drawn, feed) ← nextBy (drawUpTo fuel) state.feed
      setRounds place { (← rounds place) with feed }
      match drawn with
      | none => return none
      | some v =>
          if state.isSifted then
            match ← (← read).sift place v with
            | some w => return some w
            | none => drawUpTo fuel place
          else return some v

/-- Draws an item of a loop that passes its condition. -/
def draw (place : Nat) : Run (Option Value) := do drawUpTo ((← get).stock + 1) place

/-- The next round of a loop begins. -/
def beginRound (place : Nat) : Run (Option Value) := beginRoundBy draw place

/-- The next item of a feed, and what remains. -/
def next (feed : Feed) : Run (Option Value × Feed) := nextBy draw feed

/-- The items of a feed, `count` of them at most. -/
def takeUpTo : (count : Nat) → Feed → Run (List Value)
  | 0, _ => return []
  | count + 1, feed => do
      match ← next feed with
      | (none, _) => return []
      | (some v, feed) => return v :: (← takeUpTo count feed)

/-- All items of a feed. -/
def takeAll (feed : Feed) : Run (List Value) := do
  match feed with
  | .items rest => return rest
  | feed => takeUpTo ((← get).stock + 1) feed

/-- The item of the next round of a loop, which does not begin yet. -/
def lookAhead (place : Nat) : Run (Option Value) := do
  match (← rounds place).ahead with
  | some v => return some v
  | none =>
      let drawn ← draw place
      setRounds place { (← rounds place) with ahead := drawn }
      return drawn

/-- The number of the rounds of a loop, in at most `fuel` steps.  Where it is not known, the
items that remain are drawn and counted. -/
def countUpTo : (fuel place : Nat) → Run Nat
  | 0, _ => return 0
  | fuel + 1, place => do
      let state ← rounds place
      match state.count with
      | .known n => return n
      | .ofLoop outer =>
          let n ← countUpTo fuel outer
          setRounds place { (← rounds place) with count := .known n }
          return n
      | .unknown =>
          let found ← takeAllOf place
          let n := found.length + state.begun + (if state.ahead.isSome then 1 else 0)
          setRounds place { (← rounds place) with
            feed := .items found, isSifted := false, count := .known n }
          return n
where
  /-- All items of a loop that pass its condition. -/
  takeAllOf (place : Nat) : Run (List Value) := do
    drawTimes ((← get).stock + 1) place
  /-- The items of a loop that pass its condition, `count` of them at most. -/
  drawTimes : (count place : Nat) → Run (List Value)
    | 0, _ => return []
    | count + 1, place => do
        match ← draw place with
        | none => return []
        | some v => return v :: (← drawTimes count place)

/-- The number of the rounds of a loop. -/
def count (place : Nat) : Run Nat := do countUpTo ((← get).loops.length + 1) place

end Run

/-! ## Items of values -/

namespace Value

/-- Where the items of a value come from, if it has items. -/
def feed? (v : Value) : Except EvalFault (Option Feed) :=
  match v with
  | .stream _ place => .ok (some (.stream place))
  | .loop place => .ok (some (.loop place))
  | v => v.items?.map (Option.map .items)

/-- Where the items of a value come from that is gone through. -/
def feed (v : Value) : Run Feed := do
  match ← Run.check v.feed? with
  | some feed => return feed
  | Option.none => Run.fail (.kind (.notIterable v.kindName))

/-- The items of a value that is gone through. -/
def iterate (v : Value) : Run (List Value) := do Run.takeAll (← v.feed)

/-- The number of the items of a value. -/
def length (v : Value) : Run Nat := do
  match v with
  | .stream kind _ => Run.fail (.kind (.noLength kind))
  | .template => Run.fail (.kind (.noLength v.kindName))
  | .loop place => Run.count place
  | v =>
      match ← Run.check v.items? with
      | some vs => return vs.length
      | Option.none => Run.fail (.kind (.noLength v.kindName))

/-- The items of a value in reverse order. -/
def reversed (v : Value) : Run (List Value) := do
  match v with
  | .stream kind _ => Run.fail (.kind (.notReversible kind))
  | .loop _ => Run.fail (.kind (.notReversible v.kindName))
  | .template => Run.fail (.kind (.notReversible v.kindName))
  | v =>
      match ← Run.check v.items? with
      | some vs => return vs.reverse
      | Option.none => Run.fail (.kind (.notReversible v.kindName))

/-- The word for the kind of the reversed items of a value. -/
def reversedKind : Value → String
  | .list _ => "list_reverseiterator"
  | .dict _ => "dict_reversekeyiterator"
  | .view .keys _ _ => "dict_reversekeyiterator"
  | .view .values _ _ => "dict_reversevalueiterator"
  | .view .items _ _ => "dict_reverseitemiterator"
  | _ => "reversed"

/-- The value counts as a yes: it is neither none nor false, zero or empty. -/
def isTruthy (v : Value) : Run Bool := do
  match v with
  | .none => return false
  | .bool b => return b
  | .int n => return n != 0
  | .float x _ => return !x.isZero
  | .complex z _ => return !z.isZero
  | .text t => return !t.isEmpty
  | .markup t => return !t.isEmpty
  | .list vs => return !vs.isEmpty
  | .tuple vs => return !vs.isEmpty
  | .dict entries => return !entries.isEmpty
  | .view _ entries _ => return !entries.isEmpty
  | .loop place => return (← Run.count place) != 0
  | .absent cause _ => if cause.isStrict then Run.fail cause.fault else return false
  | _ => return true

/-! ## Text -/

/-- The text of the state of a loop: the number of the round and that of all rounds. -/
def loopShown (place : Nat) : Run Text := do
  let n ← Run.count place
  let state ← Run.rounds place
  return Text.join [] ["<LoopContext ".toList, Text.ofNat state.begun, ['/'], Text.ofNat n, ['>']]

/-- The text of a value inside a list. -/
def shownInside (v : Value) : Run Text := do
  if v.hasLongNumber then Run.fail (.value .tooLong)
  else
    let texts ← v.loopsIn.mapM fun place => do return (place, ← loopShown place)
    return v.shown fun place => (texts.lookup place).getD []

/-- The text that is written out for a value. -/
def display (v : Value) : Run Text := do
  match v with
  | .text t => return t
  | .markup t => return t
  | .absent cause _ => if cause.isStrict then Run.fail cause.fault else return []
  | v => v.shownInside

end Value
end LintScaffold.Template
