import LintScaffold.Template.Access
import LintScaffold.Text.Case
import LintScaffold.Text.Replace

/-!
# Calls

The arguments of a call, how they are handed to the parameters of a function, and the
functions that belong to values.
-/

namespace LintScaffold.Template

/-- The arguments of a call: those given by position, and those given by name. -/
structure Arguments where
  listed : List Value
  named : List (Text × Value)

/-! ## Gathering arguments -/

namespace Arguments

/-- The arguments that a value supplies by position. -/
def spread (v : Value) : Run (List Value) := do
  match ← Run.check v.feed? with
  | some feed => Run.takeAll feed
  | none => Run.fail (.ofArguments (.noItems v.kindName))

/-- The entries of a value that supplies arguments of a function by name. -/
def entries (function : String) (v : Value) : Except EvalFault (List (Value × Value)) :=
  match v with
  | .dict entries => .ok entries
  | .absent cause _ => .error cause.fault
  | v => .error (.ofArguments (.noMapping function v.kindName))

/-- Adds arguments that are supplied by name to those that are written; none may be among
them. -/
def add (function : String) (named : List (Text × Value)) :
    List (Value × Value) → Except EvalFault (List (Text × Value))
  | [] => .ok named
  | (key, v) :: rest =>
      match key.text? with
      | none => do
          let _ ← add function named rest
          .error (.ofArguments .keysNoTexts)
      | some name =>
          if (named.lookup name).isSome then .error (.ofArguments (.duplicate function name))
          else add function (named ++ [(name, v)]) rest

/-- The words that cannot be written as the name of a parameter. -/
def reservedWords : List String :=
  ["False", "None", "True", "and", "as", "assert", "async", "await", "break", "class", "continue",
    "def", "del", "elif", "else", "except", "finally", "for", "from", "global", "if", "import",
    "in", "is", "lambda", "nonlocal", "not", "or", "pass", "raise", "return", "try", "while",
    "with", "yield"]

/-- The name is a reserved word. -/
def isReserved (name : Text) : Bool := reservedWords.any fun word => word.toList = name

/-- All arguments by name.  Where one of the names is reserved, they are gathered in a
dictionary first, in which later ones win. -/
def gatherNames (function : String) (named : List (Text × Value)) (extra : Option Value) :
    Except EvalFault (List (Text × Value)) :=
  if named.any fun (name, _) => isReserved name then do
    let table := tableOf (· == ·) named
    match extra with
    | none => return table
    | some extra =>
        let more ← add "dict" [] (← entries "dict" extra)
        return tableOf (· == ·) (table ++ more)
  else
    match extra with
    | none => .ok named
    | some extra => do add function named (← entries function extra)

end Arguments

/-! ## Parameters -/

/-- The parameters of a function: the names of those that are handed over in any case,
before the arguments that are written; the names of the others, together with whether an
argument is required; and those among them that cannot be given by name. -/
structure Signature where
  name : String
  hidden : List String
  parameters : List (String × Bool)
  nameless : List String

namespace Signature

/-- The fault of an argument by name for which there is no parameter. -/
def refuse (signature : Signature) (names : List Text) (name : Text) : ArgumentFault :=
  match (signature.nameless.map String.toList).filter names.contains with
  | [] => .unexpected signature.name name
  | found => .unnamed signature.name (Text.join ", ".toList found)

/-- Hands over an argument by name; `names` are the names of all arguments. -/
def bindName (signature : Signature) (names : List Text)
    (slots : List (String × Option Value)) (name : Text) (v : Value) :
    Except ArgumentFault (List (String × Option Value)) :=
  match slots with
  | [] =>
      if signature.hidden.any fun h => h.toList = name && !signature.nameless.contains h then
        .error (.repeated signature.name name)
      else .error (signature.refuse names name)
  | (parameter, slot) :: rest =>
      if parameter.toList = name && !signature.nameless.contains parameter then
        match slot with
        | some _ => .error (.repeated signature.name name)
        | none => .ok ((parameter, some v) :: rest)
      else do return (parameter, slot) :: (← bindName signature names rest name v)

/-- Hands over arguments by name. -/
def bindNames (signature : Signature) (names : List Text)
    (slots : List (String × Option Value)) :
    List (Text × Value) → Except ArgumentFault (List (String × Option Value))
  | [] => .ok slots
  | (name, v) :: rest => do
      bindNames signature names (← bindName signature names slots name v) rest

/-- Hands over arguments by position. -/
def bindListed : List (String × Bool) → List Value → List (String × Option Value)
  | [], _ => []
  | (parameter, _) :: parameters, [] => (parameter, none) :: bindListed parameters []
  | (parameter, _) :: parameters, v :: vs => (parameter, some v) :: bindListed parameters vs

/-- The values that the parameters get.  A bad name counts before too many arguments, and
those before missing ones. -/
def bind (signature : Signature) (arguments : Arguments) :
    Except ArgumentFault (List (Option Value)) := do
  let parameters := signature.parameters
  let slots ← signature.bindNames (arguments.named.map Prod.fst)
    (bindListed parameters arguments.listed) arguments.named
  let hidden := signature.hidden.length
  if parameters.length < arguments.listed.length then
    let required := (parameters.filter fun parameter => parameter.2).length
    .error (.tooMany signature.name (hidden + required) (hidden + parameters.length)
      (hidden + arguments.listed.length))
  else
    let missing := (parameters.zip slots).filterMap fun (parameter, slot) =>
      if parameter.2 && slot.2.isNone then some parameter.1 else none
    if missing.isEmpty then return slots.map Prod.snd
    else .error (.missing signature.name missing)

/-- The values that the parameters get, as a computation. -/
def hand (signature : Signature) (arguments : Arguments) : Except EvalFault (List (Option Value)) :=
  (signature.bind arguments).mapError .ofArguments

end Signature

/-! ## Functions of texts -/

namespace Method

/-- The function takes no arguments. -/
def takesNone (name : String) (arguments : Arguments) : Except EvalFault Unit :=
  if !arguments.named.isEmpty then .error (.ofArguments (.noNames name))
  else if arguments.listed.isEmpty then .ok ()
  else .error (.ofArguments (.noneTaken name arguments.listed.length))

/-- The greatest count. -/
def greatestCount : Int := Int.ofNat 9223372036854775807

/-- A limit on the number of places; a negative one is none. -/
def limitOf (v : Value) : Except EvalFault (Option Nat) :=
  match v.int? with
  | some n =>
      if n < -greatestCount - 1 ∨ greatestCount < n then .error (.range .count)
      else if n < 0 then .ok none
      else .ok (some n.toNat)
  | none => .error (.kind (.noInteger v.kindName))

/-- The text without the characters of a set at its ends, or without blanks. -/
def strip (t : Text) (set : Value) : Except EvalFault Text :=
  match set with
  | .none => .ok (Text.strip t)
  | set =>
      match set.text? with
      | some chars =>
          let among (c : Char) : Bool := chars.any (· = c)
          .ok (Text.dropEndWhile among (t.dropWhile among))
      | none => .error (.kind .noStripSet)

/-- The pieces of a text. -/
def split (t : Text) (separator count : Value) : Except EvalFault (List Text) := do
  let limit ← limitOf count
  match separator with
  | .none => return Text.words limit t
  | separator =>
      match separator.text? with
      | some [] => .error (.value .emptySeparator)
      | some mark => return Text.splitOn mark limit t
      | none => .error (.kind (.noSeparator separator.kindName))

/-- The parameters of a split. -/
def splitParameters : List String := ["sep", "maxsplit"]

/-- The separator and the limit among the arguments of a split. -/
def splitArguments (arguments : Arguments) : Except EvalFault (Value × Value) := do
  let given := arguments.listed.length + arguments.named.length
  if 2 < given then .error (.ofArguments (.twoTaken "split" given))
  let isNamed (name : String) : Bool := (arguments.named.lookup name.toList).isSome
  match (splitParameters.take arguments.listed.length).findIdx? isNamed with
  | some i => .error (.ofArguments (.namedTwice "split" (splitParameters.getD i "") (i + 1)))
  | none =>
      let known (entry : Text × Value) : Bool :=
        splitParameters.any fun name => name.toList = entry.1
      match arguments.named.find? fun entry => !known entry with
      | some (name, _) => .error (.ofArguments (.badName "split" name))
      | none =>
          let pick (i : Nat) (name : String) (otherwise : Value) : Value :=
            (arguments.listed[i]?).getD ((arguments.named.lookup name.toList).getD otherwise)
          return (pick 0 "sep" .none, pick 1 "maxsplit" (.int (-1)))

/-- Calls a function of a plain text. -/
def ofText (t : Text) (name : String) (arguments : Arguments) : Except EvalFault Value := do
  match name with
  | "upper" =>
      takesNone "str.upper" arguments
      return .text (Text.upper t)
  | "lower" =>
      takesNone "str.lower" arguments
      return .text (Text.lower t)
  | "capitalize" =>
      takesNone "str.capitalize" arguments
      return .text (Text.capitalize t)
  | "strip" =>
      if !arguments.named.isEmpty then .error (.ofArguments (.noNames "str.strip"))
      else if 1 < arguments.listed.length then
        .error (.ofArguments (.oneExpected "strip" arguments.listed.length))
      else return .text (← strip t (arguments.listed.headD .none))
  | "split" =>
      let (separator, count) ← splitArguments arguments
      return .list ((← split t separator count).map .text)
  | _ => .error (.kind (.notCallable (Value.method (.text t) name).kindName))

/-- The parameters of a function of markup. -/
def markupSignature (name : String) (parameters : List (String × Bool)) (nameless : List String) :
    Signature :=
  ⟨"Markup." ++ name, ["self"], parameters, "self" :: nameless⟩

/-- Calls a function of markup. -/
def ofMarkup (t : Text) (name : String) (arguments : Arguments) : Except EvalFault Value := do
  let only (f : Text → Text) : Except EvalFault Value := do
    let _ ← (markupSignature name [] []).hand arguments
    return .markup (f t)
  match name with
  | "upper" => only Text.upper
  | "lower" => only Text.lower
  | "capitalize" => only Text.capitalize
  | "strip" =>
      let slots ← (markupSignature name [("chars", false)] ["chars"]).hand arguments
      return .markup (← strip t ((slots.headD none).getD .none))
  | "split" =>
      let slots ←
        (markupSignature name [("sep", false), ("maxsplit", false)] []).hand arguments
      let slot (i : Nat) (otherwise : Value) : Value := ((slots[i]?).join).getD otherwise
      return .list ((← split t (slot 0 .none) (slot 1 (.int (-1)))).map .markup)
  | _ => .error (.kind (.notCallable (Value.method (.markup t) name).kindName))

/-! ## Functions of dictionaries and loops -/

/-- The value under a key of a dictionary, or another one. -/
def get (entries : List (Value × Value)) (arguments : Arguments) : Except EvalFault Value := do
  if !arguments.named.isEmpty then .error (.ofArguments (.noNames "dict.get"))
  else
    match arguments.listed with
    | [key] => return (← Value.valueAt? entries key).getD .none
    | [key, otherwise] => return (← Value.valueAt? entries key).getD otherwise
    | [] => .error (.ofArguments (.oneNeeded "get" 0))
    | listed => .error (.ofArguments (.twoExpected "get" listed.length))

/-- Calls a function of a dictionary. -/
def ofDict (entries : List (Value × Value)) (name : String) (arguments : Arguments) :
    Except EvalFault Value := do
  match name with
  | "items" =>
      takesNone "dict.items" arguments
      return .view .items entries 0
  | "keys" =>
      takesNone "dict.keys" arguments
      return .view .keys entries 0
  | "values" =>
      takesNone "dict.values" arguments
      return .view .values entries 0
  | "get" => get entries arguments
  | _ => .error (.kind (.notCallable (Value.method (.dict entries) name).kindName))

/-- The function takes arguments by position only. -/
def takesListed (name : String) (arguments : Arguments) : Except EvalFault Unit :=
  match arguments.named with
  | [] => .ok ()
  | (n, _) :: _ =>
      if n = "self".toList then .error (.ofArguments (.repeated name n))
      else .error (.ofArguments (.unexpected name n))

/-- Picks one of the arguments by the number of the round. -/
def cycle (place : Nat) (arguments : Arguments) : Run Value := do
  Run.check (takesListed "LoopContext.cycle" arguments)
  let begun := (← Run.rounds place).begun
  match arguments.listed[(begun - 1) % arguments.listed.length]? with
  | some v => return v
  | none => Run.fail (.kind .emptyCycle)

/-- Tells whether the arguments differ from those of the call before. -/
def changed (place : Nat) (arguments : Arguments) : Run Value := do
  Run.check (takesListed "LoopContext.changed" arguments)
  let state ← Run.rounds place
  let isSame ←
    match state.compared with
    | none => pure false
    | some v => Run.check (Value.same v (.tuple arguments.listed))
  if isSame then return .bool false
  else
    Run.setRounds place { state with compared := some (.tuple arguments.listed) }
    return .bool true

/-- The parameters of a loop that is called. -/
def loopSignature : Signature := ⟨"LoopContext.__call__", ["self"], [("iterable", true)], []⟩

/-- Calls a loop again for other items. -/
def callLoop (place : Nat) (arguments : Arguments) : Run Value := do
  let slots ← Run.check (loopSignature.hand arguments)
  return .text (← (← read).again place ((slots.headD none).getD .none))

end Method

/-! ## All calls -/

/-- The names of arguments that are taken away before a call. -/
def silentNames : List Text := ["_loop_vars".toList, "_block_vars".toList]

/-- Calls a value. -/
def Value.call (v : Value) (arguments : Arguments) : Run Value := do
  let arguments := { arguments with
    named := arguments.named.filter fun (name, _) => !silentNames.contains name }
  match v with
  | .method (.text t) name => Run.check (Method.ofText t name arguments)
  | .method (.markup t) name => Run.check (Method.ofMarkup t name arguments)
  | .method (.dict entries) name => Run.check (Method.ofDict entries name arguments)
  | .method (.loop place) name =>
      if name = "cycle" then Method.cycle place arguments else Method.changed place arguments
  | .loop place => Method.callLoop place arguments
  | .absent cause _ => Run.fail cause.fault
  | v => Run.fail (.kind (.notCallable v.kindName))

end LintScaffold.Template
