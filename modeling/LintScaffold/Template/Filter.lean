import LintScaffold.Template.Call
import LintScaffold.Template.Format
import LintScaffold.Template.Value
import LintScaffold.Text.Digit

/-!
# Filters and tests

The functions that are applied to a value by a bar, and the questions that are asked
about one.  Filters that expect a text take the text of any value.
-/

namespace LintScaffold.Template

/-- A filter. -/
inductive Filter
  | upper
  | lower
  | title
  | capitalize
  | join
  | length
  | first
  | last
  | replace
  | trim
  | escape
  | reverse
  | default
  deriving DecidableEq

/-- A test. -/
inductive Test
  | defined
  | undefined
  deriving DecidableEq

namespace Filter

/-- The filters by name. -/
def names : List (Text × Filter) :=
  [("upper".toList, .upper), ("lower".toList, .lower), ("title".toList, .title),
    ("capitalize".toList, .capitalize), ("join".toList, .join), ("length".toList, .length),
    ("count".toList, .length), ("first".toList, .first), ("last".toList, .last),
    ("replace".toList, .replace), ("trim".toList, .trim), ("e".toList, .escape),
    ("escape".toList, .escape), ("reverse".toList, .reverse), ("default".toList, .default),
    ("d".toList, .default)]

/-- The filter of a name. -/
def named? (name : Text) : Option Filter := names.lookup name

/-- The parameters of a filter, the first one being the value that it is applied to. -/
def signature : Filter → Signature
  | .upper => ⟨"do_upper", [], [("s", true)], []⟩
  | .lower => ⟨"do_lower", [], [("s", true)], []⟩
  | .title => ⟨"do_title", [], [("s", true)], []⟩
  | .capitalize => ⟨"do_capitalize", [], [("s", true)], []⟩
  | .join =>
      ⟨"sync_do_join", ["eval_ctx"], [("value", true), ("d", false), ("attribute", false)], []⟩
  | .length => ⟨"len", [], [("obj", true)], []⟩
  | .first => ⟨"sync_do_first", ["environment"], [("seq", true)], []⟩
  | .last => ⟨"do_last", ["environment"], [("seq", true)], []⟩
  | .replace =>
      ⟨"do_replace", ["eval_ctx"], [("s", true), ("old", true), ("new", true), ("count", false)],
        []⟩
  | .trim => ⟨"do_trim", [], [("value", true), ("chars", false)], []⟩
  | .escape => ⟨"escape", [], [("s", true)], ["s"]⟩
  | .reverse => ⟨"do_reverse", [], [("value", true)], []⟩
  | .default =>
      ⟨"do_default", [], [("value", true), ("default_value", false), ("boolean", false)], []⟩

/-- What messages about the arguments by name call a filter as a whole. -/
def path : Filter → String
  | .upper => "jinja2.filters.do_upper"
  | .lower => "jinja2.filters.do_lower"
  | .title => "jinja2.filters.do_title"
  | .capitalize => "jinja2.filters.do_capitalize"
  | .join => "jinja2.filters.do_join"
  | .length => "len"
  | .first => "jinja2.filters.do_first"
  | .last => "jinja2.filters.do_last"
  | .replace => "jinja2.filters.do_replace"
  | .trim => "jinja2.filters.do_trim"
  | .escape => "markupsafe.escape"
  | .reverse => "jinja2.filters.do_reverse"
  | .default => "jinja2.filters.do_default"

/-! ## Texts -/

/-- Applies a function to the text of a value; markup remains markup. -/
def onText (f : Text → Text) (v : Value) : Run Value := do
  match v with
  | .markup t => return .markup (f t)
  | v => return .text (f (← v.display))

/-- The character separates the words of a title. -/
def separatesWords (c : Char) : Bool :=
  c = '-' || c = '(' || c = '\x7b' || c = '[' || c = '<' || Text.isBlank c

/-- The words of a title and what stands between them. -/
def titlePieces : Text → List Text
  | [] => []
  | c :: rest =>
      match titlePieces rest with
      | (d :: piece) :: pieces =>
          if separatesWords c = separatesWords d then (c :: d :: piece) :: pieces
          else [c] :: (d :: piece) :: pieces
      | _ => [[c]]

/-- A word with a large first letter. -/
def titleWord : Text → Text
  | [] => []
  | c :: rest => Text.upper [c] ++ Text.lower rest

/-- The text with large first letters. -/
def titled (t : Text) : Text := (titlePieces t).flatMap titleWord

/-- Replaces places in the text of a value. -/
def replaced (v old new count : Value) : Run Value := do
  let t ← v.display
  let old ← old.display
  let new ← new.display
  let limit ← Run.check (match count with
    | .none => .ok none
    | count => Method.limitOf count)
  return .text (Text.replace old new limit t)

/-- The text of a value without blanks, or without the characters of a set, at its ends. -/
def trimmed (v set : Value) : Run Value := do
  match v with
  | .markup t => return .markup (← Run.check (Method.strip t set))
  | v =>
      let t ← v.display
      return .text (← Run.check (Method.strip t set))

/-! ## Items -/

/-- A step to an attribute: a name, or a number where all characters are digits. -/
def attributeStep (wrap : Text → Value) (part : Text) : Except EvalFault Value :=
  if !part.isEmpty && part.all Text.isDigit then .int <$> Argument.intOf part
  else .ok (wrap part)

/-- The steps that lead to an attribute: numbers, and names between dots. -/
def attributePath : Value → Except EvalFault (List Value)
  | .text t => (Text.splitAt '.' t).mapM (attributeStep .text)
  | .markup t => (Text.splitAt '.' t).mapM (attributeStep .markup)
  | .none => .ok []
  | v => .ok [v]

/-- An attribute of a value that is several steps away. -/
def attributeOf (path : List Value) (v : Value) : Run Value :=
  path.foldlM (fun v step => do Run.settle (← Value.item v step)) v

/-- The items of a value, or an attribute of each, with a text between neighbours.  The text
is looked at before the items, unless attributes are asked for. -/
def joined (v mark wanted : Value) : Run Value := do
  let path ← Run.check (attributePath wanted)
  let (mark, feed) ←
    match wanted with
    | .none => do
        let mark ← mark.display
        pure (mark, ← v.feed)
    | _ => do
        let feed ← v.feed
        pure (← mark.display, feed)
  match feed with
  | .items vs =>
      let texts ← vs.mapM fun v => do (← attributeOf path v).display
      return .text (Text.join mark texts)
  | feed => do return .text (Text.join mark (← drawn path ((← get).stock + 1) feed))
where
  /-- The texts of the items that are drawn, of which there are at most `fuel`. -/
  drawn (path : List Value) : (fuel : Nat) → Feed → Run (List Text)
    | 0, _ => return []
    | fuel + 1, feed => do
        match ← Run.next feed with
        | (none, _) => return []
        | (some v, feed) =>
            let text ← (← attributeOf path v).display
            return text :: (← drawn path fuel feed)

/-- The first item of a value. -/
def firstOf (v : Value) : Run Value := do
  match ← Run.next (← v.feed) with
  | (some item, _) => return item
  | (none, _) => return .missing .first

/-- The last item of a value.  The characters of markup are markup from the end. -/
def lastOf (v : Value) : Run Value := do
  match v with
  | .markup t =>
      match t.getLast? with
      | some c => return .markup [c]
      | none => return .missing .last
  | v => return (← v.reversed).headD (.missing .last)

/-- The items of a value in reverse order, to be gone through once.  A text remains a
text, and items that are gone through themselves become a list. -/
def reversed (v : Value) : Run Value := do
  match v with
  | .text t => return .text t.reverse
  | .markup t => return .markup t.reverse
  | .stream _ place => return .list (← Run.takeAll (.stream place)).reverse
  | .loop place => return .list (← Run.takeAll (.loop place)).reverse
  | v =>
      match ← Run.check v.items? with
      | some items => Run.openStream v.reversedKind items.reverse
      | none => Run.fail .noReverse

/-- The value, or another one where it is not there, or, if so wanted, where it counts as
a no. -/
def defaulted (v otherwise boolean : Value) : Run Value := do
  match v with
  | .absent _ _ => return otherwise
  | v => if (← boolean.isTruthy) && !(← v.isTruthy) then return otherwise else return v

/-! ## Application -/

/-- Applies a filter to the values of its parameters. -/
def onValues (filter : Filter) (slots : List (Option Value)) : Run Value := do
  let slot (i : Nat) (otherwise : Value) : Value := ((slots[i]?).join).getD otherwise
  let v := slot 0 .none
  match filter with
  | .upper => onText Text.upper v
  | .lower => onText Text.lower v
  | .title => return .text (titled (← v.display))
  | .capitalize => onText Text.capitalize v
  | .join => joined v (slot 1 (.text [])) (slot 2 .none)
  | .length => return .ofNat (← v.length)
  | .first => firstOf v
  | .last => lastOf v
  | .replace => replaced v (slot 1 .none) (slot 2 .none) (slot 3 .none)
  | .trim => trimmed v (slot 1 .none)
  | .escape =>
      match v with
      | .markup t => return .markup t
      | v => return .markup (escapeMarkup (← v.display))
  | .reverse => reversed v
  | .default => defaulted v (slot 1 (.text [])) (slot 2 (.bool false))

/-- Applies a filter to a value. -/
def apply (filter : Filter) (v : Value) (arguments : Arguments) : Run Value := do
  let arguments := { arguments with listed := v :: arguments.listed }
  if filter = .length && !(arguments.named.isEmpty && arguments.listed.length = 1) then
    if arguments.named.isEmpty then
      Run.fail (.ofArguments (.oneTaken "len" arguments.listed.length))
    else Run.fail (.ofArguments (.noNames "len"))
  else filter.onValues (← Run.check (filter.signature.hand arguments))

end Filter

namespace Test

/-- The tests by name. -/
def names : List (Text × Test) :=
  [("defined".toList, .defined), ("undefined".toList, .undefined)]

/-- The test of a name. -/
def named? (name : Text) : Option Test := names.lookup name

/-- The parameters of a test. -/
def signature : Test → Signature
  | .defined => ⟨"test_defined", [], [("value", true)], []⟩
  | .undefined => ⟨"test_undefined", [], [("value", true)], []⟩

/-- What messages about the arguments by name call a test as a whole. -/
def path : Test → String
  | .defined => "jinja2.tests.test_defined"
  | .undefined => "jinja2.tests.test_undefined"

/-- Asks the question about a value. -/
def apply (test : Test) (v : Value) (arguments : Arguments) : Run Bool := do
  let _ ← Run.check (test.signature.hand { arguments with listed := v :: arguments.listed })
  match test with
  | .defined => return !v.isAbsent
  | .undefined => return v.isAbsent

end Test
end LintScaffold.Template
